import RecordSchema.Catalog
import RecordSchema.Value.Extent

/-! What comes of checking a value, and how much of it is checked. -/

namespace RecordSchema

/-- A value as it comes out of a check, and what is wrong with it. The value counts only where
nothing is wrong. -/
structure Checked where
  value : Value
  violations : List Violation

namespace Checked

def clean (v : Value) : Checked := ⟨v, []⟩

/-- The value is not of the type. -/
def mismatch (expected : String) (v : Value) (path : Path) : Checked :=
  ⟨v, [{ path, kind := .typeMismatch,
         message := "expected " ++ expected ++ ", got " ++ v.typeName }]⟩

/-- A reference that leads nowhere. -/
def unresolved (name : Name) (v : Value) (path : Path) : Checked :=
  ⟨v, [{ path, kind := .typeMismatch,
         message := "schema reference '" ++ name.shown ++ "' cannot be resolved" }]⟩

/-- What comes of running all stages of a schema. -/
def ofRun : Except (List Violation) Entries → Checked
  | .ok fields => .clean (.map fields)
  | .error violations => ⟨.null, violations⟩

def isClean (c : Checked) : Bool := c.violations.isEmpty

end Checked

/-- How much is checked: the shape alone, without constraints, and of what a reference leads to no
more than that it is a map; or everything, with so many runs of schemas within each other on data
that has no end. -/
inductive Mode where
  | shape
  | full (rounds : Nat)

/-- The message of a violation must be text. -/
def Constraint.violationText (c : Constraint) : Except Fault String := do
  match (← c.violationMessage).readText with
  | .ok message => return message
  | .error kind => throw (.unfit [⟨kind, [.name "message"]⟩])

namespace Validation

/-- Violations of the constraints that a value does not satisfy, in order. -/
def constraintViolations (constraints : List Constraint) (v : Value) (path : Path) :
    Except Fault (List Violation) := do
  let failed ← Constraint.failures constraints v
  failed.mapM fun c => do
    return { path, kind := .constraintViolated, message := ← c.violationText,
             constraint := some c.kind.label }

/-- Violations of constraints, as far as they are checked. -/
def ownViolations : Mode → List Constraint → Value → Path → Except Fault (List Violation)
  | .shape, _, _, _ => return []
  | .full _, constraints, v, path => constraintViolations constraints v path

/-- The place of an entry under a path, unless its key cannot be written. -/
def entryPlace (path : Path) (key : Value) : Except Fault Path := do
  key.requireStep
  return path ++ [key.keyStep]

end Validation
end RecordSchema
