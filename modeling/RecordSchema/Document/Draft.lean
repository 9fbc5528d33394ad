import RecordSchema.Catalog
import RecordSchema.Document.Pointer
import RecordSchema.Fault
import RecordSchema.Value.Equality

/-! The definitions of a document while it is made: the schemas referred to so far, in the order of
the first reference, and what has been written for them. -/

namespace RecordSchema

/-- Why no document can be made. -/
inductive DocumentError where
  | unresolved (name : String)
  | ambiguous (name : String)
  deriving DecidableEq, Repr

def DocumentError.message : DocumentError → String
  | .unresolved name => "Schema reference '" ++ name ++ "' cannot be resolved."
  | .ambiguous name =>
    "Two different schemas are named '" ++ name ++
      "'; definition names must be unique within one document."

/-- Where a reference has no name, or leads to nothing, there is `none` in its place. -/
structure Draft where
  definitionsKey : String
  targets : List (Option Name × Option Target) := []
  underway : List (Option String) := []
  written : List (Option String × Value) := []

/-- Making a document: what is recorded stays recorded, also if the making fails. -/
abbrev Drafting := ExceptT (Failing DocumentError) (StateM Draft)

/-- What the names of references are told apart by. -/
def labelOf (name : Option Name) : Option String := name.map Name.label

namespace Draft

/-- What is recorded under a name. -/
def recorded? (draft : Draft) (label : Option String) : Option (Option Target) :=
  (draft.targets.find? fun (name, _) => labelOf name = label).map Prod.snd

def isReferredTo (draft : Draft) (label : Option String) : Bool := (draft.recorded? label).isSome

/-- The pointer to a definition. -/
def pointer (draft : Draft) (name : String) : String :=
  Pointer.ofName draft.definitionsKey name

/-- The pointer to a definition by a name that there may not be. -/
def pointerTo (label : Option String) : Drafting String := do
  match label with
  | some name => return (← get).pointer name
  | none => throw (.fault .missingPart)

/-- Schemas that are referred to, and neither written nor underway. -/
def missing (draft : Draft) : List (Option Name × Option Target) :=
  draft.targets.filter fun (name, _) =>
    (draft.written.lookup (labelOf name)).isNone && !draft.underway.contains (labelOf name)

def begin (draft : Draft) (label : Option String) : Draft :=
  { draft with underway := label :: draft.underway }

/-- Writes a definition, in place of an earlier one of that name. -/
def write (draft : Draft) (label : Option String) (definition : Value) : Draft :=
  { draft with
    underway := draft.underway.filter (· ≠ label)
    written := draft.written.filter (·.1 ≠ label) ++ [(label, definition)] }

/-- What is written for the schemas referred to, in the order of the references. -/
def definitions (draft : Draft) : Entries :=
  draft.targets.filterMap fun (name, _) =>
    (draft.written.lookup (labelOf name)).map fun definition =>
      ((name.map Name.toValue).getD .null, definition)

/-- Puts a target under a name, at the place of what was there before. -/
def put (draft : Draft) (name : Option Name) (target : Option Target) : Draft :=
  if draft.isReferredTo (labelOf name) then
    { draft with targets := draft.targets.map fun (n, t) =>
        if labelOf n = labelOf name then (n, target) else (n, t) }
  else { draft with targets := draft.targets ++ [(name, target)] }

/-- Records a reference. One name stands for one schema. -/
def refer (name : Option Name) (target : Option Target) : Drafting String := do
  let draft ← get
  match (draft.recorded? (labelOf name)).join with
  | none => set (draft.put name target)
  | some known =>
    if target.map Target.serial ≠ some known.serial then
      throw (.reason (.ambiguous ((name.map Name.shown).getD "None")))
  pointerTo (labelOf name)

end Draft
end RecordSchema
