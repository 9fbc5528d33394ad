import RecordSchema.Validation.Check

/-! Verdicts on data: accepted, with the data as it comes out and the container for it, or rejected
with violations. -/

namespace RecordSchema

/-- Accepted data does not fit the container of its schema. -/
structure ContainerError where
  container : String
  causes : List Cause

def ContainerError.message (e : ContainerError) : String :=
  "Validated data does not fit container " ++ e.container

namespace Validation

inductive Verdict where
  | accepted (data : Entries) (container : Option Container)
  | rejected (violations : List Violation)

namespace Verdict

def violations : Verdict → List Violation
  | .accepted _ _ => []
  | .rejected violations => violations

/-- Violations of exactly the value at a path. Any numbers serve as indices. -/
def violationsAt (verdict : Verdict) (path : List Value) : List Violation :=
  verdict.violations.filter fun v => (Value.list (v.path.map Step.toValue)).equal (.list path)

end Verdict

/-- The name of a field in accepted data. Only a cross-field hook can answer with keys that are
not text. -/
def fieldName (key : Value) : Except Cause String :=
  key.readText.mapError fun kind => ⟨kind, [.name "data", key.refusedStep, .name "[key]"]⟩

/-- Accepted data has text keys. -/
def withTextKeys (data : Entries) : Except (List Cause) Entries :=
  match data.filterMap fun (key, _) => match fieldName key with
    | .ok _ => none
    | .error cause => some cause with
  | [] => .ok <| Entries.ofPairs <| data.filterMap fun (key, v) => key.decoded?.map (.str ·, v)
  | causes => .error causes

/-- Accepts data. -/
def accept (s : Schema) (data : Entries) : Except (Failing ContainerError) Verdict := do
  let container ← match s.container with
    | none => pure none
    | some layout =>
      match layout.pack data with
      | .ok container => pure (some container)
      | .error causes => .error (.reason ⟨layout.name, causes⟩)
  match withTextKeys data with
  | .ok data => return .accepted data container
  | .error causes => .error (.fault (.unfit causes))

/-- Validates data against a schema. -/
def validate (catalogs : Catalogs) (s : Schema) (data : Value) :
    Except (Failing ContainerError) Verdict := do
  match ← Failing.ofFault (run catalogs Value.deepest s {} data.unfolded [] none) with
  | .ok fields => accept s fields
  | .error violations => return .rejected violations

end Validation
end RecordSchema
