import RecordSchema.Options.Basic

/-! Violations made of data. A step of the path is text or else an integer; if it is neither, both
are reported. -/

namespace RecordSchema.Options

/-- A step of a path, which stands at an index in it. -/
def stepAt (index : Nat) (e : Expr) : Except (List Cause) Step :=
  match text e, int e with
  | .ok s, _ => .ok (.name s)
  | .error _, .ok n => .ok (.index n)
  | .error noText, .error noIndex =>
    let tried (kind : CauseKind) (form : String) : Cause :=
      ⟨kind, [.name "path", .index index, .name form]⟩
    .error [tried noText "str", tried noIndex "int"]

/-- The steps that can be read, and what is wrong with the others. -/
def path (steps : List Expr) : Path × List Cause :=
  (steps.zipIdx.map fun (e, i) => stepAt i e).foldr (fun
    | .ok step, (path, causes) => (step :: path, causes)
    | .error own, (path, causes) => (path, own ++ causes)) ([], [])

/-- A kind of violation by its label. -/
def violationKind : Reader ViolationKind := fun e =>
  match e.str?.bind fun label => ViolationKind.all.find? (·.label = label) with
  | some kind => .ok kind
  | none => .error .notListed

/-- The violation with these parts, if nothing is wrong with them. -/
def violation (steps : List Expr) (parts : Given) : Except (List Cause) Violation :=
  let (path, ofPath) := path steps
  let (kind, ofKind) := read parts "kind" violationKind .typeMismatch
  let (message, ofMessage) := read parts "message" text ""
  let (constraint, ofConstraint) := read parts "constraint" (optional text) none
  let (hook, ofHook) := read parts "hook" (optional text) none
  settle { path, kind, message, constraint, hook }
    (ofPath ++ ofKind ++ ofMessage ++ ofConstraint ++ ofHook)

end RecordSchema.Options
