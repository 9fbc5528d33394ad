import RecordSchema.Validation.Checked
import RecordSchema.Value.Rounds

/-! The stages of validation that belong to hooks. Hooks run in the order of their declaration, and
the first one that fails ends the run. -/

namespace RecordSchema.Hooks

/-- What stages of hooks come to, unless a reason for a failure has no text. -/
abbrev Staged := Except Fault (Except (List Violation) Entries)

/-- The violation that one reason of a failure stands for. A violation given as reason is placed
under the path, and names the hook unless it names one already. -/
def violationOf (placed : PlacedHook) (path : Path) : Value → Except Fault Violation
  | .violation v => return { v.under path with hook := v.hook.or (some placed.identity) }
  | reason => do
    let message ← reason.writtenText
    return { path, kind := .hookFailed, message, hook := some placed.identity }

/-- The reasons of a failure: a list counts as several, but never as none. -/
def reasons (reason : Value) : List Value :=
  match reason.unfolded with
  | .list [] => [.str "hook failed"]
  | .list items => items
  | _ => [reason]

/-- Runs cross-field hooks. Each sees the fields that the one before it answered with. -/
def runCrossField (path : Path) : List PlacedHook → Entries → Staged
  | [], fields => return .ok fields
  | placed :: rest, fields => do
    match (← placed.hook.invoke (.map fields)).2 with
    | .failure reason _ => return .error (← (reasons reason).mapM (violationOf placed path))
    | .success value =>
      match value.mapping? with
      | some entries => runCrossField path rest entries
      | none =>
        let message := "hook returned Success with " ++ value.typeName ++ ", expected object"
        return .error [{ path, kind := .hookFailed, message, hook := some placed.identity }]

mutual

/-- A reason in words. Lists within lists are put into words one after another, which has no end in
one that comes back to itself. -/
def wordingWithin (rounds : Nat) (reason : Value) : Except Fault String :=
  match _found : reason.unfolded with
  | .violation v => return v.message
  | .list items =>
    match _left : reason.roundsAfter rounds with
    | none => throw .endless
    | some left => do
      let joined := "; ".intercalate (← wordingsWithin left items)
      return if joined.isEmpty then "hook failed" else joined
  | _ => reason.writtenText
  termination_by (Value.work rounds reason.hasEnd (sizeOf reason), 0)
  decreasing_by exact Prod.Lex.left _ _ (Value.work_round _left fun ends =>
    Value.items?_smaller (by rw [Value.items?, _found]; rfl) ends)

def wordingsWithin (rounds : Nat) (reasons : List Value) : Except Fault (List String) :=
  match reasons with
  | [] => return []
  | reason :: rest => do return (← wordingWithin rounds reason) :: (← wordingsWithin rounds rest)
  termination_by (Value.work rounds (Value.list reasons).hasEnd (sizeOf reasons), reasons.length)
  decreasing_by
    · exact Value.work_part (fun ends => ⟨(Value.hasEnd_cons ends).1, by simp; omega⟩) (by simp)
    · exact Value.work_part (fun ends => ⟨(Value.hasEnd_cons ends).2, by simp⟩) (by simp)

end

def wording (reason : Value) : Except Fault String := wordingWithin Value.deepest reason

/-- What keeps a computed value out of its field, where shapes are checked in some way. -/
def derivedMismatch? (shape : SchemaType → Value → Path → Except Fault Checked) (s : Schema)
    (name : String) (value : Value) (path : Path) : Except Fault (Option String) :=
  match s.field? name with
  | none => return none
  | some field => do
    match (← shape field.type value path).violations with
    | [] => return none
    | v :: _ =>
      return some ("derived value does not match declared type " ++ field.type.describe ++ ": " ++
        v.message)

/-- Runs derived hooks. Each sees the fields with the values computed so far; what it changes in
them itself remains. -/
def runDerived (shape : SchemaType → Value → Path → Except Fault Checked) (s : Schema)
    (path : Path) : List PlacedHook → Entries → Staged
  | [], fields => return .ok fields
  | placed :: rest, fields => do
    let name := placed.fieldName.getD (.text "")
    let place := path ++ [.name name.label]
    let failed (message : String) : Staged :=
      return .error [
        { path := place, kind := .derivedHookFailed, message, hook := some placed.identity }]
    match ← placed.hook.invoke (.map fields) with
    | (_, .failure reason _) => failed (← wording reason)
    | (left, .success value) =>
      match ← derivedMismatch? shape s name.label value place with
      | some message => failed message
      | none =>
        let entries := left.mapping?.getD fields
        runDerived shape s path rest (Entries.put entries name.toValue value)

end RecordSchema.Hooks
