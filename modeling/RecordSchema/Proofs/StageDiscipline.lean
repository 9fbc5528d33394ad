import Mathlib.Data.List.Permutation
import RecordSchema.Proofs.HookCalls

/-! The order of the stages in a run, told by the calls of hooks that it makes. No hook is called on
fields with something wrong, hooks are called in their order up to the first that fails, and a hook
that fails is always reported. Main statement: `run_disciplined`. -/

namespace RecordSchema.Proofs.StageDiscipline
open Validation Hooks

/-- The map that a cross-field hook answers with, unless it fails. -/
def mapping? (call : Call) : Option Entries :=
  match call.answer with
  | .ok (_, .success value) => value.mapping?
  | _ => none

def succeeded (call : Call) : Bool :=
  match call.answer with
  | .ok (_, .success _) => true
  | _ => false

/-- The first call receives the fields, and each other one the map that the call before it answered. -/
def Chained : Entries → List Call → Prop
  | _, [] => True
  | fields, call :: rest =>
    call.received = .map fields ∧ (rest = [] ∨ ∃ next, mapping? call = some next ∧ Chained next rest)

/-- What the calls of a run have to do with what its fields are found to be and with its outcome. -/
structure Disciplined (s : Schema) (path : Path) (found outcome : Except (List Violation) Entries)
    (crossed derived : List Call) : Prop where
  fieldsFirst : ∀ violations, found = .error violations → crossed = [] ∧ derived = [] ∧ outcome = .error violations
  crossedInOrder : crossed.map Call.placed <+: s.crossFieldHooks
  crossedChained : ∀ fields, found = .ok fields → Chained fields crossed
  crossedStop : ∀ call ∈ crossed, mapping? call = none → crossed.getLast? = some call ∧ derived = [] ∧
    ∃ violations, outcome = .error violations ∧ violations ≠ [] ∧ ∀ v ∈ violations, v.hook.isSome
  derivedInOrder : derived.map Call.placed <+: s.derivedHooks
  derivedAfter : derived ≠ [] →
    crossed.map Call.placed = s.crossFieldHooks ∧ ∀ call ∈ crossed, (mapping? call).isSome
  derivedStop : ∀ call ∈ derived, succeeded call = false → derived.getLast? = some call ∧
    ∃ message, outcome = .error [derivedFailure path call.placed message]
  rejected : ∀ violations, outcome = .error violations → found = .error violations ∨
    (∃ call, crossed.getLast? = some call ∧ mapping? call = none) ∨
    ∃ call message, derived.getLast? = some call ∧ violations = [derivedFailure path call.placed message]
  accepted : ∀ data, outcome = .ok data →
    crossed.map Call.placed = s.crossFieldHooks ∧ (∀ call ∈ crossed, (mapping? call).isSome) ∧
    derived.map Call.placed = s.derivedHooks ∧ ∀ call ∈ derived, succeeded call
  reported : (∃ data, outcome = .ok data) ↔ (Checked.ofRun outcome).violations = []

/-- Calls of one stage, each on the fields that the one before it led to. -/
inductive Called (read : Reading) : List PlacedHook → Entries → List Call → Except (List Violation) Entries → Prop where
  | finished {fields} : Called read [] fields [] (.ok fields)
  | passed {placed rest fields next calls outcome}
      (answered : (Call.mk placed (.map fields)).answer >>= read placed fields = .ok (.ok next))
      (others : Called read rest next calls outcome) :
      Called read (placed :: rest) fields (⟨placed, .map fields⟩ :: calls) outcome
  | stopped {placed rest fields violations}
      (answered : (Call.mk placed (.map fields)).answer >>= read placed fields = .ok (.error violations)) :
      Called read (placed :: rest) fields [⟨placed, .map fields⟩] (.error violations)

/-- A recorded call is put behind the calls before it, and what it leads to goes on from there. -/
theorem callAll_recorded_cons {read : Reading} {placed : PlacedHook} {fields : Entries}
    {verdict : Except (List Violation) Entries}
    (answered : (Call.mk placed (.map fields)).answer >>= read placed fields = .ok verdict) (rest : List PlacedHook)
    (before : List Call) :
    callAll recorded read (placed :: rest) fields before =
      (match verdict with
        | .ok next => callAll recorded read rest next
        | .error violations => pure (.error violations) : Recording _) (before ++ [⟨placed, .map fields⟩]) := by
  obtain ⟨answer, called, read⟩ := Except.bind_eq_ok.mp answered
  rw [callAll]
  change (((·, before ++ [⟨placed, .map fields⟩]) <$> (Call.mk placed (.map fields)).answer) >>= _) = _
  rw [called]
  change ((_ >>= fun verdict => Except.ok (verdict, before ++ [⟨placed, .map fields⟩])) >>= _) = _
  rw [read]
  cases verdict <;> rfl

theorem callAll_recorded {read : Reading} {hooks : List PlacedHook} {fields : Entries}
    {outcome : Except (List Violation) Entries} (returned : callAll direct read hooks fields = .ok outcome) :
    ∃ calls, Called read hooks fields calls outcome ∧
      ∀ before, callAll recorded read hooks fields before = .ok (outcome, before ++ calls) := by
  induction hooks generalizing fields with
  | nil =>
    cases returned
    exact ⟨[], .finished, fun before => by rw [List.append_nil]; rfl⟩
  | cons placed rest ih =>
    rw [callAll, direct] at returned
    obtain ⟨answer, called, returned⟩ := Except.bind_eq_ok.mp returned
    obtain ⟨verdict, answered, returned⟩ := Except.bind_eq_ok.mp returned
    replace answered : (Call.mk placed (.map fields)).answer >>= read placed fields = .ok verdict :=
      Except.bind_eq_ok.mpr ⟨answer, called, answered⟩
    cases verdict with
    | error violations =>
      cases returned
      refine ⟨_, .stopped answered, fun before => ?_⟩
      rw [callAll_recorded_cons answered]
      rfl
    | ok next =>
      obtain ⟨calls, others, same⟩ := ih returned
      refine ⟨_, .passed answered others, fun before => ?_⟩
      rw [callAll_recorded_cons answered]
      show callAll recorded read rest next _ = _
      rw [same, List.append_assoc, List.singleton_append]

namespace Called

variable {read : Reading} {hooks : List PlacedHook} {fields : Entries} {calls : List Call}
  {outcome : Except (List Violation) Entries}

theorem inOrder (called : Called read hooks fields calls outcome) : calls.map Call.placed <+: hooks := by
  induction called with
  | finished => exact List.prefix_rfl
  | passed _ _ ih => exact List.cons_prefix_cons.mpr ⟨rfl, ih⟩
  | stopped => exact List.cons_prefix_cons.mpr ⟨rfl, List.nil_prefix⟩

/-- Either all hooks are called and lead on, or the last one that is called ends the stage. -/
theorem ends (called : Called read hooks fields calls outcome) :
    ((∃ final, outcome = .ok final) ∧ calls.map Call.placed = hooks ∧
      ∀ call ∈ calls, ∃ fields next, (call.answer >>= read call.placed fields) = .ok (.ok next)) ∨
    ∃ before last violations, calls = before ++ [last] ∧ outcome = .error violations ∧
      (∀ call ∈ before, ∃ fields next, (call.answer >>= read call.placed fields) = .ok (.ok next)) ∧
      ∃ fields, (last.answer >>= read last.placed fields) = .ok (.error violations) := by
  induction called with
  | finished => exact .inl ⟨⟨_, rfl⟩, rfl, fun call member => nomatch member⟩
  | passed answered others ih =>
    obtain ⟨final, all, passed⟩ | ⟨before, last, violations, rfl, same, passed, failed⟩ := ih
    · refine .inl ⟨final, congrArg _ all, fun call member => ?_⟩
      obtain rfl | member := List.mem_cons.mp member
      · exact ⟨_, _, answered⟩
      · exact passed call member
    · refine .inr ⟨_ :: before, last, violations, rfl, same, fun call member => ?_, failed⟩
      obtain rfl | member := List.mem_cons.mp member
      · exact ⟨_, _, answered⟩
      · exact passed call member
  | stopped answered => exact .inr ⟨[], _, _, rfl, rfl, fun call member => (nomatch member), _, answered⟩

end Called

theorem reasons_ne_nil (reason : Value) : reasons reason ≠ [] := by
  unfold reasons
  split
  · exact List.cons_ne_nil _ _
  · assumption
  · exact List.cons_ne_nil _ _

/-- Also a violation that names no hook is reported with one. -/
theorem violationOf_hook {placed : PlacedHook} {path : Path} {reason : Value} {v : Violation}
    (told : violationOf placed path reason = .ok v) : v.hook.isSome := by
  unfold violationOf at told
  split at told
  · cases told
    cases ‹Violation›.hook <;> rfl
  · obtain ⟨message, -, same⟩ := Except.bind_eq_ok.mp told
    cases same
    rfl

section CrossField
variable {path : Path} {fields : Entries} {call : Call}

theorem mapping?_of_passed {next : Entries}
    (passed : (call.answer >>= readCrossField path call.placed fields) = .ok (.ok next)) : mapping? call = some next := by
  obtain ⟨⟨left, outcome⟩, called, passed⟩ := Except.bind_eq_ok.mp passed
  unfold readCrossField at passed
  rw [mapping?, called]
  cases outcome with
  | failure reason fault =>
    obtain ⟨violations, -, impossible⟩ := Except.bind_eq_ok.mp passed
    cases impossible
  | success value =>
    show value.mapping? = some next
    cases mapping : value.mapping? with
    | none => simp only [mapping] at passed; cases passed
    | some entries => simp only [mapping] at passed; cases passed; rfl

theorem failed_crossField {violations : List Violation}
    (failed : (call.answer >>= readCrossField path call.placed fields) = .ok (.error violations)) :
    mapping? call = none ∧ violations ≠ [] ∧ ∀ v ∈ violations, v.hook.isSome := by
  obtain ⟨⟨left, outcome⟩, called, failed⟩ := Except.bind_eq_ok.mp failed
  unfold readCrossField at failed
  rw [mapping?, called]
  cases outcome with
  | failure reason fault =>
    obtain ⟨told, computed, same⟩ := Except.bind_eq_ok.mp failed
    cases same
    refine ⟨rfl, fun none => reasons_ne_nil reason ?_, fun v member => ?_⟩
    · have length := Except.length_of_mapM computed
      rw [none] at length
      exact List.length_eq_zero_iff.mp length.symm
    · obtain ⟨cause, -, same⟩ := Except.mem_of_mapM computed member
      exact violationOf_hook same
  | success value =>
    cases mapping : value.mapping? with
    | none =>
      simp only [mapping] at failed
      cases failed
      exact ⟨mapping, List.cons_ne_nil _ _, fun v member => by cases List.mem_singleton.mp member; rfl⟩
    | some entries => simp only [mapping] at failed; cases failed

theorem chained_of_called {hooks : List PlacedHook} {calls : List Call} {outcome : Except (List Violation) Entries}
    (called : Called (readCrossField path) hooks fields calls outcome) : Chained fields calls := by
  induction called with
  | finished => exact trivial
  | passed answered others ih => exact ⟨rfl, .inr ⟨_, mapping?_of_passed answered, ih⟩⟩
  | stopped => exact ⟨rfl, .inl rfl⟩

end CrossField

section Derived
variable {shape : SchemaType → Value → Path → Except Fault Checked} {s : Schema} {path : Path} {fields : Entries} {call : Call}

theorem succeeded_of_passed {next : Entries}
    (passed : (call.answer >>= readDerived shape s path call.placed fields) = .ok (.ok next)) : succeeded call := by
  obtain ⟨⟨left, outcome⟩, called, passed⟩ := Except.bind_eq_ok.mp passed
  unfold readDerived at passed
  rw [succeeded, called]
  cases outcome with
  | failure reason fault =>
    obtain ⟨message, -, impossible⟩ := Except.bind_eq_ok.mp passed
    cases impossible
  | success value => rfl

theorem failed_derived {violations : List Violation}
    (failed : (call.answer >>= readDerived shape s path call.placed fields) = .ok (.error violations)) :
    ∃ message, violations = [derivedFailure path call.placed message] := by
  obtain ⟨answer, -, failed⟩ := Except.bind_eq_ok.mp failed
  unfold readDerived at failed
  split at failed
  · obtain ⟨message, -, same⟩ := Except.bind_eq_ok.mp failed
    cases same
    exact ⟨message, rfl⟩
  · obtain ⟨met, -, failed⟩ := Except.bind_eq_ok.mp failed
    cases met with
    | some message =>
      cases failed
      exact ⟨message, rfl⟩
    | none => cases failed

end Derived

theorem fieldStages_violations {catalogs : Catalogs} {rounds : Nat} {s : Schema} {gaps : Gaps} {v : Value} {path : Path}
    {catalog : Option CatalogId} {violations : List Violation}
    (found : fieldStages catalogs rounds s gaps v path catalog = .ok (.error violations)) : violations ≠ [] := by
  unfold fieldStages at found
  split at found
  · cases found
    exact List.cons_ne_nil _ _
  · cases found
  · obtain ⟨report, -, found⟩ := Except.bind_eq_ok.mp found
    obtain ⟨unexpected, -, found⟩ := Except.bind_eq_ok.mp found
    have same := Except.ok.inj found
    split at same
    · cases same
    · rename_i some
      cases same
      exact fun none => some (List.isEmpty_iff.mpr none)

section Assembly
variable {s : Schema} {path : Path} {fields : Entries} {crossed derived : List Call}

theorem disciplined_of_violations {violations : List Violation} (some : violations ≠ []) :
    Disciplined s path (.error violations) (.error violations) [] [] where
  fieldsFirst _ same := ⟨rfl, rfl, same⟩
  crossedInOrder := List.nil_prefix
  crossedChained _ impossible := nomatch impossible
  crossedStop _ member := nomatch member
  derivedInOrder := List.nil_prefix
  derivedAfter called := absurd rfl called
  derivedStop _ member := nomatch member
  rejected _ same := .inl same
  accepted _ impossible := nomatch impossible
  reported := ⟨fun ⟨_, impossible⟩ => (nomatch impossible), fun none => absurd none some⟩

/-- The cross-field hooks end the run. -/
theorem disciplined_of_crossed {violations : List Violation}
    (called : Called (readCrossField path) s.crossFieldHooks fields crossed (.error violations)) :
    Disciplined s path (.ok fields) (.error violations) crossed [] := by
  have chained := chained_of_called called
  have inOrder := called.inOrder
  obtain ⟨⟨final, impossible⟩, -, -⟩ | ⟨before, last, told, rfl, same, passed, _, failed⟩ := called.ends
  · cases impossible
  cases same
  obtain ⟨lost, some, named⟩ := failed_crossField failed
  exact {
    fieldsFirst := fun _ impossible => nomatch impossible
    crossedInOrder := inOrder
    crossedChained := fun _ same => by cases same; exact chained
    crossedStop := fun call member none => by
      obtain earlier | only := List.mem_append.mp member
      · obtain ⟨_, next, passed⟩ := passed call earlier
        rw [mapping?_of_passed passed] at none
        cases none
      · cases List.mem_singleton.mp only
        exact ⟨List.getLast?_concat, rfl, _, rfl, some, named⟩
    derivedInOrder := List.nil_prefix
    derivedAfter := fun called => absurd rfl called
    derivedStop := fun _ member => nomatch member
    rejected := fun _ _ => .inr (.inl ⟨last, List.getLast?_concat, lost⟩)
    accepted := fun _ impossible => nomatch impossible
    reported := ⟨fun ⟨_, impossible⟩ => (nomatch impossible), fun none => absurd none some⟩ }

/-- All cross-field hooks answer, so the derived hooks decide. -/
theorem disciplined_of_derived {shape : SchemaType → Value → Path → Except Fault Checked} {middle : Entries}
    {outcome : Except (List Violation) Entries}
    (first : Called (readCrossField path) s.crossFieldHooks fields crossed (.ok middle))
    (second : Called (readDerived shape s path) s.derivedHooks middle derived outcome) :
    Disciplined s path (.ok fields) outcome crossed derived := by
  have answered : crossed.map Call.placed = s.crossFieldHooks ∧ ∀ call ∈ crossed, (mapping? call).isSome := by
    obtain ⟨-, all, passed⟩ | ⟨_, _, _, _, impossible, _⟩ := first.ends
    · refine ⟨all, fun call member => ?_⟩
      obtain ⟨_, next, passed⟩ := passed call member
      rw [mapping?_of_passed passed]
      rfl
    · cases impossible
  have stop (call : Call) (member : call ∈ derived) (lost : succeeded call = false) :
      derived.getLast? = some call ∧ ∃ message, outcome = .error [derivedFailure path call.placed message] := by
    obtain ⟨-, -, passed⟩ | ⟨before, last, violations, rfl, rfl, passed, _, failed⟩ := second.ends
    · obtain ⟨_, next, passed⟩ := passed call member
      simp [succeeded_of_passed passed] at lost
    · obtain earlier | only := List.mem_append.mp member
      · obtain ⟨_, next, passed⟩ := passed call earlier
        simp [succeeded_of_passed passed] at lost
      · cases List.mem_singleton.mp only
        obtain ⟨message, rfl⟩ := failed_derived failed
        exact ⟨List.getLast?_concat, message, rfl⟩
  have cause (violations : List Violation) (same : outcome = .error violations) :
      ∃ call message, derived.getLast? = some call ∧ violations = [derivedFailure path call.placed message] := by
    obtain ⟨⟨final, rfl⟩, -, -⟩ | ⟨before, last, told, rfl, rfl, -, _, failed⟩ := second.ends
    · cases same
    · cases same
      obtain ⟨message, rfl⟩ := failed_derived failed
      exact ⟨last, message, List.getLast?_concat, rfl⟩
  exact {
    fieldsFirst := fun _ impossible => nomatch impossible
    crossedInOrder := first.inOrder
    crossedChained := fun _ same => by cases same; exact chained_of_called first
    crossedStop := fun call member none => by
      have some := answered.2 call member
      rw [none] at some
      cases some
    derivedInOrder := second.inOrder
    derivedAfter := fun _ => answered
    derivedStop := stop
    rejected := fun violations same => .inr (.inr (cause violations same))
    accepted := fun data same => by
      obtain ⟨-, all, passed⟩ | ⟨_, _, _, _, impossible, _⟩ := second.ends
      · refine ⟨answered.1, answered.2, all, fun call member => ?_⟩
        obtain ⟨_, next, passed⟩ := passed call member
        exact succeeded_of_passed passed
      · rw [same] at impossible
        cases impossible
    reported := by
      cases outcome with
      | ok data => exact ⟨fun _ => rfl, fun _ => ⟨data, rfl⟩⟩
      | error violations =>
        refine ⟨fun ⟨_, impossible⟩ => (nomatch impossible), fun none => ?_⟩
        obtain ⟨call, message, -, same⟩ := cause violations rfl
        rw [same] at none
        cases none }

end Assembly

/-- A run that does not yield data tells why, so that no failure is taken for success further out. -/
theorem run_violations_ne_nil {catalogs : Catalogs} {rounds : Nat} {s : Schema} {gaps : Gaps} {v : Value} {path : Path}
    {catalog : Option CatalogId} {violations : List Violation}
    (returned : run catalogs rounds s gaps v path catalog = .ok (.error violations)) : violations ≠ [] := by
  rw [run_eq_stages] at returned
  obtain ⟨found, fieldsFound, returned⟩ := Except.bind_eq_ok.mp returned
  cases found with
  | error told =>
    cases returned
    exact fieldStages_violations fieldsFound
  | ok fields =>
    obtain ⟨_, -, returned⟩ := Except.bind_eq_ok.mp returned
    rw [runHooks, runCrossField_eq_callAll] at returned
    obtain ⟨middle, crossing, returned⟩ := Except.bind_eq_ok.mp returned
    cases middle with
    | error told =>
      cases returned
      obtain ⟨crossed, called, -⟩ := callAll_recorded crossing
      obtain ⟨⟨_, impossible⟩, -⟩ | ⟨_, _, _, -, same, -, _, failed⟩ := called.ends
      · cases impossible
      · cases same
        exact (failed_crossField failed).2.1
    | ok middle =>
      change runDerived _ s path s.derivedHooks middle = _ at returned
      rw [runDerived_eq_callAll] at returned
      obtain ⟨derived, called, -⟩ := callAll_recorded returned
      obtain ⟨⟨_, impossible⟩, -⟩ | ⟨_, _, _, -, same, -, _, failed⟩ := called.ends
      · cases impossible
      · cases same
        obtain ⟨message, rfl⟩ := failed_derived failed
        exact List.cons_ne_nil _ _

section Recording
variable {catalogs : Catalogs} {rounds : Nat} {s : Schema} {gaps : Gaps} {v : Value} {path : Path} {catalog : Option CatalogId}

theorem recorded_of_violations {violations : List Violation}
    (found : fieldStages catalogs rounds s gaps v path catalog = .ok (.error violations)) :
    runStages recorded catalogs rounds s gaps v path catalog [] = .ok (.error violations, []) := by
  rw [runStages]
  change ((fieldStages catalogs rounds s gaps v path catalog >>= fun found => Except.ok (found, [])) >>= _) = _
  rw [found]
  rfl

theorem recorded_of_fields {fields : Entries} {crossed : List Call} {outcome : Except (List Violation) Entries}
    (found : fieldStages catalogs rounds s gaps v path catalog = .ok (.ok fields)) (complete : require gaps.hooks = .ok ())
    (crossing : callAll recorded (readCrossField path) s.crossFieldHooks fields [] = .ok (outcome, crossed)) :
    runStages recorded catalogs rounds s gaps v path catalog [] =
      (match outcome with
        | .error violations => pure (.error violations)
        | .ok middle =>
          callAll recorded (readDerived (check catalogs .shape ⟨some s, s.catalog.or catalog⟩) s path) s.derivedHooks middle :
        Recording _) crossed := by
  rw [runStages]
  change ((fieldStages catalogs rounds s gaps v path catalog >>= fun found => Except.ok (found, [])) >>= _) = _
  rw [found]
  change ((require gaps.hooks >>= fun done => Except.ok (done, [])) >>= _) = _
  rw [complete]
  change (callAll recorded (readCrossField path) s.crossFieldHooks fields [] >>= _) = _
  rw [crossing]
  cases outcome <;> rfl

end Recording

/-- Every run that returns makes calls that, put down one after another, are those of a disciplined run. -/
theorem run_disciplined {catalogs : Catalogs} {rounds : Nat} {s : Schema} {gaps : Gaps} {v : Value} {path : Path}
    {catalog : Option CatalogId} {outcome : Except (List Violation) Entries}
    (returned : run catalogs rounds s gaps v path catalog = .ok outcome) :
    ∃ found crossed derived, fieldStages catalogs rounds s gaps v path catalog = .ok found ∧
      runStages recorded catalogs rounds s gaps v path catalog [] = .ok (outcome, crossed ++ derived) ∧
      Disciplined s path found outcome crossed derived := by
  rw [run_eq_runStages, runStages] at returned
  change (fieldStages catalogs rounds s gaps v path catalog >>= _) = _ at returned
  obtain ⟨found, fieldsFound, returned⟩ := Except.bind_eq_ok.mp returned
  cases found with
  | error violations =>
    cases returned
    exact ⟨_, [], [], fieldsFound, recorded_of_violations fieldsFound,
      disciplined_of_violations (fieldStages_violations fieldsFound)⟩
  | ok fields =>
    change (require gaps.hooks >>= _) = _ at returned
    obtain ⟨_, complete, returned⟩ := Except.bind_eq_ok.mp returned
    obtain ⟨middle, crossing, returned⟩ := Except.bind_eq_ok.mp returned
    obtain ⟨crossed, first, recordedFirst⟩ := callAll_recorded crossing
    have stages := recorded_of_fields fieldsFound complete (recordedFirst [])
    rw [List.nil_append] at stages
    cases middle with
    | error violations =>
      cases returned
      refine ⟨_, crossed, [], fieldsFound, ?_, disciplined_of_crossed first⟩
      rw [stages, List.append_nil]
      rfl
    | ok middle =>
      obtain ⟨derived, second, recordedSecond⟩ := callAll_recorded returned
      exact ⟨_, crossed, derived, fieldsFound, stages.trans (recordedSecond crossed),
        disciplined_of_derived first second⟩

/-- Parcels: of two hooks on whole parcels the first answers with another parcel, and the second fails
without a reason. -/
def parcel : Schema where
  serial := 1
  name := "Parcel"
  fields := [
    { name := "weight", type := .primitive .integer [], required := true, default := none, description := .null,
      examples := [], derived := false, extra := [] },
    { name := "label", type := .primitive .string [], required := false, default := none, description := .null,
      examples := [], derived := true, extra := [] }]
  crossFieldHooks := [
    ⟨"parcels.weigh", .crossField, ⟨fun v => (v, .success (.map [(.str "weight", .int 2)])), 1, "function", none, none, none⟩,
      none, false⟩,
    ⟨"parcels.refuse", .crossField, ⟨fun v => (v, .failure (.list [])), 2, "function", none, none, none⟩, none, false⟩]
  derivedHooks := [
    ⟨"parcels.label", .derived, ⟨fun v => (v, .success (.str "small")), 3, "function", none, none, none⟩,
      some (.text "label"), false⟩]
  title := none
  description := none
  strict := false
  container := none
  catalog := none

/-- A failure without a reason is a failure, reported under the name of the hook. -/
theorem parcel_disciplined :
    run {} 0 parcel {} (.map [(.str "weight", .int 1)]) [] none =
      .ok (.error [{ path := [], kind := .hookFailed, message := "hook failed", hook := some "parcels.refuse" }]) ∧
    ∃ found crossed derived, fieldStages {} 0 parcel {} (.map [(.str "weight", .int 1)]) [] none = .ok found ∧
      runStages recorded {} 0 parcel {} (.map [(.str "weight", .int 1)]) [] none [] =
        .ok (.error [{ path := [], kind := .hookFailed, message := "hook failed", hook := some "parcels.refuse" }],
          crossed ++ derived) ∧
      Disciplined parcel [] found
        (.error [{ path := [], kind := .hookFailed, message := "hook failed", hook := some "parcels.refuse" }])
        crossed derived := by
  have returned : run {} 0 parcel {} (.map [(.str "weight", .int 1)]) [] none =
      .ok (.error [{ path := [], kind := .hookFailed, message := "hook failed", hook := some "parcels.refuse" }]) := by
    cbv
  exact ⟨returned, run_disciplined returned⟩

end RecordSchema.Proofs.StageDiscipline
