import RecordSchema.Proofs.Stages

/-! Calling hooks as an effect. Both stages of hooks call one hook after another until one fails, and
differ only in how they read an answer. Main statements: a run is its stages with calls that are just
made, and recording the calls shows how they followed each other without changing the run. -/

namespace RecordSchema

/-- A call succeeds just where the hook does. -/
theorem Hook.invoke_eq_success {hook : Hook} {data left value : Value} :
    hook.invoke data = .ok (left, .success value) ↔ hook.run data = (left, .success value) := by
  unfold invoke
  rcases hook.run data with ⟨remains, _ | _ | _ | ⟨name, text⟩⟩
  case raised => cases text <;> simp [bind, Except.bind, pure, Except.pure]
  all_goals simp [pure, Except.pure]

namespace Hooks

/-- A call with the data that the hook receives. Hooks are functions, so this settles the answer. -/
structure Call where
  placed : PlacedHook
  received : Value

def Call.answer (call : Call) : Except Fault (Value × Outcome) := call.placed.hook.invoke call.received

/-- How a stage reads what a hook answers to fields: as the fields for the next hook, or as violations
that end the run. -/
abbrev Reading := PlacedHook → Entries → Value × Outcome → Staged

def readCrossField (path : Path) : Reading := fun placed _ answer =>
  match answer.2 with
  | .failure reason _ => do return .error (← (reasons reason).mapM (violationOf placed path))
  | .success value =>
    match value.mapping? with
    | some entries => return .ok entries
    | none => return .error [
        { path, kind := .hookFailed, hook := some placed.identity,
          message := "hook returned Success with " ++ value.typeName ++ ", expected object" }]

/-- The field that a derived hook computes. -/
def target (placed : PlacedHook) : Name := placed.fieldName.getD (.text "")

/-- The one violation by which a derived hook fails. -/
def derivedFailure (path : Path) (placed : PlacedHook) (message : String) : Violation :=
  { path := path ++ [.name (target placed).label], kind := .derivedHookFailed, message, hook := some placed.identity }

def readDerived (shape : SchemaType → Value → Path → Except Fault Checked) (s : Schema) (path : Path) :
    Reading := fun placed fields answer =>
  match answer with
  | (_, .failure reason _) => do return .error [derivedFailure path placed (← wording reason)]
  | (left, .success value) => do
    match ← derivedMismatch? shape s (target placed).label value (path ++ [.name (target placed).label]) with
    | some message => return .error [derivedFailure path placed message]
    | none => return .ok (Entries.put (left.mapping?.getD fields) (target placed).toValue value)

section Calling
variable {m : Type → Type} [Monad m] [MonadLiftT (Except Fault) m] (call : PlacedHook → Value → m (Value × Outcome))

/-- Calls hooks in order, as long as there are fields for the next one. -/
def callAll (read : Reading) : List PlacedHook → Entries → m (Except (List Violation) Entries)
  | [], fields => return .ok fields
  | placed :: rest, fields => do
    let answer ← call placed (.map fields)
    match ← liftM (read placed fields answer) with
    | .ok next => callAll read rest next
    | .error violations => return .error violations

/-- The stages of a run. Calls by runs of other schemas, on parts of the data, belong to those runs. -/
def runStages (catalogs : Catalogs) (rounds : Nat) (s : Schema) (gaps : Gaps) (v : Value) (path : Path)
    (catalog : Option CatalogId) : m (Except (List Violation) Entries) := do
  match ← liftM (Validation.fieldStages catalogs rounds s gaps v path catalog) with
  | .error violations => return .error violations
  | .ok fields =>
    liftM (Validation.require gaps.hooks)
    match ← callAll call (readCrossField path) s.crossFieldHooks fields with
    | .error violations => return .error violations
    | .ok crossed =>
      callAll call (readDerived (Validation.check catalogs .shape ⟨some s, s.catalog.or catalog⟩) s path) s.derivedHooks crossed

end Calling

/-- A call that is just made. -/
def direct (placed : PlacedHook) (data : Value) : Except Fault (Value × Outcome) := placed.hook.invoke data

/-- Computations that keep the calls made so far, the first one in front. -/
abbrev Recording := StateT (List Call) (Except Fault)

/-- A call that is written down and then made. -/
def recorded (placed : PlacedHook) (data : Value) : Recording (Value × Outcome) := fun calls =>
  (·, calls ++ [⟨placed, data⟩]) <$> placed.hook.invoke data

theorem runCrossField_eq_callAll (path : Path) (hooks : List PlacedHook) (fields : Entries) :
    runCrossField path hooks fields = callAll direct (readCrossField path) hooks fields := by
  induction hooks generalizing fields with
  | nil => rfl
  | cons placed rest ih =>
    rw [runCrossField, callAll, direct]
    refine bind_congr fun answer => ?_
    rw [readCrossField]
    cases answer.2 with
    | failure reason fault =>
      show (_ >>= _) = (_ >>= _) >>= _
      cases (reasons reason).mapM (violationOf placed path) <;> rfl
    | success value =>
      show (match value.mapping? with | some _ => _ | none => _) =
        (match value.mapping? with | some _ => _ | none => _) >>= _
      cases value.mapping? with
      | none => rfl
      | some entries => exact ih entries

theorem runDerived_eq_callAll (shape : SchemaType → Value → Path → Except Fault Checked) (s : Schema) (path : Path)
    (hooks : List PlacedHook) (fields : Entries) :
    runDerived shape s path hooks fields = callAll direct (readDerived shape s path) hooks fields := by
  induction hooks generalizing fields with
  | nil => rfl
  | cons placed rest ih =>
    rw [runDerived, callAll, direct]
    refine bind_congr fun answer => ?_
    obtain ⟨left, outcome⟩ := answer
    cases outcome with
    | failure reason fault =>
      simp only [readDerived]
      cases wording reason <;> rfl
    | success value =>
      simp only [readDerived, target]
      generalize derivedMismatch? shape s _ value _ = met
      cases met with
      | error fault => rfl
      | ok met =>
        cases met with
        | some message => rfl
        | none => exact ih _

/-- A run is its stages, with calls that are just made. -/
theorem run_eq_runStages (catalogs : Catalogs) (rounds : Nat) (s : Schema) (gaps : Gaps) (v : Value) (path : Path)
    (catalog : Option CatalogId) :
    Validation.run catalogs rounds s gaps v path catalog = runStages direct catalogs rounds s gaps v path catalog := by
  rw [Validation.run_eq_stages, runStages]
  refine bind_congr fun found => ?_
  cases found with
  | error violations => rfl
  | ok fields =>
    show (Validation.require gaps.hooks >>= fun _ => Validation.runHooks _ s path fields) = _
    refine bind_congr fun _ => ?_
    rw [Validation.runHooks, runCrossField_eq_callAll]
    refine bind_congr fun crossed => ?_
    cases crossed with
    | error violations => rfl
    | ok fields => exact runDerived_eq_callAll _ s path s.derivedHooks fields

/-- Calls return where hooks return and their answers can be read. -/
theorem callAll_returns {read : Reading} {hooks : List PlacedHook}
    (each : ∀ placed ∈ hooks, ∀ fields, (placed.hook.invoke (.map fields)).Returns ∧
      ∀ answer, placed.hook.invoke (.map fields) = .ok answer → (read placed fields answer).Returns)
    (fields : Entries) : (callAll direct read hooks fields).Returns := by
  induction hooks generalizing fields with
  | nil => exact Except.returns_ok _
  | cons placed rest ih =>
    obtain ⟨first, later⟩ := List.forall_mem_cons.mp each
    obtain ⟨called, reads⟩ := first fields
    refine called.bind fun answer answered => (reads answer answered).bind fun outcome _ => ?_
    cases outcome with
    | error violations => exact Except.returns_ok _
    | ok next => exact ih later next

section Passed
variable {shape : SchemaType → Value → Path → Except Fault Checked} {s : Schema} {path : Path} {placed : PlacedHook}
  {rest : List PlacedHook} {fields last : Entries}

/-- A cross-field hook lets a run go on only if it answers with a mapping. -/
theorem runCrossField_cons_eq_ok :
    runCrossField path (placed :: rest) fields = .ok (.ok last) ↔
      ∃ left value entries, placed.hook.run (.map fields) = (left, .success value) ∧ value.mapping? = some entries ∧
        runCrossField path rest entries = .ok (.ok last) := by
  rw [runCrossField, Except.bind_eq_ok]
  constructor
  · rintro ⟨⟨left, _ | ⟨reason, fault⟩⟩, called, returned⟩
    · simp only at returned
      split at returned
      next entries answered => exact ⟨left, _, entries, Hook.invoke_eq_success.mp called, answered, returned⟩
      next => cases returned
    · obtain ⟨_, -, impossible⟩ := Except.bind_eq_ok.mp returned
      cases impossible
  · rintro ⟨left, value, entries, succeeded, answered, returned⟩
    refine ⟨_, Hook.invoke_eq_success.mpr succeeded, ?_⟩
    simp only [answered, returned]

/-- A derived hook lets a run go on only with a value that has the shape of its field. -/
theorem runDerived_cons_eq_ok :
    runDerived shape s path (placed :: rest) fields = .ok (.ok last) ↔
      ∃ left value, placed.hook.run (.map fields) = (left, .success value) ∧
        derivedMismatch? shape s (target placed).label value (path ++ [.name (target placed).label]) = .ok none ∧
        runDerived shape s path rest (Entries.put (left.mapping?.getD fields) (target placed).toValue value) = .ok (.ok last) := by
  rw [runDerived, Except.bind_eq_ok]
  constructor
  · rintro ⟨⟨left, _ | ⟨reason, fault⟩⟩, called, returned⟩
    · obtain ⟨met, fits, returned⟩ := Except.bind_eq_ok.mp returned
      cases met with
      | some message => cases returned
      | none => exact ⟨left, _, Hook.invoke_eq_success.mp called, fits, returned⟩
    · obtain ⟨_, -, impossible⟩ := Except.bind_eq_ok.mp returned
      cases impossible
  · rintro ⟨left, value, succeeded, fits, returned⟩
    exact ⟨_, Hook.invoke_eq_success.mpr succeeded, Except.bind_eq_ok.mpr ⟨none, fits, returned⟩⟩

end Passed

end Hooks
end RecordSchema
