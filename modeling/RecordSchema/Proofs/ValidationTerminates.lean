import RecordSchema.Proofs.DataParts
import RecordSchema.Proofs.DataRounds
import RecordSchema.Validation.Verdict

/-! The recursion of a run. The check of a value and the stages of a schema ask for each other's answers; what one
call asks for is listed, and answers that are looked for up to a limit of nested calls are found for every schema and
all data. Main statement: `validation_terminates`. -/

namespace RecordSchema.Validation

/-- A computation that ends, ends with a fault, or comes to a limit before its end. -/
abbrev Limited := ExceptT Fault Option

namespace Limited

variable {α β : Type}

/-- A computation that has come to its end. -/
def ended (x : Except Fault α) : Limited α := ExceptT.mk (some x)

def reached : Limited α := ExceptT.mk none

@[simp] theorem pure_eq_ended (a : α) : (pure a : Limited α) = ended (.ok a) := rfl

@[simp] theorem ended_bind (x : Except Fault α) (next : α → Except Fault β) :
    (ended x >>= fun a => ended (next a)) = ended (x >>= next) := by
  cases x <;> rfl

end Limited

open Limited

/-- A call of the recursion: the check of a value by a type, or all stages of a schema on a value. -/
inductive Call where
  | value (mode : Mode) (scope : Scope) (t : SchemaType) (v : Value) (path : Path)
  | stages (rounds : Nat) (s : Schema) (gaps : Gaps) (v : Value) (path : Path) (catalog : Option CatalogId)

namespace Call

@[reducible] def Result : Call → Type
  | .value _ _ _ _ _ => Checked
  | .stages _ _ _ _ _ _ => Except (List Violation) Entries

/-- What a run answers to a call. -/
def answer (catalogs : Catalogs) : (c : Call) → Except Fault c.Result
  | .value mode scope t v path => check catalogs mode scope t v path
  | .stages rounds s gaps v path catalog => run catalogs rounds s gaps v path catalog

/-- The stages that a reference leads to, on the same value. The check of a shape leads to none. -/
def ofReference (catalogs : Catalogs) (mode : Mode) (scope : Scope) (name : Name) (target : Option Target) (v : Value) (path : Path) :
    List Call :=
  match mode, scope.lookup? catalogs name target with
  | .full rounds, some found =>
    match found.forRun with
    | .ok (s, gaps) => if v.isMapping then [.stages rounds s gaps v path scope.catalog] else []
    | .error _ => []
  | _, _ => []

/-- The fields that are to be checked for the stages of a schema. -/
def ofFields (s : Schema) (path : Path) (catalog : Option CatalogId) (left : Nat) (entries : Entries) : List Call :=
  s.regularFields.filterMap fun f => (entries.field? f.name.label).map
    (.value (.full left) ⟨some s, s.catalog.or catalog⟩ f.type · (path ++ [.name f.name.label]))

/-- The calls that a call may make itself: for the parts of its value, for other types of the same value, or for the
schema that a reference leads to. -/
def inner (catalogs : Catalogs) : Call → List Call
  | .value _ _ (.primitive _ _) _ _ => []
  | .value mode scope (.array element _) v path =>
    (v.items?.getD []).zipIdx.map fun (item, index) => .value mode scope element item (path ++ [.index index])
  | .value mode scope (.map key entry _) v path =>
    (v.mapping?.getD []).flatMap fun (k, w) =>
      [.value mode scope key k (path ++ [k.keyStep]), .value mode scope entry w (path ++ [k.keyStep])]
  | .value mode scope (.union variants _) v path => variants.map fun t => .value mode scope t v path
  | .value mode scope (.ref name target) v path => ofReference catalogs mode scope name target v path
  | .stages rounds s _ v path catalog =>
    match v.mapping?, v.roundsAfter rounds with
    | some entries, some left => ofFields s path catalog left entries
    | _, _ => []

/-- What a call may ask for: its inner calls, and for stages the shape of whatever hooks compute. -/
inductive Asks (catalogs : Catalogs) : Call → Call → Prop where
  | inner {c d} (member : d ∈ c.inner catalogs) : Asks catalogs c d
  | computed (rounds s gaps v path catalog t w place) :
      Asks catalogs (.stages rounds s gaps v path catalog) (.value .shape ⟨some s, s.catalog.or catalog⟩ t w place)

/-- What is to be gone through of the value comes first. On one value the stages of a schema come after every check, and
a check by a part of a type after that by the whole type. -/
noncomputable def measure : Call → (Nat × Nat) × Nat × Nat
  | .value mode _ t v _ => (mode.work v.hasEnd (sizeOf v), 1, sizeOf t)
  | .stages rounds _ _ v _ _ => ((Mode.full rounds).work v.hasEnd (sizeOf v), 0, 0)

end Call

section Step
variable (catalogs : Catalogs) (ask : (c : Call) → Limited c.Result)

def stepItems (mode : Mode) (scope : Scope) (t : SchemaType) (path : Path) (index : Nat) : List Value → Limited (List Value × List Violation)
  | [] => return ([], [])
  | v :: rest => do
    let c ← ask (.value mode scope t v (path ++ [.index index]))
    let (items, violations) ← stepItems mode scope t path (index + 1) rest
    return (c.value :: items, c.violations ++ violations)

def stepEntries (mode : Mode) (scope : Scope) (key value : SchemaType) (path : Path) : List (Value × Value) → Limited (Entries × List Violation)
  | [] => return ([], [])
  | (k, v) :: rest => do
    let place ← ended (entryPlace path k)
    let ofKey ← ask (.value mode scope key k place)
    let ofValue ← ask (.value mode scope value v place)
    let (entries, violations) ← stepEntries mode scope key value path rest
    return ((k, ofValue.value) :: entries, ofKey.violations ++ ofValue.violations ++ violations)

def stepVariants (mode : Mode) (scope : Scope) (v : Value) (path : Path) : List SchemaType → Limited (Option Checked)
  | [] => return none
  | t :: rest => do
    let c ← ask (.value mode scope t v path)
    if c.isClean then return some c else stepVariants mode scope v path rest

def stepFields (rounds : Nat) (scope : Scope) (path : Path) (entries : Entries) : List Field → Limited FieldReport
  | [] => return {}
  | f :: rest =>
    match entries.field? f.name.label with
    | some v => do
      let c ← ask (.value (.full rounds) scope f.type v (path ++ [.name f.name.label]))
      let report ← stepFields rounds scope path entries rest
      return report.withPresent f c
    | none => do
      let default ← ended (f.default.mapM Value.copy)
      let report ← stepFields rounds scope path entries rest
      return report.withAbsent f path default

/-- One call, with the answers to the calls that it makes. -/
def step : (c : Call) → Limited c.Result
  | .value mode _ (.primitive kind cs) v path =>
    if kind.admits v then do return ⟨v, ← ended (ownViolations mode cs v path)⟩
    else return .mismatch kind.label v path
  | .value mode scope (.array element cs) v path =>
    match v.items? with
    | none => return .mismatch (SchemaType.array element cs).describe v path
    | some items => do
      let own ← ended (ownViolations mode cs v path)
      let (items, violations) ← stepItems ask mode scope element path 0 items
      return ⟨.list items, own ++ violations⟩
  | .value mode scope (.map key value cs) v path =>
    match v.mapping? with
    | none => return .mismatch (SchemaType.map key value cs).describe v path
    | some entries => do
      let own ← ended (ownViolations mode cs (.map entries) path)
      let (entries, violations) ← stepEntries ask mode scope key value path entries
      return ⟨.map entries, own ++ violations⟩
  | .value mode scope (.union variants cs) v path => do
    return (← stepVariants ask mode scope v path variants).getD (.mismatch (SchemaType.union variants cs).describe v path)
  | .value mode scope (.ref name target) v path =>
    match scope.lookup? catalogs name target, v.mapping? with
    | none, _ => return .unresolved name v path
    | some _, none => return .mismatch (SchemaType.ref name target).describe v path
    | some found, some entries =>
      match mode with
      | .shape => return .clean (.map entries)
      | .full rounds =>
        match found.forRun with
        | .error fault => ended (.error fault)
        | .ok (s, gaps) => do return .ofRun (← ask (.stages rounds s gaps v path scope.catalog))
  | .stages rounds s gaps v path catalog =>
    match v.mapping?, v.roundsAfter rounds with
    | none, _ => return .error (Checked.mismatch "object" v path).violations
    | some _, none => ended (.error .endless)
    | some entries, some left => do
      let report ← stepFields ask left ⟨some s, s.catalog.or catalog⟩ path entries s.regularFields
      let unexpected ← ended (unexpectedWith gaps s path entries)
      if (report.violations unexpected).isEmpty then ended (hookStages catalogs s gaps path catalog report.output)
      else return .error (report.violations unexpected)

end Step

/-- The answer to a call, with no more than so many calls inside of each other. -/
def within (catalogs : Catalogs) : Nat → (c : Call) → Limited c.Result
  | 0, _ => reached
  | limit + 1, c => step catalogs (within catalogs limit) c

/-- What validation makes of a run. -/
def conclude (s : Schema) (ran : Except Fault (Except (List Violation) Entries)) : Except (Failing ContainerError) Verdict := do
  match ← Failing.ofFault ran with
  | .ok fields => accept s fields
  | .error violations => return .rejected violations

theorem validate_eq_conclude (catalogs : Catalogs) (s : Schema) (data : Value) :
    validate catalogs s data = conclude s (run catalogs Value.deepest s {} data.unfolded [] none) := rfl

/-- Validates data with no more than so many calls inside of each other; there is no answer if it takes more. -/
def validateWithin (catalogs : Catalogs) (limit : Nat) (s : Schema) (data : Value) :
    Option (Except (Failing ContainerError) Verdict) :=
  (within catalogs limit (.stages Value.deepest s {} data.unfolded [] none)).run.map (conclude s)

namespace Call
variable {catalogs : Catalogs}

/-- Items and entries have an end if the whole has one, and are smaller then. -/
theorem smaller_of_item {v item : Value} (inside : item ∈ v.items?.getD []) (ends : v.hasEnd = true) :
    item.hasEnd = true ∧ sizeOf item < sizeOf v := by
  cases found : v.items? with
  | none =>
    rw [found] at inside
    cases inside
  | some items =>
    rw [found] at inside
    obtain ⟨kept, less⟩ := Value.items?_smaller found ends
    have smaller : sizeOf item < sizeOf items := List.sizeOf_lt_of_mem inside
    exact ⟨Value.all_of_mem_list kept item inside, Nat.lt_trans smaller less⟩

theorem smaller_of_entry {v : Value} {e : Value × Value} (inside : e ∈ v.mapping?.getD []) (ends : v.hasEnd = true) :
    (e.1.hasEnd = true ∧ sizeOf e.1 < sizeOf v) ∧ e.2.hasEnd = true ∧ sizeOf e.2 < sizeOf v := by
  cases found : v.mapping? with
  | none =>
    rw [found] at inside
    cases inside
  | some entries =>
    rw [found] at inside
    obtain ⟨kept, less⟩ := Value.mapping?_smaller found ends
    obtain ⟨k, w⟩ := e
    have smaller : sizeOf (k, w) < sizeOf entries := List.sizeOf_lt_of_mem inside
    simp only [Prod.mk.sizeOf_spec] at smaller
    rw [Value.hasEnd, Value.all, Bool.and_eq_true] at kept
    obtain ⟨ofKey, ofValue⟩ := Value.all_of_mem_entries kept.2 (k, w) inside
    exact ⟨⟨ofKey, show sizeOf k < _ by omega⟩, ofValue, show sizeOf w < _ by omega⟩

theorem eq_stages_of_mem_ofReference {mode : Mode} {scope : Scope} {name : Name} {target : Option Target} {v : Value} {path : Path}
    {d : Call} (asked : d ∈ ofReference catalogs mode scope name target v path) :
    ∃ rounds s gaps, mode = .full rounds ∧ d = .stages rounds s gaps v path scope.catalog := by
  unfold ofReference at asked
  split at asked
  · split at asked
    · split at asked
      · exact ⟨_, _, _, rfl, List.mem_singleton.mp asked⟩
      · cases asked
    · cases asked
  · cases asked

/-- A call asks only for smaller calls: a reference reaches the same value again, but only with the stages of a schema,
and these go on with its parts. Through data without an end it is the rounds that get less. -/
theorem measure_lt_of_asks {c d : Call} (asks : c.Asks catalogs d) :
    Prod.Lex (Prod.Lex (· < ·) (· < ·)) (Prod.Lex (· < ·) (· < ·)) d.measure c.measure := by
  cases asks with
  | computed rounds s gaps v path catalog t w place => exact .left _ _ (Mode.work_shape rounds _ _ _ (sizeOf_value_pos v))
  | inner asked =>
    cases c with
    | value mode scope t v path =>
      cases t with
      | primitive _ _ => cases asked
      | array element cs =>
        obtain ⟨⟨item, index⟩, member, rfl⟩ := List.mem_map.mp asked
        refine Mode.work_part (fun ends => ?_) (.right _ ?_)
        · exact (smaller_of_item (List.fst_mem_of_mem_zipIdx member) ends).imp_right Nat.le_of_lt
        · simp only [SchemaType.array.sizeOf_spec]
          omega
      | map key entry cs =>
        obtain ⟨⟨k, w⟩, member, asked⟩ := List.mem_flatMap.mp asked
        simp only [List.mem_cons, List.not_mem_nil, or_false] at asked
        obtain rfl | rfl := asked
        · refine Mode.work_part (fun ends => (smaller_of_entry member ends).1.imp_right Nat.le_of_lt) (.right _ ?_)
          simp only [SchemaType.map.sizeOf_spec]
          omega
        · refine Mode.work_part (fun ends => (smaller_of_entry member ends).2.imp_right Nat.le_of_lt) (.right _ ?_)
          simp only [SchemaType.map.sizeOf_spec]
          omega
      | union variants cs =>
        obtain ⟨t, member, rfl⟩ := List.mem_map.mp asked
        have smaller : sizeOf t < sizeOf variants := List.sizeOf_lt_of_mem member
        refine Prod.Lex.right _ (Prod.Lex.right _ ?_)
        simp only [SchemaType.union.sizeOf_spec]
        omega
      | ref name target =>
        obtain ⟨rounds, s, gaps, rfl, rfl⟩ := eq_stages_of_mem_ofReference asked
        exact Prod.Lex.right _ (Prod.Lex.left _ _ Nat.zero_lt_one)
    | stages rounds s gaps v path catalog =>
      rw [inner] at asked
      split at asked
      next entries left mapping spent =>
        obtain ⟨f, -, asked⟩ := List.mem_filterMap.mp asked
        obtain ⟨w, found, rfl⟩ := Option.map_eq_some_iff.mp asked
        refine .left _ _ (Value.work_round spent fun ends => ?_)
        obtain ⟨kept, less⟩ := Value.mapping?_smaller mapping ends
        obtain ⟨smaller, onward⟩ := field?_smaller found
        exact ⟨onward kept, Nat.lt_trans smaller less⟩
      next => cases asked

theorem asks_wellFounded (catalogs : Catalogs) : WellFounded fun d c : Call => c.Asks catalogs d := by
  refine Subrelation.wf (r := InvImage (Prod.Lex (Prod.Lex (· < ·) (· < ·)) (Prod.Lex (· < ·) (· < ·))) measure)
    measure_lt_of_asks ?_
  exact InvImage.wf measure (inferInstance : WellFoundedRelation ((Nat × Nat) × Nat × Nat)).wf

end Call

section Step
variable {catalogs : Catalogs} {ask other : (c : Call) → Limited c.Result} {mode : Mode} {scope : Scope} {path : Path}

theorem stepItems_congr {t : SchemaType} (items : List Value) (index : Nat) (same : ∀ pair ∈ items.zipIdx index,
      ask (.value mode scope t pair.1 (path ++ [.index pair.2])) = other (.value mode scope t pair.1 (path ++ [.index pair.2]))) :
    stepItems ask mode scope t path index items = stepItems other mode scope t path index items := by
  induction items generalizing index with
  | nil => rfl
  | cons v rest ih =>
    rw [List.zipIdx_cons, List.forall_mem_cons] at same
    rw [stepItems, stepItems, same.1, ih _ same.2]

theorem stepEntries_congr {key value : SchemaType} (entries : List (Value × Value)) (same : ∀ e ∈ entries,
      ask (.value mode scope key e.1 (path ++ [e.1.keyStep])) = other (.value mode scope key e.1 (path ++ [e.1.keyStep])) ∧
      ask (.value mode scope value e.2 (path ++ [e.1.keyStep])) = other (.value mode scope value e.2 (path ++ [e.1.keyStep]))) :
    stepEntries ask mode scope key value path entries = stepEntries other mode scope key value path entries := by
  induction entries with
  | nil => rfl
  | cons e rest ih =>
    obtain ⟨k, v⟩ := e
    obtain ⟨⟨ofKey, ofValue⟩, others⟩ := List.forall_mem_cons.mp same
    rw [stepEntries, stepEntries, ih others, entryPlace_eq]
    cases k.hasStep with
    | false => rfl
    | true =>
      show (ask (.value mode scope key k (path ++ [k.keyStep])) >>= _) = (other (.value mode scope key k (path ++ [k.keyStep])) >>= _)
      rw [ofKey]
      refine bind_congr fun _ => ?_
      rw [ofValue]

theorem stepVariants_congr {v : Value} (variants : List SchemaType)
    (same : ∀ t ∈ variants, ask (.value mode scope t v path) = other (.value mode scope t v path)) :
    stepVariants ask mode scope v path variants = stepVariants other mode scope v path variants := by
  induction variants with
  | nil => rfl
  | cons t rest ih =>
    obtain ⟨first, others⟩ := List.forall_mem_cons.mp same
    rw [stepVariants, stepVariants, first, ih others]

theorem stepFields_congr {rounds : Nat} {entries : Entries} (fields : List Field) (same : ∀ f ∈ fields, ∀ v,
      entries.field? f.name.label = some v →
      ask (.value (.full rounds) scope f.type v (path ++ [.name f.name.label])) =
        other (.value (.full rounds) scope f.type v (path ++ [.name f.name.label]))) :
    stepFields ask rounds scope path entries fields = stepFields other rounds scope path entries fields := by
  induction fields with
  | nil => rfl
  | cons f rest ih =>
    obtain ⟨first, others⟩ := List.forall_mem_cons.mp same
    rw [stepFields, stepFields]
    split
    next v found => rw [first v found, ih others]
    next => rw [ih others]

/-- One call depends on nothing but the answers to its inner calls. -/
theorem step_congr {c : Call} (same : ∀ d ∈ c.inner catalogs, ask d = other d) : step catalogs ask c = step catalogs other c := by
  cases c with
  | value mode scope t v path =>
    cases t with
    | primitive _ _ => rfl
    | array element cs =>
      rw [step, step]
      split
      next => rfl
      next items found =>
        rw [Call.inner, found, Option.getD_some] at same
        rw [stepItems_congr items 0 fun pair member => same _ (List.mem_map.mpr ⟨pair, member, rfl⟩)]
    | map key entry cs =>
      rw [step, step]
      split
      next => rfl
      next entries found =>
        rw [Call.inner, found, Option.getD_some] at same
        rw [stepEntries_congr entries fun e member => ?_]
        have asked := fun d inside => same d (List.mem_flatMap.mpr ⟨e, member, inside⟩)
        exact ⟨asked _ List.mem_cons_self, asked _ (List.mem_cons_of_mem _ List.mem_cons_self)⟩
    | union variants cs =>
      rw [step, step, stepVariants_congr variants fun t member => same _ (List.mem_map.mpr ⟨t, member, rfl⟩)]
    | ref name target =>
      rw [step, step]
      split
      next => rfl
      next => rfl
      next found entries resolved mapping =>
        cases mode with
        | shape => rfl
        | full rounds =>
          dsimp only
          split
          next => rfl
          next s gaps read =>
            rw [same]
            have held : v.isMapping = true := by rw [Value.isMapping, mapping]; rfl
            show _ ∈ Call.ofReference catalogs (.full rounds) scope name target v path
            simp only [Call.ofReference, resolved, read, held, if_true, List.mem_singleton]
  | stages rounds s gaps v path catalog =>
    rw [step, step]
    split
    next => rfl
    next => rfl
    next entries left mapping spent =>
      simp only [Call.inner, mapping, spent] at same
      rw [stepFields_congr s.regularFields fun f member w found =>
        same _ (List.mem_filterMap.mpr ⟨f, member, Option.map_eq_some_iff.mpr ⟨w, found, rfl⟩⟩)]

theorem stepItems_answer {t : SchemaType} (items : List Value) (index : Nat) :
    stepItems (fun d => ended (d.answer catalogs)) mode scope t path index items = ended (checkItems catalogs mode scope t path index items) := by
  induction items generalizing index with
  | nil =>
    rw [stepItems, checkItems]
    rfl
  | cons v rest ih =>
    rw [stepItems, checkItems, ih, ← ended_bind]
    refine bind_congr fun c => ?_
    rw [← ended_bind]
    rfl

theorem stepEntries_answer {key value : SchemaType} (entries : List (Value × Value)) :
    stepEntries (fun d => ended (d.answer catalogs)) mode scope key value path entries =
      ended (checkEntries catalogs mode scope key value path entries) := by
  induction entries with
  | nil =>
    rw [stepEntries, checkEntries]
    rfl
  | cons e rest ih =>
    obtain ⟨k, v⟩ := e
    rw [stepEntries, checkEntries, ih, ← ended_bind]
    refine bind_congr fun place => ?_
    rw [← ended_bind]
    refine bind_congr fun ofKey => ?_
    rw [← ended_bind]
    refine bind_congr fun ofValue => ?_
    rw [← ended_bind]
    rfl

theorem stepVariants_answer {v : Value} (variants : List SchemaType) :
    stepVariants (fun d => ended (d.answer catalogs)) mode scope v path variants = ended (checkVariants catalogs mode scope variants v path) := by
  induction variants with
  | nil =>
    rw [stepVariants, checkVariants]
    rfl
  | cons t rest ih =>
    rw [stepVariants, checkVariants, ih, ← ended_bind]
    refine bind_congr fun c => ?_
    split <;> rfl

theorem stepFields_answer {rounds : Nat} {entries : Entries} (fields : List Field) :
    stepFields (fun d => ended (d.answer catalogs)) rounds scope path entries fields =
      ended (fieldReport catalogs rounds scope path entries fields) := by
  induction fields with
  | nil =>
    rw [stepFields, fieldReport]
    rfl
  | cons f rest ih =>
    rw [stepFields, ih]
    split
    next v found =>
      rw [fieldReport_present found, ← ended_bind]
      refine bind_congr fun c => ?_
      rw [← ended_bind]
      rfl
    next absent =>
      rw [fieldReport_absent absent, ← ended_bind]
      refine bind_congr fun default => ?_
      rw [← ended_bind]
      rfl

/-- One call that is given the answers of a run to its inner calls comes to the answer of a run. -/
theorem step_answer (c : Call) : step catalogs (fun d => ended (d.answer catalogs)) c = ended (c.answer catalogs) := by
  cases c with
  | value mode scope t v path =>
    cases t with
    | primitive kind cs =>
      rw [step, Call.answer, check]
      split
      next => cases ownViolations mode cs v path <;> rfl
      next => rfl
    | array element cs =>
      rw [step, Call.answer]
      split
      next none => rw [check_array_mismatch none]; rfl
      next items found =>
        rw [check_array_found found, stepItems_answer, ← ended_bind]
        refine bind_congr fun own => ?_
        rw [← ended_bind]
        rfl
    | map key entry cs =>
      rw [step, Call.answer]
      split
      next none => rw [check_map_mismatch none]; rfl
      next entries found =>
        rw [check_map_found found, stepEntries_answer, ← ended_bind]
        refine bind_congr fun own => ?_
        rw [← ended_bind]
        rfl
    | union variants cs =>
      rw [step, Call.answer, check_union, stepVariants_answer]
      cases checkVariants catalogs mode scope variants v path <;> rfl
    | ref name target =>
      rw [step, Call.answer]
      split
      next lost => rw [check_ref_unresolved lost]; rfl
      next resolved none => rw [check_ref_mismatch resolved none]; rfl
      next found entries resolved mapping =>
        cases mode with
        | shape => rw [check_ref_shape resolved mapping]; rfl
        | full rounds =>
          rw [check_ref_found resolved mapping]
          dsimp only
          split
          next fault read => rw [read]; rfl
          next s gaps read =>
            rw [read]
            show (ended (run catalogs rounds s gaps v path scope.catalog) >>= _) =
              ended (Checked.ofRun <$> run catalogs rounds s gaps v path scope.catalog)
            cases run catalogs rounds s gaps v path scope.catalog <;> rfl
  | stages rounds s gaps v path catalog =>
    rw [step, Call.answer, run_eq_stages, fieldStages]
    cases v.mapping? with
    | none => rfl
    | some entries =>
      cases v.roundsAfter rounds with
      | none => rfl
      | some left =>
        dsimp only
        rw [stepFields_answer]
        cases fieldReport catalogs left ⟨some s, s.catalog.or catalog⟩ path entries s.regularFields with
        | error fault => rfl
        | ok report =>
          cases unexpectedWith gaps s path entries with
          | error fault => rfl
          | ok unexpected =>
            show (if _ then _ else _) = ended (Except.ok (if _ then _ else _) >>= _)
            split <;> rfl

end Step

/-- Limits that suffice for each of some calls give one that suffices for all of them. -/
theorem exists_common_limit {α : Type} {items : List α} {Holds : Nat → α → Prop}
    (each : ∀ a ∈ items, ∃ limit, ∀ n ≥ limit, Holds n a) : ∃ limit, ∀ n ≥ limit, ∀ a ∈ items, Holds n a := by
  induction items with
  | nil => exact ⟨0, fun _ _ => List.forall_mem_nil _⟩
  | cons a rest ih =>
    obtain ⟨first, others⟩ := List.forall_mem_cons.mp each
    obtain ⟨one, ofFirst⟩ := first
    obtain ⟨all, ofOthers⟩ := ih others
    exact ⟨max one all, fun n large => List.forall_mem_cons.mpr
      ⟨ofFirst n (Nat.le_trans (Nat.le_max_left _ _) large), ofOthers n (Nat.le_trans (Nat.le_max_right _ _) large)⟩⟩

/-- Some limit suffices for a call, and beyond it the limit makes no difference. By induction on the call, whose inner
calls are smaller and finitely many. -/
theorem within_answers (catalogs : Catalogs) (c : Call) : ∃ limit, ∀ n ≥ limit, within catalogs n c = ended (c.answer catalogs) := by
  induction c using (Call.asks_wellFounded catalogs).induction with
  | _ c ih =>
    obtain ⟨limit, enough⟩ := exists_common_limit fun d member => ih d (.inner member)
    refine ⟨limit + 1, fun n large => ?_⟩
    obtain ⟨m, rfl⟩ : ∃ m, n = m + 1 := ⟨n - 1, by omega⟩
    rw [within, step_congr (enough m (by omega)), step_answer]

/-- The recursion of a run is well-founded, whatever refers to what: calls ask for smaller calls only, of which there
are finitely many, and beside them for the shape of what hooks compute. Rounds have no part in that where data has an
end. So validation comes to its verdict, or its fault, with a limited number of calls inside of each other. -/
theorem validation_terminates (catalogs : Catalogs) :
    (WellFounded fun d c : Call => c.Asks catalogs d) ∧
    (∀ c ask other, (∀ d ∈ c.inner catalogs, ask d = other d) → step catalogs ask c = step catalogs other c) ∧
    (∀ c, step catalogs (fun d => ended (d.answer catalogs)) c = ended (c.answer catalogs)) ∧
    (∀ s gaps v path catalog, v.hasEnd = true → ∀ m n, run catalogs n s gaps v path catalog = run catalogs m s gaps v path catalog) ∧
    ∀ s data, ∃ limit, ∀ n ≥ limit, validateWithin catalogs n s data = some (validate catalogs s data) := by
  refine ⟨Call.asks_wellFounded catalogs, fun c ask other same => step_congr same, step_answer,
    fun s gaps v path catalog ends m n => Proofs.DataRounds.run_rounds ends m n, fun s data => ?_⟩
  obtain ⟨limit, enough⟩ := within_answers catalogs (.stages Value.deepest s {} data.unfolded [] none)
  refine ⟨limit, fun n large => ?_⟩
  rw [validateWithin, enough n large, validate_eq_conclude]
  rfl

/-- A link of a chain, with the next link in it. -/
def link : Schema where
  serial := 1
  name := "Link"
  fields := [
    { name := "next", type := .ref "Link" none, required := false, default := none, description := .null, examples := [],
      derived := false, extra := [] }]
  crossFieldHooks := []
  derivedHooks := []
  title := none
  description := none
  strict := false
  container := none
  catalog := none

-- Two calls for each link: its stages, and the check of what is next.
example :
    let chain := Value.map [(.str "next", .map [(.str "next", .map [])])]
    (validateWithin {} 4 link chain).isSome = false ∧ (validateWithin {} 5 link chain).isSome = true := by
  cbv

end RecordSchema.Validation
