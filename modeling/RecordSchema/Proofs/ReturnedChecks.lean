import RecordSchema.Proofs.Stages
import RecordSchema.Proofs.ValidationInduction

/-! What checks that return have come from. Each of the functions of a run is taken apart once, into the calls that it
has made and what it has made of their results; where these calls are known, its result is put together from them. -/

namespace Except

variable {ε α β γ : Type} {x : Except ε α} {y : Except ε β}

theorem bind_pure_eq_ok {f : α → γ} {r : γ} : (do let a ← x; return f a) = .ok r ↔ ∃ a, x = .ok a ∧ r = f a := by
  rw [bind_eq_ok]
  exact exists_congr fun a => and_congr_right fun _ => ⟨fun same => (Except.ok.inj same).symm, fun same => same ▸ rfl⟩

/-- Two computations one after the other, and what is made of their results. -/
theorem bind_bind_pure_eq_ok {f : α → β → γ} {r : γ} :
    (do let a ← x; let b ← y; return f a b) = .ok r ↔ ∃ a b, x = .ok a ∧ y = .ok b ∧ r = f a b := by
  rw [bind_eq_ok]
  simp only [bind_pure_eq_ok, exists_and_left]

end Except

namespace RecordSchema.Validation

variable {catalogs : Catalogs} {mode : Mode} {rounds : Nat} {scope : Scope} {v : Value} {path : Path} {c : Checked}

/-- The one constraint is reported in its own words, if it has any. -/
theorem ownViolations_unmet {constraint : Constraint} (unmet : constraint.check v = .ok false) (rounds : Nat) (path : Path) :
    ownViolations (.full rounds) [constraint] v path = constraint.violationText.map fun text =>
      [⟨path, .constraintViolated, text, some constraint.kind.label, none⟩] := by
  have failed : Constraint.failures [constraint] v = .ok [constraint] := by
    show constraint.check v >>= _ = _
    rw [unmet]
    rfl
  show Constraint.failures [constraint] v >>= _ = _
  rw [failed, Except.ok_bind, List.mapM_cons, List.mapM_nil]
  cases constraint.violationText <;> rfl

theorem check_primitive_eq_ok {kind : Primitive} {cs : List Constraint} :
    check catalogs mode scope (.primitive kind cs) v path = .ok c ↔
      kind.admits v = false ∧ c = .mismatch kind.label v path ∨
      kind.admits v = true ∧ ∃ own, ownViolations mode cs v path = .ok own ∧ c = ⟨v, own⟩ := by
  rw [check]
  cases kind.admits v with
  | false => simp [pure, Except.pure, eq_comm]
  | true => simpa using Except.bind_pure_eq_ok

theorem check_array_eq_ok {element : SchemaType} {cs : List Constraint} :
    check catalogs mode scope (.array element cs) v path = .ok c ↔
      v.items? = none ∧ c = .mismatch (SchemaType.array element cs).describe v path ∨
      ∃ items own inner, v.items? = some items ∧ ownViolations mode cs v path = .ok own ∧
        checkItems catalogs mode scope element path 0 items = .ok inner ∧ c = ⟨.list inner.1, own ++ inner.2⟩ := by
  cases found : v.items? with
  | none => simp [check_array_mismatch found, eq_comm]
  | some items => rw [check_array_found found, Except.bind_bind_pure_eq_ok]; simp

theorem check_array_of_items {element : SchemaType} {cs : List Constraint} {items : List Value} {own : List Violation}
    {inner : List Value × List Violation} (found : v.items? = some items) (constrained : ownViolations mode cs v path = .ok own)
    (checked : checkItems catalogs mode scope element path 0 items = .ok inner) (made : c = ⟨.list inner.1, own ++ inner.2⟩) :
    check catalogs mode scope (.array element cs) v path = .ok c :=
  check_array_eq_ok.mpr (.inr ⟨items, own, inner, found, constrained, checked, made⟩)

theorem check_map_eq_ok {key value : SchemaType} {cs : List Constraint} :
    check catalogs mode scope (.map key value cs) v path = .ok c ↔
      v.mapping? = none ∧ c = .mismatch (SchemaType.map key value cs).describe v path ∨
      ∃ entries own inner, v.mapping? = some entries ∧ ownViolations mode cs (.map entries) path = .ok own ∧
        checkEntries catalogs mode scope key value path entries = .ok inner ∧ c = ⟨.map inner.1, own ++ inner.2⟩ := by
  cases found : v.mapping? with
  | none => simp [check_map_mismatch found, eq_comm]
  | some entries => rw [check_map_found found, Except.bind_bind_pure_eq_ok]; simp

/-- A reference that leads nowhere, or beside a value that is no map. -/
def Missed (catalogs : Catalogs) (scope : Scope) (name : Name) (target : Option Target) (v : Value) (path : Path) (c : Checked) :
    Prop :=
  scope.lookup? catalogs name target = none ∧ c = .unresolved name v path ∨
    (scope.lookup? catalogs name target).isSome = true ∧ v.mapping? = none ∧
      c = .mismatch (SchemaType.ref name target).describe v path

theorem check_ref_eq_ok {name : Name} {target : Option Target} :
    check catalogs (.full rounds) scope (.ref name target) v path = .ok c ↔
      Missed catalogs scope name target v path c ∨
      ∃ found entries s gaps outcome, scope.lookup? catalogs name target = some found ∧ v.mapping? = some entries ∧
        found.forRun = .ok (s, gaps) ∧ run catalogs rounds s gaps v path scope.catalog = .ok outcome ∧ c = .ofRun outcome := by
  unfold Missed
  cases resolved : scope.lookup? catalogs name target with
  | none => simp [check_ref_unresolved resolved, eq_comm (b := c)]
  | some found =>
    cases mapping : v.mapping? with
    | none => simp [check_ref_mismatch resolved mapping, eq_comm]
    | some entries =>
      rw [check_ref_found resolved mapping, Except.bind_eq_ok]
      simp [Except.map_eq_ok, eq_comm (b := c)]

theorem check_ref_of_run {name : Name} {target : Option Target} {found : Target} {entries : Entries} {s : Schema} {gaps : Gaps}
    {outcome : Except (List Violation) Entries} (resolved : scope.lookup? catalogs name target = some found)
    (mapping : v.mapping? = some entries) (read : found.forRun = .ok (s, gaps))
    (ran : run catalogs rounds s gaps v path scope.catalog = .ok outcome) (made : c = .ofRun outcome) :
    check catalogs (.full rounds) scope (.ref name target) v path = .ok c :=
  check_ref_eq_ok.mpr (.inr ⟨found, entries, s, gaps, outcome, resolved, mapping, read, ran, made⟩)

theorem check_ref_shape_eq_ok {name : Name} {target : Option Target} :
    check catalogs .shape scope (.ref name target) v path = .ok c ↔
      Missed catalogs scope name target v path c ∨
      ∃ entries, (scope.lookup? catalogs name target).isSome = true ∧ v.mapping? = some entries ∧ c = .clean (.map entries) := by
  unfold Missed
  cases resolved : scope.lookup? catalogs name target with
  | none => simp [check_ref_unresolved resolved, eq_comm (b := c)]
  | some found =>
    cases mapping : v.mapping? with
    | none => simp [check_ref_mismatch resolved mapping, eq_comm]
    | some entries => simp [check_ref_shape resolved mapping, eq_comm]

theorem checkItems_nil {t : SchemaType} {index : Nat} : checkItems catalogs mode scope t path index [] = .ok ([], []) := by
  rw [checkItems]
  rfl

theorem checkItems_cons_eq_ok {t : SchemaType} {index : Nat} {rest : List Value} {checked : List Value × List Violation} :
    checkItems catalogs mode scope t path index (v :: rest) = .ok checked ↔
      ∃ c others, check catalogs mode scope t v (path ++ [.index index]) = .ok c ∧
        checkItems catalogs mode scope t path (index + 1) rest = .ok others ∧
        checked = (c.value :: others.1, c.violations ++ others.2) := by
  rw [checkItems, Except.bind_bind_pure_eq_ok]

theorem checkItems_of_cons {t : SchemaType} {index : Nat} {rest : List Value} {others : List Value × List Violation}
    (first : check catalogs mode scope t v (path ++ [.index index]) = .ok c)
    (remaining : checkItems catalogs mode scope t path (index + 1) rest = .ok others) :
    checkItems catalogs mode scope t path index (v :: rest) = .ok (c.value :: others.1, c.violations ++ others.2) :=
  checkItems_cons_eq_ok.mpr ⟨c, others, first, remaining, rfl⟩

theorem entryPlace_eq (path : Path) (k : Value) :
    entryPlace path k = if k.hasStep then .ok (path ++ [k.keyStep]) else .error .badValue := by
  rw [entryPlace, Value.requireStep]
  cases k.hasStep <;> rfl

theorem checkEntries_nil {key value : SchemaType} : checkEntries catalogs mode scope key value path [] = .ok ([], []) := by
  rw [checkEntries]
  rfl

theorem checkEntries_cons_eq_ok {key value : SchemaType} {k : Value} {rest : Entries} {checked : Entries × List Violation} :
    checkEntries catalogs mode scope key value path ((k, v) :: rest) = .ok checked ↔
      k.hasStep = true ∧ ∃ ofKey ofValue others, check catalogs mode scope key k (path ++ [k.keyStep]) = .ok ofKey ∧
        check catalogs mode scope value v (path ++ [k.keyStep]) = .ok ofValue ∧
        checkEntries catalogs mode scope key value path rest = .ok others ∧
        checked = ((k, ofValue.value) :: others.1, ofKey.violations ++ ofValue.violations ++ others.2) := by
  rw [checkEntries, entryPlace_eq]
  cases k.hasStep with
  | false => simp
  | true =>
    simp only [if_true, Except.ok_bind, true_and]
    rw [Except.bind_eq_ok]
    simp only [Except.bind_bind_pure_eq_ok]
    simp

theorem checkVariants_cons_eq_ok {t : SchemaType} {rest : List SchemaType} {chosen : Option Checked} :
    checkVariants catalogs mode scope (t :: rest) v path = .ok chosen ↔
      ∃ c, check catalogs mode scope t v path = .ok c ∧
        (c.violations = [] ∧ chosen = some c ∨ c.violations ≠ [] ∧ checkVariants catalogs mode scope rest v path = .ok chosen) := by
  rw [checkVariants, Except.bind_eq_ok]
  refine exists_congr fun c => and_congr_right fun _ => ?_
  cases clean : c.violations <;> simp [Checked.isClean, clean, pure, Except.pure, eq_comm]

/-- A default is copied where it is put in, and a copy is the same value. -/
theorem copied_eq {given default : Option Value} (copied : given.mapM Value.copy = .ok default) : default = given := by
  cases given with
  | none => exact (Except.ok.inj copied).symm
  | some v =>
    simp only [Option.mapM_some, Value.copy] at copied
    split at copied
    · exact (Except.ok.inj copied).symm
    · cases copied

variable {entries : Entries} {f : Field} {rest : List Field} {report : FieldReport}

theorem fieldReport_nil : fieldReport catalogs rounds scope path entries [] = .ok {} := by
  rw [fieldReport]
  rfl

theorem fieldReport_cons_eq_ok :
    fieldReport catalogs rounds scope path entries (f :: rest) = .ok report ↔
      (∃ v c others, entries.field? f.name.label = some v ∧ check catalogs (.full rounds) scope f.type v (path ++ [.name f.name.label]) = .ok c ∧
        fieldReport catalogs rounds scope path entries rest = .ok others ∧ report = others.withPresent f c) ∨
      ∃ others, entries.field? f.name.label = none ∧ f.default.mapM Value.copy = .ok f.default ∧
        fieldReport catalogs rounds scope path entries rest = .ok others ∧ report = others.withAbsent f path f.default := by
  cases found : entries.field? f.name.label with
  | some v =>
    rw [fieldReport_present found, Except.bind_bind_pure_eq_ok]
    simp
  | none =>
    rw [fieldReport_absent found, Except.bind_bind_pure_eq_ok]
    constructor
    · rintro ⟨default, others, copied, remaining, rfl⟩
      cases copied_eq copied
      exact .inr ⟨others, rfl, copied, remaining, rfl⟩
    · rintro (⟨_, _, _, impossible, -⟩ | ⟨others, -, copied, remaining, rfl⟩)
      · cases impossible
      · exact ⟨f.default, others, copied, remaining, rfl⟩

theorem fieldReport_of_present (found : entries.field? f.name.label = some v)
    (checked : check catalogs (.full rounds) scope f.type v (path ++ [.name f.name.label]) = .ok c)
    (remaining : fieldReport catalogs rounds scope path entries rest = .ok report) :
    fieldReport catalogs rounds scope path entries (f :: rest) = .ok (report.withPresent f c) :=
  fieldReport_cons_eq_ok.mpr (.inl ⟨v, c, report, found, checked, remaining, rfl⟩)

theorem fieldReport_of_absent (absent : entries.field? f.name.label = none) (copied : f.default.mapM Value.copy = .ok f.default)
    (remaining : fieldReport catalogs rounds scope path entries rest = .ok report) :
    fieldReport catalogs rounds scope path entries (f :: rest) = .ok (report.withAbsent f path f.default) :=
  fieldReport_cons_eq_ok.mpr (.inr ⟨report, absent, copied, remaining, rfl⟩)

end RecordSchema.Validation
