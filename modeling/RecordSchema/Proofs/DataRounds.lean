import RecordSchema.Proofs.ReturnedChecks
import RecordSchema.Proofs.Stages

/-! Rounds are counted through data without an end only: what has one is checked alike however many are left.
Main statements: `check_rounds`, `fieldReport_left`. -/

namespace RecordSchema.Proofs.DataRounds
open Validation

variable {catalogs : Catalogs} {scope : Scope} {path : Path} {entries : Entries} {fields : List Field}

/-- The fields of two maps are reported on alike if what stands under their names is checked alike. -/
theorem fieldReport_alike {m n : Nat} (alike : ∀ f ∈ fields, ∀ v, entries.field? f.name.label = some v →
      check catalogs (.full n) scope f.type v (path ++ [.name f.name.label]) =
        check catalogs (.full m) scope f.type v (path ++ [.name f.name.label])) :
    fieldReport catalogs n scope path entries fields = fieldReport catalogs m scope path entries fields := by
  induction fields with
  | nil => rw [fieldReport, fieldReport]
  | cons f rest ih =>
    obtain ⟨here, later⟩ := List.forall_mem_cons.mp alike
    cases found : entries.field? f.name.label with
    | some v => rw [fieldReport_present found, fieldReport_present found, here v found, ih later]
    | none => rw [fieldReport_absent found, fieldReport_absent found, ih later]

variable (catalogs) in
/-- What each function of a run makes of data that has an end does not depend on the rounds. -/
def motives : Motives where
  ofValue mode scope t v path := ∀ m n, mode = .full m → v.hasEnd = true →
    check catalogs (.full n) scope t v path = check catalogs (.full m) scope t v path
  ofRun m s gaps v path catalog := ∀ n, v.hasEnd = true → run catalogs n s gaps v path catalog = run catalogs m s gaps v path catalog
  ofFields m scope path entries fields := ∀ f ∈ fields, ∀ v, entries.field? f.name.label = some v → ∀ n, v.hasEnd = true →
    check catalogs (.full n) scope f.type v (path ++ [.name f.name.label]) =
      check catalogs (.full m) scope f.type v (path ++ [.name f.name.label])
  ofVariants mode scope variants v path := ∀ m n, mode = .full m → v.hasEnd = true →
    checkVariants catalogs (.full n) scope variants v path = checkVariants catalogs (.full m) scope variants v path
  ofEntries mode scope key value path entries := ∀ m n, mode = .full m → (Value.map entries).hasEnd = true →
    checkEntries catalogs (.full n) scope key value path entries = checkEntries catalogs (.full m) scope key value path entries
  ofItems mode scope t path index items := ∀ m n, mode = .full m → (Value.list items).hasEnd = true →
    checkItems catalogs (.full n) scope t path index items = checkItems catalogs (.full m) scope t path index items

private theorem step : Cases catalogs (motives catalogs) where
  primitive mode scope kind cs v path := by
    rintro m n rfl ends
    rw [check, check]
    rfl
  array mode scope element cs v path ofItems := by
    rintro m n rfl ends
    cases found : v.items? with
    | none => rw [check_array_mismatch found, check_array_mismatch found]
    | some items =>
      rw [check_array_found found, check_array_found found, ofItems items found m n rfl (Value.items?_smaller found ends).1]
      rfl
  map mode scope key value cs v path ofEntries := by
    rintro m n rfl ends
    cases found : v.mapping? with
    | none => rw [check_map_mismatch found, check_map_mismatch found]
    | some entries =>
      rw [check_map_found found, check_map_found found, ofEntries entries found m n rfl (Value.mapping?_smaller found ends).1]
      rfl
  union mode scope variants cs v path ofVariants := by
    rintro m n rfl ends
    rw [check_union, check_union, ofVariants m n rfl ends]
  ref mode scope name target v path ofRun := by
    rintro m n rfl ends
    cases resolved : scope.lookup? catalogs name target with
    | none => rw [check_ref_unresolved resolved, check_ref_unresolved resolved]
    | some found =>
      cases mapping : v.mapping? with
      | none => rw [check_ref_mismatch resolved mapping, check_ref_mismatch resolved mapping]
      | some entries =>
        rw [check_ref_found resolved mapping, check_ref_found resolved mapping]
        cases read : found.forRun with
        | error fault => rfl
        | ok both =>
          have held : v.isMapping = true := by rw [Value.isMapping, mapping]; rfl
          exact congrArg (Checked.ofRun <$> ·) (ofRun m found both.1 both.2 rfl held resolved read n ends)
  run m s gaps v path catalog inner := by
    intro n ends
    rw [run_eq_stages, run_eq_stages, fieldStages, fieldStages, Value.roundsAfter_of_hasEnd ends, Value.roundsAfter_of_hasEnd ends]
    cases mapping : v.mapping? with
    | none => rfl
    | some entries =>
      obtain ⟨ofFields, -⟩ := inner entries m mapping (Value.roundsAfter_of_hasEnd ends m)
      have kept := (Value.mapping?_smaller mapping ends).1
      dsimp only
      rw [fieldReport_alike fun f member v found => ofFields f member v found n ((field?_smaller found).2 kept)]
  noField m scope path entries := List.forall_mem_nil _
  field m scope path entries f rest ofValue ofRest :=
    List.forall_mem_cons.mpr ⟨fun v found n ends => ofValue v found m n rfl ends, ofRest⟩
  noVariant mode scope v path := by
    rintro m n rfl ends
    rw [checkVariants, checkVariants]
  variant mode scope t rest v path ofValue ofRest := by
    rintro m n rfl ends
    rw [checkVariants, checkVariants, ofValue m n rfl ends, ofRest m n rfl ends]
  noEntry mode scope key value path := by
    rintro m n rfl ends
    rw [checkEntries, checkEntries]
  entry mode scope key value path k v rest ofKey ofValue ofRest := by
    rintro m n rfl ends
    obtain ⟨keyEnds, valueEnds, restEnds⟩ := Value.hasEnd_entry ends
    rw [checkEntries, checkEntries, entryPlace_eq]
    cases k.hasStep with
    | false => rfl
    | true =>
      simp only [if_true, Except.ok_bind]
      rw [ofKey m n rfl keyEnds, ofValue m n rfl valueEnds, ofRest m n rfl restEnds]
  noItem mode scope t path index := by
    rintro m n rfl ends
    rw [checkItems, checkItems]
  item mode scope t path index v rest ofValue ofRest := by
    rintro m n rfl ends
    obtain ⟨here, later⟩ := Value.hasEnd_cons ends
    rw [checkItems, checkItems, ofValue m n rfl here, ofRest m n rfl later]

/-- A value with an end is checked alike however many rounds are left. -/
theorem check_rounds {t : SchemaType} {v : Value} (ends : v.hasEnd = true) (m n : Nat) :
    check catalogs (.full n) scope t v path = check catalogs (.full m) scope t v path :=
  step.all.1 (.full m) scope t v path m n rfl ends

theorem run_rounds {s : Schema} {gaps : Gaps} {v : Value} {catalog : Option CatalogId} (ends : v.hasEnd = true) (m n : Nat) :
    run catalogs n s gaps v path catalog = run catalogs m s gaps v path catalog :=
  step.all.2 m s gaps v path catalog n ends

/-- So are declared fields with the rounds that two values leave for them: where one of the values has an end and the
other one has none, it is not for what is declared. -/
theorem fieldReport_left {v w : Value} {others : Entries} {rounds m n : Nat} (ofEntries : v.mapping? = some entries)
    (ofOthers : w.mapping? = some others) (left : v.roundsAfter rounds = some m) (right : w.roundsAfter rounds = some n)
    (within : ∀ f ∈ fields, ∀ u, entries.field? f.name.label = some u → others.field? f.name.label = some u) :
    fieldReport catalogs n scope path entries fields = fieldReport catalogs m scope path entries fields := by
  by_cases same : v.hasEnd = w.hasEnd
  · rw [Value.roundsAfter, same] at left
    cases left.symm.trans right
    rfl
  · refine fieldReport_alike fun f member u found => check_rounds ?_ m n
    obtain ends | ends : v.hasEnd = true ∨ w.hasEnd = true := by
      cases ofLeft : v.hasEnd with
      | true => exact .inl rfl
      | false => exact .inr ((Bool.not_eq_false _).mp fun none => same (ofLeft.trans none.symm))
    · exact (field?_smaller found).2 (Value.mapping?_smaller ofEntries ends).1
    · exact (field?_smaller (within f member u found)).2 (Value.mapping?_smaller ofOthers ends).1

theorem roundsAfter_some {v : Value} {rounds : Nat} (positive : rounds ≠ 0) : ∃ left, v.roundsAfter rounds = some left := by
  unfold Value.roundsAfter
  rw [if_neg positive]
  split <;> exact ⟨_, rfl⟩

end RecordSchema.Proofs.DataRounds
