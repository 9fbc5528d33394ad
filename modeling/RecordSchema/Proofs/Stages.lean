import RecordSchema.Proofs.Outcome
import RecordSchema.Validation.Verdict

/-! A run in its two parts. The fields come first, with everything that is wrong with them; the
hooks follow only where nothing is. Validation concludes what comes out of a run. -/

namespace RecordSchema.Validation

namespace FieldReport

/-- A report on further fields, with a field that is present put before them. -/
def withPresent (f : Field) (c : Checked) (report : FieldReport) : FieldReport :=
  if c.isClean then { report with output := (f.name.toValue, c.value) :: report.output }
  else { report with invalid := c.violations ++ report.invalid }

/-- A report on further fields, with an absent field put before them. -/
def withAbsent (f : Field) (path : Path) (default : Option Value) (report : FieldReport) : FieldReport :=
  match default with
  | some v => { report with output := (f.name.toValue, v) :: report.output }
  | none =>
    if f.required then
      { report with missing :=
          { path := path ++ [.name f.name.label], kind := .requiredMissing, message := "field is required" } ::
            report.missing }
    else report

/-- What is wrong with the fields of a value as a whole. -/
def violations (report : FieldReport) (unexpected : List Violation) : List Violation :=
  report.missing ++ report.invalid ++ unexpected

end FieldReport

section Fields
variable {catalogs : Catalogs} {rounds : Nat} {scope : Scope} {path : Path} {entries : Entries} {f : Field}

theorem fieldReport_present {v : Value} (found : entries.field? f.name.label = some v) (rest : List Field) :
    fieldReport catalogs rounds scope path entries (f :: rest) = do
      let c ← check catalogs (.full rounds) scope f.type v (path ++ [.name f.name.label])
      let report ← fieldReport catalogs rounds scope path entries rest
      return report.withPresent f c := by
  rw [fieldReport]
  split
  next w other =>
    rw [found] at other
    cases other
    refine bind_congr fun c => bind_congr fun report => ?_
    simp only [FieldReport.withPresent]
    split <;> rfl
  next none => rw [found] at none; cases none

theorem fieldReport_absent (absent : entries.field? f.name.label = none) (rest : List Field) :
    fieldReport catalogs rounds scope path entries (f :: rest) = do
      let default ← f.default.mapM Value.copy
      let report ← fieldReport catalogs rounds scope path entries rest
      return report.withAbsent f path default := by
  rw [fieldReport]
  split
  next v found => rw [absent] at found; cases found
  next =>
    refine bind_congr fun default => bind_congr fun report => ?_
    cases default with
    | some v => rfl
    | none =>
      simp only [FieldReport.withAbsent]
      split <;> rfl

end Fields

/-- The first two stages: presence and the checks of the fields, and unknown keys. -/
def fieldStages (catalogs : Catalogs) (rounds : Nat) (s : Schema) (gaps : Gaps) (v : Value) (path : Path)
    (catalog : Option CatalogId) : Except Fault (Except (List Violation) Entries) :=
  match v.mapping?, v.roundsAfter rounds with
  | none, _ => .ok (.error (Checked.mismatch "object" v path).violations)
  | some _, none => .error .endless
  | some entries, some left => do
    let report ← fieldReport catalogs left ⟨some s, s.catalog.or catalog⟩ path entries s.regularFields
    let unexpected ← unexpectedWith gaps s path entries
    return if (report.violations unexpected).isEmpty then .ok report.output
      else .error (report.violations unexpected)

/-- The stages of the hooks, on fields that are found to be valid. -/
def hookStages (catalogs : Catalogs) (s : Schema) (gaps : Gaps) (path : Path)
    (catalog : Option CatalogId) (fields : Entries) : Hooks.Staged := do
  require gaps.hooks
  runHooks (check catalogs .shape ⟨some s, s.catalog.or catalog⟩) s path fields

theorem run_eq_stages (catalogs : Catalogs) (rounds : Nat) (s : Schema) (gaps : Gaps) (v : Value) (path : Path)
    (catalog : Option CatalogId) :
    run catalogs rounds s gaps v path catalog = fieldStages catalogs rounds s gaps v path catalog >>= fun
      | .error violations => .ok (.error violations)
      | .ok fields => hookStages catalogs s gaps path catalog fields := by
  rw [run, fieldStages]
  split
  next none => simp only [none]; rfl
  next entries some out => simp only [some, out]; rfl
  next entries left some spent =>
    simp only [some, spent]
    cases fieldReport catalogs left ⟨Option.some s, s.catalog.or catalog⟩ path entries s.regularFields with
    | error fault => rfl
    | ok report =>
      cases unexpectedWith gaps s path entries with
      | error fault => rfl
      | ok unexpected =>
        simp only [Except.ok_bind]
        split
        next none =>
          have silent : report.violations unexpected = [] := none
          rw [if_pos (List.isEmpty_iff.mpr silent)]
          rfl
        next some =>
          have loud : report.violations unexpected ≠ [] := some
          rw [if_neg fun none => loud (List.isEmpty_iff.mp none)]
          rfl

/-- What a run makes of the report on the fields of a map that has an end. -/
theorem run_of_report {catalogs : Catalogs} {rounds : Nat} {s : Schema} {gaps : Gaps} {entries : Entries} {path : Path}
    {catalog : Option CatalogId} {report : FieldReport} {unexpected : List Violation}
    {outcome : Except Fault (Except (List Violation) Entries)} (ends : (Value.map entries).hasEnd = true)
    (reported : fieldReport catalogs rounds ⟨some s, s.catalog.or catalog⟩ path entries s.regularFields = .ok report)
    (minded : unexpectedWith gaps s path entries = .ok unexpected)
    (made : (if (report.violations unexpected).isEmpty then hookStages catalogs s gaps path catalog report.output
      else .ok (.error (report.violations unexpected))) = outcome) :
    run catalogs rounds s gaps (.map entries) path catalog = outcome := by
  subst made
  have itself : (Value.map entries).mapping? = some entries := rfl
  rw [run_eq_stages, fieldStages, itself, Value.roundsAfter_of_hasEnd ends]
  dsimp only
  rw [reported, Except.ok_bind, minded, Except.ok_bind]
  cases (report.violations unexpected).isEmpty <;> rfl

section Returned
variable {catalogs : Catalogs} {rounds : Nat} {s : Schema} {gaps : Gaps} {v : Value} {path : Path} {catalog : Option CatalogId}
  {fields : Entries}

/-- Fields that come out are those of a report in which nothing is wrong. -/
theorem report_of_fieldStages (returned : fieldStages catalogs rounds s gaps v path catalog = .ok (.ok fields)) :
    ∃ entries left report unexpected, v.mapping? = some entries ∧ v.roundsAfter rounds = some left ∧
      fieldReport catalogs left ⟨some s, s.catalog.or catalog⟩ path entries s.regularFields = .ok report ∧
      report.violations unexpected = [] ∧ report.output = fields := by
  unfold fieldStages at returned
  split at returned
  next => cases returned
  next => cases returned
  next entries left mapping spent =>
    obtain ⟨report, reported, returned⟩ := Except.bind_eq_ok.mp returned
    obtain ⟨unexpected, -, returned⟩ := Except.bind_eq_ok.mp returned
    have same := Except.ok.inj returned
    split at same
    next clean => exact ⟨entries, left, report, unexpected, mapping, spent, reported, List.isEmpty_iff.mp clean, Except.ok.inj same⟩
    next => cases same

/-- A run that comes out with fields has gone through all its stages. -/
theorem stages_of_run (returned : run catalogs rounds s {} v path catalog = .ok (.ok fields)) :
    ∃ found crossed, fieldStages catalogs rounds s {} v path catalog = .ok (.ok found) ∧
      Hooks.runCrossField path s.crossFieldHooks found = .ok (.ok crossed) ∧
      Hooks.runDerived (check catalogs .shape ⟨some s, s.catalog.or catalog⟩) s path s.derivedHooks crossed = .ok (.ok fields) := by
  rw [run_eq_stages] at returned
  obtain ⟨found, fieldsFound, returned⟩ := Except.bind_eq_ok.mp returned
  cases found with
  | error violations => cases returned
  | ok found =>
    change (Hooks.runCrossField path s.crossFieldHooks found >>= _) = _ at returned
    obtain ⟨crossed, crossing, returned⟩ := Except.bind_eq_ok.mp returned
    cases crossed with
    | error violations => cases returned
    | ok crossed => exact ⟨found, crossed, fieldsFound, crossing, returned⟩

end Returned

section Concluded
variable {catalogs : Catalogs} {s : Schema}

/-- What validation makes of fields that come out of a run. -/
theorem validate_of_fields {d : Value} {fields : Entries} (returned : run catalogs Value.deepest s {} d.unfolded [] none = .ok (.ok fields)) :
    validate catalogs s d = accept s fields := by
  rw [validate, returned]
  rfl

theorem validate_of_violations {d : Value} {violations : List Violation}
    (returned : run catalogs Value.deepest s {} d.unfolded [] none = .ok (.error violations)) :
    validate catalogs s d = .ok (.rejected violations) := by
  rw [validate, returned]
  rfl

/-- A fault in a run is the fault that validation ends with. -/
theorem validate_of_fault {d : Value} {fault : Fault} (failed : run catalogs Value.deepest s {} d.unfolded [] none = .error fault) :
    validate catalogs s d = .error (.fault fault) := by
  rw [validate, failed]
  rfl

end Concluded

end RecordSchema.Validation
