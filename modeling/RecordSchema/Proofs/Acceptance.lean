import RecordSchema.Proofs.BuiltSchema
import RecordSchema.Proofs.Conformance
import RecordSchema.Proofs.ReturnedChecks
import RecordSchema.Proofs.StageDiscipline

/-! Validation against meaning. What is found clean conforms, whatever the hooks do; and where no
hooks are, what conforms is found clean. Main statement: `run_decides`. -/

namespace RecordSchema.Proofs.Acceptance
open Validation

/-- Schemas, each with the catalog around it, that references do not lead out of. -/
structure Enclosed (catalogs : Catalogs) (Inside : Schema → Option CatalogId → Prop) : Prop where
  onward : ∀ s catalog, Inside s catalog → ∀ r ∈ s.references, ∀ found,
    Scope.lookup? catalogs ⟨some s, s.catalog.or catalog⟩ r.1 r.2 = some found →
    ∃ t, found = .schema t ∧ Inside t (s.catalog.or catalog)

/-- Enclosed schemas whose required fields have no defaults. -/
structure Surveyed (catalogs : Catalogs) (Inside : Schema → Option CatalogId → Prop) : Prop
    extends Enclosed catalogs Inside where
  noDefault : ∀ s catalog, Inside s catalog → ∀ f ∈ s.regularFields, f.required = true → f.default = none

/-- Whatever built schemas reach has been surveyed. -/
theorem surveyed_of_built {catalogs : Catalogs} {s : Schema}
    (built : ∀ t catalog, Reaches catalogs s t catalog → t.IsBuilt ∧ t.CarriesSchemas) :
    Surveyed catalogs (Reaches catalogs s) where
  onward t catalog reached r member found resolved := by
    obtain ⟨u, rfl⟩ := lookup?_schema (built t catalog reached).2 member resolved
    exact ⟨u, rfl, .next reached member resolved⟩
  noDefault t catalog reached f member := ((built t catalog reached).1.sound f (List.mem_filter.mp member).1).noDefault

/-- What is found holds, and where nothing else can interfere it is found if it holds. -/
def Decides (quiet found holds : Prop) : Prop := (found → holds) ∧ (quiet → holds → found)

namespace Decides

variable {quiet p q a b : Prop}

theorem and (first : Decides quiet p a) (second : Decides quiet q b) : Decides quiet (p ∧ q) (a ∧ b) :=
  ⟨fun found => ⟨first.1 found.1, second.1 found.2⟩,
    fun noise holds => ⟨first.2 noise holds.1, second.2 noise holds.2⟩⟩

theorem of_iff (same : p ↔ a) : Decides quiet p a := ⟨same.mp, fun _ => same.mpr⟩

theorem neither (lost : ¬ p) (fails : ¬ a) : Decides quiet p a :=
  ⟨fun found => absurd found lost, fun _ holds => absurd holds fails⟩

theorem congr (decides : Decides quiet p a) (left : q ↔ p) (right : b ↔ a) : Decides quiet q b :=
  ⟨fun found => right.mpr (decides.1 (left.mp found)), fun noise holds => left.mpr (decides.2 noise (right.mp holds))⟩

end Decides

theorem failures_eq_nil {cs failed : List Constraint} {v : Value} (checked : Constraint.failures cs v = .ok failed) :
    failed = [] ↔ ∀ c ∈ cs, c.check v = .ok true := by
  induction cs generalizing failed with
  | nil =>
    cases checked
    exact iff_of_true rfl (List.forall_mem_nil _)
  | cons c rest ih =>
    rw [Constraint.failures] at checked
    obtain ⟨satisfied, first, checked⟩ := Except.bind_eq_ok.mp checked
    obtain ⟨others, remaining, same⟩ := Except.bind_eq_ok.mp checked
    cases same
    rw [List.forall_mem_cons, first, ← ih remaining]
    cases satisfied <;> simp

theorem constraintViolations_eq_nil {cs : List Constraint} {v : Value} {path : Path} {violations : List Violation}
    (checked : constraintViolations cs v path = .ok violations) :
    violations = [] ↔ ∀ c ∈ cs, c.check v = .ok true := by
  obtain ⟨failed, checked, told⟩ := Except.bind_eq_ok.mp checked
  rw [← failures_eq_nil checked, ← List.length_eq_zero_iff, ← List.length_eq_zero_iff, Except.length_of_mapM told]

/-- Only a key that names no field is reported, and only if the schema is strict. -/
theorem unexpected_eq_nil (s : Schema) (path : Path) (entries : Entries) :
    unexpected s path entries = [] ↔
      (s.strict = true → ∀ key ∈ entries.keys, ∃ f ∈ s.regularFields, key.str? = some f.name.label) := by
  simp only [unexpected, List.filterMap_eq_nil_iff, unexpected?]
  cases strict : s.strict with
  | false => simp
  | true => simp

/-- Where nothing is lacking, the keys of strict schemas must be written, and nothing else. -/
theorem unexpectedWith_nothing (s : Schema) (path : Path) (entries : Entries) :
    unexpectedWith {} s path entries = do
      if s.strict then entries.keys.forM Value.requireStep
      return unexpected s path entries := by
  simp only [unexpectedWith, require]
  split <;> rfl

theorem unexpectedWith_eq_ok {gaps : Gaps} {s : Schema} {path : Path} {entries : Entries} {found : List Violation}
    (told : unexpectedWith gaps s path entries = .ok found) : found = unexpected s path entries := by
  have written {told : Except Fault (List Violation)} (same : told = do
      if s.strict then entries.keys.forM Value.requireStep
      return unexpected s path entries) (returned : told = .ok found) : found = unexpected s path entries := by
    rw [same] at returned
    split at returned
    · obtain ⟨_, -, same⟩ := Except.bind_eq_ok.mp returned
      exact (Except.ok.inj same).symm
    · exact (Except.ok.inj returned).symm
  rw [unexpectedWith] at told
  split at told
  · obtain ⟨_, -, told⟩ := Except.bind_eq_ok.mp told
    exact written rfl told
  · exact written rfl told

variable {catalogs : Catalogs} {Inside : Schema → Option CatalogId → Prop} {quiet : Prop}

variable (catalogs Inside) in
/-- References of a type lead inside. -/
def InScope (scope : Scope) (t : SchemaType) : Prop :=
  ∀ r ∈ t.references, ∀ found, scope.lookup? catalogs r.1 r.2 = some found →
    ∃ s, found = .schema s ∧ Inside s scope.catalog

theorem Enclosed.inScope (enclosed : Enclosed catalogs Inside) {s : Schema} {catalog : Option CatalogId}
    (inside : Inside s catalog) {f : Field} (member : f ∈ s.fields) :
    InScope catalogs Inside ⟨some s, s.catalog.or catalog⟩ f.type :=
  fun r mentioned => enclosed.onward s catalog inside r (Schema.mem_references.mpr ⟨f, member, mentioned⟩)

variable (catalogs) in
/-- A field is there if it is required, and conforms if it is there. -/
def Meets (scope : Scope) (entries : Entries) (f : Field) : Prop :=
  (f.required = true → (entries.field? f.name.label).isSome) ∧
    ∀ w, entries.field? f.name.label = some w → Conforms catalogs scope f.type w

variable (catalogs Inside quiet) in
/-- Each function of a run decides what it is about. -/
def motives : Motives where
  ofValue mode scope t v path := ∀ rounds, mode = .full rounds → InScope catalogs Inside scope t →
    ∀ c, check catalogs mode scope t v path = .ok c → Decides quiet (c.violations = []) (Conforms catalogs scope t v)
  ofRun rounds s gaps v path catalog := gaps = {} → Inside s catalog →
    ∀ outcome, run catalogs rounds s gaps v path catalog = .ok outcome →
      Decides quiet (∃ fields, outcome = .ok fields) (Accepted catalogs s catalog v)
  ofFields rounds scope path entries fields :=
    (∀ f ∈ fields, InScope catalogs Inside scope f.type ∧ (f.required = true → f.default = none)) →
    ∀ report, fieldReport catalogs rounds scope path entries fields = .ok report →
      Decides quiet (report.missing = [] ∧ report.invalid = []) (∀ f ∈ fields, Meets catalogs scope entries f)
  ofVariants mode scope variants v path := ∀ rounds, mode = .full rounds → (∀ t ∈ variants, InScope catalogs Inside scope t) →
    ∀ first, checkVariants catalogs mode scope variants v path = .ok first →
      (∀ c, first = some c → c.violations = []) ∧
      Decides quiet (first.isSome = true) (∃ t ∈ variants, Conforms catalogs scope t v)
  ofEntries mode scope key value path entries := ∀ rounds, mode = .full rounds →
    InScope catalogs Inside scope key → InScope catalogs Inside scope value →
    ∀ checked, checkEntries catalogs mode scope key value path entries = .ok checked →
      Decides quiet (checked.2 = []) (∀ e ∈ entries, Conforms catalogs scope key e.1 ∧ Conforms catalogs scope value e.2)
  ofItems mode scope t path index items := ∀ rounds, mode = .full rounds → InScope catalogs Inside scope t →
    ∀ checked, checkItems catalogs mode scope t path index items = .ok checked →
      Decides quiet (checked.2 = []) (∀ item ∈ items, Conforms catalogs scope t item)

theorem fieldStages_isOk {rounds : Nat} {s : Schema} {v : Value} {path : Path} {catalog : Option CatalogId}
    {found : Except (List Violation) Entries} (returned : fieldStages catalogs rounds s {} v path catalog = .ok found)
    {entries : Entries} (mapping : v.mapping? = some entries) :
    ∃ left report, v.roundsAfter rounds = some left ∧
      fieldReport catalogs left ⟨some s, s.catalog.or catalog⟩ path entries s.regularFields = .ok report ∧
      ((∃ fields, found = .ok fields) ↔
        (report.missing = [] ∧ report.invalid = []) ∧ unexpected s path entries = []) := by
  rw [fieldStages, mapping] at returned
  obtain ⟨left, spent⟩ : ∃ left, v.roundsAfter rounds = some left := by
    cases spent : v.roundsAfter rounds with
    | some left => exact ⟨left, rfl⟩
    | none => rw [spent] at returned; cases returned
  simp only [spent] at returned
  obtain ⟨report, reported, returned⟩ := Except.bind_eq_ok.mp returned
  obtain ⟨others, told, returned⟩ := Except.bind_eq_ok.mp returned
  obtain rfl := unexpectedWith_eq_ok told
  refine ⟨left, report, spent, reported, ?_⟩
  have parts : report.violations (unexpected s path entries) = [] ↔
      (report.missing = [] ∧ report.invalid = []) ∧ unexpected s path entries = [] := by
    rw [FieldReport.violations, List.append_eq_nil_iff, List.append_eq_nil_iff]
  rw [← parts, ← Except.ok.inj returned, ← List.isEmpty_iff]
  split
  next silent => exact iff_of_true ⟨_, rfl⟩ silent
  next loud => exact iff_of_false (Except.error_not_ok _) loud

/-- The stages of the fields decide whether a schema accepts a value. -/
theorem fieldStages_decides {rounds : Nat} {s : Schema} {v : Value} {path : Path} {catalog : Option CatalogId}
    (surveyed : Surveyed catalogs Inside) (inside : Inside s catalog)
    (ofFields : ∀ entries left, v.mapping? = some entries → v.roundsAfter rounds = some left →
      (motives catalogs Inside quiet).ofFields left ⟨some s, s.catalog.or catalog⟩ path entries s.regularFields)
    {found : Except (List Violation) Entries} (returned : fieldStages catalogs rounds s {} v path catalog = .ok found) :
    Decides quiet (∃ fields, found = .ok fields) (Accepted catalogs s catalog v) := by
  cases mapping : v.mapping? with
  | none =>
    rw [fieldStages, mapping] at returned
    cases returned
    refine .neither (Except.error_not_ok _) fun accepted => ?_
    obtain ⟨some⟩ := accepted
    rw [mapping] at some
    cases some
  | some entries =>
    obtain ⟨left, report, spent, reported, isOk⟩ := fieldStages_isOk returned mapping
    have fields := ofFields entries left mapping spent (fun f member =>
      ⟨surveyed.inScope inside (List.mem_filter.mp member).1, surveyed.noDefault s catalog inside f member⟩)
      report reported
    refine (fields.and (.of_iff (unexpected_eq_nil s path entries))).congr isOk ⟨fun accepted => ?_, fun meets => ?_⟩
    · obtain ⟨same, required, present, known⟩ := accepted
      rw [mapping] at same
      cases same
      exact ⟨fun f member => ⟨required f member, present f member⟩, known⟩
    · exact .intro mapping (fun f member => (meets.1 f member).1) (fun f member => (meets.1 f member).2) meets.2

theorem hookStages_silent {s : Schema} (silent : s.crossFieldHooks = [] ∧ s.derivedHooks = []) (path : Path)
    (catalog : Option CatalogId) (fields : Entries) :
    hookStages catalogs s {} path catalog fields = .ok (.ok fields) := by
  rw [hookStages, runHooks, silent.1, silent.2]
  rfl

private theorem run_decides_of_fields (surveyed : Surveyed catalogs Inside)
    (silent : quiet → ∀ s catalog, Inside s catalog → s.crossFieldHooks = [] ∧ s.derivedHooks = [])
    (rounds : Nat) (s : Schema) (gaps : Gaps) (v : Value) (path : Path) (catalog : Option CatalogId)
    (ofFields : ∀ entries left, v.mapping? = some entries → v.roundsAfter rounds = some left →
      (motives catalogs Inside quiet).ofFields left ⟨some s, s.catalog.or catalog⟩ path entries s.regularFields) :
    (motives catalogs Inside quiet).ofRun rounds s gaps v path catalog := by
  rintro rfl inside outcome returned
  rw [run_eq_stages] at returned
  obtain ⟨found, fieldsFound, returned⟩ := Except.bind_eq_ok.mp returned
  have decides := fieldStages_decides surveyed inside ofFields fieldsFound
  cases found with
  | error violations =>
    cases returned
    exact decides
  | ok fields =>
    refine ⟨fun _ => decides.1 ⟨fields, rfl⟩, fun noise _ => ?_⟩
    change hookStages catalogs s {} path catalog fields = _ at returned
    rw [hookStages_silent (silent noise s catalog inside)] at returned
    cases returned
    exact ⟨fields, rfl⟩

private theorem ref_decides (mode : Mode) (scope : Scope) (name : Name) (target : Option Target) (v : Value) (path : Path)
    (ofRun : ∀ rounds found s gaps, mode = .full rounds → v.isMapping = true → scope.lookup? catalogs name target = some found →
      found.forRun = .ok (s, gaps) → (motives catalogs Inside quiet).ofRun rounds s gaps v path scope.catalog) :
    (motives catalogs Inside quiet).ofValue mode scope (.ref name target) v path := by
  rintro rounds rfl inScope c checked
  obtain (⟨unresolved, rfl⟩ | ⟨-, noMapping, rfl⟩) | ⟨found, entries, t, gaps, outcome, resolved, mapping, read, ran, rfl⟩ :=
    check_ref_eq_ok.mp checked
  · refine .neither (List.cons_ne_nil _ _) fun conforms => ?_
    cases conforms with | ref same _ => rw [unresolved] at same; cases same
  · refine .neither (List.cons_ne_nil _ _) fun conforms => ?_
    cases conforms with
    | ref _ accepted =>
      obtain ⟨some⟩ := accepted
      rw [noMapping] at some
      cases some
  · obtain ⟨s, rfl, inside⟩ := inScope (name, target) (List.mem_singleton_self _) found resolved
    cases read
    have isMapping : v.isMapping = true := by rw [Value.isMapping, mapping]; rfl
    have decides := ofRun rounds _ _ {} rfl isMapping resolved rfl rfl inside outcome ran
    refine decides.congr ?_ ⟨fun conforms => ?_, fun accepted => .ref resolved accepted⟩
    · cases outcome with
      | ok fields => exact iff_of_true rfl ⟨fields, rfl⟩
      | error violations => exact iff_of_false (StageDiscipline.run_violations_ne_nil ran) (Except.error_not_ok _)
    · cases conforms with
      | ref same accepted =>
        rw [resolved] at same
        cases same
        exact accepted

private theorem field_decides (rounds : Nat) (scope : Scope) (path : Path) (entries : Entries) (f : Field) (rest : List Field)
    (ofValue : ∀ v, entries.field? f.name.label = some v →
      (motives catalogs Inside quiet).ofValue (.full rounds) scope f.type v (path ++ [.name f.name.label]))
    (ofRest : (motives catalogs Inside quiet).ofFields rounds scope path entries rest) :
    (motives catalogs Inside quiet).ofFields rounds scope path entries (f :: rest) := by
  intro given report reported
  obtain ⟨inScope, noDefault⟩ := given f List.mem_cons_self
  have others (report : FieldReport) (reported : fieldReport catalogs rounds scope path entries rest = .ok report) :=
    ofRest (fun g member => given g (List.mem_cons_of_mem _ member)) report reported
  simp only [List.forall_mem_cons]
  obtain ⟨v, c, remaining, found, checked, rested, rfl⟩ | ⟨remaining, found, -, rested, rfl⟩ :=
    fieldReport_cons_eq_ok.mp reported
  · refine ((ofValue v found rounds rfl inScope c checked).and (others remaining rested)).congr ?_ (and_congr_left fun _ => ?_)
    · rw [FieldReport.withPresent, Checked.isClean]
      split
      next clean => simp [List.isEmpty_iff.mp clean]
      next dirty => simp [List.isEmpty_iff.not.mp dirty]
    · simp [Meets, found]
  · have absent : Meets catalogs scope entries f ↔ ¬ f.required = true := by simp [Meets, found]
    rw [absent]
    cases required : f.required with
    | true =>
      rw [noDefault required]
      refine ⟨fun impossible => ?_, fun _ impossible => absurd rfl impossible.1⟩
      simp [FieldReport.withAbsent, required] at impossible
    | false =>
      refine (others remaining rested).congr ?_ (by simp)
      cases f.default <;> simp [FieldReport.withAbsent, required]

private theorem step (surveyed : Surveyed catalogs Inside)
    (silent : quiet → ∀ s catalog, Inside s catalog → s.crossFieldHooks = [] ∧ s.derivedHooks = []) :
    Cases catalogs (motives catalogs Inside quiet) where
  primitive mode scope kind cs v path := by
    rintro rounds rfl _ c checked
    obtain ⟨mismatch, rfl⟩ | ⟨shape, violations, told, rfl⟩ := check_primitive_eq_ok.mp checked
    · refine .neither (List.cons_ne_nil _ _) fun conforms => ?_
      cases conforms with | primitive shape _ => rw [mismatch] at shape; cases shape
    · refine .of_iff ((constraintViolations_eq_nil told).trans ⟨fun constrained => .primitive shape constrained, fun conforms => ?_⟩)
      cases conforms with | primitive _ constrained => exact constrained
  array mode scope element cs v path ofItems := by
    rintro rounds rfl inScope c checked
    obtain ⟨none, rfl⟩ | ⟨items, own, checkedItems, some, told, inner, rfl⟩ := check_array_eq_ok.mp checked
    · refine .neither (List.cons_ne_nil _ _) fun conforms => ?_
      cases conforms with | array some _ _ => rw [none] at some; cases some
    · refine ((Decides.of_iff (constraintViolations_eq_nil told)).and (ofItems items some rounds rfl inScope _ inner)).congr
        List.append_eq_nil_iff ⟨fun conforms => ?_, fun holds => .array some holds.1 holds.2⟩
      cases conforms with
      | array same constrained each =>
        rw [some] at same
        cases same
        exact ⟨constrained, each⟩
  map mode scope key value cs v path ofEntries := by
    rintro rounds rfl inScope c checked
    obtain ⟨none, rfl⟩ | ⟨entries, own, checkedEntries, some, told, inner, rfl⟩ := check_map_eq_ok.mp checked
    · refine .neither (List.cons_ne_nil _ _) fun conforms => ?_
      cases conforms with | map some _ _ _ => rw [none] at some; cases some
    · have each := ofEntries entries some rounds rfl (fun r member => inScope r (List.mem_append_left _ member))
        (fun r member => inScope r (List.mem_append_right _ member)) _ inner
      refine ((Decides.of_iff (constraintViolations_eq_nil told)).and each).congr List.append_eq_nil_iff
        ⟨fun conforms => ?_, fun holds => .map some holds.1 (fun e member => (holds.2 e member).1)
          fun e member => (holds.2 e member).2⟩
      cases conforms with
      | map same constrained eachKey eachValue =>
        rw [some] at same
        cases same
        exact ⟨constrained, fun e member => ⟨eachKey e member, eachValue e member⟩⟩
  union mode scope variants cs v path ofVariants := by
    rintro rounds rfl inScope c checked
    rw [check] at checked
    obtain ⟨first, tried, same⟩ := Except.bind_eq_ok.mp checked
    obtain ⟨clean, decides⟩ := ofVariants rounds rfl (fun t member r inside =>
      inScope r (SchemaType.mem_referencesOf.mpr ⟨t, member, inside⟩)) first tried
    refine decides.congr ?_ ⟨fun conforms => ?_, fun some => ?_⟩
    · cases first with
      | none => cases same; exact iff_of_false (List.cons_ne_nil _ _) Bool.false_ne_true
      | some found => cases same; exact iff_of_true (clean _ rfl) rfl
    · cases conforms with | union member variant => exact ⟨_, member, variant⟩
    · obtain ⟨t, member, variant⟩ := some
      exact .union member variant
  ref := ref_decides
  run rounds s gaps v path catalog inner := run_decides_of_fields surveyed silent rounds s gaps v path catalog
    fun entries left mapping spent => (inner entries left mapping spent).1
  noField rounds scope path entries := by
    intro _ report reported
    rw [fieldReport] at reported
    cases reported
    exact .of_iff (iff_of_true ⟨rfl, rfl⟩ (List.forall_mem_nil _))
  field := field_decides
  noVariant mode scope v path := by
    intro _ _ _ first tried
    rw [checkVariants] at tried
    cases tried
    refine ⟨fun c impossible => ?_, .neither Bool.false_ne_true ?_⟩
    · cases impossible
    · rintro ⟨_, member, -⟩
      cases member
  variant mode scope t rest v path ofValue ofRest := by
    intro rounds full inScope first tried
    obtain ⟨c, checked, tried⟩ := checkVariants_cons_eq_ok.mp tried
    have head := ofValue rounds full (inScope t List.mem_cons_self) c checked
    obtain ⟨silent, rfl⟩ | ⟨loud, tried⟩ := tried
    · refine ⟨fun _ same => ?_, fun _ => ⟨t, List.mem_cons_self, head.1 silent⟩, fun _ _ => rfl⟩
      cases same
      exact silent
    · obtain ⟨clean, decides⟩ := ofRest rounds full (fun u member => inScope u (List.mem_cons_of_mem _ member)) first tried
      refine ⟨clean, fun found => ?_, fun noise holds => ?_⟩
      · obtain ⟨u, member, conforms⟩ := decides.1 found
        exact ⟨u, List.mem_cons_of_mem _ member, conforms⟩
      · obtain ⟨u, member, conforms⟩ := holds
        obtain rfl | member := List.mem_cons.mp member
        · exact absurd (head.2 noise conforms) loud
        · exact decides.2 noise ⟨u, member, conforms⟩
  noEntry mode scope key value path := by
    intro _ _ _ _ checked returned
    rw [checkEntries] at returned
    cases returned
    exact .of_iff (iff_of_true rfl (List.forall_mem_nil _))
  entry mode scope key value path k v rest ofKey ofValue ofRest := by
    intro rounds full inKey inValue checked returned
    obtain ⟨-, checkedKey, checkedValue, others, first, second, remaining, rfl⟩ := checkEntries_cons_eq_ok.mp returned
    refine (((ofKey rounds full inKey _ first).and (ofValue rounds full inValue _ second)).and
      (ofRest rounds full inKey inValue _ remaining)).congr ?_ List.forall_mem_cons
    simp only [List.append_eq_nil_iff]
  noItem mode scope t path index := by
    intro _ _ _ checked returned
    rw [checkItems] at returned
    cases returned
    exact .of_iff (iff_of_true rfl (List.forall_mem_nil _))
  item mode scope t path index v rest ofValue ofRest := by
    intro rounds full inScope checked returned
    obtain ⟨c, others, first, remaining, rfl⟩ := checkItems_cons_eq_ok.mp returned
    exact ((ofValue rounds full inScope _ first).and (ofRest rounds full inScope _ remaining)).congr List.append_eq_nil_iff List.forall_mem_cons

/-- A run that returns data has found a value that its schema accepts. Without hooks it returns data of
every such value, if it returns at all. -/
theorem run_decides (surveyed : Surveyed catalogs Inside)
    (silent : quiet → ∀ s catalog, Inside s catalog → s.crossFieldHooks = [] ∧ s.derivedHooks = [])
    {rounds : Nat} {s : Schema} {catalog : Option CatalogId} (inside : Inside s catalog) {v : Value} {path : Path}
    {outcome : Except (List Violation) Entries} (returned : run catalogs rounds s {} v path catalog = .ok outcome) :
    Decides quiet (∃ fields, outcome = .ok fields) (Accepted catalogs s catalog v) :=
  (step surveyed silent).all.2 rounds s {} v path catalog rfl inside outcome returned

end RecordSchema.Proofs.Acceptance
