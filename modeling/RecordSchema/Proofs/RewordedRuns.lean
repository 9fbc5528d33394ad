import RecordSchema.Proofs.HookCalls
import RecordSchema.Proofs.ReturnedChecks
import RecordSchema.Proofs.Rewording

/-! Runs of schemas in other words. The message of a constraint is read where a violation of it is reported, and nowhere
else; so two such schemas accept the same data and report the same violations, in other words. Main statement:
`validate_reworded`. -/

namespace RecordSchema

variable {lost : Fault → Prop}

namespace Proofs.Rewording
open Validation Except

/-- Fields that come out the same, or violations in other words. -/
abbrev Outcome : Except (List Violation) Entries → Except (List Violation) Entries → Prop :=
  Related (List.Forall₂ Violation.Reworded) Eq

structure Report (r q : FieldReport) : Prop where
  output : q.output = r.output
  missing : q.missing = r.missing
  invalid : List.Forall₂ Violation.Reworded r.invalid q.invalid

section Constraints
variable {cs ds : List Constraint}

theorem failures_reworded (each : List.Forall₂ (Constraint.Reworded lost) cs ds) (v : Value) :
    Related Eq (List.Forall₂ (Constraint.Reworded lost)) (Constraint.failures cs v) (Constraint.failures ds v) := by
  induction each with
  | nil => exact .ok .nil
  | cons first _ ih =>
    rw [Constraint.failures, Constraint.failures, first.check]
    refine .bind_same (fun _ => rfl) fun satisfied => ih.bind fun failed others rest => ?_
    cases satisfied with
    | true => exact .ok rest
    | false => exact .ok (.cons first rest)

theorem ownViolations_reworded (each : List.Forall₂ (Constraint.Reworded lost) cs ds) (mode : Mode) (v : Value) (path : Path) :
    RelatedUnless (mode.Excuses lost) Eq (List.Forall₂ mode.SameWords) (ownViolations mode cs v path) (ownViolations mode ds v path) := by
  cases mode with
  | shape => exact .ok .nil
  | full rounds =>
    refine RelatedUnless.bind (.both (failures_reworded each v)) fun failed others failing => ?_
    refine .mapM failing fun c d same => same.told.bind fun message other _ => .ok ⟨rfl, rfl, ?_, rfl, fun unworded => ?_⟩
    · rw [same.kind]
    · exact absurd rfl unworded

end Constraints

section Reports
variable {s t : Schema}

theorem named_reworded {fs gs : List Field} (each : List.Forall₂ (Field.Reworded lost) fs gs) (key : Value) :
    (gs.any fun f => key.str? = some f.name.label) = fs.any fun f => key.str? = some f.name.label := by
  have names := congrArg (List.any · fun name => decide (key.str? = some name.label)) (names_reworded each)
  rwa [List.any_map, List.any_map] at names

theorem unexpected_reworded (same : s.Reworded lost t) (path : Path) (entries : Entries) :
    unexpected t path entries = unexpected s path entries := by
  have strict : t.strict = s.strict := by cases same; rfl
  unfold unexpected
  congr 1
  funext key
  simp only [unexpected?, strict, named_reworded same.regularFields, named_reworded same.derivedFields]

theorem unexpectedWith_reworded (same : s.Reworded lost t) (gaps : Gaps) (path : Path) (entries : Entries) :
    unexpectedWith gaps t path entries = unexpectedWith gaps s path entries := by
  have minding : ({ s with strict := true } : Schema).Reworded lost { t with strict := true } := by
    cases same with
    | intro each => exact .intro each
  have strict : t.strict = s.strict := by cases same; rfl
  unfold unexpectedWith
  rw [unexpected_reworded minding, unexpected_reworded same, strict]

theorem withPresent_reworded {f g : Field} {c d : Checked} {r q : FieldReport} (fields : f.Reworded lost g)
    {rounds : Nat} (checked : c.Reworded (.full rounds) d) (reports : Report r q) : Report (r.withPresent f c) (q.withPresent g d) := by
  unfold FieldReport.withPresent
  rw [checked.isClean]
  cases fields
  split
  · exact ⟨by rw [checked.value, reports.output], reports.missing, reports.invalid⟩
  · exact ⟨reports.output, reports.missing, List.rel_append checked.violations reports.invalid⟩

theorem withAbsent_reworded {f g : Field} {r q : FieldReport} (fields : f.Reworded lost g) (path : Path)
    (default : Option Value) (reports : Report r q) :
    Report (r.withAbsent f path default) (q.withAbsent g path default) := by
  cases fields
  cases default with
  | some v => exact ⟨congrArg (List.cons _) reports.output, reports.missing, reports.invalid⟩
  | none =>
    unfold FieldReport.withAbsent
    split
    next impossible => cases impossible
    next =>
      split
      · exact ⟨reports.output, congrArg (List.cons _) reports.missing, reports.invalid⟩
      · exact reports

theorem violations_reworded {r q : FieldReport} (reports : Report r q) (unexpected : List Violation) :
    List.Forall₂ Violation.Reworded (r.violations unexpected) (q.violations unexpected) := by
  unfold FieldReport.violations
  rw [reports.missing]
  exact List.rel_append (List.rel_append (sameViolations _) reports.invalid) (sameViolations _)

end Reports

section Hooked
variable {now later : Catalogs} {s t : Schema} {shape other : SchemaType → Value → Path → Except Fault Checked}

/-- Computed values are checked alike by types in other words, where shapes are. -/
theorem derivedMismatch?_reworded (shapes : ∀ t u, t.Reworded lost u → ∀ v path, other u v path = shape t v path)
    (schemas : s.Reworded lost t) (name : String) (value : Value) (path : Path) :
    Hooks.derivedMismatch? other t name value path = Hooks.derivedMismatch? shape s name value path := by
  have fields := field?_reworded schemas.fields name
  unfold Hooks.derivedMismatch? Schema.field?
  generalize s.fields.find? _ = found, t.fields.find? _ = met at fields
  cases fields with
  | none => rfl
  | some both =>
    cases both with
    | intro types => simp only [shapes _ _ types, types.describe]

theorem readDerived_reworded (shapes : ∀ t u, t.Reworded lost u → ∀ v path, other u v path = shape t v path)
    (schemas : s.Reworded lost t) (path : Path) : Hooks.readDerived other t path = Hooks.readDerived shape s path := by
  funext placed fields answer
  simp only [Hooks.readDerived, derivedMismatch?_reworded shapes schemas]

/-- Hooks see data only, and what is declared of it is the same. -/
theorem hookStages_reworded {catalog : Option CatalogId} (schemas : s.Reworded lost t)
    (shapes : ∀ p q, p.Reworded lost q → ∀ v path, check later .shape ⟨some t, t.catalog.or catalog⟩ q v path =
      check now .shape ⟨some s, s.catalog.or catalog⟩ p v path) (gaps : Gaps) (path : Path) (fields : Entries) :
    hookStages later t gaps path catalog fields = hookStages now s gaps path catalog fields := by
  have crossing : t.crossFieldHooks = s.crossFieldHooks := by cases schemas; rfl
  have computing : t.derivedHooks = s.derivedHooks := by cases schemas; rfl
  simp only [hookStages, runHooks, Hooks.runDerived_eq_callAll, crossing, computing]
  rw [readDerived_reworded shapes schemas]

end Hooked

section Runs
variable {now later : Catalogs}

variable (lost now later) in
/-- Each function of a run comes to the same in other words. -/
def motives : Motives where
  ofValue mode scope t v path := ∀ other u, scope.Reworded lost other → t.Reworded lost u →
    RelatedUnless (mode.Excuses lost) Eq (Checked.Reworded mode) (check now mode scope t v path) (check later mode other u v path)
  ofRun rounds s gaps v path catalog := ∀ t, s.Reworded lost t →
    RelatedUnless lost Eq Outcome (run now rounds s gaps v path catalog) (run later rounds t gaps v path catalog)
  ofFields rounds scope path entries fields := ∀ other others, scope.Reworded lost other →
    List.Forall₂ (Field.Reworded lost) fields others →
    RelatedUnless lost Eq Report (fieldReport now rounds scope path entries fields) (fieldReport later rounds other path entries others)
  ofVariants mode scope variants v path := ∀ other, scope.Reworded lost other →
    RelatedUnless (mode.Excuses lost) Eq (Option.Rel (Checked.Reworded mode)) (checkVariants now mode scope variants v path)
      (checkVariants later mode other variants v path)
  ofEntries mode scope key value path entries := ∀ other, scope.Reworded lost other →
    RelatedUnless (mode.Excuses lost) Eq (fun c d => d.1 = c.1 ∧ List.Forall₂ mode.SameWords c.2 d.2)
      (checkEntries now mode scope key value path entries) (checkEntries later mode other key value path entries)
  ofItems mode scope t path index items := ∀ other, scope.Reworded lost other →
    RelatedUnless (mode.Excuses lost) Eq (fun c d => d.1 = c.1 ∧ List.Forall₂ mode.SameWords c.2 d.2)
      (checkItems now mode scope t path index items) (checkItems later mode other t path index items)

theorem forRun_reworded {found other : Target} (same : found.Reworded lost other) :
    Related Eq (fun read more => read.1.Reworded lost more.1 ∧ more.2 = read.2) found.forRun other.forRun := by
  cases same with
  | schema schemas => exact .ok ⟨schemas, rfl⟩
  | lookalike serial thing forData forDocument gaps =>
    cases forData with
    | error fault => exact .error rfl
    | ok s => exact .ok ⟨.refl s, rfl⟩

theorem ofRun_reworded {outcome other : Except (List Violation) Entries} (rounds : Nat) (same : Outcome outcome other) :
    (Checked.ofRun outcome).Reworded (.full rounds) (Checked.ofRun other) := by
  cases same with
  | error each => exact ⟨rfl, each⟩
  | ok fields =>
    cases fields
    exact .refl _

private theorem ref_reworded (catalogs : now.Reworded lost later) (mode : Mode) (scope : Scope) (name : Name)
    (target : Option Target) (v : Value) (path : Path)
    (next : ∀ rounds found s gaps, mode = .full rounds → v.isMapping = true → scope.lookup? now name target = some found →
      found.forRun = .ok (s, gaps) → (motives lost now later).ofRun rounds s gaps v path scope.catalog) :
    (motives lost now later).ofValue mode scope (.ref name target) v path := by
  intro other u scopes types
  cases types
  have lookups := Scope.lookup?_reworded catalogs scopes name target
  generalize there : scope.lookup? now name target = met, here : other.lookup? later name target = more at lookups
  cases lookups with
  | none =>
    rw [check_ref_unresolved there, check_ref_unresolved here]
    exact .ok (.refl _)
  | @some found met targets =>
    cases mapping : v.mapping? with
    | none =>
      rw [check_ref_mismatch there mapping, check_ref_mismatch here mapping]
      exact .ok (.refl _)
    | some entries =>
      cases mode with
      | shape =>
        rw [check_ref_shape there mapping, check_ref_shape here mapping]
        exact .ok (.refl _)
      | full rounds =>
        rw [check_ref_found there mapping, check_ref_found here mapping]
        have held : v.isMapping = true := by rw [Value.isMapping, mapping]; rfl
        have reads := forRun_reworded targets
        generalize read : found.forRun = ran, met.forRun = more at reads
        cases reads with
        | error faults => exact .error faults
        | @ok first second both =>
          obtain ⟨s, gaps⟩ := first
          obtain ⟨t, others⟩ := second
          obtain ⟨schemas, rfl⟩ : s.Reworded lost t ∧ others = gaps := both
          rw [scopes.catalog]
          exact (next rounds _ s others rfl held there read t schemas).map fun _ _ => ofRun_reworded rounds

private theorem fieldStages_reworded {s t : Schema} (schemas : s.Reworded lost t) {rounds : Nat} {v : Value} {path : Path}
    {catalog : Option CatalogId} (gaps : Gaps)
    (ofFields : ∀ entries left, v.mapping? = some entries → v.roundsAfter rounds = some left →
      (motives lost now later).ofFields left ⟨some s, s.catalog.or catalog⟩ path entries s.regularFields) :
    RelatedUnless lost Eq Outcome (fieldStages now rounds s gaps v path catalog) (fieldStages later rounds t gaps v path catalog) := by
  unfold fieldStages
  cases found : v.mapping? with
  | none => exact .ok (.error (sameViolations _))
  | some entries =>
    cases spent : v.roundsAfter rounds with
    | none => exact .error rfl
    | some left =>
      refine (ofFields entries left found spent _ _ (.ofSchema schemas catalog) schemas.regularFields).bind fun r q reports => ?_
      rw [unexpectedWith_reworded schemas]
      refine .bind_same (fun _ => rfl) fun unexpected => ?_
      have told := violations_reworded reports unexpected
      rw [told.isEmpty_eq, reports.output]
      refine .ok ?_
      split
      · exact .ok rfl
      · exact .error told

private theorem run_reworded_of_parts (rounds : Nat) (s : Schema) (gaps : Gaps) (v : Value) (path : Path)
    (catalog : Option CatalogId)
    (parts : ∀ entries left, v.mapping? = some entries → v.roundsAfter rounds = some left →
      (motives lost now later).ofFields left ⟨some s, s.catalog.or catalog⟩ path entries s.regularFields ∧
        ∀ t w place, (motives lost now later).ofValue .shape ⟨some s, s.catalog.or catalog⟩ t w place) :
    (motives lost now later).ofRun rounds s gaps v path catalog := by
  intro t schemas
  rw [run_eq_stages, run_eq_stages]
  have stages := fieldStages_reworded schemas gaps fun entries left found spent => (parts entries left found spent).1
  generalize ended : fieldStages now rounds s gaps v path catalog = outcome, fieldStages later rounds t gaps v path catalog = other
    at stages
  cases stages with
  | lost excused => exact .lost excused
  | both related =>
    cases related with
    | error faults => exact .error faults
    | ok both =>
      cases both with
      | error each => exact .ok (.error each)
      | @ok fields _ same =>
        cases same
        obtain ⟨entries, left, _, _, found, spent, -⟩ := report_of_fieldStages ended
        have shapes (p q : SchemaType) (types : p.Reworded lost q) (w : Value) (place : Path) :=
          Checked.eq_of_reworded ((parts entries left found spent).2 p w place _ q (.ofSchema schemas catalog) types)
        have hooked := hookStages_reworded schemas shapes gaps path fields
        show RelatedUnless lost Eq Outcome (hookStages now s gaps path catalog fields) (hookStages later t gaps path catalog fields)
        rw [hooked]
        exact .both (.of_eq (fun _ => rfl) (.of_eq sameViolations fun _ => rfl) _)

private theorem field_reworded (rounds : Nat) (scope : Scope) (path : Path) (entries : Entries) (f : Field) (rest : List Field)
    (ofValue : ∀ v, entries.field? f.name.label = some v →
      (motives lost now later).ofValue (.full rounds) scope f.type v (path ++ [.name f.name.label]))
    (ofRest : (motives lost now later).ofFields rounds scope path entries rest) :
    (motives lost now later).ofFields rounds scope path entries (f :: rest) := by
  intro other others scopes each
  cases each with
  | @cons _ g _ remaining first more =>
    have kept := first
    cases first with
    | @intro type types =>
      cases found : entries.field? f.name.label with
      | some v =>
        rw [fieldReport_present found, fieldReport_present (f := { f with type }) found]
        refine (ofValue v found other type scopes types).bind fun c d checked => ?_
        exact (ofRest other remaining scopes more).bind fun r q reports => .ok (withPresent_reworded kept checked reports)
      | none =>
        rw [fieldReport_absent found, fieldReport_absent (f := { f with type }) found]
        refine .bind_same (fun _ => rfl) fun default => ?_
        refine (ofRest other remaining scopes more).bind fun r q reports => ?_
        exact .ok (withAbsent_reworded kept path default reports)

private theorem step (catalogs : now.Reworded lost later) : Cases now (motives lost now later) where
  primitive mode scope kind cs v path := by
    intro other u scopes types
    cases types with
    | primitive own =>
      rw [check, check]
      split
      · exact (ownViolations_reworded own mode v path).bind fun _ _ each => .ok ⟨rfl, each⟩
      · exact .ok (.refl _)
  array mode scope element cs v path ofItems := by
    intro other u scopes types
    have shown := types.describe
    cases types with
    | array own =>
      cases found : v.items? with
      | none =>
        rw [check_array_mismatch found, check_array_mismatch found, shown]
        exact .ok (.refl _)
      | some items =>
        rw [check_array_found found, check_array_found found]
        refine (ownViolations_reworded own mode v path).bind fun _ _ each => ?_
        refine (ofItems items found other scopes).bind fun c d reports => ?_
        obtain ⟨values, inner⟩ := reports
        rw [values]
        exact .ok ⟨rfl, List.rel_append each inner⟩
  map mode scope key value cs v path ofEntries := by
    intro other u scopes types
    have shown := types.describe
    cases types with
    | map own =>
      cases found : v.mapping? with
      | none =>
        rw [check_map_mismatch found, check_map_mismatch found, shown]
        exact .ok (.refl _)
      | some entries =>
        rw [check_map_found found, check_map_found found]
        refine (ownViolations_reworded own mode (.map entries) path).bind fun _ _ each => ?_
        refine (ofEntries entries found other scopes).bind fun c d reports => ?_
        obtain ⟨values, inner⟩ := reports
        rw [values]
        exact .ok ⟨rfl, List.rel_append each inner⟩
  union mode scope variants cs v path ofVariants := by
    intro other u scopes types
    have shown := types.describe
    cases types with
    | union own =>
      rw [check_union, check_union, shown]
      refine (ofVariants other scopes).map fun _ _ firsts => ?_
      cases firsts with
      | none => exact .refl _
      | some checked => exact checked
  ref := ref_reworded catalogs
  run := run_reworded_of_parts
  noField rounds scope path entries := by
    intro other others scopes each
    cases each
    rw [fieldReport, fieldReport]
    exact .ok ⟨rfl, rfl, .nil⟩
  field := field_reworded
  noVariant mode scope v path := by
    intro other scopes
    rw [checkVariants, checkVariants]
    exact .ok .none
  variant mode scope t rest v path ofValue ofRest := by
    intro other scopes
    rw [checkVariants, checkVariants]
    refine (ofValue other t scopes (.refl t)).bind fun c d checked => ?_
    rw [checked.isClean]
    split
    · exact .ok (.some checked)
    · exact ofRest other scopes
  noEntry mode scope key value path := by
    intro other scopes
    rw [checkEntries, checkEntries]
    exact .ok ⟨rfl, .nil⟩
  entry mode scope key value path k v rest ofKey ofValue ofRest := by
    intro other scopes
    rw [checkEntries, checkEntries, entryPlace_eq]
    cases k.hasStep with
    | false => exact .error rfl
    | true =>
      simp only [if_true, Except.ok_bind]
      refine (ofKey other key scopes (.refl key)).bind fun _ _ checkedKey => ?_
      refine (ofValue other value scopes (.refl value)).bind fun _ _ checkedValue => ?_
      refine (ofRest other scopes).bind fun c d reports => ?_
      obtain ⟨values, inner⟩ := reports
      rw [checkedValue.value]
      exact .ok ⟨congrArg (List.cons _) values,
        List.rel_append (List.rel_append checkedKey.violations checkedValue.violations) inner⟩
  noItem mode scope t path index := by
    intro other scopes
    rw [checkItems, checkItems]
    exact .ok ⟨rfl, .nil⟩
  item mode scope t path index v rest ofValue ofRest := by
    intro other scopes
    rw [checkItems, checkItems]
    refine (ofValue other t scopes (.refl t)).bind fun _ _ checked => ?_
    refine (ofRest other scopes).bind fun c d reports => ?_
    obtain ⟨values, inner⟩ := reports
    rw [checked.value]
    exact .ok ⟨congrArg (List.cons _) values, List.rel_append checked.violations inner⟩

/-- A value is checked alike by types in other words. -/
theorem check_reworded (catalogs : now.Reworded lost later) {scope other : Scope} (scopes : scope.Reworded lost other)
    {t u : SchemaType} (types : t.Reworded lost u) (mode : Mode) (v : Value) (path : Path) :
    RelatedUnless (mode.Excuses lost) Eq (Checked.Reworded mode) (check now mode scope t v path) (check later mode other u v path) :=
  (step catalogs).all.1 mode scope t v path other u scopes types

theorem run_reworded (catalogs : now.Reworded lost later) {s t : Schema} (schemas : s.Reworded lost t) (rounds : Nat)
    (gaps : Gaps) (v : Value) (path : Path) (catalog : Option CatalogId) :
    RelatedUnless lost Eq Outcome (run now rounds s gaps v path catalog) (run later rounds t gaps v path catalog) :=
  (step catalogs).all.2 rounds s gaps v path catalog t schemas

end Runs

end Proofs.Rewording

namespace Validation
open Proofs.Rewording

/-- Schemas in other words give the same verdicts, in other words, unless the second one has an excuse. -/
theorem validate_reworded {now later : Catalogs} (catalogs : now.Reworded lost later) {s t : Schema} (schemas : s.Reworded lost t)
    (data : Value) : Except.RelatedUnless (Failing.Excuses lost) Eq Verdict.Reworded (validate now s data) (validate later t data) := by
  have laid : t.container = s.container := by cases schemas; rfl
  have accepting : accept t = accept s := by funext data; unfold accept; rw [laid]
  unfold validate
  have outcomes := run_reworded catalogs schemas Value.deepest {} data.unfolded [] none
  refine (Failing.ofFault_related (fun _ => rfl) outcomes).bind fun outcome other both => ?_
  cases both with
  | error each => exact .ok (.rejected each)
  | ok fields =>
    cases fields
    show Except.RelatedUnless _ Eq Verdict.Reworded (accept s _) (accept t _)
    rw [accepting]
    exact .both (.of_eq (fun _ => rfl) (fun verdict => .refl verdict) _)

end Validation
end RecordSchema
