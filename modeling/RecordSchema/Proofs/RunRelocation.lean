import RecordSchema.Proofs.Outcome
import RecordSchema.Proofs.References
import RecordSchema.Proofs.Stages
import RecordSchema.Proofs.ValidationInduction

/-! A run depends on where it stands only through the paths of what it reports, and on the catalogs
only through what its references resolve to. The container of a schema has no part in it. Main
statements: `check_relocated`, `run_relocated`. -/

namespace RecordSchema

/-- The schema without its container. -/
def Schema.bare (s : Schema) : Schema := { s with container := none }

/-- What does not look at the container is the same for schemas that differ in nothing else. -/
theorem Schema.congr_of_bare {α : Sort u} {s t : Schema} (same : s.bare = t.bare) (read : Schema → α)
    (blind : ∀ s, read s.bare = read s) : read s = read t :=
  (blind s).symm.trans ((congrArg read same).trans (blind t))

/-- The target as far as runs are concerned. -/
def Target.bare : Target → Target
  | .schema s => .schema s.bare
  | target => target

theorem Target.forRun_error_of_bare {t u : Target} (same : t.bare = u.bare) {fault : Fault}
    (read : u.forRun = .error fault) : t.forRun = .error fault := by
  cases u with
  | schema _ => cases read
  | lookalike _ _ _ _ _ =>
    cases t with
    | schema _ => cases same
    | lookalike _ _ _ _ _ => cases same; exact read

theorem Target.forRun_of_bare {t u : Target} (same : t.bare = u.bare) {s : Schema} {gaps : Gaps}
    (read : u.forRun = .ok (s, gaps)) : ∃ s₁, t.forRun = .ok (s₁, gaps) ∧ s₁.bare = s.bare := by
  cases u with
  | schema _ =>
    cases read
    cases t with
    | schema s₁ => exact ⟨s₁, rfl, Target.schema.inj same⟩
    | lookalike _ _ _ _ _ => cases same
  | lookalike _ _ _ _ _ =>
    cases t with
    | schema _ => cases same
    | lookalike _ _ _ _ _ => cases same; exact ⟨s, read, rfl⟩

/-- Schemas that are run when data is validated by a schema, at any depth, each with the catalog around it. Things that
are read as schemas are among them. -/
inductive RunsInto (catalogs : Catalogs) (s : Schema) : Schema → Option CatalogId → Prop where
  | self : RunsInto catalogs s s none
  | next {t u : Schema} {gaps : Gaps} {catalog : Option CatalogId} {r : Name × Option Target} {found : Target}
      (reached : RunsInto catalogs s t catalog) (member : r ∈ t.references)
      (resolved : Scope.lookup? catalogs ⟨some t, t.catalog.or catalog⟩ r.1 r.2 = some found)
      (read : found.forRun = .ok (u, gaps)) : RunsInto catalogs s u (t.catalog.or catalog)

/-- A report seen from further out. -/
def Checked.under (outer : Path) (c : Checked) : Checked :=
  ⟨c.value, c.violations.map (Violation.under outer)⟩

theorem Checked.under_nil : Checked.under [] = id := by
  funext c
  exact congrArg (Checked.mk c.value) (List.map_id c.violations)

namespace Validation

def FieldReport.under (outer : Path) (report : FieldReport) : FieldReport :=
  { report with
    missing := report.missing.map (Violation.under outer)
    invalid := report.invalid.map (Violation.under outer) }

end Validation

namespace Proofs.RunRelocation
open Validation

/-- The outcome of a run seen from further out. -/
def outcomeUnder (outer : Path) : Except (List Violation) Entries → Except (List Violation) Entries :=
  Except.mapError (List.map (Violation.under outer))

theorem outcomeUnder_nil : outcomeUnder [] = id := by
  funext outcome
  cases outcome with
  | ok fields => rfl
  | error violations => exact congrArg Except.error (List.map_id violations)

section Reports
variable (outer path : Path)

theorem ofRun_under (outcome : Except (List Violation) Entries) :
    Checked.ofRun (outcomeUnder outer outcome) = (Checked.ofRun outcome).under outer := by
  cases outcome <;> rfl

theorem isClean_under (c : Checked) : (c.under outer).isClean = c.isClean := by
  simp [Checked.under, Checked.isClean]

theorem constraintViolations_under (constraints : List Constraint) (v : Value) :
    constraintViolations constraints v (outer ++ path) =
      List.map (Violation.under outer) <$> constraintViolations constraints v path := by
  simp only [constraintViolations]
  cases Constraint.failures constraints v with
  | error fault => rfl
  | ok failed =>
    refine Except.mapM_map (fun c => ?_) failed
    cases c.violationText <;> rfl

theorem ownViolations_under (mode : Mode) (constraints : List Constraint) (v : Value) :
    ownViolations mode constraints v (outer ++ path) =
      List.map (Violation.under outer) <$> ownViolations mode constraints v path := by
  cases mode with
  | shape => rfl
  | full rounds => exact constraintViolations_under outer path constraints v

theorem entryPlace_under (key : Value) : entryPlace (outer ++ path) key = (outer ++ ·) <$> entryPlace path key := by
  rw [entryPlace, entryPlace]
  cases key.requireStep with
  | error fault => rfl
  | ok _ => exact congrArg Except.ok (List.append_assoc outer path _)

theorem unexpected_under (s : Schema) (entries : Entries) :
    unexpected s (outer ++ path) entries = (unexpected s path entries).map (Violation.under outer) := by
  simp only [unexpected, List.map_filterMap]
  congr 1
  funext key
  simp only [unexpected?]
  split
  · rfl
  · simp [Violation.under]

theorem unexpectedWith_under (gaps : Gaps) (s : Schema) (entries : Entries) :
    unexpectedWith gaps s (outer ++ path) entries =
      List.map (Violation.under outer) <$> unexpectedWith gaps s path entries := by
  simp only [unexpectedWith, unexpected_under, List.isEmpty_map]
  cases require gaps.strict <;> cases entries.keys.forM Value.requireStep <;> split <;> split <;> rfl

theorem withPresent_under (f : Field) (c : Checked) (report : FieldReport) :
    (report.under outer).withPresent f (c.under outer) = (report.withPresent f c).under outer := by
  simp only [FieldReport.withPresent, isClean_under]
  split
  · rfl
  · simp [FieldReport.under, Checked.under]

theorem withAbsent_under (f : Field) (default : Option Value) (report : FieldReport) :
    (report.under outer).withAbsent f (outer ++ path) default = (report.withAbsent f path default).under outer := by
  cases default with
  | some v => rfl
  | none =>
    simp only [FieldReport.withAbsent]
    split
    · simp [FieldReport.under, Violation.under]
    · rfl

theorem violationOf_under (placed : PlacedHook) (reason : Value) :
    Hooks.violationOf placed (outer ++ path) reason =
      Violation.under outer <$> Hooks.violationOf placed path reason := by
  cases reason with
  | violation v => simp [Hooks.violationOf, Violation.under]
  | _ => simp only [Hooks.violationOf, map_bind, map_pure, Violation.under]

theorem runCrossField_under (hooks : List PlacedHook) (fields : Entries) :
    Hooks.runCrossField (outer ++ path) hooks fields =
      outcomeUnder outer <$> Hooks.runCrossField path hooks fields := by
  induction hooks generalizing fields with
  | nil => rfl
  | cons placed rest ih =>
    simp only [Hooks.runCrossField]
    cases placed.hook.invoke (.map fields) with
    | error fault => rfl
    | ok answer =>
      simp only [Except.ok_bind]
      split
      · rename_i reason _ _
        rw [Except.mapM_map (violationOf_under outer path placed)]
        cases (Hooks.reasons reason).mapM (Hooks.violationOf placed path) <;> rfl
      · split
        · exact ih _
        · rfl

end Reports

section Agreement
variable (catalogs₁ catalogs₂ : Catalogs) (Related : Schema → Option CatalogId → Option CatalogId → Prop)

/-- A reference that resolves to the same in two scopes, to something that runs alike in both. -/
structure Agrees (scope₁ scope₂ : Scope) (r : Name × Option Target) : Prop where
  same : (scope₁.lookup? catalogs₁ r.1 r.2).map Target.bare = (scope₂.lookup? catalogs₂ r.1 r.2).map Target.bare
  next : ∀ found s gaps, scope₂.lookup? catalogs₂ r.1 r.2 = some found → found.forRun = .ok (s, gaps) →
    Related s scope₁.catalog scope₂.catalog

def AgreesIn (scope₁ scope₂ : Scope) (t : SchemaType) : Prop :=
  ∀ r ∈ t.references, Agrees catalogs₁ catalogs₂ Related scope₁ scope₂ r

variable {catalogs₁ catalogs₂ Related} {scope₁ scope₂ : Scope}

/-- A reference means the same to a schema with another container. -/
theorem lookup?_bare {s₁ s₂ : Schema} (same : s₁.bare = s₂.bare) (catalog : Option CatalogId) (name : Name)
    (target : Option Target) :
    (Scope.lookup? catalogs₁ ⟨some s₁, catalog⟩ name target).map Target.bare =
      (Scope.lookup? catalogs₁ ⟨some s₂, catalog⟩ name target).map Target.bare := by
  have named : s₁.name = s₂.name := Schema.congr_of_bare same Schema.name fun _ => rfl
  have owned : s₁.catalog = s₂.catalog := Schema.congr_of_bare same Schema.catalog fun _ => rfl
  cases target with
  | some target => rfl
  | none =>
    simp only [Scope.lookup?, Scope.named?, named, owned]
    split
    · exact congrArg (fun s => some (Target.schema s)) same
    · rfl

namespace AgreesIn

theorem bare {s₁ s₂ : Schema} {catalog : Option CatalogId} {t : SchemaType} (same : s₁.bare = s₂.bare)
    (agrees : AgreesIn catalogs₁ catalogs₂ Related ⟨some s₂, catalog⟩ scope₂ t) :
    AgreesIn catalogs₁ catalogs₂ Related ⟨some s₁, catalog⟩ scope₂ t :=
  fun r member => ⟨(lookup?_bare same catalog r.1 r.2).trans (agrees r member).same, (agrees r member).next⟩

theorem key {key value : SchemaType} {cs : List Constraint}
    (agrees : AgreesIn catalogs₁ catalogs₂ Related scope₁ scope₂ (.map key value cs)) :
    AgreesIn catalogs₁ catalogs₂ Related scope₁ scope₂ key :=
  fun r member => agrees r (List.mem_append_left _ member)

theorem value {key value : SchemaType} {cs : List Constraint}
    (agrees : AgreesIn catalogs₁ catalogs₂ Related scope₁ scope₂ (.map key value cs)) :
    AgreesIn catalogs₁ catalogs₂ Related scope₁ scope₂ value :=
  fun r member => agrees r (List.mem_append_right _ member)

theorem variant {variants : List SchemaType} {cs : List Constraint}
    (agrees : AgreesIn catalogs₁ catalogs₂ Related scope₁ scope₂ (.union variants cs))
    {t : SchemaType} (member : t ∈ variants) : AgreesIn catalogs₁ catalogs₂ Related scope₁ scope₂ t :=
  fun r inside => agrees r (SchemaType.mem_referencesOf.mpr ⟨t, member, inside⟩)

end AgreesIn

variable (catalogs₁ catalogs₂ Related) in
/-- Schemas with the catalogs around them are related only if all their references agree. -/
def Bisimulation : Prop :=
  ∀ s c₁ c₂, Related s c₁ c₂ → ∀ f ∈ s.fields,
    AgreesIn catalogs₁ catalogs₂ Related ⟨some s, s.catalog.or c₁⟩ ⟨some s, s.catalog.or c₂⟩ f.type

theorem runDerived_relocated {s₁ s : Schema} {shape₁ shape₂ : SchemaType → Value → Path → Except Fault Checked}
    (outer path : Path) (declared : s₁.fields = s.fields)
    (shapes : ∀ f ∈ s.fields, ∀ v place, shape₁ f.type v (outer ++ place) = Checked.under outer <$> shape₂ f.type v place)
    (hooks : List PlacedHook) (fields : Entries) :
    Hooks.runDerived shape₁ s₁ (outer ++ path) hooks fields =
      outcomeUnder outer <$> Hooks.runDerived shape₂ s path hooks fields := by
  have mismatch (name : String) (value : Value) (place : Path) :
      Hooks.derivedMismatch? shape₁ s₁ name value (outer ++ place) = Hooks.derivedMismatch? shape₂ s name value place := by
    have known : s₁.field? name = s.field? name := by rw [Schema.field?, Schema.field?, declared]
    simp only [Hooks.derivedMismatch?, known]
    cases found : s.field? name with
    | none => rfl
    | some f =>
      simp only [shapes f (List.mem_of_find?_eq_some found)]
      cases shape₂ f.type value place with
      | error fault => rfl
      | ok c =>
        obtain ⟨w, violations⟩ := c
        cases violations <;> rfl
  induction hooks generalizing fields with
  | nil => rfl
  | cons placed rest ih =>
    simp only [Hooks.runDerived, List.append_assoc, mismatch]
    cases placed.hook.invoke (.map fields) with
    | error fault => rfl
    | ok answer =>
      simp only [Except.ok_bind]
      split
      · rename_i reason _
        cases Hooks.wording reason <;> rfl
      · generalize Hooks.derivedMismatch? shape₂ s _ _ _ = met
        rcases met with fault | met
        · rfl
        · cases met with
          | some message => rfl
          | none => exact ih _

variable (catalogs₁ catalogs₂ Related) in
/-- Each function of a run gives the same in both scopes, up to the outer path. -/
def motives : Motives where
  ofValue mode scope₂ t v path := ∀ scope₁ outer, AgreesIn catalogs₁ catalogs₂ Related scope₁ scope₂ t →
    check catalogs₁ mode scope₁ t v (outer ++ path) = Checked.under outer <$> check catalogs₂ mode scope₂ t v path
  ofRun rounds s gaps v path c₂ := ∀ s₁ c₁ outer, s₁.bare = s.bare → Related s c₁ c₂ →
    run catalogs₁ rounds s₁ gaps v (outer ++ path) c₁ = outcomeUnder outer <$> run catalogs₂ rounds s gaps v path c₂
  ofFields rounds scope₂ path entries fields := ∀ scope₁ outer,
    (∀ f ∈ fields, AgreesIn catalogs₁ catalogs₂ Related scope₁ scope₂ f.type) →
    fieldReport catalogs₁ rounds scope₁ (outer ++ path) entries fields =
      FieldReport.under outer <$> fieldReport catalogs₂ rounds scope₂ path entries fields
  ofVariants mode scope₂ variants v path := ∀ scope₁ outer,
    (∀ t ∈ variants, AgreesIn catalogs₁ catalogs₂ Related scope₁ scope₂ t) →
    checkVariants catalogs₁ mode scope₁ variants v (outer ++ path) =
      Option.map (Checked.under outer) <$> checkVariants catalogs₂ mode scope₂ variants v path
  ofEntries mode scope₂ key value path entries := ∀ scope₁ outer,
    AgreesIn catalogs₁ catalogs₂ Related scope₁ scope₂ key →
    AgreesIn catalogs₁ catalogs₂ Related scope₁ scope₂ value →
    checkEntries catalogs₁ mode scope₁ key value (outer ++ path) entries =
      Prod.map id (List.map (Violation.under outer)) <$> checkEntries catalogs₂ mode scope₂ key value path entries
  ofItems mode scope₂ t path index items := ∀ scope₁ outer,
    AgreesIn catalogs₁ catalogs₂ Related scope₁ scope₂ t →
    checkItems catalogs₁ mode scope₁ t (outer ++ path) index items =
      Prod.map id (List.map (Violation.under outer)) <$> checkItems catalogs₂ mode scope₂ t path index items

private theorem ref_relocated (mode : Mode) (scope₂ : Scope) (name : Name) (target : Option Target) (v : Value) (path : Path)
    (next : ∀ rounds found s gaps, mode = .full rounds → v.isMapping = true → scope₂.lookup? catalogs₂ name target = some found →
      found.forRun = .ok (s, gaps) →
      (motives catalogs₁ catalogs₂ Related).ofRun rounds s gaps v path scope₂.catalog) :
    (motives catalogs₁ catalogs₂ Related).ofValue mode scope₂ (.ref name target) v path := by
  intro scope₁ outer agrees
  obtain ⟨same, related⟩ := agrees (name, target) (List.mem_singleton_self _)
  cases resolved : scope₂.lookup? catalogs₂ name target with
  | none =>
    rw [resolved] at same
    rw [check_ref_unresolved resolved, check_ref_unresolved (Option.map_eq_none_iff.mp same)]
    rfl
  | some found =>
    rw [resolved] at same
    obtain ⟨found₁, resolved₁, alike⟩ := Option.map_eq_some_iff.mp same
    cases mapping : v.mapping? with
    | none =>
      rw [check_ref_mismatch resolved mapping, check_ref_mismatch resolved₁ mapping]
      rfl
    | some entries =>
      cases mode with
      | shape =>
        rw [check_ref_shape resolved mapping, check_ref_shape resolved₁ mapping]
        rfl
      | full rounds =>
        rw [check_ref_found resolved mapping, check_ref_found resolved₁ mapping]
        cases read : found.forRun with
        | error fault =>
          rw [Target.forRun_error_of_bare alike read]
          rfl
        | ok ran =>
          obtain ⟨s, gaps⟩ := ran
          obtain ⟨s₁, read₁, bare⟩ := Target.forRun_of_bare alike read
          have isMapping : v.isMapping = true := by rw [Value.isMapping, mapping]; rfl
          rw [read₁]
          show Checked.ofRun <$> run catalogs₁ rounds s₁ gaps v (outer ++ path) scope₁.catalog = _
          rw [next rounds found s gaps rfl isMapping resolved read s₁ _ outer bare (related found s gaps resolved read)]
          show _ = Checked.under outer <$> (Checked.ofRun <$> run catalogs₂ rounds s gaps v path scope₂.catalog)
          simp only [← comp_map]
          congr 1
          funext outcome
          exact ofRun_under outer outcome

private theorem fieldStages_relocated {s₁ s : Schema} (bare : s₁.bare = s.bare) {gaps : Gaps} {v : Value}
    {path outer : Path} {c₁ c₂ : Option CatalogId}
    {rounds : Nat} (report : ∀ entries left, v.mapping? = some entries → v.roundsAfter rounds = some left →
      fieldReport catalogs₁ left ⟨some s₁, s₁.catalog.or c₁⟩ (outer ++ path) entries s.regularFields =
        FieldReport.under outer <$> fieldReport catalogs₂ left ⟨some s, s.catalog.or c₂⟩ path entries s.regularFields) :
    fieldStages catalogs₁ rounds s₁ gaps v (outer ++ path) c₁ =
      outcomeUnder outer <$> fieldStages catalogs₂ rounds s gaps v path c₂ := by
  have regular : s₁.regularFields = s.regularFields :=
    Schema.congr_of_bare bare Schema.regularFields fun _ => rfl
  have minded (path : Path) (entries : Entries) :
      unexpectedWith gaps s₁ path entries = unexpectedWith gaps s path entries :=
    Schema.congr_of_bare bare (unexpectedWith gaps · path entries) fun _ => rfl
  simp only [fieldStages]
  cases found : v.mapping? with
  | none => rfl
  | some entries =>
    cases spent : v.roundsAfter rounds with
    | none => rfl
    | some left =>
    simp only [regular, report entries left found spent, minded, unexpectedWith_under]
    cases fieldReport catalogs₂ left ⟨some s, s.catalog.or c₂⟩ path entries s.regularFields with
    | error fault => rfl
    | ok report =>
      cases unexpectedWith gaps s path entries with
      | error fault => rfl
      | ok unexpected =>
        have violations : (report.under outer).violations (unexpected.map (Violation.under outer)) =
            (report.violations unexpected).map (Violation.under outer) := by
          simp [FieldReport.violations, FieldReport.under]
        show Except.ok (if ((report.under outer).violations _).isEmpty then Except.ok report.output
          else .error _) = Except.ok (outcomeUnder outer (if (report.violations unexpected).isEmpty then
            Except.ok report.output else .error _))
        rw [violations, List.isEmpty_map]
        split <;> rfl

private theorem hookStages_relocated {s₁ s : Schema} (bare : s₁.bare = s.bare) {gaps : Gaps} {path outer : Path}
    {c₁ c₂ : Option CatalogId}
    (shapes : ∀ f ∈ s.fields, ∀ v place, check catalogs₁ .shape ⟨some s₁, s₁.catalog.or c₁⟩ f.type v (outer ++ place) =
      Checked.under outer <$> check catalogs₂ .shape ⟨some s, s.catalog.or c₂⟩ f.type v place)
    (fields : Entries) :
    hookStages catalogs₁ s₁ gaps (outer ++ path) c₁ fields =
      outcomeUnder outer <$> hookStages catalogs₂ s gaps path c₂ fields := by
  have declared : s₁.fields = s.fields := Schema.congr_of_bare bare Schema.fields fun _ => rfl
  have crossing : s₁.crossFieldHooks = s.crossFieldHooks :=
    Schema.congr_of_bare bare Schema.crossFieldHooks fun _ => rfl
  have computing : s₁.derivedHooks = s.derivedHooks :=
    Schema.congr_of_bare bare Schema.derivedHooks fun _ => rfl
  simp only [hookStages, runHooks, crossing, computing, runCrossField_under]
  cases require gaps.hooks with
  | error fault => rfl
  | ok _ =>
    cases Hooks.runCrossField path s.crossFieldHooks fields with
    | error fault => rfl
    | ok crossed =>
      cases crossed with
      | error violations => rfl
      | ok fields => exact runDerived_relocated outer path declared shapes s.derivedHooks fields

private theorem run_relocated_of_fields (bisimulation : Bisimulation catalogs₁ catalogs₂ Related)
    (rounds : Nat) (s : Schema) (gaps : Gaps) (v : Value) (path : Path) (c₂ : Option CatalogId)
    (inner : ∀ entries left, v.mapping? = some entries → v.roundsAfter rounds = some left →
      (motives catalogs₁ catalogs₂ Related).ofFields left ⟨some s, s.catalog.or c₂⟩ path entries s.regularFields ∧
        ∀ t w place, (motives catalogs₁ catalogs₂ Related).ofValue .shape ⟨some s, s.catalog.or c₂⟩ t w place) :
    (motives catalogs₁ catalogs₂ Related).ofRun rounds s gaps v path c₂ := by
  intro s₁ c₁ outer bare related
  have owned : s₁.catalog = s.catalog := Schema.congr_of_bare bare Schema.catalog fun _ => rfl
  have agree (f : Field) (member : f ∈ s.fields) :
      AgreesIn catalogs₁ catalogs₂ Related ⟨some s₁, s₁.catalog.or c₁⟩ ⟨some s, s.catalog.or c₂⟩ f.type := by
    rw [owned]
    exact (bisimulation s c₁ c₂ related f member).bare bare
  rw [run_eq_stages, run_eq_stages, fieldStages_relocated bare fun entries left found spent =>
    (inner entries left found spent).1 _ outer fun f member => agree f (List.mem_filter.mp member).1]
  cases ended : fieldStages catalogs₂ rounds s gaps v path c₂ with
  | error fault => rfl
  | ok outcome =>
    cases outcome with
    | error violations => rfl
    | ok fields =>
      obtain ⟨entries, left, _, _, found, spent, -⟩ := report_of_fieldStages ended
      exact hookStages_relocated bare (fun f member v place =>
        (inner entries left found spent).2 f.type v place _ outer (agree f member)) fields

private theorem field_relocated (rounds : Nat) (scope₂ : Scope) (path : Path) (entries : Entries) (f : Field) (rest : List Field)
    (ofValue : ∀ v, entries.field? f.name.label = some v →
      (motives catalogs₁ catalogs₂ Related).ofValue (.full rounds) scope₂ f.type v (path ++ [.name f.name.label]))
    (ofRest : (motives catalogs₁ catalogs₂ Related).ofFields rounds scope₂ path entries rest) :
    (motives catalogs₁ catalogs₂ Related).ofFields rounds scope₂ path entries (f :: rest) := by
  intro scope₁ outer agree
  have remaining := ofRest scope₁ outer fun g member => agree g (List.mem_cons_of_mem _ member)
  cases found : entries.field? f.name.label with
  | some v =>
    rw [fieldReport_present found, fieldReport_present found, List.append_assoc,
      ofValue v found scope₁ outer (agree f List.mem_cons_self), remaining]
    cases check catalogs₂ (.full rounds) scope₂ f.type v (path ++ [.name f.name.label]) with
    | error fault => rfl
    | ok c =>
      cases fieldReport catalogs₂ rounds scope₂ path entries rest with
      | error fault => rfl
      | ok report => exact congrArg Except.ok (withPresent_under outer f c report)
  | none =>
    rw [fieldReport_absent found, fieldReport_absent found, remaining]
    cases f.default.mapM Value.copy with
    | error fault => rfl
    | ok default =>
      cases fieldReport catalogs₂ rounds scope₂ path entries rest with
      | error fault => rfl
      | ok report => exact congrArg Except.ok (withAbsent_under outer path f default report)

private theorem step (bisimulation : Bisimulation catalogs₁ catalogs₂ Related) :
    Cases catalogs₂ (motives catalogs₁ catalogs₂ Related) where
  primitive mode scope₂ kind cs v path := by
    intro scope₁ outer agrees
    rw [check, check]
    split
    · rw [ownViolations_under]
      cases ownViolations mode cs v path <;> rfl
    · rfl
  array mode scope₂ element cs v path ofItems := by
    intro scope₁ outer agrees
    rw [check, check]
    split
    · rfl
    · rename_i items found
      rw [ownViolations_under, ofItems items found scope₁ outer agrees]
      cases ownViolations mode cs v path with
      | error fault => rfl
      | ok own =>
        cases checkItems catalogs₂ mode scope₂ element path 0 items with
        | error fault => rfl
        | ok checked => simp [Checked.under]
  map mode scope₂ key value cs v path ofEntries := by
    intro scope₁ outer agrees
    rw [check, check]
    split
    · rfl
    · rename_i entries found
      rw [ownViolations_under, ofEntries entries found scope₁ outer agrees.key agrees.value]
      cases ownViolations mode cs (.map entries) path with
      | error fault => rfl
      | ok own =>
        cases checkEntries catalogs₂ mode scope₂ key value path entries with
        | error fault => rfl
        | ok checked => simp [Checked.under]
  union mode scope₂ variants cs v path ofVariants := by
    intro scope₁ outer agrees
    rw [check, check, ofVariants scope₁ outer fun t member => agrees.variant member]
    cases checkVariants catalogs₂ mode scope₂ variants v path with
    | error fault => rfl
    | ok first => cases first <;> rfl
  ref := ref_relocated
  run := run_relocated_of_fields bisimulation
  noField rounds scope₂ path entries := by
    intro scope₁ outer agree
    rw [fieldReport, fieldReport]
    rfl
  field := field_relocated
  noVariant mode scope₂ v path := by
    intro scope₁ outer agree
    rw [checkVariants, checkVariants]
    rfl
  variant mode scope₂ t rest v path ofValue ofRest := by
    intro scope₁ outer agree
    rw [checkVariants, checkVariants, ofValue scope₁ outer (agree t List.mem_cons_self),
      ofRest scope₁ outer fun t member => agree t (List.mem_cons_of_mem _ member)]
    cases check catalogs₂ mode scope₂ t v path with
    | error fault => rfl
    | ok c =>
      show (if (c.under outer).isClean then _ else _) = _ <$> (if c.isClean then _ else _)
      rw [isClean_under]
      split <;> rfl
  noEntry mode scope₂ key value path := by
    intro scope₁ outer ofKey ofValue
    rw [checkEntries, checkEntries]
    rfl
  entry mode scope₂ key value path k v rest ofKey ofValue ofRest := by
    intro scope₁ outer agreesKey agreesValue
    rw [checkEntries, checkEntries, entryPlace_under, ofRest scope₁ outer agreesKey agreesValue]
    unfold entryPlace
    cases k.requireStep with
    | error fault => rfl
    | ok _ =>
      have sameKey := ofKey scope₁ outer agreesKey
      have sameValue := ofValue scope₁ outer agreesValue
      simp only [Except.ok_bind, pure, Except.pure, Functor.map, Except.map] at sameKey sameValue ⊢
      rw [sameKey, sameValue]
      cases check catalogs₂ mode scope₂ key k (path ++ [k.keyStep]) with
      | error fault => rfl
      | ok checkedKey =>
        cases check catalogs₂ mode scope₂ value v (path ++ [k.keyStep]) with
        | error fault => rfl
        | ok checkedValue =>
          cases checkEntries catalogs₂ mode scope₂ key value path rest with
          | error fault => rfl
          | ok checked => simp [Checked.under]
  noItem mode scope₂ t path index := by
    intro scope₁ outer agrees
    rw [checkItems, checkItems]
    rfl
  item mode scope₂ t path index v rest ofValue ofRest := by
    intro scope₁ outer agrees
    rw [checkItems, checkItems, List.append_assoc, ofValue scope₁ outer agrees, ofRest scope₁ outer agrees]
    cases check catalogs₂ mode scope₂ t v (path ++ [.index index]) with
    | error fault => rfl
    | ok c =>
      cases checkItems catalogs₂ mode scope₂ t path (index + 1) rest with
      | error fault => rfl
      | ok checked => simp [Checked.under]

/-- A value is checked alike in two scopes, with the outer path before the path of everything that is
reported. -/
theorem check_relocated (bisimulation : Bisimulation catalogs₁ catalogs₂ Related) {t : SchemaType}
    (agrees : AgreesIn catalogs₁ catalogs₂ Related scope₁ scope₂ t) (mode : Mode) (v : Value) (outer path : Path) :
    check catalogs₁ mode scope₁ t v (outer ++ path) = Checked.under outer <$> check catalogs₂ mode scope₂ t v path :=
  (step bisimulation).all.1 mode scope₂ t v path scope₁ outer agrees

/-- Runs of related schemas come to the same, with the outer path before the path of everything that
is reported. -/
theorem run_relocated (bisimulation : Bisimulation catalogs₁ catalogs₂ Related)
    {s : Schema} {c₁ c₂ : Option CatalogId} (related : Related s c₁ c₂) (rounds : Nat) (gaps : Gaps) (v : Value)
    (outer path : Path) :
    run catalogs₁ rounds s gaps v (outer ++ path) c₁ = outcomeUnder outer <$> run catalogs₂ rounds s gaps v path c₂ :=
  (step bisimulation).all.2 rounds s gaps v path c₂ s c₁ outer rfl related

end Agreement

end Proofs.RunRelocation
end RecordSchema
