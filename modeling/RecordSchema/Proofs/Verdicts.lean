import RecordSchema.Proofs.BuiltSchema
import RecordSchema.Proofs.Completion
import RecordSchema.Proofs.ReturnedChecks
import RecordSchema.Validation.Verdict

/-! Verdicts against meaning, for schemas that leave nothing to hooks. Main statement:
`validate_accepts_iff`. A default that cannot be copied passes the building and stops validation later:
`uncopyable_default`. -/

namespace RecordSchema.Proofs.Verdicts
open Validation Acceptance Completion

/-- A built schema without hooks, and so without derived fields, whose constraints have text for messages
if they have messages of their own. -/
structure Declarative (s : Schema) : Prop where
  built : s.IsBuilt
  carries : s.CarriesSchemas
  silent : s.crossFieldHooks = [] ∧ s.derivedHooks = []
  told : ∀ f ∈ s.fields, ∀ c ∈ f.type.allConstraints, c.IsTold

/-- Nothing in the fields of a schema can stop a run: no default that cannot be copied, no pattern for which
a search has no answer, and no bound that cannot be written into the usual message. -/
def Smooth (s : Schema) : Prop :=
  ∀ f ∈ s.fields, (∀ v, f.default = some v → v.isCopyable = true) ∧
    ∀ c ∈ f.type.allConstraints, (c.kind = .pattern → c.Answers) ∧ c.IsPrintable

variable {catalogs : Catalogs} {s : Schema}

theorem surveyed_of_declarative (declarative : ∀ t catalog, Reaches catalogs s t catalog → Declarative t) :
    Surveyed catalogs (Reaches catalogs s) :=
  surveyed_of_built fun t catalog reached => ⟨(declarative t catalog reached).built, (declarative t catalog reached).carries⟩

/-- Built schemas are settled, if their constraints can be told, nothing in their fields stops a run and no hook does. -/
theorem settled_of_built (surveyed : Surveyed catalogs (Reaches catalogs s))
    (built : ∀ t catalog, Reaches catalogs s t catalog → t.IsBuilt)
    (tellable : ∀ t catalog, Reaches catalogs s t catalog → ∀ f ∈ t.fields, ∀ c ∈ f.type.allConstraints, c.IsTellable)
    (smooth : ∀ t catalog, Reaches catalogs s t catalog → Smooth t)
    (hooks : ∀ t catalog, Reaches catalogs s t catalog → ∀ path around fields, (hookStages catalogs t {} path around fields).Returns) :
    Settled catalogs (Reaches catalogs s) where
  toEnclosed := surveyed.toEnclosed
  hooks := hooks
  constraints t catalog reached f member c inside := by
    have bounded := ((built t catalog reached).sound f member).bounded c inside
    obtain ⟨answers, printable⟩ := (smooth t catalog reached f member).2 c inside
    refine ⟨fun v => ?_, Constraint.violationText_returns bounded (tellable t catalog reached f member c inside) printable⟩
    by_cases search : c.kind = .pattern
    · exact (answers search v).failsOnly
    · exact bounded.failsOnly search v
  defaults t catalog reached f member := (smooth t catalog reached f member).1

theorem settled_of_smooth (declarative : ∀ t catalog, Reaches catalogs s t catalog → Declarative t)
    (smooth : ∀ t catalog, Reaches catalogs s t catalog → Smooth t) : Settled catalogs (Reaches catalogs s) :=
  settled_of_built (surveyed_of_declarative declarative) (fun t catalog reached => (declarative t catalog reached).built)
    (fun t catalog reached f member c inside => ((declarative t catalog reached).told f member c inside).tellable) smooth
    fun t catalog reached path around fields => ⟨_, hookStages_silent (declarative t catalog reached).silent path around fields⟩

/-- What comes out of the stages of the fields stands under the names of fields. -/
theorem fieldReport_keys {rounds : Nat} {scope : Scope} {path : Path} {entries : Entries} {fields : List Field} {report : FieldReport}
    (reported : fieldReport catalogs rounds scope path entries fields = .ok report) :
    ∀ e ∈ report.output, ∃ f ∈ fields, e.1 = f.name.toValue := by
  induction fields generalizing report with
  | nil =>
    rw [fieldReport] at reported
    cases reported
    exact List.forall_mem_nil _
  | cons f rest ih =>
    have extended {output : Entries} (others : ∀ e ∈ output, ∃ g ∈ rest, e.1 = g.name.toValue) (e : Value × Value)
        (member : e ∈ output) : ∃ g ∈ f :: rest, e.1 = g.name.toValue := by
      obtain ⟨g, inside, same⟩ := others e member
      exact ⟨g, List.mem_cons_of_mem _ inside, same⟩
    obtain ⟨v, c, remaining, -, -, rested, rfl⟩ | ⟨remaining, -, -, rested, rfl⟩ := fieldReport_cons_eq_ok.mp reported
    · have others := extended (ih rested)
      unfold FieldReport.withPresent
      split
      · exact List.forall_mem_cons.mpr ⟨⟨f, List.mem_cons_self, rfl⟩, others⟩
      · exact others
    · have others := extended (ih rested)
      cases f.default with
      | some v => exact List.forall_mem_cons.mpr ⟨⟨f, List.mem_cons_self, rfl⟩, others⟩
      | none =>
        simp only [FieldReport.withAbsent]
        split <;> exact others

theorem fieldStages_keys {rounds : Nat} {gaps : Gaps} {v : Value} {path : Path} {catalog : Option CatalogId} {fields : Entries}
    (found : fieldStages catalogs rounds s gaps v path catalog = .ok (.ok fields)) :
    ∀ e ∈ fields, ∃ f ∈ s.fields, e.1 = f.name.toValue := by
  obtain ⟨entries, left, report, unexpected, -, -, reported, -, rfl⟩ := report_of_fieldStages found
  intro e member
  obtain ⟨f, inside, key⟩ := fieldReport_keys reported e member
  exact ⟨f, (List.mem_filter.mp inside).1, key⟩

theorem run_keys {rounds : Nat} {v : Value} {path : Path} {catalog : Option CatalogId}
    (silent : s.crossFieldHooks = [] ∧ s.derivedHooks = []) {fields : Entries}
    (returned : run catalogs rounds s {} v path catalog = .ok (.ok fields)) :
    ∀ e ∈ fields, ∃ f ∈ s.fields, e.1 = f.name.toValue := by
  obtain ⟨found, crossed, fieldsFound, crossing, computing⟩ := stages_of_run returned
  rw [silent.1] at crossing
  rw [silent.2] at computing
  cases crossing
  cases computing
  exact fieldStages_keys fieldsFound

theorem decoded?_toValue (name : Name) : name.toValue.decoded? = some name.label := by
  cases name <;> rfl

theorem withTextKeys_of_texts {fields : Entries} (texts : ∀ e ∈ fields, e.1.decoded?.isSome = true) :
    withTextKeys fields = .ok (.ofPairs (fields.filterMap fun e => e.1.decoded?.map (.str ·, e.2))) := by
  unfold withTextKeys
  split
  next => rfl
  next some =>
    refine absurd (List.filterMap_eq_nil_iff.mpr fun e member => ?_) some
    obtain ⟨text, decoded⟩ := Option.isSome_iff_exists.mp (texts e member)
    have read : fieldName e.1 = .ok text := by simp [fieldName, Value.readText, decoded]; rfl
    simp only [read]

theorem pack_returns {layout : ContainerClass} (slots : layout.slots.map (·.field) = s.fields.map (·.name))
    {fields : Entries} (keys : ∀ e ∈ fields, ∃ f ∈ s.fields, e.1 = f.name.toValue) :
    ∃ container, layout.pack fields = .ok container := by
  unfold ContainerClass.pack
  split
  · exact ⟨_, rfl⟩
  next some =>
    refine absurd (List.filterMap_eq_nil_iff.mpr fun e member => ?_) some
    obtain ⟨f, inside, same⟩ := keys e member
    have listed : f.name ∈ layout.slots.map (·.field) := slots ▸ List.mem_map_of_mem inside
    obtain ⟨slot, present, named⟩ := List.mem_map.mp listed
    have known : layout.slots.any (fun slot => slot.field.label = f.name.label) = true :=
      List.any_eq_true.mpr ⟨slot, present, by simp [named]⟩
    simp only [ContainerClass.cause?, same, Value.str?_toValue, known, ite_true]

theorem accept_of_bare {fields data : Entries} (bare : s.container = none) (keyed : withTextKeys fields = .ok data) :
    accept s fields = .ok (.accepted data none) := by
  unfold accept
  simp only [bare, keyed]
  rfl

theorem accept_of_packed {layout : ContainerClass} {container : Container} {fields data : Entries} (laid : s.container = some layout)
    (packed : layout.pack fields = .ok container) (keyed : withTextKeys fields = .ok data) :
    accept s fields = .ok (.accepted data (some container)) := by
  unfold accept
  simp only [laid, packed, keyed]
  rfl

/-- What is accepted are the fields under text keys. -/
theorem data_of_accept {fields : Entries} {verdict : Verdict} (given : accept s fields = .ok verdict) :
    ∃ data container, verdict = .accepted data container ∧ withTextKeys fields = .ok data := by
  cases keyed : withTextKeys fields with
  | error causes =>
    simp only [accept, keyed] at given
    split at given
    next => cases given
    next => split at given <;> cases given
  | ok data =>
    cases laid : s.container with
    | none =>
      rw [accept_of_bare laid keyed] at given
      exact ⟨data, none, (Except.ok.inj given).symm, rfl⟩
    | some layout =>
      cases packed : layout.pack fields with
      | error causes =>
        simp only [accept, laid, packed] at given
        cases given
      | ok container =>
        rw [accept_of_packed laid packed keyed] at given
        exact ⟨data, some container, (Except.ok.inj given).symm, rfl⟩

/-- Data under the names of fields is accepted, and fits the container if there is one. -/
theorem accept_returns (built : s.IsBuilt) {fields : Entries} (keys : ∀ e ∈ fields, ∃ f ∈ s.fields, e.1 = f.name.toValue) :
    ∃ data container, accept s fields = .ok (.accepted data container) := by
  have texts : ∀ e ∈ fields, e.1.decoded?.isSome = true := by
    intro e member
    obtain ⟨f, -, same⟩ := keys e member
    rw [same, decoded?_toValue]
    rfl
  have keyed := withTextKeys_of_texts texts
  cases laid : s.container with
  | none => exact ⟨_, none, accept_of_bare laid keyed⟩
  | some layout =>
    obtain ⟨container, packed⟩ := pack_returns (built.slots laid) keys
    exact ⟨_, some container, accept_of_packed laid packed keyed⟩

/-- A verdict is acceptance exactly if the declarations ask for no more. -/
theorem accepted_iff (declarative : ∀ t catalog, Reaches catalogs s t catalog → Declarative t) {d : Value} {verdict : Verdict}
    (given : validate catalogs s d = .ok verdict) :
    (∃ data container, verdict = .accepted data container) ↔ Accepted catalogs s none d.unfolded := by
  have root := declarative s none .self
  obtain ⟨outcome, returned, given⟩ := Except.bind_eq_ok.mp given
  have decides : Decides True (∃ fields, outcome = .ok fields) (Accepted catalogs s none d.unfolded) :=
    run_decides (surveyed_of_declarative declarative) (fun _ t catalog reached => (declarative t catalog reached).silent)
      .self (Failing.ofFault_eq_ok.mp returned)
  cases outcome with
  | ok fields =>
    obtain ⟨data, container, accepted⟩ := accept_returns root.built (run_keys root.silent (Failing.ofFault_eq_ok.mp returned))
    change accept s fields = _ at given
    rw [accepted] at given
    cases given
    exact iff_of_true ⟨data, container, rfl⟩ (decides.1 ⟨fields, rfl⟩)
  | error violations =>
    cases given
    refine iff_of_false ?_ fun accepted => Except.error_not_ok _ (decides.2 trivial accepted)
    rintro ⟨_, _, impossible⟩
    cases impossible

/-- Where nothing in a schema stops a run, validation comes to a verdict unless the data stops it. -/
theorem validate_returns (declarative : ∀ t catalog, Reaches catalogs s t catalog → Declarative t)
    (smooth : ∀ t catalog, Reaches catalogs s t catalog → Smooth t) (d : Value) :
    (∃ verdict, validate catalogs s d = .ok verdict) ∨ ∃ fault, d.Stops fault ∧ validate catalogs s d = .error (.fault fault) := by
  have root := declarative s none .self
  have only := run_failsOnly (settled_of_smooth declarative smooth) Value.deepest .self d.unfolded []
  obtain ⟨outcome, returned⟩ | ⟨fault, stops, failed⟩ := only.returns_or
  · cases outcome with
    | ok fields =>
      obtain ⟨data, container, accepted⟩ := accept_returns root.built (run_keys root.silent returned)
      exact .inl ⟨_, (validate_of_fields returned).trans accepted⟩
    | error violations => exact .inl ⟨_, validate_of_violations returned⟩
  · exact .inr ⟨fault, stops.of_unfolded, validate_of_fault failed⟩

/-- Data is accepted exactly if the declarations ask for no more and validation comes to a verdict. It does unless
something in a schema that is reached can stop the run, or the data has no end or a key that cannot be written. -/
theorem validate_accepts_iff (declarative : ∀ t catalog, Reaches catalogs s t catalog → Declarative t) (d : Value) :
    ((∃ data container, validate catalogs s d = .ok (.accepted data container)) ↔
      Accepted catalogs s none d.unfolded ∧ ∃ verdict, validate catalogs s d = .ok verdict) ∧
    ((∀ t catalog, Reaches catalogs s t catalog → Smooth t) →
      (∃ verdict, validate catalogs s d = .ok verdict) ∨
        ∃ fault, d.Stops fault ∧ validate catalogs s d = .error (.fault fault)) := by
  refine ⟨⟨?_, ?_⟩, fun smooth => validate_returns declarative smooth d⟩
  · rintro ⟨data, container, accepted⟩
    exact ⟨(accepted_iff declarative accepted).mp ⟨data, container, rfl⟩, _, accepted⟩
  · rintro ⟨accepted, verdict, given⟩
    obtain ⟨data, container, rfl⟩ := (accepted_iff declarative given).mpr accepted
    exact ⟨data, container, given⟩

/-- Outlines: a label that is not empty, and further outlines below it. -/
def outline : Schema where
  serial := 1
  name := "Outline"
  fields := [
    { name := "label", type := .primitive .string [⟨.minLength, .int 1, .str "a label is needed"⟩], required := true,
      default := none, description := .null, examples := [], derived := false, extra := [] },
    { name := "below", type := .array (.ref "Outline" none) [], required := false, default := some (.list []),
      description := .null, examples := [], derived := false, extra := [] }]
  crossFieldHooks := []
  derivedHooks := []
  title := none
  description := none
  strict := true
  container := none
  catalog := none

theorem outline_built : outline.IsBuilt := by
  have assembly : Schema.Assembly {} {} 1
      (.list [
        .tuple [.str "label", .type (.primitive .string [⟨.minLength, .int 1, .str "a label is needed"⟩])],
        .tuple [.str "below", .type (.array (.ref "Outline" none) []), .map [(.str "default", .list [])]]])
      { name := "Outline", strict := true } outline :=
    ⟨_, outline.fields, [], [], rfl, by with_unfolding_all rfl, rfl, rfl, rfl⟩
  have below : checkSingle {} (.array (.ref "Outline" none) []) (.list []) (some outline) = .ok (.clean (.list [])) :=
    check_array_of_items rfl rfl checkItems_nil rfl
  have defaults : outline.requireDefaults {} outline.regularFields = .ok () := by
    show Failing.ofFault (checkSingle _ _ _ _) >>= _ = _
    rw [below]
    rfl
  exact ⟨_, _, _, _, _, assembly.build_eq rfl defaults rfl⟩

/-- What is wrong with the first outline below another one if it has an empty label. -/
def unlabelled : Violation where
  path := [.name "below", .index 0, .name "label"]
  kind := .constraintViolated
  message := "a label is needed"
  constraint := some "min_length"

theorem outline_declarative (t : Schema) (catalog : Option CatalogId) (reached : Reaches {} outline t catalog) :
    Declarative t := by
  have references : outline.references = [(.text "Outline", none)] := rfl
  have itself : t = outline := by
    induction reached with
    | self => rfl
    | next _ member resolved ih =>
      subst ih
      rw [references] at member
      cases List.mem_singleton.mp member
      cases resolved
      rfl
  subst itself
  refine ⟨outline_built, fun name target member => ?_, ⟨rfl, rfl⟩, fun f member c inside => ?_⟩
  · rw [references] at member
    cases List.mem_singleton.mp member
  · have told : ∀ f ∈ outline.fields, ∀ c ∈ f.type.allConstraints, c.message = .str "a label is needed" := by
      simp [outline, SchemaType.allConstraints]
    rw [Constraint.IsTold, told f member c inside]
    exact .inr rfl

/-- The type of labels. -/
def labelType : SchemaType := .primitive .string [⟨.minLength, .int 1, .str "a label is needed"⟩]

theorem label_fits : check {} (.full Value.deepest) ⟨some outline, none⟩ labelType (.str "top") [.name "label"] =
    .ok (.clean (.str "top")) :=
  check_primitive_eq_ok.mpr (.inr ⟨rfl, [], by with_unfolding_all rfl, rfl⟩)

theorem label_lacking : check {} (.full Value.deepest) ⟨some outline, none⟩ labelType (.str "") unlabelled.path =
    .ok ⟨.str "", [unlabelled]⟩ :=
  check_primitive_eq_ok.mpr (.inr ⟨rfl, _, (ownViolations_unmet rfl _ _).trans rfl, rfl⟩)

theorem outline_rejected :
    validate {} outline (.map [(.str "label", .str "top"), (.str "below", .list [.map [(.str "label", .str "")]])]) =
      .ok (.rejected [unlabelled]) := by
  have inner : run {} Value.deepest outline {} (.map [(.str "label", .str "")]) [.name "below", .index 0] none =
      .ok (.error [unlabelled]) :=
    run_of_report rfl (fieldReport_of_present rfl label_lacking (fieldReport_of_absent rfl rfl fieldReport_nil)) rfl rfl
  have nested : check {} (.full Value.deepest) ⟨some outline, none⟩ (.ref "Outline" none) (.map [(.str "label", .str "")])
      [.name "below", .index 0] = .ok ⟨.null, [unlabelled]⟩ :=
    check_ref_of_run rfl rfl rfl inner rfl
  have below : check {} (.full Value.deepest) ⟨some outline, none⟩ (.array (.ref "Outline" none) [])
      (.list [.map [(.str "label", .str "")]]) [.name "below"] = .ok ⟨.list [.null], [unlabelled]⟩ :=
    check_array_of_items rfl rfl (checkItems_of_cons nested checkItems_nil) rfl
  exact validate_of_violations <| run_of_report rfl
    (fieldReport_of_present rfl label_fits (fieldReport_of_present rfl below fieldReport_nil)) rfl rfl

/-- An empty label further down is found, and no other reading of the declarations would accept it. -/
theorem outline_refuses :
    (∀ t catalog, Reaches {} outline t catalog → Declarative t) ∧
    validate {} outline (.map [(.str "label", .str "top"), (.str "below", .list [.map [(.str "label", .str "")]])]) =
      .ok (.rejected [{ path := [.name "below", .index 0, .name "label"], kind := .constraintViolated,
                        message := "a label is needed", constraint := some "min_length" }]) ∧
    ¬ Accepted {} outline none
      (.map [(.str "label", .str "top"), (.str "below", .list [.map [(.str "label", .str "")]])]) := by
  refine ⟨outline_declarative, outline_rejected, fun accepted => ?_⟩
  obtain ⟨data, container, impossible⟩ := (validate_accepts_iff outline_declarative
    (.map [(.str "label", .str "top"), (.str "below", .list [.map [(.str "label", .str "")]])])).1.mpr
      ⟨accepted, _, outline_rejected⟩
  rw [outline_rejected] at impossible
  cases impossible

/-- Limits by name; none unless they are given. -/
def limits : Schema where
  serial := 1
  name := "Limits"
  fields := [
    { name := "limits", type := .map (.primitive .string []) (.primitive .integer []) [], required := false,
      default := some (.view []), description := .null, examples := [], derived := false, extra := [] }]
  crossFieldHooks := []
  derivedHooks := []
  title := none
  description := none
  strict := false
  container := none
  catalog := none

theorem limits_built : limits.IsBuilt := by
  have assembly : Schema.Assembly {} {} 1
      (.list [.tuple [
        .str "limits", .type (.map (.primitive .string []) (.primitive .integer []) []),
        .map [(.str "default", .view [])]]])
      { name := "Limits" } limits :=
    ⟨_, limits.fields, [], [], rfl, by with_unfolding_all rfl, rfl, rfl, rfl⟩
  have whole : checkSingle {} (.map (.primitive .string []) (.primitive .integer []) []) (.view []) (some limits) =
      .ok (.clean (.map [])) :=
    check_map_eq_ok.mpr (.inr ⟨[], [], ([], []), rfl, rfl, checkEntries_nil, rfl⟩)
  have defaults : limits.requireDefaults {} limits.regularFields = .ok () := by
    show Failing.ofFault (checkSingle _ _ _ _) >>= _ = _
    rw [whole]
    rfl
  exact ⟨_, _, _, _, _, assembly.build_eq rfl defaults rfl⟩

/-- A view is a sound default for a map, but it cannot be copied: an empty map is all that the
declarations ask for, and its validation ends with a fault. -/
theorem uncopyable_default :
    (∀ t catalog, Reaches {} limits t catalog → Declarative t) ∧ Accepted {} limits none (.map []) ∧
      validate {} limits (.map []) = .error (.fault .wrongType) := by
  have references : limits.references = [] := rfl
  have failed : run {} Value.deepest limits {} (.map []) [] none = .error .wrongType := by
    rw [run_eq_stages]
    show (fieldReport _ _ _ _ _ [_] >>= _) >>= _ = _
    rw [fieldReport_absent rfl]
    rfl
  refine ⟨fun t catalog reached => ?_, ?_, validate_of_fault failed⟩
  · have itself : t = limits := by
      induction reached with
      | self => rfl
      | next _ member _ ih =>
        subst ih
        rw [references] at member
        cases member
    subst itself
    refine ⟨limits_built, fun name target member => ?_, ⟨rfl, rfl⟩, fun f member c inside => ?_⟩
    · rw [references] at member
      cases member
    · have none : ∀ f ∈ limits.fields, f.type.allConstraints = [] := by simp [limits, SchemaType.allConstraints]
      rw [none f member] at inside
      cases inside
  · have optional : ∀ f ∈ limits.regularFields, f.required = false := by simp [limits, Schema.regularFields]
    refine .intro rfl (fun f member required => ?_) (fun f member w present => ?_) (fun strict => ?_)
    · rw [optional f member] at required
      cases required
    · cases present
    · cases strict

end RecordSchema.Proofs.Verdicts
