import Mathlib.Data.List.Forall2
import RecordSchema.Proofs.BuiltTypes
import RecordSchema.Proofs.Outcome
import RecordSchema.Proofs.References

/-! What building guarantees of a schema. -/

theorem List.Forall₂.exists_of_mem_right {α β : Type} {R : α → β → Prop} {as : List α} {bs : List β}
    (all : List.Forall₂ R as bs) {b : β} (member : b ∈ bs) : ∃ a ∈ as, R a b := by
  induction all with
  | nil => cases member
  | cons first _ ih =>
    obtain rfl | later := List.mem_cons.mp member
    · exact ⟨_, List.mem_cons_self, first⟩
    · obtain ⟨a, inside, related⟩ := ih later
      exact ⟨a, List.mem_cons_of_mem _ inside, related⟩

namespace RecordSchema

theorem Failing.ofFault_eq_ok {ε α : Type} {x : Except Fault α} {a : α} :
    Failing.ofFault (ε := ε) x = .ok a ↔ x = .ok a := by
  cases x with
  | error fault => exact ⟨fun impossible => (nomatch impossible), fun impossible => nomatch impossible⟩
  | ok b => exact ⟨fun same => congrArg _ (Except.ok.inj same), fun same => congrArg _ (Except.ok.inj same)⟩

namespace Declaration

theorem normalized_of_type {declared : Declared} {e constraints messages : Expr} {t : SchemaType}
    (made : Declaration.type declared e constraints messages = .ok t) :
    SchemaType.normalize e constraints messages = .ok t := by
  unfold Declaration.type at made
  cases read : SchemaType.normalize e constraints messages with
  | error reason => rw [read] at made; cases made
  | ok u => rw [read] at made; cases made; rfl

/-- A field that is required has no default, and its type can be checked. -/
structure Sound (f : Field) : Prop where
  bounded : f.type.Bounded
  noDefault : f.required = true → f.default = none

/-- What is made of a name and of an expression for a type: constraints and messages for the type come from options. -/
structure Makes (name : Name) (type : Expr) (f : Field) : Prop where
  named : f.name = name
  typed : ∃ constraints messages, SchemaType.normalize type constraints messages = .ok f.type
  noDefault : f.required = true → f.default = none

theorem Makes.sound {name : Name} {type : Expr} {f : Field} (made : Makes name type f) : Sound f := by
  obtain ⟨constraints, messages, read⟩ := made.typed
  exact ⟨SchemaType.normalize_bounded read, made.noDefault⟩

theorem field_made {name : Name} {type : Expr} {given : List (Expr × Expr)} {f : Field}
    (made : field name type given = .ok f) : Makes name type f ∧ f.derived = false := by
  obtain ⟨options, -, made⟩ := Except.bind_eq_ok.mp made
  obtain ⟨t, read, made⟩ := Except.bind_eq_ok.mp made
  obtain ⟨-, made⟩ := Except.guard_eq_ok.mp made
  obtain ⟨apart, made⟩ := Except.guard_eq_ok.mp made
  obtain ⟨examples, -, made⟩ := Except.bind_eq_ok.mp made
  obtain ⟨extra, -, same⟩ := Except.bind_eq_ok.mp made
  cases same
  refine ⟨⟨rfl, ⟨_, _, normalized_of_type read⟩, fun required => ?_⟩, rfl⟩
  cases given : options.option? "default" with
  | none => rfl
  | some e => exact absurd (Bool.and_eq_true_iff.mpr ⟨required, by rw [given]; rfl⟩) apart

/-- A definition, with its position, and the field that is made of it. -/
def Declares (definition : Expr × Nat) (f : Field) : Prop :=
  ∃ name type given, parts definition.2 definition.1 = .ok (name, type, given) ∧ field name type given = .ok f

theorem Declares.made {definition : Expr × Nat} {f : Field} (declares : Declares definition f) :
    ∃ name type given, parts definition.2 definition.1 = .ok (name, type, given) ∧ Makes name type f ∧ f.derived = false := by
  obtain ⟨name, type, given, read, made⟩ := declares
  exact ⟨name, type, given, read, field_made made⟩

/-- Each definition gives its field, in order. -/
theorem fields_declared {schema : String} {taken : List String} {position : Nat} {items : List Expr} {fs : List Field}
    (made : fields schema taken position items = .ok fs) : List.Forall₂ Declares (items.zipIdx position) fs := by
  induction items generalizing taken position fs with
  | nil =>
    cases made
    exact .nil
  | cons definition rest ih =>
    rw [fields] at made
    obtain ⟨⟨name, type, given⟩, read, made⟩ := Except.bind_eq_ok.mp made
    obtain ⟨-, made⟩ := Except.guard_eq_ok.mp made
    obtain ⟨f, first, made⟩ := Except.bind_eq_ok.mp made
    obtain ⟨others, remaining, same⟩ := Except.bind_eq_ok.mp made
    cases same
    exact .cons ⟨name, type, given, read, first⟩ (ih remaining)

/-- A name that is free, before names that are different and neither taken nor this one. -/
theorem distinct_cons {α : Type} (label : α → String) {x : α} {rest : List α} {taken : List String}
    (free : label x ∉ taken) (others : (rest.map label).Nodup ∧ ∀ y ∈ rest, label y ∉ label x :: taken) :
    ((x :: rest).map label).Nodup ∧ ∀ y ∈ x :: rest, label y ∉ taken := by
  obtain ⟨distinct, untaken⟩ := others
  refine ⟨List.nodup_cons.mpr ⟨fun repeated => ?_, distinct⟩, List.forall_mem_cons.mpr ⟨free, fun y member known => ?_⟩⟩
  · obtain ⟨y, member, same⟩ := List.mem_map.mp repeated
    exact untaken y member (same ▸ List.mem_cons_self)
  · exact untaken y member (List.mem_cons_of_mem _ known)

/-- No two fields have one name, and none has a name that was taken before. -/
theorem fields_distinct {schema : String} {taken : List String} {position : Nat} {items : List Expr} {fs : List Field}
    (made : fields schema taken position items = .ok fs) :
    (fs.map (·.name.label)).Nodup ∧ ∀ f ∈ fs, f.name.label ∉ taken := by
  induction items generalizing taken position fs with
  | nil =>
    cases made
    exact ⟨List.nodup_nil, List.forall_mem_nil _⟩
  | cons definition rest ih =>
    rw [fields] at made
    obtain ⟨⟨name, type, given⟩, -, made⟩ := Except.bind_eq_ok.mp made
    obtain ⟨free, made⟩ := Except.guard_eq_ok.mp made
    obtain ⟨f, first, made⟩ := Except.bind_eq_ok.mp made
    obtain ⟨others, remaining, same⟩ := Except.bind_eq_ok.mp made
    cases same
    obtain ⟨⟨rfl, -, -⟩, -⟩ := field_made first
    exact distinct_cons (fun f : Field => f.name.label) (by simpa using free) (ih remaining)

/-- A derived field is computed by the hook that names it. -/
theorem derivedField_made {d : DerivedDeclaration} {modules : Modules} {schema : String} {namespaceOf : Expr}
    {position : Nat} {built : Field × PlacedHook} (made : d.build modules schema namespaceOf position = .ok built) :
    Makes d.name d.type built.1 ∧ (built.1.derived = true ∧ built.1.required = false ∧ built.1.default = none) ∧
      built.2.fieldName = some d.name := by
  obtain ⟨t, read, made⟩ := Except.bind_eq_ok.mp made
  cases listed : d.examples.toValue.elements? with
  | none => rw [listed] at made; cases made
  | some examples =>
    rw [listed] at made
    obtain ⟨_, -, made⟩ := Except.bind_eq_ok.mp made
    obtain ⟨extra, -, made⟩ := Except.bind_eq_ok.mp made
    obtain ⟨hook, -, same⟩ := Except.bind_eq_ok.mp made
    cases same
    exact ⟨⟨rfl, ⟨_, _, normalized_of_type read⟩, fun impossible => nomatch impossible⟩, ⟨rfl, rfl, rfl⟩, rfl⟩

/-- A declaration, with its position, and the derived field and the hook that are made of it. -/
def DeclaresDerived (modules : Modules) (schema : String) (namespaceOf : Expr) (declaration : Expr × Nat)
    (built : Field × PlacedHook) : Prop :=
  ∃ d, DerivedDeclaration.ofExpr declaration.2 declaration.1 = .ok d ∧
    d.build modules schema namespaceOf declaration.2 = .ok built

/-- Each declaration gives its field and its hook, in order. -/
theorem derivedFields_declared {modules : Modules} {schema : String} {namespaceOf : Expr} {taken : List String}
    {position : Nat} {items : List Expr} {built : List (Field × PlacedHook)}
    (made : derivedFields modules schema namespaceOf taken position items = .ok built) :
    List.Forall₂ (DeclaresDerived modules schema namespaceOf) (items.zipIdx position) built := by
  induction items generalizing taken position built with
  | nil =>
    cases made
    exact .nil
  | cons e rest ih =>
    rw [derivedFields] at made
    obtain ⟨d, read, made⟩ := Except.bind_eq_ok.mp made
    obtain ⟨-, made⟩ := Except.guard_eq_ok.mp made
    obtain ⟨first, computed, made⟩ := Except.bind_eq_ok.mp made
    obtain ⟨others, remaining, same⟩ := Except.bind_eq_ok.mp made
    cases same
    exact .cons ⟨d, read, computed⟩ (ih remaining)

theorem derivedFields_distinct {modules : Modules} {schema : String} {namespaceOf : Expr} {taken : List String}
    {position : Nat} {items : List Expr} {built : List (Field × PlacedHook)}
    (made : derivedFields modules schema namespaceOf taken position items = .ok built) :
    (built.map (·.1.name.label)).Nodup ∧ ∀ pair ∈ built, pair.1.name.label ∉ taken := by
  induction items generalizing taken position built with
  | nil =>
    cases made
    exact ⟨List.nodup_nil, List.forall_mem_nil _⟩
  | cons e rest ih =>
    rw [derivedFields] at made
    obtain ⟨d, -, made⟩ := Except.bind_eq_ok.mp made
    obtain ⟨free, made⟩ := Except.guard_eq_ok.mp made
    obtain ⟨first, computed, made⟩ := Except.bind_eq_ok.mp made
    obtain ⟨others, remaining, same⟩ := Except.bind_eq_ok.mp made
    cases same
    rw [← (derivedField_made computed).1.named] at free remaining
    exact distinct_cons (fun pair : Field × PlacedHook => pair.1.name.label) (by simpa using free) (ih remaining)

end Declaration

theorem ContainerClass.assign_fields (index : Nat) (taken : List String) (fields : List (Name × Value)) :
    (assign index taken fields).map (·.field) = fields.map Prod.fst := by
  induction fields generalizing index taken with
  | nil => rfl
  | cons first rest ih => exact congrArg _ (ih _ _)

/-- A container is refused for no other reason than a label that stands for its settings, or a null character in its name. -/
theorem ContainerClass.ofFields_eq_ok {name : String} {fields : List (Name × Value)} {layout : ContainerClass} :
    ofFields name fields = .ok layout ↔
      layout = ⟨name, assign 0 [] fields⟩ ∧ (∀ slot ∈ assign 0 [] fields, slot.label ≠ settingsLabel) ∧ '\x00' ∉ name.toList := by
  unfold ofFields
  by_cases settings : (assign 0 [] fields).any (·.label = settingsLabel) = true
  · refine iff_of_false (fun impossible => ?_) fun ⟨_, free, _⟩ => ?_
    · rw [if_pos settings] at impossible
      cases impossible
    · obtain ⟨slot, member, same⟩ := List.any_eq_true.mp settings
      exact free slot member (of_decide_eq_true same)
  · have free : ∀ slot ∈ assign 0 [] fields, slot.label ≠ settingsLabel :=
      fun slot member same => settings (List.any_eq_true.mpr ⟨slot, member, decide_eq_true same⟩)
    rw [if_neg settings]
    by_cases null : '\x00' ∈ name.toList
    · rw [if_pos (List.contains_iff_mem.mpr null)]
      exact iff_of_false (fun impossible => nomatch impossible) fun ⟨_, _, absent⟩ => absent null
    · rw [if_neg fun here => null (List.contains_iff_mem.mp here)]
      exact ⟨fun same => ⟨(Except.ok.inj same).symm, free, null⟩, fun ⟨same, _⟩ => congrArg _ same.symm⟩

namespace Schema

/-- The schema before it has a container, with the parts that were read from the declarations. -/
structure Assembly (catalogs : Catalogs) (modules : Modules) (serial : Nat) (definitions : Expr)
    (options : SchemaOptions) (s : Schema) where
  items : List Expr
  regular : List Field
  hooks : List PlacedHook
  derived : List (Field × PlacedHook)
  listed : definitions.elements? = some items
  readFields : Declaration.fields options.name [] 1 items = .ok regular
  readHooks : Declaration.crossFieldHooks modules options.name options.hookNamespace 1
    options.crossFieldHooks = .ok hooks
  readDerived : Declaration.derivedFields modules options.name options.hookNamespace
    (regular.map (·.name.label)) 1 options.derivedFields = .ok derived
  assembled : s =
    { serial, name := options.name, fields := regular ++ derived.map Prod.fst,
      crossFieldHooks := hooks, derivedHooks := derived.map Prod.snd, title := options.title,
      description := options.description, strict := options.strict, container := none,
      catalog := options.catalog }

/-- A built schema is an assembly that passed the checks of references and defaults, with a
container if one was asked for. -/
theorem build_eq_ok {catalogs : Catalogs} {modules : Modules} {serial : Nat} {definitions : Expr}
    {options : SchemaOptions} {s : Schema}
    (built : build catalogs modules serial definitions options = .ok s) :
    ∃ base, Nonempty (Assembly catalogs modules serial definitions options base) ∧
      base.requireReferences catalogs = .ok () ∧
      base.requireDefaults catalogs base.regularFields = .ok () ∧
      (s = base ∨ ∃ layout, base.containerClass base.name = .ok layout ∧
        s = { base with container := some layout }) := by
  rw [build] at built
  cases listed : definitions.elements? with
  | none => rw [listed] at built; cases built
  | some items =>
    rw [listed] at built
    change (Declaration.fields options.name [] 1 items >>= _) = _ at built
    obtain ⟨regular, readFields, built⟩ := Except.bind_eq_ok.mp built
    obtain ⟨hooks, readHooks, built⟩ := Except.bind_eq_ok.mp built
    obtain ⟨derived, readDerived, built⟩ := Except.bind_eq_ok.mp built
    obtain ⟨_, references, built⟩ := Except.bind_eq_ok.mp built
    obtain ⟨_, defaults, built⟩ := Except.bind_eq_ok.mp built
    refine ⟨_, ⟨⟨items, regular, hooks, derived, listed, readFields, readHooks, readDerived, rfl⟩⟩,
      references, defaults, ?_⟩
    split at built
    · obtain ⟨layout, laid, same⟩ := Except.bind_eq_ok.mp built
      exact .inr ⟨layout, Failing.ofFault_eq_ok.mp laid, (Except.ok.inj same).symm⟩
    · exact .inl (Except.ok.inj built).symm

/-- Defaults that are let through are found clean. -/
theorem requireDefaults_checked {catalogs : Catalogs} {s : Schema} {fields : List Field}
    (passed : s.requireDefaults catalogs fields = .ok ()) :
    ∀ f ∈ fields, ∀ v, f.default = some v → ∃ w, Validation.checkSingle catalogs f.type v (some s) = .ok ⟨w, []⟩ := by
  induction fields with
  | nil => exact List.forall_mem_nil _
  | cons f rest ih =>
    rw [requireDefaults] at passed
    cases given : f.default with
    | none =>
      rw [given] at passed
      refine List.forall_mem_cons.mpr ⟨fun v other => ?_, ih passed⟩
      rw [given] at other
      cases other
    | some default =>
      rw [given] at passed
      obtain ⟨c, checked, passed⟩ := Except.bind_eq_ok.mp passed
      obtain ⟨clean, passed⟩ := Except.guard_eq_ok.mp passed
      refine List.forall_mem_cons.mpr ⟨fun v same => ?_, ih passed⟩
      cases given.symm.trans same
      obtain ⟨w, violations⟩ := c
      have none : violations = [] := by simpa [Checked.isClean] using clean
      subst none
      exact ⟨w, Failing.ofFault_eq_ok.mp checked⟩

/-- Some declarations build the schema. -/
def IsBuilt (s : Schema) : Prop :=
  ∃ catalogs modules serial definitions options, build catalogs modules serial definitions options = .ok s

/-- A built schema, in which references carry built schemas only, at any depth. -/
inductive WellBuilt : Schema → Prop where
  | intro {s : Schema} (built : s.IsBuilt)
      (carriesSchemas : ∀ name target, (name, some target) ∈ s.references → ∃ t, target = .schema t)
      (carried : ∀ name t, (name, some (.schema t)) ∈ s.references → WellBuilt t) : WellBuilt s

/-- An assembly that passes the checks is built, with a container if one is asked for. -/
theorem Assembly.build_eq_ite {catalogs : Catalogs} {modules : Modules} {serial : Nat} {definitions : Expr}
    {options : SchemaOptions} {s : Schema} (assembly : Assembly catalogs modules serial definitions options s)
    (references : s.requireReferences catalogs = .ok ()) (defaults : s.requireDefaults catalogs s.regularFields = .ok ()) :
    build catalogs modules serial definitions options =
      if options.materialize then do return { s with container := some (← Failing.ofFault (s.containerClass s.name)) }
      else .ok s := by
  obtain ⟨items, regular, hooks, derived, listed, readFields, readHooks, readDerived, rfl⟩ := assembly
  rw [build, listed]
  change (Declaration.fields options.name [] 1 items >>= _) = _
  rw [readFields]
  change (Declaration.crossFieldHooks modules options.name options.hookNamespace 1 options.crossFieldHooks >>= _) = _
  rw [readHooks]
  change (Declaration.derivedFields modules options.name options.hookNamespace _ 1 options.derivedFields >>= _) = _
  rw [readDerived]
  change (requireReferences catalogs _ >>= _) = _
  rw [references]
  change (requireDefaults catalogs _ _ >>= _) = _
  rw [defaults]
  rfl

theorem Assembly.build_eq {catalogs : Catalogs} {modules : Modules} {serial : Nat} {definitions : Expr}
    {options : SchemaOptions} {s : Schema} (assembly : Assembly catalogs modules serial definitions options s)
    (references : s.requireReferences catalogs = .ok ()) (defaults : s.requireDefaults catalogs s.regularFields = .ok ())
    (plain : options.materialize = false) : build catalogs modules serial definitions options = .ok s := by
  rw [assembly.build_eq_ite references defaults, if_neg (by rw [plain]; exact Bool.false_ne_true)]

theorem Assembly.build_eq_laid {catalogs : Catalogs} {modules : Modules} {serial : Nat} {definitions : Expr}
    {options : SchemaOptions} {s : Schema} (assembly : Assembly catalogs modules serial definitions options s)
    (references : s.requireReferences catalogs = .ok ()) (defaults : s.requireDefaults catalogs s.regularFields = .ok ())
    (materialized : options.materialize = true) {layout : ContainerClass} (laid : s.containerClass s.name = .ok layout) :
    build catalogs modules serial definitions options = .ok { s with container := some layout } := by
  rw [assembly.build_eq_ite references defaults, if_pos materialized, laid]
  rfl

namespace Assembly

variable {catalogs : Catalogs} {modules : Modules} {serial : Nat} {definitions : Expr} {options : SchemaOptions} {s : Schema}

theorem fields_eq (assembly : Assembly catalogs modules serial definitions options s) :
    s.fields = assembly.regular ++ assembly.derived.map Prod.fst := congrArg fields assembly.assembled

theorem regular_made (assembly : Assembly catalogs modules serial definitions options s) {f : Field}
    (member : f ∈ assembly.regular) : (∃ name type, Declaration.Makes name type f) ∧ f.derived = false := by
  obtain ⟨definition, -, declares⟩ := (Declaration.fields_declared assembly.readFields).exists_of_mem_right member
  obtain ⟨name, type, -, -, made, derived⟩ := declares.made
  exact ⟨⟨name, type, made⟩, derived⟩

theorem derived_made (assembly : Assembly catalogs modules serial definitions options s) {pair : Field × PlacedHook}
    (member : pair ∈ assembly.derived) :
    (∃ name type, Declaration.Makes name type pair.1) ∧
      (pair.1.derived = true ∧ pair.1.required = false ∧ pair.1.default = none) ∧ pair.2.fieldName = some pair.1.name := by
  obtain ⟨declaration, -, d, -, built⟩ := (Declaration.derivedFields_declared assembly.readDerived).exists_of_mem_right member
  obtain ⟨made, computed, field⟩ := Declaration.derivedField_made built
  exact ⟨⟨_, _, made⟩, computed, made.named ▸ field⟩

theorem regularFields_eq (assembly : Assembly catalogs modules serial definitions options s) :
    s.regularFields = assembly.regular := by
  rw [regularFields, assembly.fields_eq, List.filter_append,
    List.filter_eq_self.mpr fun f member => by simp [(assembly.regular_made member).2],
    List.filter_eq_nil_iff.mpr (List.forall_mem_map.mpr fun pair member => by simp [(assembly.derived_made member).2.1.1]),
    List.append_nil]

theorem derivedFields_eq (assembly : Assembly catalogs modules serial definitions options s) :
    s.derivedFields = assembly.derived.map Prod.fst := by
  rw [derivedFields, assembly.fields_eq, List.filter_append,
    List.filter_eq_nil_iff.mpr fun f member => by simp [(assembly.regular_made member).2],
    List.filter_eq_self.mpr (List.forall_mem_map.mpr fun pair member => (assembly.derived_made member).2.1.1), List.nil_append]

theorem derivedHooks_eq (assembly : Assembly catalogs modules serial definitions options s) :
    s.derivedHooks = assembly.derived.map Prod.snd := congrArg derivedHooks assembly.assembled

theorem made (assembly : Assembly catalogs modules serial definitions options s) {f : Field} (member : f ∈ s.fields) :
    ∃ name type, Declaration.Makes name type f := by
  rw [assembly.fields_eq] at member
  obtain regular | derived := List.mem_append.mp member
  · exact (assembly.regular_made regular).1
  · obtain ⟨pair, inside, rfl⟩ := List.mem_map.mp derived
    exact (assembly.derived_made inside).1

theorem distinct (assembly : Assembly catalogs modules serial definitions options s) :
    (s.fields.map (·.name.label)).Nodup := by
  obtain ⟨declared, -⟩ := Declaration.fields_distinct assembly.readFields
  obtain ⟨computed, untaken⟩ := Declaration.derivedFields_distinct assembly.readDerived
  rw [assembly.fields_eq, List.map_append, List.map_map]
  refine List.nodup_append.mpr ⟨declared, computed, fun label before other later same => ?_⟩
  obtain ⟨pair, member, rfl⟩ := List.mem_map.mp later
  subst same
  exact untaken pair member before

theorem parts (assembly : Assembly catalogs modules serial definitions options s) :
    s.fields = s.regularFields ++ s.derivedFields ∧
      s.derivedHooks.map (·.fieldName) = s.derivedFields.map fun f => some f.name := by
  rw [assembly.regularFields_eq, assembly.derivedFields_eq, assembly.fields_eq, assembly.derivedHooks_eq, List.map_map,
    List.map_map]
  exact ⟨rfl, List.map_congr_left fun pair member => (assembly.derived_made member).2.2⟩

end Assembly

theorem IsBuilt.sound {s : Schema} (built : s.IsBuilt) : ∀ f ∈ s.fields, Declaration.Sound f := by
  obtain ⟨catalogs, modules, serial, definitions, options, built⟩ := built
  obtain ⟨base, ⟨assembly⟩, -, -, same⟩ := build_eq_ok built
  have fields : s.fields = base.fields := by obtain rfl | ⟨layout, -, rfl⟩ := same <;> rfl
  rw [fields]
  intro f member
  obtain ⟨name, type, made⟩ := assembly.made member
  exact made.sound

/-- The fields of a built schema have different names. -/
theorem IsBuilt.distinct {s : Schema} (built : s.IsBuilt) : (s.fields.map (·.name.label)).Nodup := by
  obtain ⟨catalogs, modules, serial, definitions, options, built⟩ := built
  obtain ⟨base, ⟨assembly⟩, -, -, same⟩ := build_eq_ok built
  obtain rfl | ⟨layout, -, rfl⟩ := same <;> exact assembly.distinct

/-- The regular fields of a built schema stand before the derived ones, and its derived hooks are those of the derived
fields, in order. -/
theorem IsBuilt.parts {s : Schema} (built : s.IsBuilt) :
    s.fields = s.regularFields ++ s.derivedFields ∧ s.derivedHooks.map (·.fieldName) = s.derivedFields.map fun f => some f.name := by
  obtain ⟨catalogs, modules, serial, definitions, options, built⟩ := built
  obtain ⟨base, ⟨assembly⟩, -, -, same⟩ := build_eq_ok built
  obtain rfl | ⟨layout, -, rfl⟩ := same <;> exact assembly.parts

/-- The attributes for the fields of a schema, whether it has a container or not. -/
def attributes (s : Schema) : List Slot := ContainerClass.assign 0 [] (s.fields.map fun f => (f.name, f.description))

/-- The container of a built schema is laid out for its fields. -/
theorem IsBuilt.layout {s : Schema} (built : s.IsBuilt) {layout : ContainerClass} (laid : s.container = some layout) :
    layout.slots = s.attributes := by
  obtain ⟨catalogs, modules, serial, definitions, options, built⟩ := built
  obtain ⟨base, ⟨assembly⟩, -, -, same⟩ := build_eq_ok built
  obtain rfl | ⟨_, made, rfl⟩ := same
  · rw [assembly.assembled] at laid
    cases laid
  · cases laid
    rw [(ContainerClass.ofFields_eq_ok.mp made).1]
    rfl

theorem IsBuilt.slots {s : Schema} (built : s.IsBuilt) {layout : ContainerClass} (laid : s.container = some layout) :
    layout.slots.map (·.field) = s.fields.map (·.name) := by
  rw [built.layout laid, attributes, ContainerClass.assign_fields, List.map_map]
  rfl

/-- References are let through that lead somewhere, or that are left to a catalog. -/
theorem requireReferences_eq_ok {catalogs : Catalogs} {s : Schema} : s.requireReferences catalogs = .ok () ↔
    ∀ r ∈ s.references, (Scope.lookup? catalogs ⟨some s, none⟩ r.1 r.2).isSome = true ∨ s.catalog.isSome = true := by
  rw [requireReferences]
  split
  next name target lost =>
    refine iff_of_false nofun fun resolved => ?_
    have found := resolved _ (List.mem_of_find?_eq_some lost)
    have missing := List.find?_some lost
    revert found missing
    cases Scope.lookup? catalogs ⟨some s, none⟩ name target <;> cases s.catalog <;> simp
  next none =>
    refine iff_of_true rfl fun r member => ?_
    have found := List.find?_eq_none.mp none r member
    revert found
    cases Scope.lookup? catalogs ⟨some s, .none⟩ r.1 r.2 <;> cases s.catalog <;> simp

/-- Without a catalog, every reference of a built schema carries its target or names the schema. -/
theorem IsBuilt.references_closed {s : Schema} (built : s.IsBuilt) (alone : s.catalog = none)
    {r : Name × Option Target} (member : r ∈ s.references) : r.2.isSome ∨ s.name = r.1.label := by
  obtain ⟨catalogs, modules, serial, definitions, options, built⟩ := built
  obtain ⟨base, -, resolved, -, same⟩ := build_eq_ok built
  have parts : s.references = base.references ∧ s.name = base.name ∧ s.catalog = base.catalog := by
    obtain rfl | ⟨layout, -, rfl⟩ := same <;> exact ⟨rfl, rfl, rfl⟩
  rw [parts.2.2] at alone
  rw [parts.1] at member
  rw [parts.2.1]
  obtain found | cataloged := requireReferences_eq_ok.mp resolved r member
  · obtain ⟨name, target⟩ := r
    cases target with
    | some target => exact .inl rfl
    | none =>
      refine .inr (Decidable.byContradiction fun other => ?_)
      simp [Scope.lookup?, Scope.named?, Scope.inCatalog?, alone, other] at found
  · rw [alone] at cataloged
    cases cataloged

/-- Without a catalog, references of a built schema lead to the schema itself or to one that it carries, whatever
catalog is around. -/
theorem IsBuilt.lookup?_alone {s : Schema} (built : s.IsBuilt) (alone : s.catalog = none)
    (carries : ∀ name target, (name, some target) ∈ s.references → ∃ t, target = .schema t)
    {r : Name × Option Target} (member : r ∈ s.references) (catalogs : Catalogs) (catalog : Option CatalogId) :
    ∃ t, Scope.lookup? catalogs ⟨some s, catalog⟩ r.1 r.2 = some (.schema t) ∧
      (t = s ∨ (r.1, some (.schema t)) ∈ s.references) := by
  have closed := built.references_closed alone member
  obtain ⟨name, target⟩ := r
  cases target with
  | some target =>
    obtain ⟨t, rfl⟩ := carries name target member
    exact ⟨t, rfl, .inr member⟩
  | none =>
    obtain impossible | own := closed
    · cases impossible
    · exact ⟨s, by simp only [Scope.lookup?, Scope.named?, if_pos own, Option.none_or, Option.map_some], .inl rfl⟩

end Schema
end RecordSchema
