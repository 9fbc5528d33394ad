import RecordSchema.Proofs.Acceptance
import RecordSchema.Proofs.BuiltSchema
import RecordSchema.Proofs.DocumentDefinitions
import RecordSchema.Validation.Verdict

/-! Documents against validation: what a schema accepts, its document admits. Validation hands the catalog
of a schema on to those that it refers to, and a document looks references up without it; but what a
document resolves is resolved alike. Main statement: `generated_admits_accepted`. -/

namespace RecordSchema.Proofs.DocumentSoundness
open Document Drafting Draft

/-- Documents are made for data as it comes in, without derived fields. -/
def given : DocumentOptions := { includeDerived := false }

/-- A built schema whose fields have no keywords of their own, and choices among scalars only. -/
structure Documentable (s : Schema) : Prop where
  built : s.IsBuilt
  carries : s.CarriesSchemas
  noExtra : ∀ f ∈ s.regularFields, f.extra = []
  scalar : ∀ f ∈ s.regularFields, ∀ c ∈ f.type.allConstraints, c.ScalarChoices

/-- A type within a schema: it refers to what the schema refers to, and keywords tell its constraints. -/
structure Within (s : Schema) (t : SchemaType) : Prop where
  references : ∀ r ∈ t.references, r ∈ s.references
  constraints : ∀ c ∈ t.allConstraints, c.Bounded ∧ c.ScalarChoices

theorem Documentable.within {s : Schema} (documentable : Documentable s) {f : Field} (member : f ∈ s.regularFields) :
    Within s f.type where
  references _ mentioned := Schema.mem_references.mpr ⟨f, (List.mem_filter.mp member).1, mentioned⟩
  constraints c inside := ⟨(documentable.built.sound f (List.mem_filter.mp member).1).bounded c inside,
    documentable.scalar f member c inside⟩

/-- A part of a type is within the schema as well. -/
theorem Within.part {s : Schema} {t part : SchemaType} (within : Within s t) (mentions : part.references ⊆ t.references)
    (constrains : part.allConstraints ⊆ t.allConstraints) : Within s part :=
  ⟨fun r mentioned => within.references r (mentions mentioned), fun c inside => within.constraints c (constrains inside)⟩

variable {catalogs : Catalogs}

/-- What is found without a catalog around a schema is found with any. -/
theorem lookup?_around {s : Schema} {name : Name} {target : Option Target} {found : Target}
    (resolved : Scope.lookup? catalogs ⟨some s, s.catalog.or none⟩ name target = some found) (catalog : Option CatalogId) :
    Scope.lookup? catalogs ⟨some s, s.catalog.or catalog⟩ name target = some found := by
  cases target with
  | some _ => exact resolved
  | none =>
    cases own : s.catalog with
    | some _ =>
      rw [own] at resolved
      exact resolved
    | none =>
      simp only [Scope.lookup?, Scope.named?, Scope.inCatalog?, own, Option.none_or, Option.bind_none] at resolved ⊢
      split at resolved
      next same => rw [if_pos same]; exact resolved
      next => cases resolved

variable {root : Entries} {v : Value}

/-- A value that obeys the keywords of a type and satisfies its constraints is admitted. -/
theorem admits_keywords {base keywords : Entries} {cs : List Constraint} (told : Constraint.keywords cs = .ok keywords)
    (own : ∀ e ∈ base, ∀ keyword, e.1.str? = some keyword → ∀ schema, Obeys root schema keyword e.2 v)
    (json : v.isJson = true) (constrained : ∀ c ∈ cs, (c.Bounded ∧ c.ScalarChoices) ∧ c.check v = .ok true) :
    Admits root (.map (Entries.update base keywords)) v := by
  refine .keywords fun keyword under found => ?_
  obtain found | ⟨e, member, named, rfl⟩ := Entries.field?_update found
  · obtain ⟨e, member, named, rfl⟩ := Entries.mem_of_field? found
    exact own e member keyword named _
  · obtain ⟨c, inside, kind, same⟩ := Constraint.mem_keywords told e member
    rw [named] at kind
    cases kind
    obtain ⟨⟨bounded, scalar⟩, satisfied⟩ := constrained c inside
    rw [same]
    refine .plain ?_ (Constraint.asserts_of_check bounded scalar json satisfied)
    cases c.kind <;> decide

/-- One entry of a schema is obeyed if its keyword is. -/
theorem entry_obeyed {keyword : String} {under : Value} (obeyed : ∀ schema, Obeys root schema keyword under v)
    (other : String) (named : (entry keyword under).1.str? = some other) (schema : Entries) :
    Obeys root schema other (entry keyword under).2 v := by
  cases named
  exact obeyed schema

theorem type_obeyed {name : String} (named : name ∈ v.documentTypes) (schema : Entries) :
    Obeys root schema "type" (.str name) v :=
  .plain (by decide) ⟨name, rfl, named⟩

theorem documentTypes_of_admits {kind : Primitive} {name : String} (shape : kind.admits v = true) (json : v.isJson = true)
    (keyword : kind.keyword? = some name) : name ∈ v.documentTypes := by
  cases v with
  | float x =>
    have number : "number" ∈ (Value.float x).documentTypes := by
      rw [Value.documentTypes]
      split <;> decide
    cases kind <;> first | (cases shape; done) | (cases keyword <;> exact number)
  | nan _ => cases json
  | member _ => cases json
  | _ => cases kind <;> first | (cases shape; done) | (cases keyword <;> simp [Value.documentTypes])

variable {s : Schema} {draft : Draft}

variable (catalogs root s draft) in
/-- What is made of a type admits a value. -/
def TypeAdmits (scope : Scope) (t : SchemaType) (v : Value) : Prop :=
  ∀ u catalog, scope = ⟨some u, u.catalog.or catalog⟩ → Reaches catalogs s u catalog → Within u t → v.isJson = true →
    ∀ before made after, Makes (ofType catalogs ⟨some u, u.catalog.or none⟩ t) before made after → Kept after draft →
      Admits root (.map made) v

variable (catalogs root s draft) in
/-- What describes a schema admits a value. -/
def SchemaAdmits (u : Schema) (catalog : Option CatalogId) (v : Value) : Prop :=
  Reaches catalogs s u catalog → v.isJson = true → ∀ made, Describes catalogs given draft u made → Admits root (.map made) v

private theorem primitive_admits {scope : Scope} {kind : Primitive} {cs : List Constraint} (shape : kind.admits v = true)
    (constrained : ∀ c ∈ cs, c.check v = .ok true) : TypeAdmits catalogs root s draft scope (.primitive kind cs) v := by
  intro u catalog _ _ within json before made after ended _
  rw [ofType] at ended
  obtain ⟨keywords, told, rfl, rfl⟩ := ofPrimitive_makes ended
  refine admits_keywords told (fun e member => ?_) json fun c inside => ⟨within.constraints c inside, constrained c inside⟩
  obtain ⟨name, keyword, rfl⟩ := List.mem_map.mp member
  exact entry_obeyed (type_obeyed (documentTypes_of_admits shape json (Option.mem_toList.mp keyword)))

private theorem array_admits {scope : Scope} {element : SchemaType} {cs : List Constraint} {items : List Value}
    (sequence : v.items? = some items) (constrained : ∀ c ∈ cs, c.check v = .ok true)
    (each : ∀ item ∈ items, TypeAdmits catalogs root s draft scope element item) :
    TypeAdmits catalogs root s draft scope (.array element cs) v := by
  intro u catalog same reached within json before made after ended kept
  obtain ⟨own, described, keywords, told, rfl⟩ := ofArray_makes ended
  obtain rfl := Value.eq_list_of_isJson json sequence
  have inner : Within u element := within.part (List.Subset.refl _) (List.subset_append_right _ _)
  refine admits_keywords told (List.forall_mem_cons.mpr ⟨?_, List.forall_mem_singleton.mpr ?_⟩) json
    fun c inside => ⟨within.constraints c (List.mem_append_left _ inside), constrained c inside⟩
  · exact entry_obeyed (type_obeyed List.mem_cons_self)
  · refine entry_obeyed fun schema => .items fun others listed item member => ?_
    cases listed
    exact each item member u catalog same reached inner (Value.isJson_of_mem_list json item member) _ _ _ described kept

private theorem map_admits {scope : Scope} {key value : SchemaType} {cs : List Constraint} {entries : Entries}
    (mapping : v.mapping? = some entries) (constrained : ∀ c ∈ cs, c.check (.map entries) = .ok true)
    (eachKey : ∀ e ∈ entries, TypeAdmits catalogs root s draft scope key e.1)
    (eachValue : ∀ e ∈ entries, TypeAdmits catalogs root s draft scope value e.2) :
    TypeAdmits catalogs root s draft scope (.map key value cs) v := by
  intro u catalog same reached within json before made after ended kept
  obtain ⟨own, described, names, named, keywords, told, rfl⟩ := ofMap_makes ended
  obtain rfl := Value.eq_map_of_isJson json mapping
  have ofKey : Within u key := within.part (List.subset_append_left _ _) fun _ constrains =>
    List.mem_append_right _ (List.mem_append_left _ constrains)
  have ofValue : Within u value := within.part (List.subset_append_right _ _) fun _ constrains =>
    List.mem_append_right _ (List.mem_append_right _ constrains)
  refine admits_keywords told (List.forall_mem_append.mpr ⟨List.forall_mem_cons.mpr ⟨?_, List.forall_mem_singleton.mpr ?_⟩, ?_⟩)
    json fun c inside => ⟨within.constraints c (List.mem_append_left _ inside), constrained c inside⟩
  · exact entry_obeyed (type_obeyed List.mem_cons_self)
  · refine entry_obeyed fun schema => .additionalProperties fun others listed e member _ _ _ => ?_
    cases listed
    exact eachValue e member u catalog same reached ofValue (Value.isJson_of_mem_map json e member).2 _ _ _ described kept
  · obtain ⟨-, rfl | ⟨texts, sub, rfl, rfl, ofText⟩⟩ := propertyNames_makes named
    · exact fun _ member => nomatch member
    · refine List.forall_mem_singleton.mpr (entry_obeyed fun schema => .propertyNames fun others listed e member => ?_)
      cases listed
      exact eachKey e member u catalog same reached ofKey (Value.isJson_key json member) _ _ _ (by rw [ofType]; exact ofText) kept

private theorem union_admits {scope : Scope} {variants : List SchemaType} {cs : List Constraint} {t : SchemaType}
    (member : t ∈ variants) (variant : TypeAdmits catalogs root s draft scope t v) :
    TypeAdmits catalogs root s draft scope (.union variants cs) v := by
  intro u catalog same reached within json before made after ended kept
  obtain ⟨subs, described, rfl⟩ := ofUnion_makes ended
  obtain ⟨first, last, own, ofVariant, later, inside⟩ := ofVariants_mem described t member
  have inner : Within u t := within.part (fun _ mentioned => SchemaType.mem_referencesOf.mpr ⟨t, member, mentioned⟩)
    fun _ constrains => List.mem_append_right _ (SchemaType.mem_constraintsOf member constrains)
  refine .keywords fun keyword under found => ?_
  obtain ⟨e, only, named, rfl⟩ := Entries.mem_of_field? found
  cases List.mem_singleton.mp only
  refine entry_obeyed (fun schema => .anyOf inside ?_) keyword named _
  exact variant u catalog same reached inner json _ _ _ ofVariant (later.trans kept)

variable (catalogs s) in
/-- Schemas within reach are told apart by their serial numbers. -/
def Distinct : Prop :=
  ∀ t catalog u other, Reaches catalogs s t catalog → Reaches catalogs s u other → t.serial = u.serial → t = u

private theorem ref_admits (distinct : Distinct catalogs s)
    (defines : Defines catalogs given (fun t => ∃ catalog, Reaches catalogs s t catalog) root draft)
    {scope : Scope} {name : Name} {target : Option Target} {t : Schema}
    (resolved : scope.lookup? catalogs name target = some (.schema t))
    (accepted : SchemaAdmits catalogs root s draft t scope.catalog v) :
    TypeAdmits catalogs root s draft scope (.ref name target) v := by
  rintro u catalog rfl reached within json before made after ended kept
  obtain ⟨found, looked, text, referred, rfl⟩ := ofRef_makes ended
  have same := lookup?_around looked catalog
  rw [resolved] at same
  cases same
  have onward : Reaches catalogs s t (u.catalog.or catalog) :=
    .next reached (within.references (name, target) (List.mem_singleton_self _)) resolved
  obtain ⟨-, rfl, known, recorded, serial⟩ := refer_makes referred
  obtain ⟨w, keywords, rfl, ⟨other, further⟩, describes, leads⟩ := defines name.label known (kept.recorded _ _ recorded)
  obtain rfl := distinct w other t _ further onward serial
  have pointer : after.pointer name.label = draft.pointer name.label := congrArg (Pointer.ofName · name.label) kept.key.symm
  refine .keywords fun keyword under stands => ?_
  obtain ⟨e, only, named, rfl⟩ := Entries.mem_of_field? stands
  cases List.mem_singleton.mp only
  refine entry_obeyed (fun schema => .pointer rfl ?_ (accepted onward json keywords describes)) keyword named _
  rw [pointer, leads]

/-- A schema lists its properties. -/
theorem lists_keywordsOf {options : DocumentOptions} {u : Schema} {named : Entries} {name : String}
    (listed : (named.field? name).isSome) : Lists (keywordsOf options u named) name :=
  ⟨named, properties_keywordsOf options u named, listed⟩

private theorem required_obeyed {names : List Value} {entries : Entries}
    (each : ∀ name ∈ names, ∃ text, name.str? = some text ∧ (entries.field? text).isSome) (schema : Entries) :
    Obeys root schema "required" (.list names) (.map entries) := by
  refine .plain (by decide) ⟨names, rfl, fun others same => ?_⟩
  cases same
  exact each

private theorem textEntry_obeyed {keyword other : String} {text : Option String} {e : Value × Value}
    (remark : keyword ∈ remarks) (member : e ∈ textEntry keyword text) (named : e.1.str? = some other) (schema : Entries) :
    Obeys root schema other e.2 v := by
  rw [textEntry_key member] at named
  cases named
  exact .plain (not_applicator_of_remark remark) (asserts_remark remark _ _)

private theorem schema_admits (documentable : ∀ t catalog, Reaches catalogs s t catalog → Documentable t)
    {u : Schema} {catalog : Option CatalogId} {entries : Entries} (mapping : v.mapping? = some entries)
    (required : ∀ f ∈ u.regularFields, f.required = true → (entries.field? f.name.label).isSome)
    (present : ∀ f ∈ u.regularFields, ∀ w, entries.field? f.name.label = some w →
      TypeAdmits catalogs root s draft ⟨some u, u.catalog.or catalog⟩ f.type w)
    (known : u.strict = true → ∀ key ∈ entries.keys, ∃ f ∈ u.regularFields, key.str? = some f.name.label) :
    SchemaAdmits catalogs root s draft u catalog v := by
  rintro reached json made ⟨before, after, described, kept⟩
  obtain ⟨named, properties, rfl⟩ := ofSchema_makes described
  obtain rfl := Value.eq_map_of_isJson json mapping
  refine .keywords fun keyword under stands => ?_
  obtain ⟨e, member, label, rfl⟩ := Entries.mem_of_field? stands
  obtain front | closing := List.mem_append.mp member
  · obtain front | pair := List.mem_append.mp front
    · obtain front | describing := List.mem_append.mp front
      · obtain first | titling := List.mem_append.mp front
        · cases List.mem_singleton.mp first
          exact entry_obeyed (type_obeyed List.mem_cons_self) keyword label _
        · exact textEntry_obeyed (by decide) titling label _
      · exact textEntry_obeyed (by decide) describing label _
    · obtain rfl | last := List.mem_cons.mp pair
      · refine entry_obeyed (fun schema => .properties fun others same name sub w found there => ?_) keyword label _
        cases same
        obtain ⟨f, inside, rfl, first, last, own, made, later, rfl⟩ := properties_field? properties found
        obtain ⟨typed, ofType, rfl⟩ := ofField_makes made
        obtain ⟨_, among, -, rfl⟩ := Entries.mem_of_field? there
        have plain := documentable u catalog reached
        rw [plain.noExtra f inside]
        exact (present f inside _ there u catalog rfl reached (plain.within inside)
          (Value.isJson_of_mem_map json _ among).2 _ _ _ ofType (later.trans kept)).remarked
      · cases List.mem_singleton.mp last
        refine entry_obeyed (required_obeyed fun name needed => ?_) keyword label _
        obtain ⟨f, inside, rfl⟩ := List.mem_map.mp needed
        obtain ⟨regular, demanded⟩ := List.mem_filter.mp inside
        exact ⟨_, Value.str?_toValue _, required f regular (Bool.and_eq_true_iff.mp demanded).1⟩
  · split at closing
    next strict =>
      cases List.mem_singleton.mp closing
      cases label
      refine .additionalProperties fun others same e inside name text unlisted => ?_
      cases same
      obtain ⟨f, declared, told⟩ := known strict e.1 (List.mem_map_of_mem inside)
      rw [text] at told
      cases told
      exact absurd (lists_keywordsOf (properties_listed properties f declared)) unlisted
    next => cases closing

mutual

theorem conforms_admits (documentable : ∀ t catalog, Reaches catalogs s t catalog → Documentable t) (distinct : Distinct catalogs s)
    (defines : Defines catalogs given (fun t => ∃ catalog, Reaches catalogs s t catalog) root draft) :
    ∀ {scope : Scope} {t : SchemaType} {v : Value}, Conforms catalogs scope t v → TypeAdmits catalogs root s draft scope t v
  | _, _, _, .primitive shape constrained => primitive_admits shape constrained
  | _, _, _, .array sequence constrained each =>
    array_admits sequence constrained fun item member => conforms_admits documentable distinct defines (each item member)
  | _, _, _, .map mapping constrained eachKey eachValue =>
    map_admits mapping constrained (fun e member => conforms_admits documentable distinct defines (eachKey e member))
      fun e member => conforms_admits documentable distinct defines (eachValue e member)
  | _, _, _, .union member variant => union_admits member (conforms_admits documentable distinct defines variant)
  | _, _, _, .ref resolved accepted =>
    ref_admits distinct defines resolved (accepted_admits documentable distinct defines accepted)

theorem accepted_admits (documentable : ∀ t catalog, Reaches catalogs s t catalog → Documentable t) (distinct : Distinct catalogs s)
    (defines : Defines catalogs given (fun t => ∃ catalog, Reaches catalogs s t catalog) root draft) :
    ∀ {u : Schema} {catalog : Option CatalogId} {v : Value}, Accepted catalogs u catalog v →
      SchemaAdmits catalogs root s draft u catalog v
  | _, _, _, .intro mapping required present known =>
    schema_admits documentable mapping required
      (fun f member w there => conforms_admits documentable distinct defines (present f member w there)) known

end

theorem reaches_onward (documentable : ∀ t catalog, Reaches catalogs s t catalog → Documentable t) :
    Onward catalogs given fun _ t => ∃ catalog, Reaches catalogs s t catalog := by
  rintro _ t ⟨catalog, reached⟩ _ found ⟨r, shown, rfl, resolved⟩
  have member := t.shownReferences_subset given shown
  have around := lookup?_around resolved catalog
  obtain ⟨u, rfl⟩ := lookup?_schema (documentable t catalog reached).carries member around
  exact ⟨u, rfl, _, .next reached member around⟩

/-- Data that a schema accepts is admitted by the document of the schema, if the document can be made. -/
theorem generated_admits_accepted (documentable : ∀ t catalog, Reaches catalogs s t catalog → Documentable t)
    (distinct : Distinct catalogs s) {document : Entries} (generated : generate catalogs { includeDerived := false } s = .ok document)
    {d : Value} (json : d.isJson = true) {data : Entries} {container : Option Container}
    (accepted : Validation.validate catalogs s d = .ok (.accepted data container)) : Admits document (.map document) d := by
  obtain ⟨draft, body, describes, defines, completes⟩ :=
    generate_defines (reaches_onward documentable) (by decide) ⟨none, .self⟩ generated
  refine completes d (accepted_admits documentable distinct defines ?_ .self json body describes)
  have surveyed := Acceptance.surveyed_of_built fun t catalog reached =>
    ⟨(documentable t catalog reached).built, (documentable t catalog reached).carries⟩
  obtain ⟨outcome, returned, verdict⟩ := Except.bind_eq_ok.mp accepted
  rw [Value.unfolded_of_isJson json] at returned
  have decides : Acceptance.Decides False (∃ fields, outcome = .ok fields) (Accepted catalogs s none d) :=
    Acceptance.run_decides surveyed (fun impossible => nomatch impossible) .self (Failing.ofFault_eq_ok.mp returned)
  cases outcome with
  | ok fields => exact decides.1 ⟨fields, rfl⟩
  | error violations => cases verdict

/-- People with their pets. The pets are found in the catalog. -/
def person : Schema where
  serial := 1
  name := "Person"
  fields := [
    { name := "name", type := .primitive .string [⟨.minLength, .int 1, .null⟩], required := true,
      default := none, description := .null, examples := [], derived := false, extra := [] },
    { name := "pets", type := .array (.ref "Pet" none) [], required := false, default := none,
      description := .null, examples := [], derived := false, extra := [] }]
  crossFieldHooks := []
  derivedHooks := []
  title := none
  description := none
  strict := true
  container := none
  catalog := some 0

/-- Pets, which lead back to people. -/
def pet : Schema where
  serial := 2
  name := "Pet"
  fields := [
    { name := "kind", type := .primitive .any [⟨.choices, .tuple [.str "cat", .int 1], .null⟩], required := true,
      default := none, description := .null, examples := [], derived := false, extra := [] },
    { name := "owners", type := .union [.primitive .null [], .array (.ref "Person" none) [⟨.maxItems, .int 2, .null⟩]] [],
      required := false, default := none, description := .null, examples := [], derived := false, extra := [] }]
  crossFieldHooks := []
  derivedHooks := []
  title := none
  description := none
  strict := false
  container := none
  catalog := some 0

/-- The catalog of both. -/
def household : Catalogs := ⟨[(0, ⟨[("Person", some person), ("Pet", some pet)]⟩)]⟩

theorem person_built : person.IsBuilt := by
  have assembly : Schema.Assembly household {} 1
      (.list [
        .tuple [.str "name", .type (.primitive .string [⟨.minLength, .int 1, .null⟩])],
        .tuple [.str "pets", .type (.array (.ref "Pet" none) []), .map [(.str "required", .data (.bool false))]]])
      { name := "Person", strict := true, catalog := some 0 } person :=
    ⟨_, person.fields, [], [], rfl, by with_unfolding_all rfl, rfl, rfl, rfl⟩
  exact ⟨_, _, _, _, _, assembly.build_eq rfl rfl rfl⟩

theorem pet_built : pet.IsBuilt := by
  have assembly : Schema.Assembly household {} 2
      (.list [
        .tuple [.str "kind", .type (.primitive .any [⟨.choices, .tuple [.str "cat", .int 1], .null⟩])],
        .tuple [.str "owners", .type (.union [.primitive .null [],
          .array (.ref "Person" none) [⟨.maxItems, .int 2, .null⟩]] []), .map [(.str "required", .data (.bool false))]]])
      { name := "Pet", catalog := some 0 } pet :=
    ⟨_, pet.fields, [], [], rfl, by with_unfolding_all rfl, rfl, rfl, rfl⟩
  exact ⟨_, _, _, _, _, assembly.build_eq rfl rfl rfl⟩

/-- What the document of people says of them. -/
def personKeywords : Entries :=
  [entry "type" (.str "object"),
    entry "properties" (.map [
      entry "name" (.map [entry "type" (.str "string"), entry "minLength" (.int 1)]),
      entry "pets" (.map [entry "type" (.str "array"), entry "items" (.map [entry "$ref" (.str "#/definitions/Pet")])])]),
    entry "required" (.list [.str "name"]), entry "additionalProperties" (.bool false)]

def petKeywords : Entries :=
  [entry "type" (.str "object"),
    entry "properties" (.map [
      entry "kind" (.map [entry "enum" (.list [.str "cat", .int 1])]),
      entry "owners" (.map [entry "anyOf" (.list [.map [entry "type" (.str "null")],
        .map [entry "type" (.str "array"), entry "items" (.map [entry "$ref" (.str "#/definitions/Person")]),
          entry "maxItems" (.int 2)]])])]),
    entry "required" (.list [.str "kind"])]

def personDocument : Entries :=
  personKeywords ++ [entry "definitions" (.map [entry "Pet" (.map petKeywords), entry "Person" (.map personKeywords)])]

theorem person_generated : generate household given person = .ok personDocument := by with_unfolding_all rfl

def ann : Entries :=
  [(.str "name", .str "Ann"), (.str "pets", .list [.map [(.str "kind", .int 1),
    (.str "owners", .list [.map [(.str "name", .str "Bo")]])]])]

open Validation in
theorem ann_accepted : validate household person (.map ann) = .ok (.accepted ann none) := by
  let bo : Value := .map [(.str "name", .str "Bo")]
  let rex : Value := .map [(.str "kind", .int 1), (.str "owners", .list [bo])]
  have named (text : String) (place : Path)
      (long : ownViolations (.full Value.deepest) [⟨.minLength, .int 1, .null⟩] (.str text) place = .ok []) :
      check household (.full Value.deepest) ⟨some person, some 0⟩ (.primitive .string [⟨.minLength, .int 1, .null⟩]) (.str text) place =
        .ok (.clean (.str text)) := check_primitive_eq_ok.mpr (.inr ⟨rfl, [], long, rfl⟩)
  have ofBo : check household (.full Value.deepest) ⟨some pet, some 0⟩ (.ref "Person" none) bo
      [.name "pets", .index 0, .name "owners", .index 0] = .ok (.clean bo) := by
    have ran : run household Value.deepest person {} bo [.name "pets", .index 0, .name "owners", .index 0] (some 0) =
        .ok (.ok [(.str "name", .str "Bo")]) :=
      run_of_report rfl (fieldReport_of_present rfl (named "Bo" _ (by with_unfolding_all rfl))
        (fieldReport_of_absent rfl rfl fieldReport_nil)) rfl rfl
    exact check_ref_of_run rfl rfl rfl ran rfl
  have owned : check household (.full Value.deepest) ⟨some pet, some 0⟩
      (.union [.primitive .null [], .array (.ref "Person" none) [⟨.maxItems, .int 2, .null⟩]] [])
      (.list [bo]) [.name "pets", .index 0, .name "owners"] = .ok (.clean (.list [bo])) := by
    have few : ownViolations (.full Value.deepest) [⟨.maxItems, .int 2, .null⟩] (.list [bo])
        [.name "pets", .index 0, .name "owners"] = .ok [] := by with_unfolding_all rfl
    have people : check household (.full Value.deepest) ⟨some pet, some 0⟩ (.array (.ref "Person" none) [⟨.maxItems, .int 2, .null⟩])
        (.list [bo]) [.name "pets", .index 0, .name "owners"] = .ok (.clean (.list [bo])) :=
      check_array_of_items rfl few (checkItems_of_cons ofBo checkItems_nil) rfl
    rw [check_union, checkVariants_cons_eq_ok.mpr ⟨_, check_primitive_eq_ok.mpr (.inl ⟨rfl, rfl⟩),
      .inr ⟨List.cons_ne_nil _ _, checkVariants_cons_eq_ok.mpr ⟨_, people, .inl ⟨rfl, rfl⟩⟩⟩⟩]
    rfl
  have ofRex : check household (.full Value.deepest) ⟨some person, some 0⟩ (.ref "Pet" none) rex [.name "pets", .index 0] =
      .ok (.clean rex) := by
    have kind : check household (.full Value.deepest) ⟨some pet, some 0⟩ (.primitive .any [⟨.choices, .tuple [.str "cat", .int 1], .null⟩])
        (.int 1) [.name "pets", .index 0, .name "kind"] = .ok (.clean (.int 1)) :=
      check_primitive_eq_ok.mpr (.inr ⟨rfl, [], by with_unfolding_all rfl, rfl⟩)
    have ran : run household Value.deepest pet {} rex [.name "pets", .index 0] (some 0) =
        .ok (.ok [(.str "kind", .int 1), (.str "owners", .list [bo])]) :=
      run_of_report rfl (fieldReport_of_present rfl kind (fieldReport_of_present rfl owned fieldReport_nil)) rfl rfl
    exact check_ref_of_run rfl rfl rfl ran rfl
  have pets : check household (.full Value.deepest) ⟨some person, some 0⟩ (.array (.ref "Pet" none) []) (.list [rex]) [.name "pets"] =
      .ok (.clean (.list [rex])) :=
    check_array_of_items rfl rfl (checkItems_of_cons ofRex checkItems_nil) rfl
  have ran : run household Value.deepest person {} (.map ann) [] none = .ok (.ok ann) :=
    run_of_report rfl (fieldReport_of_present rfl (named "Ann" _ (by with_unfolding_all rfl))
      (fieldReport_of_present rfl pets fieldReport_nil)) rfl rfl
  exact (validate_of_fields ran).trans rfl

theorem person_reaches {t : Schema} {catalog : Option CatalogId} (reached : Reaches household person t catalog) :
    t = person ∨ t = pet := by
  have ofPerson : person.references = [(.text "Pet", none)] := rfl
  have ofPet : pet.references = [(.text "Person", none)] := rfl
  induction reached with
  | self => exact .inl rfl
  | next _ member resolved ih =>
    obtain rfl | rfl := ih
    · rw [ofPerson] at member
      cases List.mem_singleton.mp member
      cases resolved
      exact .inr rfl
    · rw [ofPet] at member
      cases List.mem_singleton.mp member
      cases resolved
      exact .inl rfl

theorem person_documentable (t : Schema) (catalog : Option CatalogId) (reached : Reaches household person t catalog) :
    Documentable t := by
  obtain rfl | rfl := person_reaches reached
  · refine ⟨person_built, fun name target member => ?_, by simp [person, Schema.regularFields], by decide⟩
    have references : person.references = [(.text "Pet", none)] := rfl
    rw [references] at member
    cases List.mem_singleton.mp member
  · refine ⟨pet_built, fun name target member => ?_, by simp [pet, Schema.regularFields], by decide⟩
    have references : pet.references = [(.text "Person", none)] := rfl
    rw [references] at member
    cases List.mem_singleton.mp member

theorem person_distinct : Distinct household person := by
  intro t _ u _ left right same
  obtain rfl | rfl := person_reaches left <;> obtain rfl | rfl := person_reaches right
  · rfl
  · cases same
  · cases same
  · rfl

theorem person_refuses_nobody : ¬ Admits personDocument (.map personDocument) (.map []) := by
  intro admitted
  cases admitted with
  | keywords each =>
    obtain ⟨_, listed, needed⟩ := (each "required" _ rfl).asserts (by decide)
    cases listed
    obtain ⟨_, -, there⟩ := needed [] rfl (.str "name") List.mem_cons_self
    cases there

/-- Ann's pet has an owner in turn, two references further down. -/
theorem person_admits_ann :
    (∀ t catalog, Reaches household person t catalog → Documentable t) ∧ Distinct household person ∧
    generate household { includeDerived := false } person = .ok personDocument ∧ (Value.map ann).isJson = true ∧
    Validation.validate household person (.map ann) = .ok (.accepted ann none) ∧
    Admits personDocument (.map personDocument) (.map ann) ∧
    ¬ Admits personDocument (.map personDocument) (.map []) :=
  ⟨person_documentable, person_distinct, person_generated, by decide, ann_accepted,
    generated_admits_accepted person_documentable person_distinct person_generated (by decide) ann_accepted,
    person_refuses_nobody⟩

end RecordSchema.Proofs.DocumentSoundness
