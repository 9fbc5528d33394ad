import RecordSchema.Proofs.FlatSchemas

/-! Flat documents. Where the definitions of a document stand in one place and no list stands in the place of one schema,
flattening leaves pointers only to definitions that it has to keep, keeps exactly the definitions that pointers lead to
from the document, and leaves no combinator with an object for its only member. Main statement: `flatten_closed`. -/

namespace RecordSchema.Document
open Entries

variable {document definitions body : Entries} {options : FlatteningOptions} {key : String} {name : String} {v : Value}

/-- The known names that pointers lead to from a value, by way of definitions. -/
inductive Reached (Known : String → Prop) (definitions : Entries) (root : Value) : String → Prop where
  | root {name : String} (pointed : name ∈ pointers root) (known : Known name) : Reached Known definitions root name
  | onward {name other : String} {body : Value} (reached : Reached Known definitions root name)
      (found : definitions.field? name = some body) (pointed : other ∈ pointers body) (known : Known other) :
      Reached Known definitions root other

/-- A document whose definitions all stand at its top, and where no list stands in the place of one schema. -/
structure Placed (document : Entries) : Prop where
  json : (Value.map document).isJson = true
  distinct : ∀ schema ∈ schemas (.map document), (labels schema).Nodup
  straight : Straight (.map document)
  bare : ∀ e ∈ document, ∀ schema ∈ schemasUnder e.1 e.2, ∀ d ∈ schema, isDefinitionsKey d.1 = false

/-- A document whose parts hold sound schemas, and no list in the place of one. -/
structure SoundParts (document : Entries) : Prop where
  root : ∀ schema ∈ schemas (.map (Parts.ofEntries document).root), Sound (Parts.ofEntries document).key schema
  defined : ∀ name body, (Parts.ofEntries document).definitions.field? name = some body →
    body.list? = none ∧ ∀ schema ∈ schemas body, Sound (Parts.ofEntries document).key schema

/-- No definition of a document stands twice. -/
theorem keyed_definitions (json : (Value.map document).isJson = true) : Keyed (Parts.ofEntries document).definitions := by
  have fold {held : Entries} (each : ∀ e ∈ held, e.2.isJson = true) {done : Entries} (keyed : Keyed done) :
      Keyed (held.foldl (fun found e => Entries.update found (e.2.ownEntries?.getD [])) done) := by
    induction held generalizing done with
    | nil => exact keyed
    | cons e rest ih =>
      obtain ⟨here, later⟩ := List.forall_mem_cons.mp each
      refine ih later (keyed.update ?_)
      cases found : e.2 with
      | map entries => exact fun d member => (Value.isJson_of_mem_map (found ▸ here) d member).1
      | _ => exact List.forall_mem_nil _
  rw [parts_eq]
  exact fold (fun e member => (Value.isJson_of_mem_map json e (List.mem_filter.mp member).1).2) ⟨List.forall_mem_nil _, List.nodup_nil⟩

/-- The references to a definition are kept if it is recursive, or if those to objects are to be kept and it is one. -/
theorem mem_keptNames (distinct : (labels definitions).Nodup) : name ∈ keptNames options definitions ↔
    name ∈ recursive definitions ∨
      options.preserveComplexReferences = true ∧ ∃ body, definitions.field? name = some body ∧ isObject body = true := by
  rw [keptNames, List.mem_append, List.mem_filterMap]
  refine or_congr Iff.rfl ⟨?_, ?_⟩
  · rintro ⟨e, member, selected⟩
    obtain ⟨asked, named⟩ := Option.ite_none_right_eq_some.mp selected
    obtain ⟨preserve, object⟩ := Bool.and_eq_true_iff.mp asked
    exact ⟨preserve, e.2, field?_of_mem distinct member named, object⟩
  · rintro ⟨preserve, body, found, object⟩
    obtain ⟨e, member, named, rfl⟩ := mem_of_field? found
    exact ⟨e, member, Option.ite_none_right_eq_some.mpr ⟨Bool.and_eq_true_iff.mpr ⟨preserve, object⟩, named⟩⟩

section Parts
variable (placed : Placed document)
include placed

theorem Placed.keyed {schema : Entries} (met : schema ∈ schemas (.map document)) : Keyed schema :=
  ⟨fun e member => (Value.isJson_of_mem_map (isJson_composite.of_mem_schemas placed.json schema met) e member).1, placed.distinct schema met⟩

theorem Placed.unlisted {schema : Entries} (met : schema ∈ schemas (.map document)) {e : Value × Value} (member : e ∈ schema) :
    ∀ w ∈ searched e.1 e.2, w.list? = none :=
  fun w inside => Option.isNone_iff_eq_none.mp (placed.straight.2 schema met e member w inside)

/-- The schemas below the top are sound, wherever the definitions of the document stand. -/
theorem Placed.below {e : Value × Value} (member : e ∈ document) :
    ∀ schema ∈ schemasUnder e.1 e.2, Sound (Parts.ofEntries document).key schema := by
  intro schema deeper
  have met : schema ∈ schemas (.map document) := mem_schemas_map.mpr (.inr ⟨e, member, deeper⟩)
  refine ⟨placed.keyed met, fun d inside => ⟨placed.unlisted met inside, ?_, fun name first text => ?_⟩⟩
  · rw [holdsDefinitions, placed.bare e member schema deeper d inside, Bool.false_and]
  · have known := parts_key first
    have free := placed.bare e member schema deeper d inside
    rw [isDefinitionsKey, text] at free
    exact Bool.false_ne_true (free.symm.trans known)

theorem Placed.root : ∀ schema ∈ schemas (.map (Parts.ofEntries document).root), Sound (Parts.ofEntries document).key schema := by
  intro schema met
  obtain rfl | ⟨e, member, deeper⟩ := mem_schemas_map.mp met
  · have top : document ∈ schemas (.map document) := mem_schemas_map.mpr (.inl rfl)
    refine ⟨(allKeyed_parts placed.json placed.distinct).own _ met, fun e member => ?_⟩
    have inside := (parts_within document).root e member
    have free : holdsDefinitions e = false := by
      rw [parts_eq] at member
      exact Bool.not_eq_true' _ ▸ (List.mem_filter.mp member).2
    refine ⟨placed.unlisted top inside, free, fun name first text => ?_⟩
    -- the key stands once in the document, and there it holds definitions
    rw [parts_eq] at first
    obtain ⟨held, found, named⟩ := Option.bind_eq_some_iff.mp first
    rw [eq_of_label (placed.distinct document top) inside (List.mem_of_find?_eq_some found) text named] at free
    exact Bool.false_ne_true (free.symm.trans (List.find?_some found))
  · exact placed.below ((parts_within document).root e member) schema deeper

theorem Placed.sound : SoundParts document := by
  refine ⟨placed.root, fun name body found => ?_⟩
  obtain ⟨d, member, -, rfl⟩ := mem_of_field? found
  obtain ⟨e, inside, known, stands⟩ := (parts_within document).definitions d member
  refine ⟨?_, fun schema met => placed.below inside schema (List.mem_flatMap.mpr ⟨d.2, stands, met⟩)⟩
  rw [← searched_definitions known] at stands
  exact placed.unlisted (mem_schemas_map.mpr (.inl rfl)) inside d.2 stands

end Parts

/-- Without a key for them there are no definitions. -/
theorem definitions_of_no_key (none : (Parts.ofEntries document).key = none) : (Parts.ofEntries document).definitions = [] := by
  have plain : ∀ e ∈ document, holdsDefinitions e = false := by
    refine fun e member => Bool.eq_false_iff.mpr fun holds => ?_
    obtain ⟨held, found⟩ := Option.isSome_iff_exists.mp (List.find?_isSome.mpr ⟨e, member, holds⟩)
    obtain ⟨key, -, named⟩ := key_of_holdsDefinitions (List.find?_some found)
    rw [parts_eq] at none
    cases (Option.bind_eq_some_iff.mpr ⟨held, found, named⟩).symm.trans none
  rw [Parts.ofEntries, Parts.foldl_add_of_plain plain]

theorem straight_of_sound {key : Option String} (noList : v.list? = none) (sound : ∀ schema ∈ schemas v, Sound key schema) : Straight v :=
  ⟨Option.isNone_iff_eq_none.mpr noList, fun schema met e member w inside =>
    Option.isNone_iff_eq_none.mpr (((sound schema met).proper e member).unlisted w inside)⟩

/-- The schemas in a schema with definitions. -/
theorem mem_schemas_withDefinitions (listed : key ∈ Pointer.definitionsKeys) {schema : Entries}
    (met : schema ∈ schemas (.map (withDefinitions key body definitions))) :
    schema = withDefinitions key body definitions ∨ schema ∈ schemas (.map body) ∨ ∃ d ∈ definitions, schema ∈ schemas d.2 := by
  obtain rfl | ⟨e, member, deeper⟩ := mem_schemas_map.mp met
  · exact .inl rfl
  · right
    unfold withDefinitions at member
    split at member
    · exact .inl (mem_schemas_map.mpr (.inr ⟨e, member, deeper⟩))
    · obtain before | ⟨named, same⟩ := mem_setField member
      · exact .inl (mem_schemas_map.mpr (.inr ⟨e, before, deeper⟩))
      · right
        rw [schemasUnder, same, subvalues_definitions (isDefinitionsKey_of_listed named listed)] at deeper
        obtain ⟨w, stands, deeper⟩ := List.mem_flatMap.mp deeper
        obtain ⟨d, among, rfl⟩ := List.mem_map.mp stands
        exact ⟨d, among, deeper⟩

theorem pointer?_withDefinitions (listed : key ∈ Pointer.definitionsKeys) : pointer? (withDefinitions key body definitions) = pointer? body := by
  have apart : "$ref" ≠ key := by
    rintro rfl
    revert listed
    decide
  unfold withDefinitions
  split
  · rfl
  · rw [pointer?, field?_setField_of_ne _ _ apart]
    rfl

theorem pointers_withDefinitions (listed : key ∈ Pointer.definitionsKeys)
    (pointed : name ∈ pointers (.map (withDefinitions key body definitions))) :
    name ∈ pointers (.map body) ∨ ∃ d ∈ definitions, name ∈ pointers d.2 := by
  obtain ⟨schema, met, points⟩ := mem_pointers.mp pointed
  obtain rfl | own | ⟨d, member, inside⟩ := mem_schemas_withDefinitions listed met
  · rw [pointer?_withDefinitions listed] at points
    exact .inl (mem_pointers.mpr ⟨body, mem_schemas_map.mpr (.inl rfl), points⟩)
  · exact .inl (mem_pointers.mpr ⟨schema, own, points⟩)
  · exact .inr ⟨d, member, mem_pointers.mpr ⟨schema, inside, points⟩⟩

theorem Plural.withDefinitions (plural : Plural body) (listed : key ∈ Pointer.definitionsKeys) :
    Plural (withDefinitions key body definitions) := by
  unfold Document.withDefinitions
  split
  · exact plural
  · intro e member keyword combines named
    obtain before | ⟨text, -⟩ := mem_setField member
    · exact plural e before keyword combines named
    · have apart : ∀ key ∈ Pointer.definitionsKeys, key ∉ combinators := by decide
      cases named.symm.trans text
      exact absurd combines (apart _ listed)

section Collection
variable {kept : List String} {root : Value} {found : Entries}

/-- What is collected is what pointers lead to, if the search for references finds all of them. -/
theorem Collected.reached_iff (ends : ∀ v, ¬ Loops definitions kept v)
    (collected : Collected definitions kept (references (flattened definitions kept root)) [] found)
    (mentioned : ∀ name ∈ labels found, Mentioned definitions kept root name)
    (first : pointers (flattened definitions kept root) ⊆ references (flattened definitions kept root))
    (onward : ∀ name body, definitions.field? name = some body →
      pointers (flattened definitions kept body) ⊆ references (flattened definitions kept body)) :
    name ∈ labels found ↔ Reached (IsDefined definitions) found (flattened definitions kept root) name := by
  have inside {name : String} (reached : Reached (IsDefined definitions) found (flattened definitions kept root) name) : name ∈ labels found := by
    induction reached with
    | root pointed known => exact (collected.wanted _ (first pointed) known).resolve_left List.not_mem_nil
    | @onward label other w reached stands pointed known ih =>
      obtain ⟨body, defined, same⟩ := collected.field? ih
      cases same.symm.trans stands
      obtain ⟨e, member, -, value⟩ := mem_of_field? stands
      exact (collected.closed e member other (value ▸ onward label body defined pointed) known).resolve_left List.not_mem_nil
  refine ⟨fun listed => ?_, inside⟩
  have step {v w : Value} {name : String} (walked : v = root ∨ ∃ label, Reached (IsDefined definitions) found
      (flattened definitions kept root) label ∧ definitions.field? label = some v) (simplified : inlineAll definitions kept v = .ok w)
      (refers : name ∈ references w) (known : IsDefined definitions name) :
      Reached (IsDefined definitions) found (flattened definitions kept root) name := by
    cases (inlineAll_eq (ends v)).symm.trans simplified
    have pointed := (references_subset _).1 refers
    obtain rfl | ⟨label, reached, defined⟩ := walked
    · exact .root pointed known
    · obtain ⟨body, same, stands⟩ := collected.field? (inside reached)
      cases same.symm.trans defined
      exact .onward reached stands pointed known
  have walks {v : Value} (walked : Walked definitions kept root v) : v = root ∨ ∃ label,
      Reached (IsDefined definitions) found (flattened definitions kept root) label ∧ definitions.field? label = some v := by
    induction walked with
    | root => exact .inl rfl
    | definition _ simplified refers defined ih => exact .inr ⟨_, step ih simplified refers (hasField_iff.mpr ⟨_, defined⟩), defined⟩
  obtain ⟨v, w, walked, simplified, refers⟩ := mentioned name listed
  exact step (walks walked) simplified refers (mem_labels.mp (collected.labels_subset listed))

end Collection

section Flattening
variable (parts : SoundParts document) (options)
include parts

theorem SoundParts.shallow (v : Value) : Shallow (Parts.ofEntries document).definitions
    (keptNames options (Parts.ofEntries document).definitions) (Parts.ofEntries document).definitions.length v :=
  shallow_of_tame (fun _ free again => free (List.mem_append_left _ (recursive_of_straight
    (fun name body found => straight_of_sound (parts.defined name body found).1 (parts.defined name body found).2) again))) v

theorem SoundParts.flat (sound : ∀ schema ∈ schemas v, Sound (Parts.ofEntries document).key schema) :
    let parts := Parts.ofEntries document
    let kept := keptNames options parts.definitions
    ∀ made ∈ schemas (flattened parts.definitions kept v), Flat parts.definitions kept parts.key made :=
  flat_inlined (fun _ first => List.contains_iff_mem.mp (parts_key first)) sound parts.defined (parts.shallow options v)

/-- The search for references finds all pointers that flattening leaves. -/
theorem SoundParts.refers (noList : v.list? = none) (sound : ∀ schema ∈ schemas v, Sound (Parts.ofEntries document).key schema) :
    let parts := Parts.ofEntries document
    let kept := keptNames options parts.definitions
    pointers (flattened parts.definitions kept v) ⊆ references (flattened parts.definitions kept v) := by
  refine (straight_of_sound ?_ fun made met => (parts.flat options sound made met).toSound).pointers_subset
  unfold flattened inlined
  split <;> exact list?_rebuilt noList _

/-- A document is flattened to its flat root, with the definitions that are collected from there. -/
theorem SoundParts.flattenEntries_collects :
    let parts := Parts.ofEntries document
    let kept := keptNames options parts.definitions
    ∃ (key : String) (body found : Entries), key ∈ Pointer.definitionsKeys ∧
      flattened parts.definitions kept (.map parts.root) = .map body ∧
      collect (inlineAll parts.definitions kept) parts.definitions parts.definitions.length [] (references (.map body)) = .ok found ∧
      Collected parts.definitions kept (references (.map body)) [] found ∧
      (∀ name ∈ labels found, Mentioned parts.definitions kept (.map parts.root) name) ∧
      flattenEntries options document = .ok (.map (withDefinitions key body found)) ∧
      Parts.ofEntries (withDefinitions key body found) = ⟨if found.isEmpty then none else some key, found, body⟩ := by
  have flat := parts.flat options parts.root
  have ends v := shallow_iff.mp (parts.shallow options v)
  clear parts
  intro parts kept
  obtain ⟨body, same⟩ : ∃ body, flattened parts.definitions kept (.map parts.root) = .map body := inlined_map _ _
  have top := flat body (same ▸ mem_schemas_map.mpr (.inl rfl))
  have simplified : inlineAll parts.definitions kept (.map parts.root) = .ok (.map body) := same ▸ inlineAll_eq (ends _)
  have wanted : ∀ name ∈ references (.map body), Mentioned parts.definitions kept (.map parts.root) name :=
    fun name refers => ⟨_, _, .root, simplified, refers⟩
  have onward (name : String) (other : Value) (mentioned : Mentioned parts.definitions kept (.map parts.root) name)
      (defined : parts.definitions.field? name = some other) (ends : ¬ Loops parts.definitions kept other) :
      ∀ next ∈ references (flattened parts.definitions kept other), Mentioned parts.definitions kept (.map parts.root) next :=
    fun next refers => ⟨other, _, mentioned.walked defined, inlineAll_eq ends, refers⟩
  obtain ⟨found, collects, collected, finished⟩ | ⟨-, -, other, -, -, loops⟩ := collects_or_loops (Nat.le_refl _)
    (.start parts.definitions kept (references (.map body))) wanted onward (List.forall_mem_nil _)
  · have mentioned : ∀ name ∈ labels found, Mentioned parts.definitions kept (.map parts.root) name :=
      fun name listed => (finished name listed).1
    cases first : parts.key with
    | none =>
      have empty : found = [] := by
        refine List.eq_nil_iff_forall_not_mem.mpr fun e member => ?_
        obtain ⟨name, other, defined, -⟩ := collected.each e member
        rw [show parts.definitions = [] from definitions_of_no_key first] at defined
        cases defined
      subst empty
      refine ⟨"definitions", body, [], by decide, same, collects, collected, mentioned,
        flattenEntries_eq options "definitions" simplified collects (.inr rfl), ?_⟩
      exact Parts.foldl_add_of_plain (fun e member => (top.proper e member).free) {}
    | some key =>
      have listed : key ∈ Pointer.definitionsKeys := List.contains_iff_mem.mp (parts_key first)
      refine ⟨key, body, found, listed, same, collects, collected, mentioned,
        flattenEntries_eq options key simplified collects (.inl first), parts_withDefinitions listed (fun e member => ?_) collected.nodup_keys⟩
      exact ⟨(top.proper e member).apart key first, (top.proper e member).free⟩
  · exact absurd loops (ends other)

end Flattening

section Documents

/-- A flat document points only to definitions that it has, each of which leads back to itself among those of the document
it is made of, or is an object and was to be kept for this. It has exactly the definitions that pointers lead to from its
root, each as flattening leaves it; and no combinator in it has an object for its only member. -/
theorem flatten_closed (placed : Placed document) (options : FlatteningOptions) :
    let input := (Parts.ofEntries document).definitions
    ∃ made, flatten options (.map document) = .ok (.map made) ∧
      let output := Parts.ofEntries made
      (∀ name ∈ pointers (.map made), input.hasField name = true → output.definitions.hasField name = true ∧
        (Relation.TransGen (PointsTo input) name name ∨
          options.preserveComplexReferences = true ∧ ∃ body, input.field? name = some body ∧ isObject body = true)) ∧
      (∀ name, output.definitions.hasField name = true ↔ Reached (IsDefined input) output.definitions (.map output.root) name) ∧
      (∀ name w, output.definitions.field? name = some w →
        ∃ body, input.field? name = some body ∧ inlineAll input (keptNames options input) body = .ok w) ∧
      ∀ schema ∈ schemas (.map made), Plural schema := by
  intro input
  have sound := placed.sound
  obtain ⟨key, body, found, listed, root, -, collected, mentioned, flattens, parts⟩ := sound.flattenEntries_collects options
  rw [← flatten_of_copyable options (Value.isCopyable_of_isJson placed.json)] at flattens
  have ends (v : Value) : ¬ Loops input (keptNames options input) v := shallow_iff.mp (sound.shallow options v)
  have flatRoot : ∀ schema ∈ schemas (.map body), Flat input (keptNames options input) (Parts.ofEntries document).key schema :=
    root ▸ sound.flat options sound.root
  have flatDefinition : ∀ d ∈ found, ∀ schema ∈ schemas d.2, Flat input (keptNames options input) (Parts.ofEntries document).key schema := by
    intro d member
    obtain ⟨name, other, defined, rfl⟩ := collected.each d member
    exact sound.flat options (sound.defined name other defined).2
  have reached (name : String) : name ∈ labels found ↔ Reached (IsDefined input) found (.map body) name := by
    rw [← root]
    exact Collected.reached_iff ends (root ▸ collected) mentioned (sound.refers options rfl sound.root)
      fun name other defined => sound.refers options (sound.defined name other defined).1 (sound.defined name other defined).2
  refine ⟨withDefinitions key body found, flattens, ?_⟩
  dsimp only
  rw [parts]
  refine ⟨fun name pointed known => ⟨mem_labels.mp ((reached name).mpr ?_), ?_⟩, fun name => mem_labels.symm.trans (reached name),
    fun name w stands => ?_, fun schema met => ?_⟩
  · obtain own | ⟨d, member, inside⟩ := pointers_withDefinitions listed pointed
    · exact .root own known
    · obtain ⟨label, other, -, same⟩ := collected.each d member
      have named : d.1.str? = some label := same ▸ rfl
      have kept : label ∈ labels found := List.mem_filterMap.mpr ⟨d, member, named⟩
      exact .onward ((reached label).mp kept) (field?_of_mem collected.distinct member named) inside known
  · have kept : name ∈ keptNames options input := by
      obtain own | ⟨d, member, inside⟩ := pointers_withDefinitions listed pointed
      · obtain ⟨schema, met, points⟩ := mem_pointers.mp own
        exact (flatRoot schema met).settled name points known
      · obtain ⟨schema, met, points⟩ := mem_pointers.mp inside
        exact (flatDefinition d member schema met).settled name points known
    exact ((mem_keptNames (keyed_definitions placed.json).distinct).mp kept).imp_left fun recursive =>
      (mem_recursive.mp recursive).lift id fun _ _ refers => RefersTo.pointsTo refers
  · obtain ⟨e, member, named, rfl⟩ := mem_of_field? stands
    obtain ⟨label, other, defined, rfl⟩ := collected.each e member
    cases named
    exact ⟨other, defined, inlineAll_eq (ends other)⟩
  · obtain rfl | own | ⟨d, member, inside⟩ := mem_schemas_withDefinitions listed met
    · exact (flatRoot body (mem_schemas_map.mpr (.inl rfl))).plural.withDefinitions listed
    · exact (flatRoot schema own).plural
    · exact (flatDefinition d member schema inside).plural

/-- A gallery whose rooms lead to each other. Its labels are texts, and a definition for frames is not used. -/
def gallery : Entries :=
  [entry "type" (.str "object"),
   entry "properties" (.map [
     entry "entrance" (.map [entry "$ref" (.str "#/definitions/Room")]),
     entry "title" (.map [entry "allOf" (.list [.map [entry "$ref" (.str "#/definitions/Label")]])])]),
   entry "definitions" (.map [
     entry "Room" (.map [
       entry "type" (.str "object"),
       entry "properties" (.map [
         entry "door" (.map [entry "anyOf" (.list [.map [entry "$ref" (.str "#/definitions/Room")]])]),
         entry "label" (.map [entry "$ref" (.str "#/definitions/Label")])])]),
     entry "Label" (.map [entry "type" (.str "string")]),
     entry "Frame" (.map [entry "oneOf" (.list [.map [entry "$ref" (.str "#/definitions/Label")]])])])]

theorem gallery_closed :
    Placed gallery ∧ ∃ made, flatten {} (.map gallery) = .ok (.map made) ∧
      (∀ name ∈ pointers (.map made), (Parts.ofEntries gallery).definitions.hasField name = true →
        Relation.TransGen (PointsTo (Parts.ofEntries gallery).definitions) name name) ∧
      ∀ schema ∈ schemas (.map made), Plural schema := by
  have placed : Placed gallery := ⟨by decide +kernel, by decide +kernel, by decide +kernel, by decide +kernel⟩
  obtain ⟨made, flattens, closed, -, -, plural⟩ := flatten_closed placed {}
  refine ⟨placed, made, flattens, fun name pointed known => ?_, plural⟩
  obtain ⟨-, again | ⟨preserve, -⟩⟩ := closed name pointed known
  · exact again
  · cases preserve

end Documents

end RecordSchema.Document
