import RecordSchema.Proofs.StrippedDocuments

/-! What a stripped document still holds: all schemas that are neither the document nor a definition, with the
read-only properties that they have. Main statement: `stripDerived_inputOnly`. -/

namespace RecordSchema.Document

section Positions
variable {document schema : Entries}

/-- The schemas that a walk meets inside of a schema. -/
def inside (schema : Entries) : List Entries := List.flatMap (fun e => schemasUnder e.1 e.2) schema

/-- A document apart from its definitions. -/
def undefining (document : Entries) : Entries := List.filter (fun e => !isDefinitionsKey e.1) document

/-- The objects among the definitions of a document. -/
def definedSchemas (document : Entries) : List Entries :=
  List.flatMap (fun e => if isDefinitionsKey e.1 then (subvalues e.1 e.2).filterMap Value.ownEntries? else []) document

/-- The schemas in a document that are neither the document nor a definition, apart from those that go with the
read-only properties of these. -/
def nested (document : Entries) : List Entries :=
  inside (undefining (supplied document)) ++ (definedSchemas document).flatMap fun schema => inside (supplied schema)

/-- All definitions of a document are objects. -/
def DefinesObjects (document : Entries) : Prop :=
  ∀ e ∈ document, isDefinitionsKey e.1 = true → ∀ w ∈ subvalues e.1 e.2, ∃ schema, w = .map schema

theorem mem_definedSchemas : schema ∈ definedSchemas document ↔
    ∃ e ∈ document, isDefinitionsKey e.1 = true ∧ .map schema ∈ subvalues e.1 e.2 := by
  have own (w : Value) : w.ownEntries? = some schema ↔ w = .map schema := by cases w <;> simp [Value.ownEntries?]
  rw [definedSchemas, List.mem_flatMap]
  refine exists_congr fun e => and_congr_right fun _ => ?_
  by_cases known : isDefinitionsKey e.1 = true
  · rw [if_pos known, List.mem_filterMap]
    simp [known, own]
  · rw [if_neg known]
    simp [known]

theorem mem_schemas_map_iff : schema ∈ schemas (.map document) ↔ schema = document ∨ schema ∈ inside document := by
  rw [schemas_map, List.mem_cons, inside]

/-- A schema in a document is the document, a definition, or inside of one of them. -/
theorem mem_schemas_document (objects : DefinesObjects document) : schema ∈ schemas (.map document) ↔
    schema = document ∨ schema ∈ definedSchemas document ∨
      schema ∈ inside (undefining document) ++ (definedSchemas document).flatMap inside := by
  rw [mem_schemas_map_iff, List.mem_append, List.mem_flatMap]
  refine or_congr_right ⟨fun within => ?_, fun within => ?_⟩
  · obtain ⟨e, member, met⟩ := List.mem_flatMap.mp within
    by_cases known : isDefinitionsKey e.1 = true
    · obtain ⟨w, stands, met⟩ := List.mem_flatMap.mp met
      obtain ⟨body, rfl⟩ := objects e member known w stands
      have defined : body ∈ definedSchemas document := mem_definedSchemas.mpr ⟨e, member, known, stands⟩
      obtain rfl | deeper := mem_schemas_map_iff.mp met
      · exact .inl defined
      · exact .inr (.inr ⟨body, defined, deeper⟩)
    · exact .inr (.inl (List.mem_flatMap.mpr ⟨e, List.mem_filter.mpr ⟨member, by simpa using known⟩, met⟩))
  · have below {body : Entries} (defined : body ∈ definedSchemas document) (met : schema ∈ schemas (.map body)) :
        schema ∈ inside document := by
      obtain ⟨e, member, -, stands⟩ := mem_definedSchemas.mp defined
      exact List.mem_flatMap.mpr ⟨e, member, List.mem_flatMap.mpr ⟨_, stands, met⟩⟩
    obtain defined | own | ⟨body, defined, deeper⟩ := within
    · exact below defined (mem_schemas_map_iff.mpr (.inl rfl))
    · obtain ⟨e, member, met⟩ := List.mem_flatMap.mp own
      exact List.mem_flatMap.mpr ⟨e, (List.mem_filter.mp member).1, met⟩
    · exact below defined (mem_schemas_map_iff.mpr (.inr deeper))

/-- What becomes of what stands under a key of a document. -/
def inputValue (removed : Entries) (key v : Value) : Value :=
  if key.str? = some "properties" then suppliedProperties v
  else if key.str? = some "required" then stillRequired removed v
  else if isDefinitionsKey key then suppliedDefinitions v
  else v

theorem isDefinitionsKey_iff {key : Value} :
    isDefinitionsKey key = true ↔ key.str? = some "definitions" ∨ key.str? = some "$defs" := by
  rw [isDefinitionsKey]
  cases key.str? with
  | none => simp
  | some name => simp [Pointer.definitionsKeys]

theorem inputDocument_eq_map (document : Entries) :
    inputDocument document = List.map (fun e => (e.1, inputValue (readOnlyProperties document) e.1 e.2)) document := by
  show Entries.adjust (Entries.adjust (Entries.adjust (Entries.adjust document _ _) _ _) _ _) _ _ = _
  rw [Entries.adjust, Entries.adjust, Entries.adjust, Entries.adjust, List.map_map, List.map_map, List.map_map]
  refine List.map_congr_left fun e _ => ?_
  obtain ⟨key, v⟩ := e
  unfold inputValue
  by_cases properties : key.str? = some "properties"
  · simp [properties]
  by_cases required : key.str? = some "required"
  · simp [required]
  by_cases first : key.str? = some "definitions"
  · simp [first, isDefinitionsKey_iff]
  by_cases second : key.str? = some "$defs"
  · simp [second, isDefinitionsKey_iff]
  · simp [properties, required, first, second, isDefinitionsKey_iff]

theorem inputValue_definitions {removed : Entries} {key v : Value} (known : isDefinitionsKey key = true) :
    inputValue removed key v = suppliedDefinitions v := by
  have other {keyword : String} (apart : keyword ∉ Pointer.definitionsKeys) : key.str? ≠ some keyword := by
    intro named
    rw [isDefinitionsKey, named] at known
    exact apart (List.contains_iff_mem.mp known)
  rw [inputValue, if_neg (other (by decide)), if_neg (other (by decide)), if_pos known]

theorem subvalues_suppliedDefinitions {key v : Value} (known : isDefinitionsKey key = true) :
    subvalues key (suppliedDefinitions v) = (subvalues key v).map suppliedDefinition := by
  unfold subvalues
  rw [definitions_shape known]
  cases v with
  | map definitions =>
    show List.map Prod.snd (List.map _ definitions) = List.map _ (List.map Prod.snd definitions)
    rw [List.map_map, List.map_map]
    rfl
  | _ => rfl

theorem definedSchemas_inputDocument (document : Entries) :
    definedSchemas (inputDocument document) = (definedSchemas document).map supplied := by
  rw [inputDocument_eq_map, definedSchemas, definedSchemas, List.flatMap_map, List.map_flatMap]
  refine congrArg (List.flatMap · document) (funext fun e => ?_)
  by_cases known : isDefinitionsKey e.1 = true
  · simp only [if_pos known]
    rw [inputValue_definitions known, subvalues_suppliedDefinitions known, List.filterMap_map, List.map_filterMap]
    refine congrArg (List.filterMap · _) (funext fun w => ?_)
    cases w <;> rfl
  · simp only [if_neg known, List.map_nil]

theorem undefining_inputDocument (document : Entries) : undefining (inputDocument document) = undefining (supplied document) := by
  have free {entries : Entries} {name : String} {change : Value → Value} (known : isDefinitionsKey (.str name) = true) :
      undefining (entries.adjust name change) = undefining entries :=
    Entries.filter_adjust fun key _ named => by rw [isDefinitionsKey, named]; exact congrArg not known
  show undefining (Entries.adjust (Entries.adjust _ _ _) _ _) = _
  rw [free (by decide), free (by decide)]

theorem inside_adjust_subset {name : String} {change : Value → Value}
    (fewer : ∀ key v, key.str? = some name → subvalues key (change v) ⊆ subvalues key v) : inside (schema.adjust name change) ⊆ inside schema := by
  intro below met
  obtain ⟨_, member, met⟩ := List.mem_flatMap.mp met
  obtain ⟨e, among, rfl⟩ := List.mem_map.mp member
  refine List.mem_flatMap.mpr ⟨e, among, ?_⟩
  split at met
  next named =>
    obtain ⟨w, stands, met⟩ := List.mem_flatMap.mp met
    exact List.mem_flatMap.mpr ⟨w, fewer e.1 e.2 named stands, met⟩
  next => exact met

theorem inside_supplied_subset (schema : Entries) : inside (supplied schema) ⊆ inside schema := by
  refine List.Subset.trans (inside_adjust_subset fun key v named => ?_) (inside_adjust_subset fun key v named => ?_)
  · have shape : KeywordShape.ofKey? key = none := by rw [KeywordShape.ofKey?, named]; rfl
    unfold subvalues
    rw [shape]
    exact fun _ stands => stands
  · have shape : KeywordShape.ofKey? key = some .named := by rw [KeywordShape.ofKey?, named]; rfl
    unfold subvalues
    rw [shape]
    cases v with
    | map properties => exact (List.filter_sublist.map _).subset
    | _ => exact fun _ stands => stands

/-- What stripping does not look at are schemas of the document. -/
theorem nested_subset (document : Entries) : nested document ⊆ schemas (.map document) := by
  intro schema met
  rw [mem_schemas_map_iff]
  obtain own | below := List.mem_append.mp met
  · obtain ⟨e, member, met⟩ := List.mem_flatMap.mp own
    exact .inr (inside_supplied_subset document (List.mem_flatMap.mpr ⟨e, (List.mem_filter.mp member).1, met⟩))
  · obtain ⟨body, defined, deeper⟩ := List.mem_flatMap.mp below
    obtain ⟨e, member, -, stands⟩ := mem_definedSchemas.mp defined
    refine .inr (List.mem_flatMap.mpr ⟨e, member, List.mem_flatMap.mpr ⟨_, stands, ?_⟩⟩)
    exact mem_schemas_map_iff.mpr (.inr (inside_supplied_subset body deeper))

theorem DefinesObjects.inputDocument (objects : DefinesObjects document) : DefinesObjects (inputDocument document) := by
  rw [inputDocument_eq_map]
  refine List.forall_mem_map.mpr fun e member known => ?_
  rw [inputValue_definitions known, subvalues_suppliedDefinitions known]
  refine List.forall_mem_map.mpr fun w stands => ?_
  obtain ⟨schema, rfl⟩ := objects e member known w stands
  exact ⟨supplied schema, rfl⟩

theorem mem_schemas_inputDocument (objects : DefinesObjects document) : schema ∈ schemas (.map (inputDocument document)) ↔
    schema = inputDocument document ∨ schema ∈ definedSchemas (inputDocument document) ∨ schema ∈ nested document := by
  have below : (definedSchemas (inputDocument document)).flatMap inside =
      (definedSchemas document).flatMap fun schema => inside (supplied schema) := by
    rw [definedSchemas_inputDocument, List.flatMap_map]
  rw [mem_schemas_document objects.inputDocument, below, undefining_inputDocument, nested]

end Positions

section Documents
variable {document : Entries}

/-- A schema document: JSON in which no key stands twice, with text for what is required. -/
structure SchemaDocument (document : Entries) : Prop where
  json : (Value.map document).isJson = true
  distinct : ∀ schema ∈ schemas (.map document), (labels schema).Nodup
  required : ∀ schema ∈ schemas (.map document), ∀ name ∈ requiredOf schema, name.str?.isSome = true

/-- A definition that is stripped and keeps its name. -/
def StrippedDefinition (before after : Value × Value) : Prop :=
  after.1 = before.1 ∧ ∃ schema stripped, before.2 = .map schema ∧ after.2 = .map stripped ∧ IsStripped schema stripped

theorem SchemaDocument.strippable (wellFormed : SchemaDocument document) {schema : Entries} (met : schema ∈ schemas (.map document)) :
    Strippable schema :=
  ⟨wellFormed.distinct schema met, fun name member => requireSearchable_of_str? (wellFormed.required schema met name member)⟩

theorem SchemaDocument.root (wellFormed : SchemaDocument document) : Strippable document :=
  wellFormed.strippable (mem_schemas_map.mpr (.inl rfl))

section Definitions
variable {key : String} (listed : key ∈ Pointer.definitionsKeys) {definitions : Entries}
  (found : document.field? key = some (.map definitions))

include listed found

/-- Definitions stand where a walk meets them. -/
theorem mem_subvalues_of_definition {d : Value × Value} (member : d ∈ definitions) :
    ∃ e ∈ document, isDefinitionsKey e.1 = true ∧ d.2 ∈ subvalues e.1 e.2 := by
  obtain ⟨e, among, named, same⟩ := Entries.mem_of_field? found
  have known : isDefinitionsKey e.1 = true := isDefinitionsKey_of_listed named listed
  refine ⟨e, among, known, ?_⟩
  unfold subvalues
  rw [definitions_shape known, same]
  exact List.mem_map_of_mem member

theorem SchemaDocument.definition (wellFormed : SchemaDocument document) {d : Value × Value} (member : d ∈ definitions)
    {schema : Entries} (whole : d.2 = .map schema) : Strippable schema := by
  obtain ⟨e, among, -, stands⟩ := mem_subvalues_of_definition listed found member
  refine wellFormed.strippable (mem_schemas_map.mpr (.inr ⟨e, among, List.mem_flatMap.mpr ⟨d.2, stands, ?_⟩⟩))
  rw [whole]
  exact mem_schemas_map.mpr (.inl rfl)

theorem DefinesObjects.definition (objects : DefinesObjects document) :
    ∀ d ∈ definitions, ∃ schema, d.2 = .map schema := by
  intro d member
  obtain ⟨e, among, known, stands⟩ := mem_subvalues_of_definition listed found member
  exact objects e among known d.2 stands

theorem SchemaDocument.isJson_definition (wellFormed : SchemaDocument document) : ∀ d ∈ definitions, d.2.isJson = true := by
  intro d member
  obtain ⟨e, among, -, stands⟩ := mem_subvalues_of_definition listed found member
  exact isJson_composite.of_mem_subvalues (Value.isJson_of_mem_map wellFormed.json e among).2 d.2 stands

end Definitions

theorem SchemaDocument.strippableDocument (wellFormed : SchemaDocument document) (objects : DefinesObjects document) :
    StrippableDocument document where
  copyable := Value.isCopyable_of_isJson wellFormed.json
  own := wellFormed.root
  defined _ listed _ found d member := by
    obtain ⟨schema, whole⟩ := objects.definition listed found d member
    exact ⟨schema, whole, wellFormed.definition listed found member whole⟩

/-- Definitions are stripped only if each of them is an object. -/
theorem objects_of_stripDefinitions {key : String} {definitions : Entries} (returns : (stripDefinitions document key).Returns)
    (found : document.field? key = some (.map definitions)) (json : ∀ d ∈ definitions, d.2.isJson = true) :
    ∀ d ∈ definitions, ∃ schema, d.2 = .map schema := by
  intro d member
  obtain ⟨made, ended⟩ := returns
  unfold stripDefinitions at ended
  simp only [found] at ended
  obtain ⟨stripped, each, -⟩ := Except.bind_eq_ok.mp ended
  obtain ⟨_, -, done⟩ := Except.returned_of_mapM each d member
  obtain ⟨schema, own, -⟩ := Except.bind_eq_ok.mp done
  unfold entriesOf at own
  split at own
  next entries mapping => exact ⟨entries, Value.eq_map_of_isJson (json d member) (Value.mapping?_of_entries mapping)⟩
  next => cases own

theorem SchemaDocument.returns_iff (wellFormed : SchemaDocument document) :
    (stripDerived (.map document)).Returns ↔ DefinesObjects document := by
  refine ⟨fun ⟨stripped, ended⟩ => ?_, fun objects => ⟨_, (wellFormed.strippableDocument objects).stripDerived_eq⟩⟩
  rw [stripDerived_of_copyable (Value.isCopyable_of_isJson wellFormed.json),
    stripSchema_eq wellFormed.root.distinct wellFormed.root.searchable, Except.ok_bind] at ended
  obtain ⟨done, first, ended⟩ := Except.bind_eq_ok.mp ended
  obtain ⟨last, second, -⟩ := Except.bind_eq_ok.mp ended
  have ofFirst definitions (found : document.field? "definitions" = some (.map definitions)) :
      ∀ d ∈ definitions, ∃ schema, d.2 = .map schema :=
    objects_of_stripDefinitions ⟨done, first⟩ ((field?_supplied (by decide)).trans found)
      (wellFormed.isJson_definition (by decide) found)
  obtain rfl : done = (supplied document).adjust "definitions" suppliedDefinitions := by
    rw [stripDefinitions_eq (by rw [labels_supplied]; exact wellFormed.root.distinct) fun definitions found d member => ?_] at first
    · exact (Except.ok.inj first).symm
    · rw [field?_supplied (by decide)] at found
      obtain ⟨schema, whole⟩ := ofFirst definitions found d member
      exact ⟨schema, whole, wellFormed.definition (by decide) found member whole⟩
  have ofSecond definitions (found : document.field? "$defs" = some (.map definitions)) :
      ∀ d ∈ definitions, ∃ schema, d.2 = .map schema := by
    refine objects_of_stripDefinitions ⟨last, second⟩ ?_ (wellFormed.isJson_definition (by decide) found)
    rw [Entries.field?_adjust_of_ne (by decide), field?_supplied (by decide), found]
  intro e member known w stands
  unfold subvalues at stands
  rw [definitions_shape known] at stands
  obtain ⟨key, v⟩ := e
  cases v with
  | map definitions =>
    obtain ⟨d, among, rfl⟩ := List.mem_map.mp stands
    obtain named | named := isDefinitionsKey_iff.mp known
    · exact ofFirst definitions (Entries.field?_of_mem wellFormed.root.distinct member named) d among
    · exact ofSecond definitions (Entries.field?_of_mem wellFormed.root.distinct member named) d among
  | _ => cases stands

/-- A document is stripped exactly if all its definitions are objects. Stripping takes the read-only properties from
the document and from each definition, and requires none of them any more. The schemas inside of these stay as they are:
the document is input-only exactly if each of them was. -/
theorem stripDerived_inputOnly (wellFormed : SchemaDocument document) :
    ((stripDerived (.map document)).Returns ↔ DefinesObjects document) ∧
      ∀ made, stripDerived (.map document) = .ok made → ∃ stripped : Entries, made = .map stripped ∧ IsStripped document stripped ∧
        (∀ key ∈ Pointer.definitionsKeys, ∀ definitions, document.field? key = some (.map definitions) →
          ∃ inputs, stripped.field? key = some (.map inputs) ∧ List.Forall₂ StrippedDefinition definitions inputs) ∧
        (∀ schema ∈ schemas (.map stripped), schema = stripped ∨ schema ∈ definedSchemas stripped ∨ schema ∈ nested document) ∧
        nested document ⊆ schemas (.map document) ∧
        ((∀ schema ∈ schemas (.map stripped), InputOnly schema) ↔ ∀ schema ∈ nested document, InputOnly schema) := by
  refine ⟨wellFormed.returns_iff, fun made ended => ?_⟩
  have objects : DefinesObjects document := wellFormed.returns_iff.mp ⟨made, ended⟩
  rw [(wellFormed.strippableDocument objects).stripDerived_eq] at ended
  cases ended
  have own := isStripped_inputDocument document
  refine ⟨inputDocument document, rfl, own, fun key listed definitions found => ?_,
    fun schema => (mem_schemas_inputDocument objects).mp, nested_subset document, fun all schema met => ?_, fun each schema met => ?_⟩
  · rw [field?_inputDocument_definitions listed, found]
    refine ⟨_, rfl, List.forall₂_map_right_iff.mpr (List.forall₂_same.mpr fun d member => ⟨rfl, ?_⟩)⟩
    obtain ⟨schema, whole⟩ := objects.definition listed found d member
    refine ⟨schema, supplied schema, whole, ?_, isStripped_supplied schema⟩
    obtain ⟨name, v⟩ := d
    cases whole
    rfl
  · exact all schema ((mem_schemas_inputDocument objects).mpr (.inr (.inr met)))
  · obtain rfl | defined | deeper := (mem_schemas_inputDocument objects).mp met
    · exact own.inputOnly
    · rw [definedSchemas_inputDocument] at defined
      obtain ⟨body, -, rfl⟩ := List.mem_map.mp defined
      exact (isStripped_supplied body).inputOnly
    · exact each schema deeper

/-- An invoice with a computed total, for a buyer whose label is computed. -/
def invoice : Entries :=
  [entry "type" (.str "object"),
   entry "properties" (.map [
     entry "buyer" (.map [entry "$ref" (.str "#/definitions/Buyer")]),
     entry "total" (.map [entry "type" (.str "number"), entry "readOnly" (.bool true)])]),
   entry "required" (.list [.str "buyer", .str "total"]),
   entry "definitions" (.map [
     entry "Buyer" (.map [
       entry "properties" (.map [
         entry "name" (.map [entry "type" (.str "string")]),
         entry "label" (.map [entry "type" (.str "string"), entry "readOnly" (.bool true)])]),
       entry "required" (.list [.str "name", .str "label"])])])]

theorem invoice_inputOnly : SchemaDocument invoice ∧ DefinesObjects invoice ∧
    ((stripDerived (.map invoice)).Returns ↔ DefinesObjects invoice) ∧
      ∀ made, stripDerived (.map invoice) = .ok made → ∃ stripped : Entries, made = .map stripped ∧ IsStripped invoice stripped ∧
        (∀ key ∈ Pointer.definitionsKeys, ∀ definitions, invoice.field? key = some (.map definitions) →
          ∃ inputs, stripped.field? key = some (.map inputs) ∧ List.Forall₂ StrippedDefinition definitions inputs) ∧
        (∀ schema ∈ schemas (.map stripped), schema = stripped ∨ schema ∈ definedSchemas stripped ∨ schema ∈ nested invoice) ∧
        nested invoice ⊆ schemas (.map invoice) ∧
        ((∀ schema ∈ schemas (.map stripped), InputOnly schema) ↔ ∀ schema ∈ nested invoice, InputOnly schema) := by
  have wellFormed : SchemaDocument invoice := ⟨by decide +kernel, by decide +kernel, by decide +kernel⟩
  have maps : ∀ e ∈ invoice, isDefinitionsKey e.1 = true → ∀ w ∈ subvalues e.1 e.2, w.ownEntries?.isSome = true := by decide +kernel
  refine ⟨wellFormed, fun e member known w stands => ?_, stripDerived_inputOnly wellFormed⟩
  have own := maps e member known w stands
  cases w with
  | map entries => exact ⟨entries, rfl⟩
  | _ => cases own

/-- A stay at a home that is described in place, whose label is computed. -/
def lodging : Entries :=
  [entry "type" (.str "object"),
   entry "properties" (.map [
     entry "home" (.map [
       entry "type" (.str "object"),
       entry "properties" (.map [entry "label" (.map [entry "type" (.str "string"), entry "readOnly" (.bool true)])]),
       entry "required" (.list [.str "label"])])]),
   entry "required" (.list [.str "home"])]

/-- The label of the home is still there. -/
theorem lodging_unstripped : (Value.map lodging).isJson = true ∧ stripDerived (.map lodging) = .ok (.map lodging) ∧
    ¬ ∀ schema ∈ schemas (.map lodging), InputOnly schema := by
  refine ⟨by decide +kernel, rfl, by decide +kernel⟩

end Documents

end RecordSchema.Document
