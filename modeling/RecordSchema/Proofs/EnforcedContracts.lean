import RecordSchema.Proofs.ProfileContracts

/-! What profiles promise of a document. Whatever a profile closes, adds or takes out, it does to every schema that is left,
at any depth, and once it is done there is nothing more to do; a schema for the values of a map stays one. Main statement:
`enforce_upholds`. -/

namespace RecordSchema.Document
open Entries

variable {name keyword profile : String} {schema : Entries} {place : Place} {change : Entries → Except Fault Entries}
  {plain : Entries → Entries} {v : Value}

/-- A profile leaves what stands below a schema, unless it closes the schema or takes derived fields out. -/
def stays (profile : String) (schema : Entries) (place : Place) (v : Value) : Bool :=
  (place.keyword ≠ "additionalProperties" || !describesRecord schema) &&
    !(profile = "strict_output" && place.keyword = "properties" && isReadOnly v)

/-- A schema of maps: no record, and with a schema for the values. -/
def HoldsValues (schema inner : Entries) : Prop :=
  describesRecord schema = false ∧ schema.field? "additionalProperties" = some (.map inner)

/-- No keyword that holds schemas is an extension, or speaks of formats or of what is required. -/
theorem keyword_of_shape {shape : KeywordShape} (holds : KeywordShape.ofKeyword? keyword = some shape) :
    keyword ∉ ["format", "required"] ∧ keyword.startsWith "x-" = false := by
  unfold KeywordShape.ofKeyword? at holds
  split at holds
  all_goals first | decide +kernel | cases holds

/-- A schema that can be read, with properties of different names. -/
def Ordinary (schema : Entries) : Prop :=
  Legible schema ∧ ∀ properties, schema.field? "properties" = some (.map properties) → Keyed properties

theorem Legible.changed (legible : Legible schema) (plain : Entries → Entries) : Legible (changedEntries plain schema) := by
  obtain ⟨keyed, format⟩ := legible
  refine ⟨⟨fun e member => ?_, by rw [labels_changed]; exact keyed.distinct⟩, fun v found => format v ?_⟩
  · obtain ⟨d, among, rfl⟩ := List.mem_map.mp member
    exact keyed.text d among
  · rwa [field?_changed_of_flat rfl] at found

theorem describesRecord_changed (plain : Entries → Entries) (schema : Entries) :
    describesRecord (changedEntries plain schema) = describesRecord schema := by
  have extra : (((changedEntries plain schema).field? "additionalProperties").bind Value.ownEntries?).isNone =
      ((schema.field? "additionalProperties").bind Value.ownEntries?).isNone := by
    rw [field?_changed]
    cases schema.field? "additionalProperties" with
    | none => rfl
    | some v =>
      cases v with
      | map inner =>
        show (changed plain (.map inner)).ownEntries?.isNone = _
        rw [changed_map]
        rfl
      | _ => rfl
  rw [describesRecord, describesRecord, extra, field?_changed_of_flat rfl, hasField, hasField, field?_changed, Option.isSome_map]

namespace Upholds
variable (upholds : Upholds profile change plain)
include upholds

theorem isReadOnly_changed (v : Value) : isReadOnly (changed plain v) = isReadOnly v := by
  cases v with
  | map schema =>
    rw [changed_map, isReadOnly, isReadOnly, upholds.unobtrusive.kept _ "readOnly" (by decide) (by decide +kernel),
      field?_changed_of_flat rfl]
  | _ => rfl

theorem stays_changed (schema : Entries) (place : Place) (v : Value) :
    stays profile (changedEntries plain schema) place (changed plain v) = stays profile schema place v := by
  rw [stays, stays, describesRecord_changed, upholds.isReadOnly_changed]

/-- Where a record is closed, no schema is left. -/
theorem leaves_closed (record : describesRecord schema = true) (extra : place.keyword = "additionalProperties") :
    (child? (plain schema) place).bind Value.ownEntries? = none := by
  have closes := upholds.closes schema
  rw [record, if_pos rfl] at closes
  cases place with
  | alone keyword | item keyword _ | named keyword _ =>
    obtain rfl : keyword = "additionalProperties" := extra
    rw [child?, closes]
    rfl

/-- What stands under other keywords than those for records is not touched. -/
theorem leaves_other (apart : place.keyword ≠ "properties") (unclosed : place.keyword = "additionalProperties" → describesRecord schema = false) :
    child? (plain schema) place = child? schema place := by
  by_cases extra : place.keyword = "additionalProperties"
  · refine child?_of_field? ?_
    rw [extra, upholds.closes, unclosed extra, if_neg Bool.false_ne_true]
  · cases shape : KeywordShape.ofKeyword? place.keyword with
    | none => rw [child?_of_unshaped shape, child?_of_unshaped shape]
    | some _ =>
      obtain ⟨listed, plain⟩ := keyword_of_shape shape
      exact child?_of_field? (upholds.unobtrusive.kept _ _ (by simp_all) plain)

theorem leaves_schema (keyed : ∀ properties, schema.field? "properties" = some (.map properties) → Keyed properties) (place : Place) :
    (child? (plain schema) place).bind Value.ownEntries? = ((child? schema place).filter (stays profile schema place)).bind Value.ownEntries? := by
  by_cases properties : place.keyword = "properties"
  · cases place with
    | named keyword name =>
      obtain rfl : keyword = "properties" := properties
      have left : child? (plain schema) (.named "properties" name) = property? (plain schema) name := rfl
      have right : child? schema (.named "properties" name) = property? schema name := rfl
      have same : stays profile schema (.named "properties" name) = fun v => !(profile = "strict_output" && isReadOnly v) := by
        funext v
        simp [stays, Place.keyword]
      rw [left, right, same, upholds.properties schema keyed]
    | alone keyword | item keyword _ =>
      obtain rfl : keyword = "properties" := properties
      rfl
  · by_cases closed : place.keyword = "additionalProperties" ∧ describesRecord schema = true
    · rw [upholds.leaves_closed closed.2 closed.1]
      have gone : (child? schema place).filter (stays profile schema place) = none := by
        rw [Option.filter_eq_none_iff]
        intro v _
        simp [stays, closed.1, closed.2]
      rw [gone]
      rfl
    · rw [upholds.leaves_other properties fun extra => by simpa [extra] using closed]
      have all : stays profile schema place = fun _ => true := by
        funext v
        by_cases extra : place.keyword = "additionalProperties"
        · have unclosed : describesRecord schema = false := by simpa [extra] using closed
          simp [stays, extra, unclosed]
        · simp [stays, extra, properties]
      rw [all]
      cases child? schema place <;> rfl

theorem leaves (ordinary : Ordinary schema) (place : Place) :
    (child? (plain (changedEntries plain schema)) place).bind Value.ownEntries? =
      ((child? schema place).filter (stays profile schema place)).bind fun w => (changed plain w).ownEntries? := by
  have keyed : ∀ properties, (changedEntries plain schema).field? "properties" = some (.map properties) → Keyed properties := by
    intro properties found
    rw [field?_changed] at found
    obtain ⟨v, stands, same⟩ := Option.map_eq_some_iff.mp found
    cases v with
    | map before =>
      obtain rfl := Value.map.inj same
      obtain ⟨text, distinct⟩ := ordinary.2 before stands
      refine ⟨fun e member => ?_, ?_⟩
      · obtain ⟨d, among, rfl⟩ := List.mem_map.mp member
        exact text d among
      · rw [labels, List.filterMap_map]
        exact distinct
    | _ => cases same
  rw [upholds.leaves_schema keyed, child?_changed]
  cases child? schema place with
  | none => rfl
  | some w =>
    rw [Option.map_some, Option.filter_some, Option.filter_some, upholds.stays_changed]
    split <;> rfl

theorem holdsValues_iff {value : Entries} : HoldsValues (plain (changedEntries plain schema)) value ↔
    ∃ inner, HoldsValues schema inner ∧ changed plain (.map inner) = .map value := by
  cases record : describesRecord schema with
  | true =>
    refine iff_of_false (fun holds => ?_) fun ⟨_, holds, _⟩ => ?_
    · rw [HoldsValues, upholds.records, describesRecord_changed, record] at holds
      cases holds.1
    · rw [HoldsValues, record] at holds
      cases holds.1
  | false =>
    simp only [HoldsValues, upholds.records, describesRecord_changed, upholds.closes, record, Bool.false_eq_true, if_false, true_and,
      field?_changed, Option.map_eq_some_iff]
    constructor
    · rintro ⟨v, stands, same⟩
      cases v with
      | map inner => exact ⟨inner, stands, same⟩
      | _ => cases same
    · rintro ⟨inner, stands, same⟩
      exact ⟨_, stands, same⟩

end Upholds

theorem enforced_iff_of_ok {made : Value} {a b : Value} (enforced : Profiles.builtIn.enforce name a = .ok made) :
    Profiles.builtIn.enforce name a = .ok b ↔ made = b := by
  rw [enforced]
  exact ⟨fun same => Except.ok.inj same, fun same => same ▸ rfl⟩

/-- The profiles that promise something. -/
theorem exists_upholds (known : name ∈ ["openai", "anthropic", "strict_output"]) :
    ∃ profile change plain, Profiles.builtIn.get? name = some profile ∧ profile.change = changeAll change ∧ Upholds name change plain := by
  simp only [List.mem_cons, List.not_mem_nil, or_false] at known
  obtain rfl | rfl | rfl := known
  · exact ⟨_, _, _, rfl, rfl, upholds_closeWithProperties⟩
  · exact ⟨_, _, _, rfl, rfl, upholds_closeWithRequired⟩
  · exact ⟨_, _, _, rfl, rfl, upholds_closeStrictly⟩

theorem HoldsValues.below {inner : Entries} (holds : HoldsValues schema inner) : ∃ e ∈ schema, .map inner ∈ searched e.1 e.2 := by
  have stands : child? schema (.alone "additionalProperties") = some (.map inner) := by
    rw [child?, holds.2]
    rfl
  exact below_of_child? stands

theorem Upholds.enforce_eq (upholds : Upholds name change plain) {listed : Profile} (found : Profiles.builtIn.get? name = some listed)
    (changes : listed.change = changeAll change) (copyable : v.isCopyable = true) (each : Throughout Legible v) :
    Profiles.builtIn.enforce name v = .ok (changed plain v) := by
  rw [enforce_of_copyable found copyable, changes, changeAll_eq_pure (each.imp fun schema legible => upholds.agrees _ (legible.changed plain))]
  rfl

/-- Wherever a schema of a document has a format, it is text. -/
def TextFormats (document : Value) : Prop :=
  ∀ path schema format, schemaAt? document path = some schema → schema.field? "format" = some format → ∃ text, format = .str text

variable {document : Value}

theorem throughout_ordinary (json : document.isJson = true) (apart : document.all Value.keysApart = true) (formats : TextFormats document) :
    Throughout Ordinary document := by
  refine throughout_of_schemaAt? json apart fun path schema found => ?_
  have own := isJson_composite.reached json found
  have distinct : (Value.map schema).all Value.keysApart = true :=
    holds_of_reached? (Q := fun v => v.all Value.keysApart = true)
      (fun _ holds e member _ inside => all_of_mem_searched (Value.all_of_mem_map holds e member) inside) apart found
  refine ⟨⟨Value.keyed_of_isJson own distinct, fun format => formats path schema format found⟩, fun properties stands => ?_⟩
  obtain ⟨e, member, -, same⟩ := mem_of_field? stands
  exact Value.keyed_of_isJson (same ▸ (Value.isJson_of_mem_map own e member).2) (same ▸ Value.all_of_mem_map distinct e member)

/-- Fitting a JSON document to a profile makes every schema that is left keep the promise of the profile, puts at its position
what fitting it alone makes of it, fits the schemas for the values of maps, and is done once and for all. -/
theorem enforce_upholds (known : name ∈ ["openai", "anthropic", "strict_output"]) (json : document.isJson = true)
    (apart : document.all Value.keysApart = true) (formats : TextFormats document) :
    ∃ made, Profiles.builtIn.enforce name document = .ok made ∧
      (∀ path after, schemaAt? made path = some after → Contract name after) ∧
      (∀ path after, schemaAt? made path = some after ↔
        ∃ before, reached? (stays name) document path = some before ∧ Profiles.builtIn.enforce name (.map before) = .ok (.map after)) ∧
      (∀ path before after, reached? (stays name) document path = some before → schemaAt? made path = some after → ∀ value,
        HoldsValues after value ↔ ∃ inner, HoldsValues before inner ∧ Profiles.builtIn.enforce name (.map inner) = .ok (.map value)) ∧
      Profiles.builtIn.enforce name made = .ok made := by
  obtain ⟨listed, change, plain, found, changes, upholds⟩ := exists_upholds known
  have each := throughout_ordinary json apart formats
  have grounded := upholds.unobtrusive.grounded
  have enforced {v : Value} (copyable : v.isCopyable = true) (each : Throughout Ordinary v) :
      Profiles.builtIn.enforce name v = .ok (changed plain v) :=
    upholds.enforce_eq found changes copyable (each.imp fun _ ordinary => ordinary.1)
  have copyable := Value.isCopyable_of_isJson json
  have inner {path : List Place} {before : Entries} (reached : reached? (stays name) document path = some before) :
      (Value.map before).isCopyable = true ∧ Throughout Ordinary (.map before) :=
    ⟨isCopyable_composite.reached copyable reached, each.reached reached⟩
  have positions (path : List Place) := schemaAt?_changed each (fun _ => upholds.leaves) path
  have whole : Throughout Legible (changed plain document) :=
    each.changed grounded fun schema ordinary => upholds.unobtrusive.legible _ (ordinary.1.changed plain)
  refine ⟨_, enforced copyable each, fun path after stands => ?_, fun path after => ?_, fun path before after reached stands value => ?_, ?_⟩
  · have kept : Throughout (Contract name) (changed plain document) := each.changed grounded fun _ _ => upholds.contract _
    exact (kept.reached stands).here
  · rw [positions, Option.map_eq_some_iff]
    refine exists_congr fun before => and_congr_right fun reached => ?_
    rw [enforced_iff_of_ok (enforced (inner reached).1 (inner reached).2), changed_map, Value.map.injEq]
  · rw [positions, reached] at stands
    cases stands
    rw [upholds.holdsValues_iff]
    refine exists_congr fun values => and_congr_right fun holds => ?_
    obtain ⟨e, member, inside⟩ := holds.below
    have own := inner reached
    rw [enforced_iff_of_ok (enforced (isCopyable_composite.of_below own.1 e member _ inside) (own.2.of_below e member _ inside))]
  · have again := upholds.enforce_eq found changes
      (isCopyable_composite.changed (fun schema => upholds.unobtrusive.copyable schema) copyable) whole
    rw [again, changed_changed grounded fun schema => upholds.settled _ (upholds.contract schema)]

/-- Schemas at positions are among all schemas. -/
theorem textFormats_of_schemas (each : ∀ schema ∈ schemas document, ∀ format ∈ schema.field? "format", ∃ text, format = .str text) :
    TextFormats document := by
  intro path schema format found stands
  have among : schemas (.map schema) ⊆ schemas document :=
    holds_of_reached? (Q := fun v => schemas v ⊆ schemas document) (fun outer holds e member w inside => by
      refine List.Subset.trans (fun s met => ?_) holds
      refine mem_schemas_map.mpr (.inr ⟨e, member, ?_⟩)
      obtain direct | ⟨items, direct, item⟩ := subvalue_of_searched inside
      · exact List.mem_flatMap.mpr ⟨w, direct, met⟩
      · exact List.mem_flatMap.mpr ⟨_, direct, by rw [schemas_list]; exact List.mem_flatMap.mpr ⟨w, item, met⟩⟩)
      (List.Subset.refl _) found
  exact each schema (among (mem_schemas_map.mpr (.inl rfl))) format stands

/-- Values of tags, by name. -/
def tags : Entries := [(.str "type", .str "object"), (.str "additionalProperties", .map [(.str "type", .str "integer")])]

/-- An order with tags, and with a total that is computed. -/
def order : Value :=
  .map [(.str "type", .str "object"),
    (.str "properties", .map [(.str "email", .map [(.str "type", .str "string"), (.str "format", .str "email")]), (.str "tags", .map tags),
      (.str "total", .map [(.str "type", .str "number"), (.str "readOnly", .bool true), (.str "x-hook", .str "total")])]),
    (.str "required", .list [.str "email"])]

theorem order_upheld : "strict_output" ∈ ["openai", "anthropic", "strict_output"] ∧ order.isJson = true ∧
    order.all Value.keysApart = true ∧ TextFormats order ∧
    ∃ made, Profiles.builtIn.enforce "strict_output" order = .ok made ∧ schemaAt? made [.named "properties" "tags"] = some tags ∧
      HoldsValues tags [(.str "type", .str "integer")] ∧ Contract "strict_output" tags ∧ Profiles.builtIn.enforce "strict_output" made = .ok made := by
  have known : "strict_output" ∈ ["openai", "anthropic", "strict_output"] := by decide
  have json : order.isJson = true := by decide
  have apart : order.all Value.keysApart = true := by decide
  have formats : TextFormats order := by
    refine textFormats_of_schemas ?_
    simp [order, tags, schemas, schemasOfEntries, schemasOfNamed, KeywordShape.ofKey?, KeywordShape.ofKeyword?, Value.str?, Entries.field?]
  obtain ⟨made, enforced, contract, positions, values, again⟩ := enforce_upholds known json apart formats
  have still : schemaAt? made [.named "properties" "tags"] = some tags :=
    (positions _ _).mpr ⟨tags, by with_unfolding_all rfl, by with_unfolding_all rfl⟩
  refine ⟨known, json, apart, formats, made, enforced, still, ?_, contract _ _ still, again⟩
  refine (values _ tags tags (by with_unfolding_all rfl) still _).mpr ⟨_, ⟨by decide, rfl⟩, by with_unfolding_all rfl⟩

end RecordSchema.Document
