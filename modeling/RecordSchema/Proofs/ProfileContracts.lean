import RecordSchema.Proofs.ProfiledDocuments
import RecordSchema.Proofs.SchemaPlaces
import RecordSchema.Proofs.SuppliedDefault

/-! What profiles promise of one schema. Each makes a schema keep its promise, leaves a schema that keeps it as it is, and
touches no more of the schemas below than it has to. Main statements: `upholds_closeWithProperties`,
`upholds_closeWithRequired`, `upholds_closeStrictly`. -/

namespace RecordSchema.Document
open Entries

variable {keyword profile : String} {schema other : Entries} {plain first second : Entries → Entries} {v w : Value}

/-- No format of a list. -/
def WithoutFormats (formats : List String) (schema : Entries) : Prop :=
  ∀ format, (schema.field? "format").bind Value.str? = some format → format ∉ formats

/-- What a profile promises of a schema. -/
def Contract (profile : String) (schema : Entries) : Prop :=
  (describesRecord schema = true → schema.field? "additionalProperties" = some (.bool false)) ∧
  match profile with
  | "openai" => (describesRecord schema = true → schema.hasField "properties" = true) ∧ WithoutFormats ["date", "time", "email"] schema
  | "anthropic" => (describesRecord schema = true → schema.hasField "required" = true) ∧ WithoutFormats ["uri", "uuid"] schema
  | "strict_output" =>
    (∀ properties, schema.field? "properties" = some (.map properties) →
      schema.field? "required" = some (.list (keys properties)) ∧ ∀ e ∈ properties, isReadOnly e.2 = false) ∧
    ∀ e ∈ schema, ∀ keyword, e.1.str? = some keyword → keyword.startsWith "x-" = false
  | _ => True

/-- A schema whose keywords and format can be read. -/
def Legible (schema : Entries) : Prop :=
  Keyed schema ∧ ∀ format, schema.field? "format" = some format → ∃ text, format = .str text

section Parts

theorem describesRecord_of_fields (same : ∀ keyword ∈ ["properties", "type", "additionalProperties"], schema.field? keyword = other.field? keyword) :
    describesRecord schema = describesRecord other := by
  rw [describesRecord, describesRecord, hasField, hasField, same "properties" (by decide), same "type" (by decide),
    same "additionalProperties" (by decide)]

theorem describesRecord_setField (apart : keyword ∉ ["properties", "type", "additionalProperties"]) (v : Value) :
    describesRecord (schema.setField keyword v) = describesRecord schema :=
  describesRecord_of_fields fun _ member => field?_setField_of_ne _ _ fun same => apart (same ▸ member)

variable (plain) in
/-- A change of some keywords of a schema, after which it can be read and copied as before. -/
structure Unobtrusive : Prop where
  legible : ∀ schema, Legible schema → Legible (plain schema)
  copyable : ∀ schema, (Value.map schema).isCopyable = true → (Value.map (plain schema)).isCopyable = true
  grounded : Grounded plain
  kept : ∀ schema keyword, keyword ∉ ["format", "properties", "required", "additionalProperties"] → keyword.startsWith "x-" = false →
    (plain schema).field? keyword = schema.field? keyword

theorem Unobtrusive.comp (before : Unobtrusive first) (after : Unobtrusive second) : Unobtrusive fun schema => second (first schema) where
  legible schema legible := after.legible _ (before.legible schema legible)
  copyable schema copyable := after.copyable _ (before.copyable schema copyable)
  grounded := before.grounded.comp after.grounded
  kept schema keyword apart text := (after.kept _ keyword apart text).trans (before.kept schema keyword apart text)

/-- A schema without a format that readers do not know. -/
def withoutFormats (formats : List String) (schema : Entries) : Entries :=
  if ((schema.field? "format").bind Value.str?).any formats.contains then schema.dropField "format" else schema

variable {formats : List String}

theorem field?_withoutFormats (apart : keyword ≠ "format") : (withoutFormats formats schema).field? keyword = schema.field? keyword := by
  unfold withoutFormats
  split
  · exact field?_dropField_of_ne _ apart
  · rfl

theorem withoutFormats_withoutFormats (formats : List String) (schema : Entries) : WithoutFormats formats (withoutFormats formats schema) := by
  intro format stands listed
  unfold withoutFormats at stands
  split at stands
  next => rw [field?_dropField_self] at stands; cases stands
  next other => exact other (by simp [stands, listed])

theorem withoutFormats_of_without (without : WithoutFormats formats schema) : withoutFormats formats schema = schema := by
  refine if_neg fun found => ?_
  obtain ⟨format, stands, listed⟩ := (Option.any_eq_true _ _).mp found
  exact without format stands (by simpa using listed)

theorem dropFormats_of_legible (legible : Legible schema) : dropFormats formats schema = .ok (withoutFormats formats schema) := by
  unfold dropFormats withoutFormats
  cases found : schema.field? "format" with
  | none => rfl
  | some format =>
    obtain ⟨text, rfl⟩ := legible.2 format found
    rfl

theorem Legible.of_sublist (legible : Legible other) (part : schema.Sublist other) : Legible schema := by
  refine ⟨legible.1.sublist part, fun format found => ?_⟩
  obtain ⟨e, member, named, rfl⟩ := mem_of_field? found
  exact legible.2 e.2 (field?_of_mem legible.1.distinct (part.subset member) named)

theorem copyable_of_sublist (copyable : (Value.map other).isCopyable = true) (part : schema.Sublist other) :
    (Value.map schema).isCopyable = true := by
  rw [isCopyable_composite.map] at copyable ⊢
  exact fun e member => copyable e (part.subset member)

theorem Unobtrusive.of_sublist (part : ∀ schema, (plain schema).Sublist schema)
    (kept : ∀ schema keyword, keyword ∉ ["format", "properties", "required", "additionalProperties"] → keyword.startsWith "x-" = false →
      (plain schema).field? keyword = schema.field? keyword) : Unobtrusive plain where
  legible schema legible := legible.of_sublist (part schema)
  copyable schema copyable := copyable_of_sublist copyable (part schema)
  grounded := .of_subset fun schema => (part schema).subset
  kept := kept

theorem unobtrusive_withoutFormats (formats : List String) : Unobtrusive (withoutFormats formats) := by
  refine .of_sublist (fun schema => ?_) fun schema keyword apart _ => field?_withoutFormats fun same => apart (by simp [same])
  unfold withoutFormats
  split
  · exact List.filter_sublist
  · exact List.Sublist.refl schema

theorem unobtrusive_withoutExtensions : Unobtrusive withoutExtensions := by
  refine .of_sublist (fun _ => List.filter_sublist) fun schema keyword _ text => ?_
  rw [field?_withoutExtensions, text, if_neg Bool.false_ne_true]

end Parts

section Amended

variable {amendment : Amendment} {always : Bool} {properties : Entries}

theorem Amendment.grounded_apply (grounded : ∀ schema v, amendment.choose schema = some v → ∀ w ∈ searched (.str amendment.keyword) v,
    w.ownEntries? = none ∨ ∃ d ∈ schema, w ∈ searched d.1 d.2) : Grounded amendment.apply := by
  intro schema e member w inside
  cases chosen : amendment.choose schema with
  | none =>
    rw [Amendment.apply_of_none chosen] at member
    exact .inr ⟨e, member, inside⟩
  | some v =>
    rw [Amendment.apply_of_some chosen] at member
    obtain before | ⟨named, rfl⟩ := mem_setField member
    · exact .inr ⟨e, before, inside⟩
    · rw [searched_of_str? named] at inside
      exact grounded schema e.2 chosen w inside

/-- An amendment of what a record is does not get in the way, if what it sets holds no schemas but those that were there. -/
theorem Amendment.Local.unobtrusive (isLocal : amendment.Local) (untyped : amendment.keyword ≠ "type")
    (grounded : ∀ schema v, amendment.choose schema = some v → ∀ w ∈ searched (.str amendment.keyword) v,
      w.ownEntries? = none ∨ ∃ d ∈ schema, w ∈ searched d.1 d.2) : Unobtrusive amendment.apply where
  legible schema legible := by
    refine ⟨keyed_apply legible.1, fun format found => legible.2 format ?_⟩
    have apart : "format" ≠ amendment.keyword := by
      intro same
      have placed := isLocal.placed
      rw [← same] at placed
      revert placed
      decide
    rwa [Amendment.field?_apply, if_neg apart] at found
  copyable schema := isLocal.exchangeable.copyable
  grounded := Amendment.grounded_apply grounded
  kept schema keyword apart _ := by
    rw [Amendment.field?_apply, if_neg]
    rintro rfl
    have placed := isLocal.placed
    simp only [recordKeywords, List.mem_cons, List.not_mem_nil, or_false] at placed apart
    tauto

theorem choose_ofRecords : (ofRecords keyword v always).choose schema =
    if describesRecord schema && (always || !schema.hasField keyword) then some v else none := rfl

theorem unobtrusive_ofRecords (isLocal : (ofRecords keyword v always).Local) (untyped : keyword ≠ "type")
    (bare : ∀ w ∈ searched (.str keyword) v, w.ownEntries? = none) : Unobtrusive (ofRecords keyword v always).apply := by
  refine isLocal.unobtrusive untyped fun schema u chosen w inside => .inl (bare w ?_)
  rw [choose_ofRecords] at chosen
  split at chosen
  · cases chosen
    exact inside
  · cases chosen

theorem unobtrusive_closing : Unobtrusive closing.apply :=
  unobtrusive_ofRecords local_closing (by decide) fun w inside => by rw [List.mem_singleton.mp inside]; rfl

theorem unobtrusive_listingProperties : Unobtrusive listingProperties.apply :=
  unobtrusive_ofRecords local_listingProperties (by decide) fun _ inside => nomatch inside

theorem unobtrusive_listingRequired : Unobtrusive listingRequired.apply :=
  unobtrusive_ofRecords local_listingRequired (by decide) fun _ inside => nomatch inside

theorem unobtrusive_requiringAll : Unobtrusive requiringAll.apply :=
  local_requiringAll.unobtrusive (by decide) fun _ _ _ _ inside => nomatch inside

theorem unobtrusive_withoutDerivedFields : Unobtrusive withoutDerivedFields.apply := by
  refine local_withoutDerivedFields.unobtrusive (by decide) fun schema v chosen w inside => .inr ?_
  obtain ⟨properties, found, rfl⟩ := Option.map_eq_some_iff.mp chosen
  obtain ⟨under, stands, own⟩ := Option.bind_eq_some_iff.mp found
  obtain ⟨d, member, named, rfl⟩ := mem_of_field? stands
  have whole : d.2 = .map properties := by
    revert own
    cases d.2 <;> simp [Value.ownEntries?]
  refine ⟨d, member, ?_⟩
  rw [searched_of_str? named, whole]
  obtain ⟨e, among, rfl⟩ := List.mem_map.mp inside
  exact List.mem_map_of_mem (List.mem_filter.mp among).1

theorem field?_closing (schema : Entries) : (closing.apply schema).field? keyword =
    if keyword = "additionalProperties" ∧ describesRecord schema = true then some (.bool false) else schema.field? keyword := by
  rw [apply_closing]
  by_cases record : describesRecord schema = true
  · rw [if_pos record, close]
    by_cases same : keyword = "additionalProperties"
    · rw [if_pos ⟨same, record⟩, same, field?_setField_self]
    · rw [if_neg fun both => same both.1, field?_setField_of_ne _ _ same]
  · rw [if_neg record, if_neg fun both => record both.2]

theorem describesRecord_closing (schema : Entries) : describesRecord (closing.apply schema) = describesRecord schema := by
  rw [apply_closing]
  split
  next record => rw [describesRecord_close record, record]
  next => rfl

theorem closing_of_closed (closed : describesRecord schema = true → schema.field? "additionalProperties" = some (.bool false)) :
    closing.apply schema = schema := by
  rw [apply_closing]
  split
  next record => exact setField_of_present (closed record)
  next => rfl

end Amended

section Profiles

/-- The schema that stands under a name in the properties. -/
def property? (schema : Entries) (name : String) : Option Value := ((schema.field? "properties").bind Value.ownEntries?).bind (·.field? name)

/-- A change of a schema that keeps to what a profile promises, changes nothing where the promise is kept, and leaves what
stands below as far as it closes nothing and takes no derived fields out. -/
structure Upholds (profile : String) (change : Entries → Except Fault Entries) (plain : Entries → Entries) : Prop where
  unobtrusive : Unobtrusive plain
  agrees : ∀ schema, Legible schema → change schema = .ok (plain schema)
  contract : ∀ schema, Contract profile (plain schema)
  settled : ∀ schema, Contract profile schema → plain schema = schema
  closes : ∀ schema, (plain schema).field? "additionalProperties" =
    if describesRecord schema then some (.bool false) else schema.field? "additionalProperties"
  records : ∀ schema, describesRecord (plain schema) = describesRecord schema
  properties : ∀ schema, (∀ properties, schema.field? "properties" = some (.map properties) → Keyed properties) → ∀ name,
    property? (plain schema) name = (property? schema name).filter fun v => !(profile = "strict_output" && isReadOnly v)

theorem property?_of_field? (same : schema.field? "properties" = other.field? "properties") (name : String) :
    property? schema name = property? other name := by
  rw [property?, property?, same]

theorem filter_stored (apart : profile ≠ "strict_output") (found : Option Value) :
    found.filter (fun v => !(profile = "strict_output" && isReadOnly v)) = found := by
  cases found <;> simp [apart, Option.filter]

theorem describesRecord_withoutFormats (formats : List String) (schema : Entries) :
    describesRecord (withoutFormats formats schema) = describesRecord schema :=
  describesRecord_of_fields fun keyword member => field?_withoutFormats (by revert keyword; decide)

theorem WithoutFormats.of_field? (without : WithoutFormats formats other) (same : schema.field? "format" = other.field? "format") :
    WithoutFormats formats schema := by
  intro format stands
  rw [same] at stands
  exact without format stands

theorem closed_of_closes {made : Entries} (records : describesRecord made = describesRecord schema)
    (closes : made.field? "additionalProperties" = if describesRecord schema then some (.bool false) else schema.field? "additionalProperties")
    (record : describesRecord made = true) : made.field? "additionalProperties" = some (.bool false) := by
  rw [closes, if_pos (records.symm.trans record)]

section Listing

variable {listed : String} {listing : Value}

theorem field?_listing (differ : keyword ≠ listed) (schema : Entries) :
    ((ofRecords listed listing false).apply schema).field? keyword = schema.field? keyword := by
  rw [Amendment.field?_apply]
  exact if_neg differ

theorem hasField_listing (record : describesRecord schema = true) : ((ofRecords listed listing false).apply schema).hasField listed = true := by
  rw [apply_of_absent, if_pos record, withDefault]
  split
  next present => exact present
  next => exact hasField_setField_self

theorem listing_of_present (present : describesRecord schema = true → schema.hasField listed = true) :
    (ofRecords listed listing false).apply schema = schema := by
  rw [apply_of_absent]
  split
  next record => rw [withDefault, if_pos (present record)]
  next => rfl

theorem describesRecord_listingProperties (schema : Entries) : describesRecord (listingProperties.apply schema) = describesRecord schema := by
  rw [listingProperties, apply_of_absent]
  split
  next record => rw [describesRecord_withDefault record, record]
  next => rfl

theorem describesRecord_listingRequired (schema : Entries) : describesRecord (listingRequired.apply schema) = describesRecord schema :=
  describesRecord_of_fields fun keyword member => field?_listing (by revert keyword; decide) schema

theorem property?_listingProperties (schema : Entries) (name : String) :
    property? (listingProperties.apply schema) name = property? schema name := by
  rw [listingProperties, apply_of_absent, withDefault]
  split
  next =>
    split
    next => rfl
    next absent =>
      rw [property?, property?, field?_setField_self, Option.not_isSome_iff_eq_none.mp absent]
      rfl
  next => rfl

theorem property?_listingRequired (schema : Entries) (name : String) :
    property? (listingRequired.apply schema) name = property? schema name :=
  property?_of_field? (field?_listing (by decide) schema) name

end Listing

theorem property?_closing (schema : Entries) (name : String) : property? (closing.apply schema) name = property? schema name :=
  property?_of_field? (by rw [field?_closing, if_neg (by simp)]) name

theorem property?_withoutFormats (formats : List String) (schema : Entries) (name : String) :
    property? (withoutFormats formats schema) name = property? schema name :=
  property?_of_field? (field?_withoutFormats (by decide)) name

/-- A closed record with properties, and no format of some. -/
def closedWithProperties (schema : Entries) : Entries :=
  closing.apply (listingProperties.apply (withoutFormats ["date", "time", "email"] schema))

theorem describesRecord_closedWithProperties (schema : Entries) : describesRecord (closedWithProperties schema) = describesRecord schema := by
  rw [closedWithProperties, describesRecord_closing, describesRecord_listingProperties, describesRecord_withoutFormats]

theorem closes_closedWithProperties (schema : Entries) : (closedWithProperties schema).field? "additionalProperties" =
    if describesRecord schema then some (.bool false) else schema.field? "additionalProperties" := by
  rw [closedWithProperties, field?_closing, describesRecord_listingProperties, describesRecord_withoutFormats, listingProperties,
    field?_listing (by decide), field?_withoutFormats (by decide)]
  simp only [true_and]

theorem contract_closedWithProperties (schema : Entries) : Contract "openai" (closedWithProperties schema) := by
  refine ⟨closed_of_closes (describesRecord_closedWithProperties schema) (closes_closedWithProperties schema), fun record => ?_, ?_⟩
  · rw [describesRecord_closedWithProperties, ← describesRecord_withoutFormats ["date", "time", "email"]] at record
    rw [closedWithProperties, hasField, field?_closing, if_neg (by simp)]
    exact hasField_listing record
  · refine (withoutFormats_withoutFormats _ schema).of_field? ?_
    rw [closedWithProperties, field?_closing, if_neg (by simp), listingProperties, field?_listing (by decide)]

theorem upholds_closeWithProperties : Upholds "openai" closeWithProperties closedWithProperties where
  unobtrusive := ((unobtrusive_withoutFormats _).comp unobtrusive_listingProperties).comp unobtrusive_closing
  agrees schema legible := by
    rw [closeWithProperties, dropFormats_of_legible legible, Except.ok_bind, closedWithProperties, closing_listingProperties]
    split <;> rfl
  contract := contract_closedWithProperties
  settled schema contract := by
    obtain ⟨closed, present, without⟩ := contract
    rw [closedWithProperties, withoutFormats_of_without without, listingProperties, listing_of_present present, closing_of_closed closed]
  closes := closes_closedWithProperties
  records := describesRecord_closedWithProperties
  properties schema _ name := by
    rw [filter_stored (by decide), closedWithProperties, property?_closing, property?_listingProperties, property?_withoutFormats]

/-- A closed record that says what is required, and no format of some. -/
def closedWithRequired (schema : Entries) : Entries := listingRequired.apply (closing.apply (withoutFormats ["uri", "uuid"] schema))

theorem describesRecord_closedWithRequired (schema : Entries) : describesRecord (closedWithRequired schema) = describesRecord schema := by
  rw [closedWithRequired, describesRecord_listingRequired, describesRecord_closing, describesRecord_withoutFormats]

theorem closes_closedWithRequired (schema : Entries) : (closedWithRequired schema).field? "additionalProperties" =
    if describesRecord schema then some (.bool false) else schema.field? "additionalProperties" := by
  rw [closedWithRequired, listingRequired, field?_listing (by decide), field?_closing, describesRecord_withoutFormats,
    field?_withoutFormats (by decide)]
  simp only [true_and]

theorem contract_closedWithRequired (schema : Entries) : Contract "anthropic" (closedWithRequired schema) := by
  refine ⟨closed_of_closes (describesRecord_closedWithRequired schema) (closes_closedWithRequired schema), fun record => ?_, ?_⟩
  · rw [describesRecord_closedWithRequired, ← describesRecord_withoutFormats ["uri", "uuid"], ← describesRecord_closing] at record
    exact hasField_listing record
  · refine (withoutFormats_withoutFormats _ schema).of_field? ?_
    rw [closedWithRequired, listingRequired, field?_listing (by decide), field?_closing, if_neg (by simp)]

theorem upholds_closeWithRequired : Upholds "anthropic" closeWithRequired closedWithRequired where
  unobtrusive := ((unobtrusive_withoutFormats _).comp unobtrusive_closing).comp unobtrusive_listingRequired
  agrees schema legible := by
    rw [closeWithRequired, dropFormats_of_legible legible, Except.ok_bind, closedWithRequired, listingRequired_closing]
    rfl
  contract := contract_closedWithRequired
  settled schema contract := by
    obtain ⟨closed, present, without⟩ := contract
    rw [closedWithRequired, withoutFormats_of_without without, closing_of_closed closed, listingRequired, listing_of_present present]
  closes := closes_closedWithRequired
  records := describesRecord_closedWithRequired
  properties schema _ name := by
    rw [filter_stored (by decide), closedWithRequired, property?_listingRequired, property?_closing, property?_withoutFormats]

/-- A schema without derived fields, and with all properties required. -/
def narrowed (schema : Entries) : Entries := requiringAll.apply (withoutDerivedFields.apply schema)

/-- The properties that are no derived fields. -/
def stored (properties : Entries) : Entries := List.filter (fun e => !isReadOnly e.2) properties

theorem narrowed_cases (schema : Entries) :
    (∃ properties, schema.field? "properties" = some (.map properties) ∧
      narrowed schema = (schema.setField "properties" (.map (stored properties))).setField "required" (.list (keys (stored properties)))) ∨
    (schema.field? "properties").bind Value.ownEntries? = none ∧ narrowed schema = schema := by
  cases found : (schema.field? "properties").bind Value.ownEntries? with
  | none => exact .inr ⟨rfl, narrowed_of_none found⟩
  | some properties =>
    obtain ⟨v, stands, own⟩ := Option.bind_eq_some_iff.mp found
    cases v with
    | map _ =>
      cases own
      exact .inl ⟨properties, stands, narrowed_of_map stands⟩
    | _ => cases own

theorem field?_narrowed (schema : Entries) (properties : keyword ≠ "properties") (required : keyword ≠ "required") :
    (narrowed schema).field? keyword = schema.field? keyword := by
  obtain ⟨_, -, same⟩ | ⟨-, same⟩ := narrowed_cases schema
  · rw [same, field?_setField_of_ne _ _ required, field?_setField_of_ne _ _ properties]
  · rw [same]

theorem describesRecord_narrowed (schema : Entries) : describesRecord (narrowed schema) = describesRecord schema := by
  obtain ⟨properties, stands, same⟩ | ⟨-, same⟩ := narrowed_cases schema
  · rw [same, describesRecord_setField (by decide), describesRecord, hasField_setField_self, describesRecord, hasField, stands]
    rfl
  · rw [same]

theorem field?_withoutExtensions_of_plain (plain : keyword.startsWith "x-" = false) (schema : Entries) :
    (withoutExtensions schema).field? keyword = schema.field? keyword := by
  rw [field?_withoutExtensions, plain, if_neg Bool.false_ne_true]

theorem describesRecord_withoutExtensions (schema : Entries) : describesRecord (withoutExtensions schema) = describesRecord schema :=
  describesRecord_of_fields fun keyword member => field?_withoutExtensions_of_plain (by revert keyword; decide +kernel) schema

/-- No keyword is an extension. -/
def Unextended (schema : Entries) : Prop := ∀ e ∈ schema, ∀ keyword, e.1.str? = some keyword → keyword.startsWith "x-" = false

theorem Unextended.setField (unextended : Unextended schema) (plain : keyword.startsWith "x-" = false) (v : Value) :
    Unextended (schema.setField keyword v) := by
  intro e member other named
  obtain before | ⟨key, -⟩ := mem_setField member
  · exact unextended e before other named
  · cases key.symm.trans named
    exact plain

theorem unextended_withoutExtensions (schema : Entries) : Unextended (withoutExtensions schema) := by
  intro e member keyword named
  obtain ⟨-, plain⟩ := List.mem_filter.mp member
  simpa [named] using plain

theorem withoutExtensions_of_unextended (unextended : Unextended schema) : withoutExtensions schema = schema := by
  refine List.filter_eq_self.mpr fun e member => ?_
  cases named : e.1.str? with
  | none => rfl
  | some keyword => simp [unextended e member keyword named]

theorem unextended_narrowed (unextended : Unextended schema) : Unextended (narrowed schema) := by
  obtain ⟨_, -, same⟩ | ⟨-, same⟩ := narrowed_cases schema
  · rw [same]
    exact (unextended.setField (by decide +kernel) _).setField (by decide +kernel) _
  · rwa [same]

theorem unextended_closing (unextended : Unextended schema) : Unextended (closing.apply schema) := by
  rw [apply_closing]
  split
  · exact unextended.setField (by decide +kernel) _
  · exact unextended

/-- A closed record that requires all of its properties, without derived fields and extensions. -/
def closedStrictly (schema : Entries) : Entries := closing.apply (narrowed (withoutExtensions schema))

theorem describesRecord_closedStrictly (schema : Entries) : describesRecord (closedStrictly schema) = describesRecord schema := by
  rw [closedStrictly, describesRecord_closing, describesRecord_narrowed, describesRecord_withoutExtensions]

theorem closes_closedStrictly (schema : Entries) : (closedStrictly schema).field? "additionalProperties" =
    if describesRecord schema then some (.bool false) else schema.field? "additionalProperties" := by
  rw [closedStrictly, field?_closing, describesRecord_narrowed, describesRecord_withoutExtensions, field?_narrowed _ (by decide) (by decide),
    field?_withoutExtensions_of_plain (by decide +kernel)]
  simp only [true_and]

theorem contract_closedStrictly (schema : Entries) : Contract "strict_output" (closedStrictly schema) := by
  refine ⟨closed_of_closes (describesRecord_closedStrictly schema) (closes_closedStrictly schema), fun properties found => ?_,
    unextended_closing (unextended_narrowed (unextended_withoutExtensions schema))⟩
  rw [closedStrictly, field?_closing, if_neg (by simp)] at found ⊢
  obtain ⟨all, -, same⟩ | ⟨none, same⟩ := narrowed_cases (withoutExtensions schema)
  · rw [same, field?_setField_of_ne _ _ (by decide), field?_setField_self] at found
    cases found
    rw [same, field?_setField_self]
    exact ⟨rfl, fun e member => by simpa using (List.mem_filter.mp member).2⟩
  · rw [same] at found
    rw [found] at none
    cases none

theorem settled_closedStrictly (contract : Contract "strict_output" schema) : closedStrictly schema = schema := by
  obtain ⟨closed, narrow, unextended⟩ := contract
  rw [closedStrictly, withoutExtensions_of_unextended unextended]
  have still : narrowed schema = schema := by
    obtain ⟨properties, stands, same⟩ | ⟨-, same⟩ := narrowed_cases schema
    · obtain ⟨required, all⟩ := narrow properties stands
      have whole : stored properties = properties := List.filter_eq_self.mpr fun e member => by simp [all e member]
      rw [same, whole, setField_of_present stands, setField_of_present required]
    · exact same
  rw [still, closing_of_closed closed]

theorem property?_closedStrictly (keyed : ∀ properties, schema.field? "properties" = some (.map properties) → Keyed properties) (name : String) :
    property? (closedStrictly schema) name = (property? schema name).filter fun v => !isReadOnly v := by
  have before : (withoutExtensions schema).field? "properties" = schema.field? "properties" :=
    field?_withoutExtensions_of_plain (by decide +kernel) schema
  rw [closedStrictly, property?_closing, ← property?_of_field? before]
  obtain ⟨properties, stands, same⟩ | ⟨none, same⟩ := narrowed_cases (withoutExtensions schema)
  · have left : property? (narrowed (withoutExtensions schema)) name = (stored properties).field? name := by
      rw [property?, same, field?_setField_of_ne _ _ (by decide), field?_setField_self]
      rfl
    have right : property? (withoutExtensions schema) name = field? properties name := by
      rw [property?, stands]
      rfl
    rw [left, right]
    exact (keyed properties (before.symm.trans stands)).field?_filter _ name
  · rw [same, property?, none]
    rfl

theorem upholds_closeStrictly : Upholds "strict_output" closeStrictly closedStrictly where
  unobtrusive := ((unobtrusive_withoutExtensions.comp unobtrusive_withoutDerivedFields).comp unobtrusive_requiringAll).comp unobtrusive_closing
  agrees _ legible := closeStrictly_eq legible.1.text
  contract := contract_closedStrictly
  settled _ := settled_closedStrictly
  closes := closes_closedStrictly
  records := describesRecord_closedStrictly
  properties _ := property?_closedStrictly

end Profiles

end RecordSchema.Document
