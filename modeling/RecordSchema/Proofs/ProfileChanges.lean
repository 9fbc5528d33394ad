import RecordSchema.Document.Profile
import RecordSchema.Proofs.ReorderedDocuments
import RecordSchema.Proofs.ResolvedDocuments
import RecordSchema.Proofs.TidySchemas

/-! What profiles make of one schema. Each is put together of changes that can be made before or after a schema with
nothing but notes is put on top of another, and that see no more of the schemas below than whether they are objects and
whether they are derived. Main statements: `Amendment.Local.exchangeable`, `fits_of_builtIn`. -/

namespace RecordSchema.Document
open Entries

variable {C : Value → Value → Prop} {options : ResolutionOptions} {schema other target beside : Entries}
  {keyword key : String} {v w : Value} {change : Entries → Except Fault Entries} {first second plain : Entries → Entries}

/-- Nothing but notes, and perhaps a pointer. -/
def Annotated (schema : Entries) : Prop := schema.Each fun keyword _ => keyword = "$ref" ∨ keyword ∈ notes

variable (C) in
/-- What is related is alike as far as changes look at it from above. -/
structure Respects : Prop where
  objects : ∀ v w, C v w → v.ownEntries?.isNone = w.ownEntries?.isNone
  derived : ∀ v w, C v w → isReadOnly v = isReadOnly w
  closed : C (.bool false) (.bool false)

theorem respects_eq : Respects Eq where
  objects _ _ same := by rw [same]
  derived _ _ same := by rw [same]
  closed := rfl

variable (plain) in
/-- A change that can be exchanged with putting notes on top of a schema, with attaching definitions to it, and with
changing the schemas below it. -/
structure Exchangeable : Prop where
  related : ∀ {C : Value → Value → Prop} {schema other : Entries}, Respects C → Related C schema other →
    Related C (plain schema) (plain other)
  annotated : ∀ {schema}, Annotated schema → Annotated (plain schema)
  kept : ∀ (schema : Entries), ∀ keyword ∈ "$ref" :: "readOnly" :: Pointer.definitionsKeys, (plain schema).field? keyword = schema.field? keyword
  merged : ∀ (options : ResolutionOptions) {target beside : Entries}, Keyed target → Keyed beside → Annotated beside → ∀ keyword,
    (plain (mergeBeside options.isDropped target beside)).field? keyword =
      (mergeBeside options.isDropped (plain target) (plain beside)).field? keyword
  attached : ∀ {key : String}, key ∈ Pointer.definitionsKeys → ∀ {schema : Entries}, Keyed schema → ∀ v keyword,
    (plain (schema.setField key v)).field? keyword = ((plain schema).setField key v).field? keyword
  copyable : ∀ {schema}, (Value.map schema).isCopyable = true → (Value.map (plain schema)).isCopyable = true

/-- Schemas with the same fields agree. -/
theorem Related.of_fields (first : Keyed schema) (second : Keyed other) (same : ∀ keyword, schema.field? keyword = other.field? keyword) :
    Related Eq schema other := by
  refine ⟨first, second, fun keyword => ?_⟩
  rw [same]
  cases other.field? keyword with
  | none => exact .none
  | some v => exact .some (Under.self fun _ _ => rfl)

theorem Related.fields_eq (related : Related Eq schema other) (keyword : String) : schema.field? keyword = other.field? keyword := by
  obtain ⟨left, right⟩ | ⟨v, w, left, right, under⟩ := related.field? keyword
  · rw [left, right]
  · rw [left, right, under.eq]

namespace Exchangeable

theorem keyed (exchangeable : Exchangeable plain) (keyed : Keyed schema) : Keyed (plain schema) :=
  (exchangeable.related respects_eq (.of_fields keyed keyed fun _ => rfl)).first

/-- The fields of a schema say what becomes of them. -/
theorem fields (exchangeable : Exchangeable plain) (first : Keyed schema) (second : Keyed other)
    (same : ∀ keyword, schema.field? keyword = other.field? keyword) (keyword : String) :
    (plain schema).field? keyword = (plain other).field? keyword :=
  (exchangeable.related respects_eq (.of_fields first second same)).fields_eq keyword

/-- One change after the other. -/
theorem comp (before : Exchangeable first) (after : Exchangeable second) : Exchangeable fun schema => second (first schema) where
  related respects related := after.related respects (before.related respects related)
  annotated annotated := after.annotated (before.annotated annotated)
  kept schema keyword member := (after.kept _ keyword member).trans (before.kept schema keyword member)
  merged options target beside keyed own annotated keyword := by
    have once := before.merged options keyed own annotated
    rw [after.fields (before.keyed (keyed.mergeBeside own)) ((before.keyed keyed).mergeBeside (before.keyed own)) once]
    exact after.merged options (before.keyed keyed) (before.keyed own) (before.annotated annotated) keyword
  attached listed schema keyed v keyword := by
    have once := before.attached listed keyed v
    rw [after.fields (before.keyed (keyed.setField _ v)) ((before.keyed keyed).setField _ v) once]
    exact after.attached listed (before.keyed keyed) v keyword
  copyable copyable := after.copyable (before.copyable copyable)

end Exchangeable

section Extensions

/-- A schema without extension keywords. -/
def withoutExtensions (schema : Entries) : Entries :=
  List.filter (fun e => !e.1.str?.any (·.startsWith "x-")) schema

theorem field?_withoutExtensions (schema : Entries) (keyword : String) :
    (withoutExtensions schema).field? keyword = if keyword.startsWith "x-" then none else schema.field? keyword := by
  induction schema with
  | nil => simp [withoutExtensions, Entries.field?]
  | cons e rest ih =>
    obtain ⟨key, v⟩ := e
    have rest : field? (withoutExtensions ((key, v) :: rest)) keyword =
        if key.str?.any (·.startsWith "x-") then (withoutExtensions rest).field? keyword
        else if key.str? = some keyword then some v else (withoutExtensions rest).field? keyword := by
      unfold withoutExtensions
      rw [List.filter_cons]
      split <;> simp_all [Entries.field?]
    rw [rest, ih, Entries.field?]
    by_cases named : key.str? = some keyword
    · rw [if_pos named, if_pos named, named, Option.any_some]
      split <;> rfl
    · rw [if_neg named, if_neg named]
      split <;> rfl

theorem Keyed.sublist (keyed : Keyed other) (part : schema.Sublist other) : Keyed schema :=
  ⟨fun e member => keyed.text e (part.subset member), keyed.distinct.sublist (part.filterMap _)⟩

theorem exchangeable_withoutExtensions : Exchangeable withoutExtensions where
  related {C schema other} respects related := by
    refine ⟨related.first.sublist List.filter_sublist, related.second.sublist List.filter_sublist, fun keyword => ?_⟩
    rw [field?_withoutExtensions, field?_withoutExtensions]
    split
    · exact .none
    · exact related.fields keyword
  annotated annotated e member := annotated e (List.mem_filter.mp member).1
  kept schema keyword member := by
    have own : keyword.startsWith "x-" = false := by
      revert keyword
      decide +kernel
    rw [field?_withoutExtensions, own, if_neg Bool.false_ne_true]
  merged options target beside keyed own annotated keyword := by
    have left : Keyed (withoutExtensions beside) := own.sublist List.filter_sublist
    rw [field?_withoutExtensions, own.field?_mergeBeside, left.field?_mergeBeside, field?_withoutExtensions, field?_withoutExtensions]
    split
    · rw [upon_none]
    · rfl
  attached {key} listed schema keyed v keyword := by
    have own : key.startsWith "x-" = false := by
      revert key
      decide +kernel
    rw [field?_withoutExtensions]
    by_cases same : keyword = key
    · rw [same, own, if_neg Bool.false_ne_true, field?_setField_self, field?_setField_self]
    · rw [field?_setField_of_ne _ _ same, field?_setField_of_ne _ _ same, field?_withoutExtensions]
  copyable {schema} copyable := by
    rw [isCopyable_composite.map] at copyable ⊢
    exact fun e member => copyable e (List.mem_filter.mp member).1

/-- Extension keywords can be told where all keys are text. -/
theorem dropExtensions_eq (texts : ∀ e ∈ schema, ∃ name, e.1 = .str name) : dropExtensions schema = .ok (withoutExtensions schema) := by
  induction schema with
  | nil => rfl
  | cons e rest ih =>
    obtain ⟨key, v⟩ := e
    obtain ⟨⟨name, rfl⟩, others⟩ := List.forall_mem_cons.mp texts
    have here : withoutExtensions ((.str name, v) :: rest) =
        if name.startsWith "x-" then withoutExtensions rest else (.str name, v) :: withoutExtensions rest := by
      unfold withoutExtensions
      rw [List.filter_cons, Value.str?, Option.any_some]
      cases name.startsWith "x-" <;> rfl
    have step : dropExtensions ((.str name, v) :: rest) = (do
        let rest ← dropExtensions rest
        return if name.startsWith "x-" then rest else (.str name, v) :: rest) := by
      rw [dropExtensions.eq_def]
      rfl
    rw [step, ih others, here]
    rfl

end Extensions

section Amendments

/-- The keywords that say what a record is. -/
def recordKeywords : List String := ["type", "properties", "required", "additionalProperties"]

/-- A keyword that is set in a schema if the schema calls for it. -/
structure Amendment where
  keyword : String
  choose : Entries → Option Value

namespace Amendment

def apply (amendment : Amendment) (schema : Entries) : Entries :=
  match amendment.choose schema with
  | some v => schema.setField amendment.keyword v
  | none => schema

/-- An amendment of a record that depends on what the schema says of the record. -/
structure Local (amendment : Amendment) : Prop where
  placed : amendment.keyword ∈ recordKeywords
  reads : ∀ schema other, (∀ keyword ∈ recordKeywords, schema.field? keyword = other.field? keyword) →
    amendment.choose schema = amendment.choose other
  empty : amendment.choose [] = none
  related : ∀ {C : Value → Value → Prop} {schema other : Entries}, Respects C → Related C schema other →
    Option.Rel (Under C amendment.keyword) (amendment.choose schema) (amendment.choose other)
  copyable : ∀ schema v, (Value.map schema).isCopyable = true → amendment.choose schema = some v → v.isCopyable = true

variable {amendment : Amendment}

theorem apply_of_some (chosen : amendment.choose schema = some v) : amendment.apply schema = schema.setField amendment.keyword v := by
  rw [apply, chosen]

theorem apply_of_none (unchosen : amendment.choose schema = none) : amendment.apply schema = schema := by
  rw [apply, unchosen]

theorem field?_apply (schema : Entries) (keyword : String) : (amendment.apply schema).field? keyword =
    if keyword = amendment.keyword then (amendment.choose schema).or (schema.field? keyword) else schema.field? keyword := by
  unfold apply
  cases amendment.choose schema with
  | none => simp
  | some v =>
    by_cases same : keyword = amendment.keyword
    · subst same
      rw [if_pos rfl]
      exact field?_setField_self _ _ _
    · rw [if_neg same]
      exact field?_setField_of_ne _ _ same

theorem Local.apart (isLocal : amendment.Local) {keyword : String}
    (other : keyword ∈ "$ref" :: "readOnly" :: notes ++ Pointer.definitionsKeys) : keyword ≠ amendment.keyword := by
  have free : keyword ∉ recordKeywords := by
    revert keyword
    decide
  rintro rfl
  exact free isLocal.placed

/-- Notes call for nothing. -/
theorem Local.choose_of_annotated (isLocal : amendment.Local) (annotated : Annotated schema) : amendment.choose schema = none := by
  rw [isLocal.reads schema [] fun keyword record => ?_, isLocal.empty]
  refine field?_of_absent (annotated.absent fun _ either => ?_)
  revert keyword
  decide

theorem keyed_apply (keyed : Keyed schema) : Keyed (amendment.apply schema) := by
  unfold apply
  split
  · exact keyed.setField _ _
  · exact keyed

theorem Local.exchangeable (isLocal : amendment.Local) : Exchangeable amendment.apply where
  related {C schema other} respects related := by
    refine ⟨keyed_apply related.first, keyed_apply related.second, fun keyword => ?_⟩
    rw [field?_apply, field?_apply]
    split
    next same =>
      have chosen := isLocal.related respects related
      rw [← same] at chosen
      generalize amendment.choose schema = one at chosen
      generalize amendment.choose other = two at chosen
      cases chosen with
      | none => exact related.fields keyword
      | some under => exact .some under
    next => exact related.fields keyword
  annotated {schema} annotated := by
    rw [apply_of_none (isLocal.choose_of_annotated annotated)]
    exact annotated
  kept schema keyword member := by
    rw [field?_apply, if_neg (isLocal.apart (by revert keyword; decide))]
  merged options target beside keyed own annotated keyword := by
    have still : amendment.apply beside = beside := apply_of_none (isLocal.choose_of_annotated annotated)
    have absent : ∀ keyword ∈ recordKeywords, beside.field? keyword = none := fun keyword record =>
      field?_of_absent (annotated.absent fun _ either => by revert keyword; decide)
    have chosen : amendment.choose (mergeBeside options.isDropped target beside) = amendment.choose target :=
      isLocal.reads _ _ fun keyword record => by rw [own.field?_mergeBeside, absent keyword record, upon_none]
    rw [still, field?_apply, chosen, own.field?_mergeBeside, own.field?_mergeBeside, field?_apply]
    split
    next same =>
      rw [same, absent _ isLocal.placed, upon_none, upon_none]
    next => rfl
  attached {key} listed schema keyed v keyword := by
    have free : key ∉ recordKeywords := by
      revert key
      decide
    have apart : key ≠ amendment.keyword := isLocal.apart (List.mem_append_right _ listed)
    have chosen : amendment.choose (schema.setField key v) = amendment.choose schema :=
      isLocal.reads _ _ fun keyword record => field?_setField_of_ne _ _ fun same => free (same ▸ record)
    rw [field?_apply, chosen]
    by_cases same : keyword = key
    · subst same
      rw [if_neg apart, field?_setField_self, field?_setField_self]
    · rw [field?_setField_of_ne _ _ same, field?_setField_of_ne _ _ same, field?_apply]
  copyable {schema} copyable := by
    unfold apply
    split
    next v chosen => exact isCopyable_composite.setField copyable (isLocal.copyable schema v copyable chosen) _
    next => exact copyable

end Amendment

section Records

theorem describesRecord_congr (same : ∀ keyword ∈ recordKeywords, schema.field? keyword = other.field? keyword) :
    describesRecord schema = describesRecord other := by
  rw [describesRecord, describesRecord, hasField, hasField, same "properties" (by decide), same "type" (by decide),
    same "additionalProperties" (by decide)]

theorem Related.describesRecord (respects : Respects C) (related : Related C schema other) :
    describesRecord schema = describesRecord other := by
  have extra : ((schema.field? "additionalProperties").bind Value.ownEntries?).isNone =
      ((other.field? "additionalProperties").bind Value.ownEntries?).isNone := by
    obtain ⟨left, right⟩ | ⟨v, w, left, right, under⟩ := related.field? "additionalProperties"
    · rw [left, right]
    · rw [left, right]
      cases under with
      | same => rfl
      | single _ pair => exact respects.objects v w pair
      | many shape | named shape => cases shape
  rw [Document.describesRecord, Document.describesRecord, related.hasField, related.field?_flat rfl, extra]

/-- Sets a keyword of records, or sets it if it is absent. -/
def ofRecords (keyword : String) (v : Value) (always : Bool) : Amendment where
  keyword
  choose schema := if describesRecord schema && (always || !schema.hasField keyword) then some v else none

theorem local_ofRecords {always : Bool} (placed : keyword ∈ recordKeywords) (copyable : v.isCopyable = true)
    (under : ∀ {C : Value → Value → Prop}, Respects C → Under C keyword v v) : (ofRecords keyword v always).Local where
  placed := placed
  reads schema other same := by
    unfold ofRecords
    dsimp only
    rw [describesRecord_congr same, hasField, hasField, same keyword placed]
  empty := by simp [ofRecords, describesRecord, hasField, field?]
  related respects related := by
    unfold ofRecords
    dsimp only
    rw [related.describesRecord respects, related.hasField]
    split
    · exact .some (under respects)
    · exact .none
  copyable schema w _ chosen := by
    unfold ofRecords at chosen
    dsimp only at chosen
    split at chosen
    · cases chosen
      exact copyable
    · cases chosen

variable (C) in
/-- Maps with the same keys in order, and related values. -/
def Matches (es fs : Entries) : Prop := es.keys = fs.keys ∧ List.Forall₂ C (es.map Prod.snd) (fs.map Prod.snd)

/-- The properties of schemas that agree. -/
theorem Related.properties (related : Related C schema other) :
    Option.Rel (Matches C) ((schema.field? "properties").bind Value.ownEntries?) ((other.field? "properties").bind Value.ownEntries?) := by
  obtain ⟨left, right⟩ | ⟨v, w, left, right, under⟩ := related.field? "properties"
  · rw [left, right]
    exact .none
  · rw [left, right, Option.bind_some, Option.bind_some]
    cases under with
    | same free =>
      cases v with
      | map entries =>
        cases List.map_eq_nil_iff.mp free
        exact .some ⟨rfl, .nil⟩
      | _ => exact .none
    | named _ keys pairs => exact .some ⟨keys, pairs⟩
    | single shape | many shape => cases shape

theorem Matches.stored (respects : Respects C) {es fs : Entries} (agree : Matches C es fs) :
    Matches C (es.filter fun e => !isReadOnly e.2) (fs.filter fun e => !isReadOnly e.2) := by
  obtain ⟨same, pairs⟩ := agree
  induction es generalizing fs with
  | nil =>
    cases fs with
    | nil => exact ⟨rfl, .nil⟩
    | cons f rest => cases same
  | cons e rest ih =>
    cases fs with
    | nil => cases same
    | cons f others =>
      obtain ⟨head, tail⟩ := List.cons_eq_cons.mp same
      cases pairs with
      | cons pair pairs =>
        obtain ⟨keys, values⟩ := ih tail pairs
        rw [List.filter_cons, List.filter_cons, respects.derived _ _ pair]
        split
        · refine ⟨?_, .cons pair values⟩
          show e.1 :: _ = f.1 :: _
          rw [head]
          exact congrArg _ keys
        · exact ⟨keys, values⟩

/-- Leaves derived fields out. -/
def withoutDerivedFields : Amendment where
  keyword := "properties"
  choose schema := (schema.field? "properties").bind Value.ownEntries? |>.map fun properties =>
    .map (properties.filter fun e => !isReadOnly e.2)

/-- Requires all properties. -/
def requiringAll : Amendment where
  keyword := "required"
  choose schema := (schema.field? "properties").bind Value.ownEntries? |>.map fun properties => .list (keys properties)

theorem copyable_properties (copyable : (Value.map schema).isCopyable = true) {properties : Entries}
    (found : (schema.field? "properties").bind Value.ownEntries? = some properties) :
    ∀ e ∈ properties, e.1.isCopyable = true ∧ e.2.isCopyable = true := by
  obtain ⟨v, stands, own⟩ := Option.bind_eq_some_iff.mp found
  obtain ⟨e, member, -, rfl⟩ := mem_of_field? stands
  have whole := ((isCopyable_composite.map _).mp copyable e member).2
  revert own whole
  generalize e.2 = v
  intro own whole
  cases v with
  | map entries =>
    cases own
    exact (isCopyable_composite.map _).mp whole
  | _ => cases own

theorem local_requiringAll : requiringAll.Local where
  placed := by decide
  reads schema other same := by
    unfold requiringAll
    dsimp only
    rw [same "properties" (by decide)]
  empty := rfl
  related {C schema other} respects related := by
    have properties := related.properties
    unfold requiringAll
    dsimp only
    generalize (schema.field? "properties").bind Value.ownEntries? = one at properties
    generalize (other.field? "properties").bind Value.ownEntries? = two at properties
    cases properties with
    | none => exact .none
    | some agree =>
      dsimp only [Option.map_some]
      rw [agree.1]
      exact .some (.flat rfl _)
  copyable schema w copyable chosen := by
    obtain ⟨properties, found, rfl⟩ := Option.map_eq_some_iff.mp chosen
    exact (isCopyable_composite.list _).mpr (List.forall_mem_map.mpr fun e member => (copyable_properties copyable found e member).1)

theorem local_withoutDerivedFields : withoutDerivedFields.Local where
  placed := by decide
  reads schema other same := by
    unfold withoutDerivedFields
    dsimp only
    rw [same "properties" (by decide)]
  empty := rfl
  related {C schema other} respects related := by
    have properties := related.properties
    unfold withoutDerivedFields
    dsimp only
    generalize (schema.field? "properties").bind Value.ownEntries? = one at properties
    generalize (other.field? "properties").bind Value.ownEntries? = two at properties
    cases properties with
    | none => exact .none
    | some agree =>
      obtain ⟨keys, pairs⟩ := agree.stored respects
      exact .some (.named rfl keys pairs)
  copyable schema w copyable chosen := by
    obtain ⟨properties, found, rfl⟩ := Option.map_eq_some_iff.mp chosen
    exact (isCopyable_composite.map _).mpr fun e member => copyable_properties copyable found e (List.mem_filter.mp member).1

end Records
end Amendments

section Profiles

/-- Closes records. -/
def closing : Amendment := ofRecords "additionalProperties" (.bool false) true

/-- Gives records properties. -/
def listingProperties : Amendment := ofRecords "properties" (.map []) false

/-- Has records say what is required. -/
def listingRequired : Amendment := ofRecords "required" (.list []) false

theorem local_closing : closing.Local :=
  local_ofRecords (by decide) rfl fun respects => .single rfl respects.closed

theorem local_listingProperties : listingProperties.Local :=
  local_ofRecords (by decide) rfl fun _ => .named rfl rfl .nil

theorem local_listingRequired : listingRequired.Local :=
  local_ofRecords (by decide) rfl fun _ => .flat rfl _

variable (change plain) in
/-- A change that can be exchanged, and does not fail on schemas without a format. -/
structure Fits : Prop where
  exchangeable : Exchangeable plain
  agrees : ∀ schema, Keyed schema → schema.field? "format" = none → change schema = .ok (plain schema)

theorem apply_ofRecords (keyword : String) (v : Value) (always : Bool) (schema : Entries) : (ofRecords keyword v always).apply schema =
    if describesRecord schema && (always || !schema.hasField keyword) then schema.setField keyword v else schema := by
  unfold Amendment.apply ofRecords
  dsimp only
  split
  next chosen =>
    split at chosen
    next called =>
      cases chosen
      rw [if_pos called]
    next => cases chosen
  next chosen =>
    split at chosen
    next => cases chosen
    next uncalled => rw [if_neg uncalled]

theorem describesRecord_withDefault (record : describesRecord schema = true) :
    describesRecord (withDefault schema "properties" v) = true := by
  unfold withDefault
  split
  · exact record
  · rw [describesRecord, hasField_setField_self, Bool.true_or]

theorem describesRecord_close (record : describesRecord schema = true) : describesRecord (close schema) = true := by
  have others {keyword : String} (other : keyword ≠ "additionalProperties") : (close schema).field? keyword = schema.field? keyword :=
    field?_setField_of_ne _ _ other
  unfold describesRecord at record ⊢
  rw [hasField, others (by decide), others (by decide), close, field?_setField_self]
  simp only [Bool.or_eq_true, Bool.and_eq_true] at record ⊢
  exact record.imp_right fun typed => ⟨typed.1, rfl⟩

theorem apply_closing (schema : Entries) : closing.apply schema = if describesRecord schema then close schema else schema := by
  rw [closing, apply_ofRecords, Bool.true_or, Bool.and_true, close]

theorem apply_of_absent (keyword : String) (v : Value) (schema : Entries) :
    (ofRecords keyword v false).apply schema = if describesRecord schema then withDefault schema keyword v else schema := by
  rw [apply_ofRecords, withDefault]
  cases describesRecord schema <;> cases schema.hasField keyword <;> rfl

theorem dropFormats_of_formless (formats : List String) (formless : schema.field? "format" = none) :
    dropFormats formats schema = .ok schema := by
  rw [dropFormats, formless]

theorem closing_listingProperties (schema : Entries) : closing.apply (listingProperties.apply schema) =
    if describesRecord schema then close (withDefault schema "properties" (.map [])) else schema := by
  rw [apply_closing, listingProperties, apply_of_absent]
  cases record : describesRecord schema with
  | true => rw [if_pos rfl, if_pos rfl, if_pos (describesRecord_withDefault record)]
  | false => rw [if_neg Bool.false_ne_true, if_neg Bool.false_ne_true, record, if_neg Bool.false_ne_true]

theorem listingRequired_closing (schema : Entries) : listingRequired.apply (closing.apply schema) =
    if describesRecord schema then withDefault (close schema) "required" (.list []) else schema := by
  rw [listingRequired, apply_of_absent, apply_closing]
  cases record : describesRecord schema with
  | true => rw [if_pos rfl, if_pos rfl, if_pos (describesRecord_close record)]
  | false => rw [if_neg Bool.false_ne_true, if_neg Bool.false_ne_true, record, if_neg Bool.false_ne_true]

theorem fits_closeWithProperties : Fits closeWithProperties fun schema => closing.apply (listingProperties.apply schema) where
  exchangeable := local_listingProperties.exchangeable.comp local_closing.exchangeable
  agrees schema _ formless := by
    rw [closeWithProperties, dropFormats_of_formless _ formless, Except.ok_bind, closing_listingProperties]
    split <;> rfl

theorem fits_closeWithRequired : Fits closeWithRequired fun schema => listingRequired.apply (closing.apply schema) where
  exchangeable := local_closing.exchangeable.comp local_listingRequired.exchangeable
  agrees schema _ formless := by
    rw [closeWithRequired, dropFormats_of_formless _ formless, Except.ok_bind, listingRequired_closing]
    rfl

theorem narrowed_of_none (none : (schema.field? "properties").bind Value.ownEntries? = none) :
    requiringAll.apply (withoutDerivedFields.apply schema) = schema := by
  have same : withoutDerivedFields.apply schema = schema := by
    refine Amendment.apply_of_none ?_
    dsimp only [withoutDerivedFields]
    rw [none]
    rfl
  rw [same]
  refine Amendment.apply_of_none ?_
  dsimp only [requiringAll]
  rw [none]
  rfl

theorem narrowed_of_map {properties : Entries} (found : schema.field? "properties" = some (.map properties)) :
    requiringAll.apply (withoutDerivedFields.apply schema) =
      (schema.setField "properties" (.map (properties.filter fun e => !isReadOnly e.2))).setField "required"
        (.list (keys (properties.filter fun e => !isReadOnly e.2))) := by
  have kept : withoutDerivedFields.apply schema =
      schema.setField "properties" (.map (properties.filter fun e => !isReadOnly e.2)) := by
    refine Amendment.apply_of_some ?_
    dsimp only [withoutDerivedFields]
    rw [found]
    rfl
  rw [kept]
  refine Amendment.apply_of_some ?_
  dsimp only [requiringAll]
  rw [field?_setField_self]
  rfl

theorem closeStrictly_eq (texts : ∀ e ∈ schema, ∃ name, e.1 = .str name) : closeStrictly schema =
    .ok (closing.apply (requiringAll.apply (withoutDerivedFields.apply (withoutExtensions schema)))) := by
  rw [closeStrictly, dropExtensions_eq texts, Except.ok_bind, apply_closing]
  generalize withoutExtensions schema = schema
  cases found : schema.field? "properties" with
  | none =>
    rw [narrowed_of_none (by rw [found]; rfl)]
    rfl
  | some v =>
    cases v with
    | map properties =>
      rw [narrowed_of_map found]
      rfl
    | _ =>
      rw [narrowed_of_none (by rw [found]; rfl)]
      rfl

theorem fits_closeStrictly : Fits closeStrictly fun schema =>
    closing.apply (requiringAll.apply (withoutDerivedFields.apply (withoutExtensions schema))) where
  exchangeable := ((exchangeable_withoutExtensions.comp local_withoutDerivedFields.exchangeable).comp
    local_requiringAll.exchangeable).comp local_closing.exchangeable
  agrees _ keyed _ := closeStrictly_eq keyed.text

/-- What a built-in profile does to a document: nothing, or a change of each schema that fits. -/
theorem fits_of_builtIn {name : String} (builtIn : Profiles.builtIn.contains name = true) :
    ∃ profile, Profiles.builtIn.get? name = some profile ∧
      (profile.change = .ok ∨ ∃ change plain, profile.change = changeAll change ∧ Fits change plain) := by
  obtain ⟨profile, found⟩ := Option.isSome_iff_exists.mp builtIn
  refine ⟨profile, found, ?_⟩
  have among : profile ∈ Profiles.builtIn.listed := List.mem_of_find?_eq_some found
  simp only [Profiles.builtIn, List.mem_cons, List.not_mem_nil, or_false] at among
  obtain rfl | rfl | rfl | rfl := among
  · exact .inl rfl
  · exact .inr ⟨_, _, rfl, fits_closeWithProperties⟩
  · exact .inr ⟨_, _, rfl, fits_closeWithRequired⟩
  · exact .inr ⟨_, _, rfl, fits_closeStrictly⟩

end Profiles

end RecordSchema.Document
