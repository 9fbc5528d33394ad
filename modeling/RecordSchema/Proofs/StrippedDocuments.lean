import RecordSchema.Document.Derived
import RecordSchema.Proofs.ResolvedDocuments

/-! Documents without read-only properties. Stripping a document takes the read-only properties, and what is required
of them, from the document itself and from each of its definitions. Main statements: `StrippableDocument.stripDerived_eq`,
`isStripped_inputDocument`. -/

namespace RecordSchema

namespace Entries
open Document

/-- Changes what stands under a name. -/
def adjust (entries : Entries) (name : String) (change : Value → Value) : Entries :=
  List.map (fun e => if e.1.str? = some name then (e.1, change e.2) else e) entries

variable {entries : Entries} {name other : String} {change : Value → Value} {v : Value}

theorem adjust_of_same (same : ∀ e ∈ entries, e.1.str? = some name → change e.2 = e.2) : entries.adjust name change = entries := by
  refine (List.map_congr_left fun e member => ?_).trans (List.map_id entries)
  split
  next named => rw [same e member named]; rfl
  next => rfl

theorem adjust_of_absent (absent : ∀ e ∈ entries, e.1.str? ≠ some name) : entries.adjust name change = entries :=
  adjust_of_same fun e member named => absurd named (absent e member)

theorem adjust_append (entries others : Entries) (name : String) (change : Value → Value) :
    adjust (entries ++ others) name change = entries.adjust name change ++ others.adjust name change :=
  List.map_append

theorem dropField_adjust (entries : Entries) (name other : String) (change : Value → Value) :
    (entries.adjust name change).dropField other = (entries.dropField other).adjust name change := by
  rw [dropField, dropField, adjust, adjust, List.filter_map]
  refine congrArg _ (List.filter_congr fun e _ => ?_)
  obtain ⟨k, v⟩ := e
  by_cases named : k.str? = some name <;> simp [named]

theorem labels_adjust : labels (entries.adjust name change) = labels entries := by
  rw [labels, adjust, List.filterMap_map]
  refine congrFun (congrArg _ (funext fun e => ?_)) _
  rw [Function.comp_apply]
  split <;> rfl

theorem field?_adjust_self : (entries.adjust name change).field? name = (entries.field? name).map change := by
  induction entries with
  | nil => rfl
  | cons e rest ih =>
    obtain ⟨k, v⟩ := e
    rw [adjust, List.map_cons]
    by_cases named : k.str? = some name
    · rw [if_pos named, field?, if_pos named, field?, if_pos named]
      rfl
    · rw [if_neg named, field?, if_neg named, field?, if_neg named]
      exact ih

theorem field?_adjust_of_ne (differ : other ≠ name) : (entries.adjust name change).field? other = entries.field? other := by
  induction entries with
  | nil => rfl
  | cons e rest ih =>
    obtain ⟨k, v⟩ := e
    rw [adjust, List.map_cons]
    by_cases named : k.str? = some name
    · have apart : ¬ k.str? = some other := fun same => differ (Option.some.inj (same.symm.trans named))
      rw [if_pos named, field?, if_neg apart, field?, if_neg apart]
      exact ih
    · rw [if_neg named, field?, field?]
      exact if_congr Iff.rfl rfl ih

theorem filter_adjust {keep : Value × Value → Bool} (left : ∀ key v, key.str? = some name → keep (key, v) = false) :
    List.filter keep (entries.adjust name change) = List.filter keep entries := by
  induction entries with
  | nil => rfl
  | cons e rest ih =>
    obtain ⟨k, v⟩ := e
    rw [adjust, List.map_cons]
    by_cases named : k.str? = some name
    · rw [if_pos named, List.filter_cons, List.filter_cons, left k _ named, left k _ named]
      exact ih
    · rw [if_neg named, List.filter_cons, List.filter_cons]
      exact congrArg (fun rest => if keep (k, v) = true then (k, v) :: rest else rest) ih

/-- Where no key stands twice, an entry is what its key leads to. -/
theorem field?_of_mem (distinct : (labels entries).Nodup) {e : Value × Value} (member : e ∈ entries) (named : e.1.str? = some name) :
    entries.field? name = some e.2 := by
  obtain ⟨v, found⟩ := Option.isSome_iff_exists.mp (field?_isSome_of_mem member named)
  obtain ⟨f, among, text, rfl⟩ := mem_of_field? found
  rw [found, eq_of_label distinct among member text named]

theorem adjust_eq_setField (change : Value → Value) (distinct : (labels entries).Nodup) (found : entries.field? name = some v) :
    entries.adjust name change = entries.setField name (change v) := by
  induction entries with
  | nil => cases found
  | cons e rest ih =>
    obtain ⟨k, w⟩ := e
    have later : (labels rest).Nodup := distinct.sublist ((List.sublist_cons_self _ _).filterMap _)
    rw [adjust, List.map_cons, setField]
    rw [field?] at found
    by_cases named : k.str? = some name
    · rw [if_pos named] at found ⊢
      rw [if_pos named]
      cases found
      refine congrArg _ ((List.map_congr_left fun e member => if_neg fun text => ?_).trans (List.map_id rest))
      have listed : labels ((k, v) :: rest) = name :: labels rest := by rw [labels, List.filterMap_cons, named, labels]
      rw [listed] at distinct
      exact (List.nodup_cons.mp distinct).1 (List.mem_filterMap.mpr ⟨e, member, text⟩)
    · rw [if_neg named] at found ⊢
      rw [if_neg named]
      exact congrArg _ (ih later found)

end Entries

namespace Document

def propertiesOf (schema : Entries) : Entries := ((schema.field? "properties").bind Value.ownEntries?).getD []

/-- The properties of a schema that are read-only. -/
def readOnlyProperties (schema : Entries) : Entries := List.filter (fun e => isReadOnly e.2) (propertiesOf schema)

def suppliedProperties : Value → Value
  | .map properties => .map (properties.filter fun e => !isReadOnly e.2)
  | v => v

/-- Names that are required, but for some properties. -/
def stillRequired (removed : Entries) : Value → Value
  | .list names => .list (names.filter fun name => !removed.hasKey name)
  | v => v

/-- A schema without its own read-only properties. -/
def supplied (schema : Entries) : Entries :=
  (schema.adjust "properties" suppliedProperties).adjust "required" (stillRequired (readOnlyProperties schema))

/-- A definition without its own read-only properties. -/
def suppliedDefinition : Value → Value
  | .map schema => .map (supplied schema)
  | v => v

def suppliedDefinitions : Value → Value
  | .map definitions => .map (definitions.map fun e => (e.1, suppliedDefinition e.2))
  | v => v

/-- A document without read-only properties of its own and of its definitions. -/
def inputDocument (document : Entries) : Entries :=
  Pointer.definitionsKeys.foldl (fun done key => done.adjust key suppliedDefinitions) (supplied document)

def requiredOf (schema : Entries) : List Value :=
  match schema.field? "required" with
  | some (.list names) => names
  | _ => []

/-- What is required can be looked for among keys. -/
def Searchable (schema : Entries) : Prop := ∀ name ∈ requiredOf schema, name.requireSearchable = .ok ()

theorem requireSearchable_of_str? {name : Value} (text : name.str?.isSome = true) : name.requireSearchable = .ok () := by
  cases name <;> first | rfl | cases text

theorem withoutDerived_eq {derived : Entries} {names : List Value} (searchable : ∀ name ∈ names, name.requireSearchable = .ok ()) :
    withoutDerived derived names = .ok (names.filter fun name => !derived.hasKey name) := by
  induction names with
  | nil => rfl
  | cons name rest ih =>
    obtain ⟨first, others⟩ := List.forall_mem_cons.mp searchable
    rw [withoutDerived, first, ih others]
    show Except.ok (if _ then _ else _) = _
    cases known : derived.hasKey name <;> simp [known]

theorem propertiesOf_eq {schema properties : Entries} (found : schema.field? "properties" = some (.map properties)) :
    propertiesOf schema = properties := by
  rw [propertiesOf, found]
  rfl

theorem requiredOf_eq {schema : Entries} {names : List Value} (listed : schema.field? "required" = some (.list names)) :
    requiredOf schema = names := by
  rw [requiredOf, listed]

theorem stillRequired_nil (v : Value) : stillRequired [] v = v := by
  cases v with
  | list names => exact congrArg Value.list (List.filter_eq_self.mpr fun _ _ => rfl)
  | _ => rfl

theorem suppliedProperties_of_none {properties : Entries} (none : List.filter (fun e => isReadOnly e.2) properties = []) :
    suppliedProperties (.map properties) = .map properties := by
  refine congrArg Value.map (List.filter_eq_self.mpr fun e member => ?_)
  rw [Bool.not_eq_true', Bool.eq_false_iff]
  exact List.filter_eq_nil_iff.mp none e member

theorem supplied_of_none {schema : Entries} (distinct : (labels schema).Nodup) (none : readOnlyProperties schema = []) :
    supplied schema = schema := by
  have properties : schema.adjust "properties" suppliedProperties = schema := by
    refine Entries.adjust_of_same fun e member named => ?_
    have found := Entries.field?_of_mem distinct member named
    obtain ⟨key, v⟩ := e
    cases v with
    | map properties =>
      rw [readOnlyProperties, propertiesOf_eq found] at none
      exact suppliedProperties_of_none none
    | _ => rfl
  rw [supplied, properties, none]
  exact Entries.adjust_of_same fun e _ _ => stillRequired_nil e.2

/-- A schema is stripped of just its own read-only properties. -/
theorem stripSchema_eq {schema : Entries} (distinct : (labels schema).Nodup) (searchable : Searchable schema) :
    stripSchema schema = .ok (supplied schema) := by
  unfold stripSchema
  split
  next properties found =>
    have removed : readOnlyProperties schema = List.filter (fun e => isReadOnly e.2) properties := by
      rw [readOnlyProperties, propertiesOf_eq found]
    dsimp only
    rw [← removed]
    split
    next none => rw [supplied_of_none distinct (List.isEmpty_iff.mp none)]
    next some =>
      have kept : schema.setField "properties" (.map (properties.filter fun e => !isReadOnly e.2)) =
          schema.adjust "properties" suppliedProperties := (Entries.adjust_eq_setField suppliedProperties distinct found).symm
      have required : Entries.field? (schema.adjust "properties" suppliedProperties) "required" = schema.field? "required" :=
        Entries.field?_adjust_of_ne (by decide)
      have alike : (labels (schema.adjust "properties" suppliedProperties)).Nodup := by rwa [Entries.labels_adjust]
      rw [kept, supplied]
      clear kept
      generalize schema.adjust "properties" suppliedProperties = made at required alike
      split
      next names listed =>
        rw [withoutDerived_eq (requiredOf_eq (required ▸ listed) ▸ searchable), Entries.adjust_eq_setField _ alike listed]
        rfl
      next other =>
        rw [Entries.adjust_of_same fun e member named => ?_]
        · rfl
        · have found : made.field? "required" = Option.some e.2 := Entries.field?_of_mem alike member named
          obtain ⟨key, v⟩ := e
          cases v with
          | list names => exact absurd found (other names)
          | _ => rfl
  next other =>
    rw [supplied_of_none distinct]
    rw [readOnlyProperties, propertiesOf]
    cases found : schema.field? "properties" with
    | none => rfl
    | some v =>
      cases v with
      | map properties => exact absurd found (other properties)
      | _ => rfl

/-- No key stands twice in a schema, and what it requires can be looked for among keys. -/
structure Strippable (schema : Entries) : Prop where
  distinct : (labels schema).Nodup
  searchable : Searchable schema

/-- A document that can be copied, and stripped at both levels: each definition is an object. -/
structure StrippableDocument (document : Entries) : Prop where
  copyable : (Value.map document).isCopyable = true
  own : Strippable document
  defined : ∀ key ∈ Pointer.definitionsKeys, ∀ definitions, document.field? key = some (.map definitions) →
    ∀ d ∈ definitions, ∃ schema, d.2 = .map schema ∧ Strippable schema

theorem stripDefinitions_eq {document : Entries} {key : String} (distinct : (labels document).Nodup)
    (defined : ∀ definitions, document.field? key = some (.map definitions) →
      ∀ d ∈ definitions, ∃ schema, d.2 = .map schema ∧ Strippable schema) :
    stripDefinitions document key = .ok (document.adjust key suppliedDefinitions) := by
  unfold stripDefinitions
  split
  next definitions found =>
    rw [Entries.adjust_eq_setField _ distinct found, mapM_eq_pure fun d member => ?_]
    · rfl
    · obtain ⟨schema, same, strippable⟩ := defined definitions found d member
      obtain ⟨name, v⟩ := d
      cases same
      show (stripSchema schema >>= fun stripped => pure (name, Value.map stripped)) = _
      rw [stripSchema_eq strippable.distinct strippable.searchable]
      rfl
  next other =>
    rw [Entries.adjust_of_same fun e member named => ?_]
    have found := Entries.field?_of_mem distinct member named
    obtain ⟨k, v⟩ := e
    cases v with
    | map definitions => exact absurd found (other definitions)
    | _ => rfl

theorem labels_supplied (schema : Entries) : labels (supplied schema) = labels schema := by
  rw [supplied, Entries.labels_adjust, Entries.labels_adjust]

theorem field?_supplied {schema : Entries} {keyword : String} (other : keyword ≠ "properties" ∧ keyword ≠ "required") :
    (supplied schema).field? keyword = schema.field? keyword := by
  rw [supplied, Entries.field?_adjust_of_ne other.2, Entries.field?_adjust_of_ne other.1]

/-- A document that can be copied is stripped at the top, and then under each key for definitions. -/
theorem stripDerived_of_copyable {document : Entries} (copyable : (Value.map document).isCopyable = true) :
    stripDerived (.map document) = (do
      let schema ← stripSchema document
      let first ← stripDefinitions schema "definitions"
      let second ← stripDefinitions first "$defs"
      return .map second) := by
  have copied : (Value.map document).copy = .ok (.map document) := if_pos copyable
  unfold stripDerived
  rw [copied]
  show (stripSchema document >>= fun schema => Pointer.definitionsKeys.foldlM stripDefinitions schema >>= fun stripped => _) = _
  refine bind_congr fun schema => ?_
  show (stripDefinitions schema "definitions" >>= fun done => stripDefinitions done "$defs" >>= pure) >>= _ = _
  simp only [bind_pure, bind_assoc]

/-- Stripping a document comes to this document, unless something in it cannot be stripped. -/
theorem StrippableDocument.stripDerived_eq {document : Entries} (strippable : StrippableDocument document) :
    stripDerived (.map document) = .ok (.map (inputDocument document)) := by
  have distinct : (labels (supplied document)).Nodup := labels_supplied document ▸ strippable.own.distinct
  have first : stripDefinitions (supplied document) "definitions" =
      .ok ((supplied document).adjust "definitions" suppliedDefinitions) := by
    refine stripDefinitions_eq distinct fun definitions found => ?_
    rw [field?_supplied (by decide)] at found
    exact strippable.defined _ (by decide) definitions found
  have second : stripDefinitions ((supplied document).adjust "definitions" suppliedDefinitions) "$defs" =
      .ok (((supplied document).adjust "definitions" suppliedDefinitions).adjust "$defs" suppliedDefinitions) := by
    refine stripDefinitions_eq (by rwa [Entries.labels_adjust]) fun definitions found => ?_
    rw [Entries.field?_adjust_of_ne (by decide), field?_supplied (by decide)] at found
    exact strippable.defined _ (by decide) definitions found
  rw [stripDerived_of_copyable strippable.copyable, stripSchema_eq strippable.own.distinct strippable.own.searchable, Except.ok_bind,
    first, Except.ok_bind, second]
  rfl

theorem copyable_of_stripDerived {document : Value} (returns : (stripDerived document).Returns) : document.isCopyable = true := by
  obtain ⟨stripped, ended⟩ := returns
  refine Decidable.byContradiction fun uncopyable => ?_
  have stuck : document.copy = .error .wrongType := if_neg uncopyable
  unfold stripDerived at ended
  rw [stuck] at ended
  cases ended

section InputOnly
variable {document schema stripped : Entries}

/-- No property of a schema is read-only. -/
def InputOnly (schema : Entries) : Prop := ∀ e ∈ propertiesOf schema, isReadOnly e.2 = false

instance (schema : Entries) : Decidable (InputOnly schema) :=
  inferInstanceAs (Decidable (∀ e ∈ propertiesOf schema, _))

/-- A schema without its read-only properties, none of which is required any more, and otherwise as it was. -/
structure IsStripped (schema stripped : Entries) : Prop where
  inputOnly : InputOnly stripped
  present : ∀ name ∈ requiredOf stripped, (propertiesOf schema).hasKey name = true → (propertiesOf stripped).hasKey name = true
  properties : stripped.field? "properties" = (schema.field? "properties").map suppliedProperties
  required : stripped.field? "required" = (schema.field? "required").map (stillRequired (readOnlyProperties schema))
  others : ∀ keyword ∉ "properties" :: "required" :: Pointer.definitionsKeys, stripped.field? keyword = schema.field? keyword

theorem propertiesOf_supplied (changed : stripped.field? "properties" = (schema.field? "properties").map suppliedProperties) :
    propertiesOf stripped = List.filter (fun e => !isReadOnly e.2) (propertiesOf schema) := by
  rw [propertiesOf, propertiesOf, changed]
  cases schema.field? "properties" with
  | none => rfl
  | some v => cases v <;> rfl

/-- A key of properties that are not read-only has one of those that are left. -/
theorem hasKey_supplied {properties : Entries} {name : Value} (known : properties.hasKey name = true)
    (kept : Entries.hasKey (List.filter (fun e => isReadOnly e.2) properties) name = false) :
    Entries.hasKey (List.filter (fun e => !isReadOnly e.2) properties) name = true := by
  obtain ⟨e, member, same⟩ := List.any_eq_true.mp known
  refine List.any_eq_true.mpr ⟨e, List.mem_filter.mpr ⟨member, ?_⟩, same⟩
  cases marked : isReadOnly e.2 with
  | false => rfl
  | true =>
    have removed : Entries.hasKey (List.filter (fun e => isReadOnly e.2) properties) name = true :=
      List.any_eq_true.mpr ⟨e, List.mem_filter.mpr ⟨member, marked⟩, same⟩
    rw [kept] at removed
    cases removed

theorem not_hasKey_of_stillRequired {removed : Entries} (changed : stripped.field? "required" =
    (schema.field? "required").map (stillRequired removed)) : ∀ name ∈ requiredOf stripped, removed.hasKey name = false := by
  intro name member
  rw [requiredOf, changed] at member
  cases listed : schema.field? "required" with
  | none =>
    rw [listed] at member
    cases member
  | some v =>
    rw [listed] at member
    cases v with
    | list names => exact Bool.not_eq_true' _ ▸ (List.mem_filter.mp member).2
    | _ => cases member

theorem IsStripped.intro (properties : stripped.field? "properties" = (schema.field? "properties").map suppliedProperties)
    (required : stripped.field? "required" = (schema.field? "required").map (stillRequired (readOnlyProperties schema)))
    (others : ∀ keyword ∉ "properties" :: "required" :: Pointer.definitionsKeys, stripped.field? keyword = schema.field? keyword) :
    IsStripped schema stripped := by
  have left := propertiesOf_supplied properties
  refine ⟨fun e member => ?_, fun name member known => ?_, properties, required, others⟩
  · rw [left] at member
    exact Bool.not_eq_true' _ ▸ (List.mem_filter.mp member).2
  · rw [left]
    exact hasKey_supplied known (not_hasKey_of_stillRequired required name member)

theorem isStripped_supplied (schema : Entries) : IsStripped schema (supplied schema) := by
  refine .intro ?_ ?_ fun keyword other => field?_supplied ⟨fun same => ?_, fun same => ?_⟩
  · rw [supplied, Entries.field?_adjust_of_ne (by decide), Entries.field?_adjust_self]
  · rw [supplied, Entries.field?_adjust_self, Entries.field?_adjust_of_ne (by decide)]
  · exact other (same ▸ List.mem_cons_self)
  · exact other (same ▸ List.mem_cons_of_mem _ List.mem_cons_self)

theorem field?_inputDocument {keyword : String} (other : keyword ∉ Pointer.definitionsKeys) :
    (inputDocument document).field? keyword = (supplied document).field? keyword := by
  have first : keyword ≠ "definitions" := fun same => other (same ▸ by decide)
  have second : keyword ≠ "$defs" := fun same => other (same ▸ by decide)
  show (Entries.adjust (Entries.adjust _ _ _) _ _).field? keyword = _
  rw [Entries.field?_adjust_of_ne second, Entries.field?_adjust_of_ne first]

theorem field?_inputDocument_definitions {key : String} (listed : key ∈ Pointer.definitionsKeys) :
    (inputDocument document).field? key = (document.field? key).map suppliedDefinitions := by
  have own : (supplied document).field? key = document.field? key := by
    refine field?_supplied ⟨fun same => ?_, fun same => ?_⟩ <;> revert listed <;> rw [same] <;> decide
  show (Entries.adjust (Entries.adjust _ _ _) _ _).field? key = _
  obtain rfl | rfl : key = "definitions" ∨ key = "$defs" := by simpa [Pointer.definitionsKeys] using listed
  · rw [Entries.field?_adjust_of_ne (by decide), Entries.field?_adjust_self, own]
  · rw [Entries.field?_adjust_self, Entries.field?_adjust_of_ne (by decide), own]

theorem isStripped_inputDocument (document : Entries) : IsStripped document (inputDocument document) := by
  have own := isStripped_supplied document
  refine .intro ?_ ?_ fun keyword other => ?_
  · rw [field?_inputDocument (by decide)]
    exact own.properties
  · rw [field?_inputDocument (by decide)]
    exact own.required
  · rw [field?_inputDocument fun listed => other (List.mem_cons_of_mem _ (List.mem_cons_of_mem _ listed))]
    exact own.others keyword other

end InputOnly

end Document
end RecordSchema
