import RecordSchema.Proofs.MeaningChange
import RecordSchema.Proofs.PointerNames

/-! The schemas that documents are made of: each is a pointer to a definition, a choice or neither, with nothing but
notes beside a pointer or a choice. Main statements: `tidy_typeContent`, `tidy_schemaContent`. -/

namespace RecordSchema

namespace Entries

/-- The keys of all entries are text, and something holds of each text and what stands under it. -/
def Each (P : String → Value → Prop) (entries : Entries) : Prop :=
  ∀ e ∈ entries, ∃ keyword, e.1.str? = some keyword ∧ P keyword e.2

variable {P : String → Value → Prop} {entries others : Entries}

theorem Each.append (first : Each P entries) (second : Each P others) : Each P (entries ++ others) :=
  List.forall_mem_append.mpr ⟨first, second⟩

theorem Each.mono {Q : String → Value → Prop} (each : Each P entries) (implies : ∀ keyword v, P keyword v → Q keyword v) :
    Each Q entries := by
  intro e member
  obtain ⟨keyword, named, holds⟩ := each e member
  exact ⟨keyword, named, implies keyword _ holds⟩

theorem Each.update (each : Each P entries) (further : Each P others) : Each P (entries.update others) := by
  intro e member
  obtain before | ⟨o, new, text, same⟩ := mem_update member
  · exact each e before
  · obtain ⟨keyword, named, holds⟩ := further o new
    exact ⟨keyword, text.trans named, same ▸ holds⟩

theorem Each.absent (each : Each P entries) {name : String} (never : ∀ v, ¬ P name v) : ∀ e ∈ entries, e.1.str? ≠ some name := by
  intro e member text
  obtain ⟨keyword, named, holds⟩ := each e member
  cases text.symm.trans named
  exact never _ holds

end Entries

namespace Document

variable {key : String} {Known : String → Prop} {root schema made : Entries} {v : Value}

section Notes

theorem note_shape {keyword : String} (note : keyword ∈ notes) : KeywordShape.ofKeyword? keyword = none := by
  revert keyword
  decide

theorem mem_remarks_of_note {keyword : String} (note : keyword ∈ notes) : keyword ∈ remarks := List.mem_append_left _ note

theorem not_below {P : String → Value → Prop} (flat : ∀ keyword v, P keyword v → KeywordShape.ofKeyword? keyword = none)
    (each : Entries.Each P schema) (w : Value) : ¬ Below schema w := by
  rintro ⟨e, member, inside⟩
  obtain ⟨keyword, named, holds⟩ := each e member
  rw [subvalues_eq_nil named (flat _ _ holds)] at inside
  cases inside

/-- A schema with other notes. -/
structure Noted (schema made : Entries) : Prop where
  alike : ∀ keyword, keyword ∉ notes → made.field? keyword = schema.field? keyword
  entries : ∀ e ∈ made, e ∈ schema ∨ ∃ keyword ∈ notes, e.1.str? = some keyword

theorem Noted.refl (schema : Entries) : Noted schema schema := ⟨fun _ _ => rfl, fun _ member => .inl member⟩

theorem Noted.put (noted : Noted schema made) {name : Value} {keyword : String} (named : name.str? = some keyword)
    (note : keyword ∈ notes) (v : Value) : Noted schema (made.put name v) where
  alike other telling := by
    have differ : name.str? ≠ some other := by
      rintro same
      cases named.symm.trans same
      exact telling note
    rw [Entries.field?_put_of_ne differ, noted.alike other telling]
  entries e member := by
    obtain before | ⟨text, -⟩ := Entries.mem_put member
    · exact noted.entries e before
    · exact .inr ⟨keyword, note, text.trans named⟩

theorem Noted.setField (noted : Noted schema made) {keyword : String} (note : keyword ∈ notes) (v : Value) :
    Noted schema (made.setField keyword v) where
  alike other telling := by
    have differ : other ≠ keyword := fun same => telling (by rwa [same])
    rw [Entries.field?_setField_of_ne _ _ differ, noted.alike other telling]
  entries e member := by
    obtain before | ⟨text, -⟩ := Entries.mem_setField member
    · exact noted.entries e before
    · exact .inr ⟨keyword, note, text⟩

theorem Noted.update {beside : Entries} (noted : Noted schema made) (ofNotes : beside.Each fun keyword _ => keyword ∈ notes) :
    Noted schema (made.update beside) := by
  induction beside generalizing made with
  | nil => exact noted
  | cons e rest ih =>
    obtain ⟨⟨keyword, named, note⟩, others⟩ := List.forall_mem_cons.mp ofNotes
    exact ih (noted.put named note e.2) others

/-- Merging drops a pointer, and puts notes on top. -/
theorem Noted.mergeBeside {beside : Entries} (noted : Noted schema made)
    (ofNotes : beside.Each fun keyword _ => keyword = "$ref" ∨ keyword ∈ notes) :
    Noted schema (mergeBeside (fun _ keyword => keyword = "$ref") made beside) := by
  induction beside generalizing made with
  | nil => exact noted
  | cons e rest ih =>
    obtain ⟨⟨keyword, named, either⟩, others⟩ := List.forall_mem_cons.mp ofNotes
    refine ih ?_ others
    dsimp only
    split
    next => exact noted
    next kept =>
      obtain rfl | note := either
      · exact absurd (by rw [named]; rfl) kept
      · exact noted.put named note e.2

theorem Noted.each {P : String → Value → Prop} (noted : Noted schema made) (ofNotes : ∀ keyword ∈ notes, ∀ v, P keyword v)
    (each : Entries.Each P schema) : Entries.Each P made := by
  intro e member
  obtain before | ⟨keyword, note, named⟩ := noted.entries e member
  · exact each e before
  · exact ⟨keyword, named, ofNotes keyword note _⟩

theorem Noted.below (noted : Noted schema made) {w : Value} (below : Below made w) : Below schema w := by
  obtain ⟨e, member, inside⟩ := below
  obtain before | ⟨keyword, note, named⟩ := noted.entries e member
  · exact ⟨e, before, inside⟩
  · rw [subvalues_eq_nil named (note_shape note)] at inside
    cases inside

theorem Noted.admits_iff (noted : Noted schema made) : Admits root (.map schema) v ↔ Admits root (.map made) v :=
  admits_alike fun keyword telling => (noted.alike keyword fun note => telling (mem_remarks_of_note note)).symm

/-- Without the keyword there are only the notes beside it. -/
theorem notes_beside {keyword : String} (beside : schema.Each fun other _ => other = keyword ∨ other ∈ notes) :
    (schema.dropField keyword).Each fun other _ => other ∈ notes := by
  intro e remains
  obtain ⟨among, apart⟩ := List.mem_filter.mp remains
  obtain ⟨other, named, rfl | note⟩ := beside e among
  · exact absurd named (of_decide_eq_true apart)
  · exact ⟨other, named, note⟩

/-- A schema with one keyword and notes admits what obeys the keyword. -/
theorem admits_iff_obeys {keyword : String} {under : Value} (found : schema.field? keyword = some under)
    (beside : schema.Each fun other _ => other = keyword ∨ other ∈ notes) :
    Admits root (.map schema) v ↔ Obeys root schema keyword under v := by
  constructor
  · intro admitted
    cases admitted with
    | keywords each => exact each keyword under found
  · refine fun obeyed => .keywords fun other told stands => ?_
    obtain ⟨e, member, named, rfl⟩ := Entries.mem_of_field? stands
    obtain ⟨text, same, either⟩ := beside e member
    cases same.symm.trans named
    obtain rfl | note := either
    · cases stands.symm.trans found
      exact obeyed
    · exact .plain (not_applicator_of_remark (mem_remarks_of_note note)) (asserts_remark (mem_remarks_of_note note) _ _)

end Notes

/-- Keywords of pointers, of combined schemas, and of definitions. -/
def reserved : List String := "$ref" :: combinators ++ Pointer.definitionsKeys

variable (key Known) in
/-- A schema of a document: it says that nothing is allowed, points to a definition that is known, is a choice, or
has none of the keywords for these. Beside a pointer and beside a choice there are only notes. -/
inductive Tidy : Value → Prop where
  | closed : Tidy (.bool false)
  | pointer {schema : Entries} {name : String} (found : schema.field? "$ref" = some (.str (Pointer.ofName key name)))
      (readable : Pointer.Readable name) (known : Known name)
      (beside : schema.Each fun keyword _ => keyword = "$ref" ∨ keyword ∈ notes) : Tidy (.map schema)
  | choice {schema : Entries} {subs : List Value} (found : schema.field? "anyOf" = some (.list subs))
      (beside : schema.Each fun keyword _ => keyword = "anyOf" ∨ keyword ∈ notes)
      (below : ∀ w, Below schema w → Tidy w) : Tidy (.map schema)
  | plain {schema : Entries} (free : schema.Each fun keyword _ => keyword ∉ reserved)
      (below : ∀ w, Below schema w → Tidy w) : Tidy (.map schema)

section Tidy

theorem pointer_shape {keyword : String} (either : keyword = "$ref" ∨ keyword ∈ notes) : KeywordShape.ofKeyword? keyword = none := by
  obtain rfl | note := either
  · rfl
  · exact note_shape note

theorem Tidy.inner (tidy : Tidy key Known (.map schema)) {w : Value} (inside : Below schema w) : Tidy key Known w := by
  cases tidy with
  | pointer _ _ _ beside => exact absurd inside (not_below (fun _ _ => pointer_shape) beside w)
  | choice _ _ below => exact below w inside
  | plain _ below => exact below w inside

theorem Tidy.not_list {items : List Value} : ¬ Tidy key Known (.list items) := nofun

/-- Some keywords stand in no schema of a document, apart from the top. -/
theorem Tidy.absent (tidy : Tidy key Known (.map schema)) {keyword : String}
    (never : keyword ∈ "oneOf" :: "allOf" :: Pointer.definitionsKeys) : ∀ e ∈ schema, e.1.str? ≠ some keyword := by
  have other : keyword ≠ "$ref" ∧ keyword ≠ "anyOf" ∧ keyword ∉ notes ∧ keyword ∈ reserved := by
    revert keyword
    decide
  obtain ⟨noPointer, noChoice, noNote, kept⟩ := other
  cases tidy with
  | pointer _ _ _ beside => exact beside.absent fun _ either => either.elim noPointer noNote
  | choice _ beside _ => exact beside.absent fun _ either => either.elim noChoice noNote
  | plain free _ => exact free.absent fun _ apart => apart kept

theorem Tidy.noted (tidy : Tidy key Known (.map schema)) (noted : Noted schema made) : Tidy key Known (.map made) := by
  have apart : ∀ keyword ∈ notes, keyword ∉ reserved := by decide
  cases tidy with
  | pointer found readable known beside =>
    exact .pointer ((noted.alike _ (by decide)).trans found) readable known (noted.each (fun _ note _ => .inr note) beside)
  | choice found beside below =>
    exact .choice ((noted.alike _ (by decide)).trans found) (noted.each (fun _ note _ => .inr note) beside)
      fun w inside => below w (noted.below inside)
  | plain free below =>
    exact .plain (noted.each (fun keyword note _ => apart keyword note) free) fun w inside => below w (noted.below inside)

theorem Tidy.points_to (tidy : Tidy key Known (.map schema)) {under : Value} (found : schema.field? "$ref" = some under) :
    ∃ name, under = .str (Pointer.ofName key name) ∧ Pointer.Readable name ∧ Known name ∧
      schema.Each fun keyword _ => keyword = "$ref" ∨ keyword ∈ notes := by
  cases tidy with
  | pointer own readable known beside =>
    cases own.symm.trans found
    exact ⟨_, rfl, readable, known, beside⟩
  | choice _ beside _ =>
    rw [Entries.field?_of_absent (beside.absent fun _ => by decide)] at found
    cases found
  | plain free _ =>
    rw [Entries.field?_of_absent (free.absent fun _ apart => apart (by decide))] at found
    cases found

theorem Tidy.beside_choice (tidy : Tidy key Known (.map schema)) {under : Value} (found : schema.field? "anyOf" = some under) :
    schema.Each fun keyword _ => keyword = "anyOf" ∨ keyword ∈ notes := by
  cases tidy with
  | choice _ beside _ => exact beside
  | pointer _ _ _ beside =>
    rw [Entries.field?_of_absent (beside.absent fun _ => by decide)] at found
    cases found
  | plain free _ =>
    rw [Entries.field?_of_absent (free.absent fun _ apart => apart (by decide))] at found
    cases found

variable (listed : key ∈ Pointer.definitionsKeys)

include listed

theorem Tidy.pointer? (tidy : Tidy key Known (.map schema)) {name : String} (points : pointer? schema = some name) :
    schema.field? "$ref" = some (.str (Pointer.ofName key name)) ∧ Known name ∧
      schema.Each fun keyword _ => keyword = "$ref" ∨ keyword ∈ notes := by
  obtain ⟨under, found, meant⟩ := Option.bind_eq_some_iff.mp points
  obtain ⟨label, rfl, readable, known, beside⟩ := tidy.points_to found
  cases (Pointer.name?_ofName listed readable).symm.trans meant
  exact ⟨found, known, beside⟩

/-- The definitions that a schema of a document points to are known, and are all referred to. -/
theorem Tidy.pointers (tidy : Tidy key Known v) : ∀ name ∈ pointers v, Known name ∧ name ∈ references v := by
  induction v using descend with
  | map schema below =>
    intro name pointed
    obtain ⟨other, met, points⟩ := mem_pointers.mp pointed
    obtain rfl | ⟨e, member, deeper⟩ := mem_schemas_map.mp met
    · refine ⟨(tidy.pointer? listed points).2.1, ?_⟩
      rw [references]
      exact List.mem_append_left _ (Option.mem_toList.mpr points)
    · obtain ⟨w, inside, within⟩ := List.mem_flatMap.mp deeper
      have inner : Tidy key Known w := tidy.inner ⟨e, member, inside⟩
      obtain ⟨known, refers⟩ := below e member w inside inner name (mem_pointers.mpr ⟨other, within, points⟩)
      -- the walk for references passes over lists of lists, but what is tidy is no list
      exact ⟨known, references_subset_map member inside (fun items same => Tidy.not_list (same ▸ inner)) refers⟩
  | list items _ => exact absurd tidy Tidy.not_list
  | leaf v noMap noList =>
    intro name pointed
    rw [Document.pointers, schemas_leaf noMap noList] at pointed
    cases pointed

end Tidy

section Content

variable (key Known) in
/-- A keyword that does not point to a definition or combine schemas, with tidy schemas below it. -/
def Plainly (keyword : String) (v : Value) : Prop := keyword ∉ reserved ∧ ∀ w ∈ subvalues (.str keyword) v, Tidy key Known w

theorem plainly_flat {keyword : String} (free : keyword ∉ reserved) (flat : KeywordShape.ofKeyword? keyword = none) (v : Value) :
    Plainly key Known keyword v := by
  refine ⟨free, ?_⟩
  rw [subvalues_eq_nil rfl flat]
  exact List.forall_mem_nil _

theorem Tidy.of_each (each : schema.Each (Plainly key Known)) : Tidy key Known (.map schema) := by
  refine .plain (each.mono fun _ _ plainly => plainly.1) ?_
  rintro w ⟨e, member, inside⟩
  obtain ⟨keyword, named, -, tidy⟩ := each e member
  rw [subvalues_of_str? named] at inside
  exact tidy w inside

theorem told_each {P : String → Value → Prop} (each : ∀ (kind : ConstraintKind) v, P kind.keyword v) (cs : List Constraint) :
    (Constraint.told cs).Each P := by
  unfold Constraint.told
  cases ended : Constraint.keywords cs with
  | error _ => exact List.forall_mem_nil _
  | ok made =>
    intro e member
    obtain ⟨c, -, named, -⟩ := Constraint.mem_keywords ended e member
    exact ⟨c.kind.keyword, named, each c.kind _⟩

theorem told_plainly (cs : List Constraint) : (Constraint.told cs).Each (Plainly key Known) := by
  have plain (kind : ConstraintKind) : kind.keyword ∉ reserved ∧ KeywordShape.ofKeyword? kind.keyword = none := by
    cases kind <;> decide
  exact told_each (fun kind v => plainly_flat (plain kind).1 (plain kind).2 v) cs

theorem entry_plainly {keyword : String} (free : keyword ∉ reserved) {v : Value}
    (below : ∀ w ∈ subvalues (.str keyword) v, Tidy key Known w) : ∃ text, (entry keyword v).1.str? = some text ∧
      Plainly key Known text (entry keyword v).2 :=
  ⟨keyword, rfl, free, below⟩

theorem tidy_primitiveContent (kind : Primitive) (cs : List Constraint) : Tidy key Known (.map (primitiveContent kind cs)) := by
  refine .of_each (.update (fun e member => ?_) (told_plainly cs))
  obtain ⟨name, -, rfl⟩ := List.mem_map.mp member
  exact ⟨"type", rfl, plainly_flat (by decide) rfl _⟩

theorem namesContent_plainly (names : SchemaType) : (namesContent names).Each (Plainly key Known) := by
  unfold namesContent
  split
  next c rest =>
    exact List.forall_mem_singleton.mpr (entry_plainly (by decide) (List.forall_mem_singleton.mpr (tidy_primitiveContent _ _)))
  next => exact List.forall_mem_nil _

mutual

/-- A type is described by a tidy schema. -/
theorem tidy_typeContent : ∀ t : SchemaType, (∀ r ∈ t.shownReferences, Pointer.Readable r.1.label ∧ Known r.1.label) →
    Tidy key Known (.map (typeContent key t))
  | .primitive kind cs, _ => tidy_primitiveContent kind cs
  | .array element cs, shown => by
    have items := tidy_typeContent element shown
    refine .of_each (.update (List.forall_mem_cons.mpr ⟨?_, List.forall_mem_singleton.mpr ?_⟩) (told_plainly cs))
    · exact ⟨"type", rfl, plainly_flat (by decide) rfl _⟩
    · exact entry_plainly (by decide) (List.forall_mem_singleton.mpr items)
  | .map names value cs, shown => by
    have values := tidy_typeContent value shown
    refine .of_each (.update (.append (List.forall_mem_cons.mpr ⟨?_, List.forall_mem_singleton.mpr ?_⟩)
      (namesContent_plainly names)) (told_plainly cs))
    · exact ⟨"type", rfl, plainly_flat (by decide) rfl _⟩
    · exact entry_plainly (by decide) (List.forall_mem_singleton.mpr values)
  | .union variants cs, shown => by
    refine .choice rfl (List.forall_mem_singleton.mpr ⟨"anyOf", rfl, .inl rfl⟩) ?_
    rintro w ⟨e, member, inside⟩
    cases List.mem_singleton.mp member
    exact tidy_variantsContent variants shown w inside
  | .ref name target, shown => by
    obtain ⟨readable, known⟩ := shown (name, target) (List.mem_singleton_self _)
    exact .pointer rfl readable known (List.forall_mem_singleton.mpr ⟨"$ref", rfl, .inl rfl⟩)

theorem tidy_variantsContent : ∀ types : List SchemaType,
    (∀ r ∈ SchemaType.shownReferencesOf types, Pointer.Readable r.1.label ∧ Known r.1.label) →
      ∀ w ∈ variantsContent key types, Tidy key Known w
  | [], _ => List.forall_mem_nil _
  | t :: rest, shown => by
    obtain ⟨first, others⟩ := List.forall_mem_append.mp shown
    exact List.forall_mem_cons.mpr ⟨tidy_typeContent t first, tidy_variantsContent rest others⟩

end

theorem tidy_fieldContent {s : Schema} {f : Field} (bare : f.extra = [])
    (shown : ∀ r ∈ f.type.shownReferences, Pointer.Readable r.1.label ∧ Known r.1.label) :
    Tidy key Known (.map (fieldContent key s f)) := by
  unfold fieldContent
  rw [bare]
  exact remarked_of (P := fun schema => Tidy key Known (.map schema)) (tidy_typeContent f.type shown)
    fun _ _ _ note tidy => tidy.noted ((Noted.refl _).setField note _)

theorem textEntry_plainly {keyword : String} (free : keyword ∉ reserved) (flat : KeywordShape.ofKeyword? keyword = none)
    (text : Option String) : (textEntry keyword text).Each (Plainly key Known) := by
  unfold textEntry
  split
  · exact List.forall_mem_nil _
  · exact List.forall_mem_nil _
  · exact List.forall_mem_singleton.mpr ⟨keyword, rfl, plainly_flat free flat _⟩

/-- A schema whose fields have no keywords of their own is described by a tidy schema. -/
theorem tidy_schemaContent {options : DocumentOptions} {s : Schema} (bare : ∀ f ∈ s.shownFields options, f.extra = [])
    (shown : ∀ r ∈ s.shownReferences options, Pointer.Readable r.1.label ∧ Known r.1.label) :
    Tidy options.definitionsKey Known (.map (schemaContent options s)) := by
  have properties : ∀ w ∈ (propertiesContent options.definitionsKey s (s.shownFields options)).map Prod.snd,
      Tidy options.definitionsKey Known w := by
    intro w member
    obtain ⟨e, listed, rfl⟩ := List.mem_map.mp member
    obtain ⟨f, field, rfl⟩ := List.mem_map.mp listed
    exact tidy_fieldContent (bare f field) fun r mentioned => shown r (List.mem_flatMap.mpr ⟨f, field, mentioned⟩)
  unfold schemaContent keywordsOf
  refine .of_each (.append (.append (.append (.append ?_ (textEntry_plainly (by decide) rfl _))
    (textEntry_plainly (by decide) rfl _)) ?_) ?_)
  · exact List.forall_mem_singleton.mpr ⟨"type", rfl, plainly_flat (by decide) rfl _⟩
  · refine List.forall_mem_cons.mpr ⟨entry_plainly (by decide) properties, List.forall_mem_singleton.mpr ?_⟩
    exact ⟨"required", rfl, plainly_flat (by decide) rfl _⟩
  · split
    · exact List.forall_mem_singleton.mpr (entry_plainly (by decide) (List.forall_mem_singleton.mpr .closed))
    · exact List.forall_mem_nil _

end Content

end Document
end RecordSchema
