import RecordSchema.Proofs.FlattenedDocuments
import RecordSchema.Proofs.StrippedDocuments

/-! Documents that leave derived fields out: the same comes of stripping a document and of making it without derived
fields, and what is defined in addition before is what derived fields alone refer to. Main statement:
`strip_generated`. -/

namespace RecordSchema

/-- The options, without derived fields. -/
def DocumentOptions.omitting (options : DocumentOptions) : DocumentOptions := { options with includeDerived := false }

theorem Entries.field?_update_of_absent {entries others : Entries} {name : String} (absent : ∀ e ∈ others, e.1.str? ≠ some name) :
    (entries.update others).field? name = entries.field? name := by
  induction others generalizing entries with
  | nil => rfl
  | cons e rest ih =>
    obtain ⟨first, later⟩ := List.forall_mem_cons.mp absent
    exact (ih later).trans (field?_put_of_ne first)

namespace Document
open Drafting Draft

variable {catalogs : Catalogs} {options : DocumentOptions} {s : Schema} {key : String}

section Content

/-- No keyword of a type marks it as read-only. -/
theorem typeContent_unmarked (key : String) (t : SchemaType) : (typeContent key t).Each fun keyword _ => keyword ≠ "readOnly" := by
  have told : ∀ cs : List Constraint, (Constraint.told cs).Each fun keyword _ => keyword ≠ "readOnly" :=
    told_each fun kind _ => by cases kind <;> decide
  have plain {keyword : String} (other : keyword ≠ "readOnly") (v : Value) :
      ∃ text, (entry keyword v).1.str? = some text ∧ text ≠ "readOnly" := ⟨keyword, rfl, other⟩
  cases t with
  | primitive kind cs =>
    refine Entries.Each.update (fun e member => ?_) (told cs)
    obtain ⟨name, -, rfl⟩ := List.mem_map.mp member
    exact plain (by decide) _
  | array element cs =>
    refine Entries.Each.update (List.forall_mem_cons.mpr ⟨?_, List.forall_mem_singleton.mpr ?_⟩) (told cs)
    · exact plain (by decide) _
    · exact plain (by decide) _
  | map names value cs =>
    refine Entries.Each.update (.append (List.forall_mem_cons.mpr ⟨?_, List.forall_mem_singleton.mpr ?_⟩) ?_) (told cs)
    · exact plain (by decide) _
    · exact plain (by decide) _
    · unfold namesContent
      split
      · exact List.forall_mem_singleton.mpr (plain (by decide) _)
      · exact List.forall_mem_nil _
  | union variants cs => exact List.forall_mem_singleton.mpr (plain (by decide) _)
  | ref name target => exact List.forall_mem_singleton.mpr (plain (by decide) _)

theorem field?_remarked {f : Field} {own : Entries} :
    (remarked s f own).field? "readOnly" = if f.derived then some (.bool true) else own.field? "readOnly" := by
  have described : (if f.description.isTrue then own.setField "description" f.description else own).field? "readOnly" =
      own.field? "readOnly" := by
    split
    · exact Entries.field?_setField_of_ne _ _ (by decide)
    · rfl
  unfold remarked
  dsimp only
  split
  · rw [Entries.field?_setField_of_ne _ _ (by decide), Entries.field?_setField_self]
  · rw [← described]
    have shown {supplied : Entries} :
        (if f.examples.isEmpty then supplied else supplied.setField "examples" (.list f.examples)).field? "readOnly" =
          supplied.field? "readOnly" := by
      split
      · rfl
      · exact Entries.field?_setField_of_ne _ _ (by decide)
    rw [shown]
    split
    · rfl
    · exact Entries.field?_setField_of_ne _ _ (by decide)

/-- A field is described as read-only exactly if it is derived, as long as it does not say so itself. -/
theorem isReadOnly_fieldContent {f : Field} (unmarked : ∀ e ∈ f.extra, e.1.str? ≠ some "readOnly") :
    isReadOnly (.map (fieldContent key s f)) = f.derived := by
  have stands : (fieldContent key s f).field? "readOnly" = if f.derived then some (.bool true) else none := by
    rw [fieldContent, Entries.field?_update_of_absent unmarked, field?_remarked,
      Entries.field?_of_absent ((typeContent_unmarked key f.type).absent fun _ => not_not_intro rfl)]
  rw [isReadOnly, stands]
  cases f.derived <;> rfl

theorem shownFields_omitting : s.shownFields options.omitting = (s.shownFields options).filter fun f => !f.derived := by
  rw [Schema.shownFields, Schema.shownFields, List.filter_filter]
  refine List.filter_congr fun f _ => ?_
  show (false || !f.derived) = (!f.derived && (options.includeDerived || !f.derived))
  cases f.derived <;> simp

theorem labels_keywordsOf (options : DocumentOptions) (s : Schema) (named : Entries) : (labels (keywordsOf options s named)).Nodup :=
  (keywordsOf_sublist options s named).nodup (by decide)

/-- The names that are required of a schema. -/
def requiredNames (options : DocumentOptions) (s : Schema) : List Value :=
  ((s.shownFields options).filter fun f => f.required && !f.derived).map fun f => f.name.toValue

theorem required_keywordsOf (named : Entries) :
    (keywordsOf options s named).field? "required" = some (.list (requiredNames options s)) := by
  refine Entries.field?_of_mem (labels_keywordsOf options s named) (e := (entry "required" (.list (requiredNames options s)))) ?_ rfl
  exact List.mem_append_left _ (List.mem_append_right _ (List.mem_cons_of_mem _ List.mem_cons_self))

theorem strippable_schemaContent (options : DocumentOptions) (s : Schema) : Strippable (schemaContent options s) where
  distinct := labels_keywordsOf options s _
  searchable := by
    intro name member
    rw [schemaContent, requiredOf_eq (required_keywordsOf _)] at member
    obtain ⟨f, -, rfl⟩ := List.mem_map.mp member
    exact requireSearchable_of_str? (by rw [Value.str?_toValue]; rfl)

theorem requiredNames_omitting : requiredNames options.omitting s = requiredNames options s := by
  rw [requiredNames, requiredNames, shownFields_omitting, List.filter_filter]
  refine congrArg _ (List.filter_congr fun f _ => ?_)
  cases f.derived <;> simp

section Unmarked
variable {fields : List Field} (unmarked : ∀ f ∈ fields, ∀ e ∈ f.extra, e.1.str? ≠ some "readOnly")

include unmarked

theorem suppliedProperties_propertiesContent : suppliedProperties (.map (propertiesContent key s fields)) =
    .map (propertiesContent key s (fields.filter fun f => !f.derived)) := by
  refine congrArg Value.map ?_
  rw [propertiesContent, propertiesContent, List.filter_map]
  refine congrArg _ (List.filter_congr fun f member => ?_)
  show (!isReadOnly (.map (fieldContent key s f))) = !f.derived
  rw [isReadOnly_fieldContent (unmarked f member)]

/-- The name of a regular field is not among those of the derived ones. -/
theorem not_hasKey_derived (distinct : (fields.map (·.name.label)).Nodup) {f : Field} (member : f ∈ fields) (regular : f.derived = false) :
    Entries.hasKey (List.filter (fun e => isReadOnly e.2) (propertiesContent key s fields)) f.name.toValue = false := by
  rw [Entries.hasKey, List.any_eq_false]
  intro e listed same
  obtain ⟨among, marked⟩ := List.mem_filter.mp listed
  obtain ⟨g, other, rfl⟩ := List.mem_map.mp among
  rw [isReadOnly_fieldContent (unmarked g other)] at marked
  have label : g.name.label = f.name.label := by
    have text := Entries.str?_eq_of_same same
    rw [Value.str?_toValue, Value.str?_toValue] at text
    exact Option.some.inj text
  obtain rfl : g = f := List.inj_on_of_nodup_map distinct other member label
  rw [regular] at marked
  cases marked

end Unmarked

/-- Of what is said of a schema, stripping changes the properties and what is required of them. -/
theorem supplied_keywordsOf (named : Entries) : supplied (keywordsOf options s named) =
    [entry "type" (.str "object")] ++ textEntry "title" s.title ++ textEntry "description" s.description ++
      [entry "properties" (suppliedProperties (.map named)),
        entry "required" (stillRequired (List.filter (fun e => isReadOnly e.2) named) (.list (requiredNames options s)))] ++
      if options.strict.getD s.strict then [entry "additionalProperties" (.bool false)] else [] := by
  have removed : readOnlyProperties (keywordsOf options s named) = List.filter (fun e => isReadOnly e.2) named := by
    rw [readOnlyProperties, propertiesOf_eq (properties_keywordsOf _ _ _)]
  have plain {entries : Entries} (absent : ∀ e ∈ entries, e.1.str? ≠ some "properties" ∧ e.1.str? ≠ some "required")
      (change other : Value → Value) : (entries.adjust "properties" change).adjust "required" other = entries := by
    rw [Entries.adjust_of_absent fun e member => (absent e member).1, Entries.adjust_of_absent fun e member => (absent e member).2]
  have text {keyword : String} (other : keyword ≠ "properties" ∧ keyword ≠ "required") (t : Option String) :
      ∀ e ∈ textEntry keyword t, e.1.str? ≠ some "properties" ∧ e.1.str? ≠ some "required" := by
    intro e member
    rw [textEntry_key member]
    exact ⟨fun same => other.1 (Option.some.inj same), fun same => other.2 (Option.some.inj same)⟩
  have type : ∀ e ∈ [entry "type" (.str "object")], e.1.str? ≠ some "properties" ∧ e.1.str? ≠ some "required" :=
    List.forall_mem_singleton.mpr (by decide)
  have closed : ∀ e ∈ (if options.strict.getD s.strict then [entry "additionalProperties" (.bool false)] else []),
      e.1.str? ≠ some "properties" ∧ e.1.str? ≠ some "required" := by
    split
    · exact List.forall_mem_singleton.mpr (by decide)
    · exact List.forall_mem_nil _
  rw [supplied, removed, keywordsOf]
  simp only [Entries.adjust_append]
  rw [plain type, plain (text (by decide) s.title), plain (text (by decide) s.description), plain closed]
  rfl

/-- What is said of a schema without its derived fields is what is left when they are stripped. -/
theorem supplied_schemaContent (built : s.IsBuilt)
    (unmarked : ∀ f ∈ s.shownFields options, ∀ e ∈ f.extra, e.1.str? ≠ some "readOnly") :
    supplied (schemaContent options s) = schemaContent options.omitting s := by
  have distinct : ((s.shownFields options).map (·.name.label)).Nodup := built.distinct.sublist (List.filter_sublist.map _)
  have required : stillRequired (List.filter (fun e => isReadOnly e.2)
      (propertiesContent options.definitionsKey s (s.shownFields options))) (.list (requiredNames options s)) =
      .list (requiredNames options s) := by
    refine congrArg Value.list (List.filter_eq_self.mpr fun name listed => ?_)
    obtain ⟨f, member, rfl⟩ := List.mem_map.mp listed
    obtain ⟨shown, demanded⟩ := List.mem_filter.mp member
    have regular : f.derived = false := by simpa using (Bool.and_eq_true_iff.mp demanded).2
    rw [not_hasKey_derived unmarked distinct shown regular]
    rfl
  rw [schemaContent, supplied_keywordsOf, suppliedProperties_propertiesContent unmarked, required, ← shownFields_omitting,
    ← requiredNames_omitting]
  rfl

end Content

section Followed
variable {u : Schema}

theorem shownReferences_omitting : s.shownReferences options.omitting ⊆ s.shownReferences options := by
  intro r member
  obtain ⟨f, shown, mentioned⟩ := List.mem_flatMap.mp member
  rw [shownFields_omitting] at shown
  exact List.mem_flatMap.mpr ⟨f, (List.mem_filter.mp shown).1, mentioned⟩

/-- What is followed without derived fields is followed with them, too. -/
theorem FollowsFrom.of_omitting {name : String} (followed : FollowsFrom catalogs options.omitting s name u) :
    FollowsFrom catalogs options s name u := by
  have more {label : String} {v : Schema} {found : Target} (leads : LeadsFrom catalogs options.omitting v label found) :
      LeadsFrom catalogs options v label found := leads.mono shownReferences_omitting label found
  induction followed with
  | first leads => exact .first (more leads)
  | next _ leads ih => exact .next ih (more leads)

theorem Obstructed.of_omitting (obstructed : Obstructed catalogs options.omitting s) : Obstructed catalogs options s := by
  cases obstructed with
  | lost followed member lost =>
    exact .lost (followed.imp_right fun ⟨name, followed⟩ => ⟨name, .of_omitting followed⟩) (shownReferences_omitting member) lost
  | ambiguous left right differ => exact .ambiguous (.of_omitting left) (.of_omitting right) differ

theorem Identified.omitting (identified : Identified catalogs options (scopeOf options s) (s.shownReferences options)) :
    Identified catalogs options.omitting (scopeOf options.omitting s) (s.shownReferences options.omitting) :=
  fun label t left name u right same => identified label t (FollowsFrom.of_omitting left) name u (FollowsFrom.of_omitting right) same

theorem withExtra_copyable {schema extra made : Entries} {before after : Draft} (ended : Makes (withExtra schema extra) before made after) :
    ∀ e ∈ extra, e.2.isCopyable = true := by
  induction extra generalizing schema before with
  | nil => exact List.forall_mem_nil _
  | cons e rest ih =>
    obtain ⟨key, v⟩ := e
    obtain ⟨w, middle, copied, remaining⟩ := makes_bind.mp ended
    exact List.forall_mem_cons.mpr ⟨(owned_makes copied).1, ih remaining⟩

theorem ofField_copyable {f : Field} {scope : Scope} {before after : Draft} {made : Entries}
    (ended : Makes (ofField catalogs scope s f) before made after) :
    (∀ v, f.default = some v → v.isCopyable = true) ∧ ∀ e ∈ f.extra, e.2.isCopyable = true := by
  obtain ⟨own, middle, -, rest⟩ := makes_bind.mp ended
  cases default : f.default with
  | none =>
    simp only [default, pure_bind] at rest
    exact ⟨fun _ impossible => (nomatch impossible), withExtra_copyable rest⟩
  | some v =>
    simp only [default, pure_bind] at rest
    obtain ⟨copy, _, copied, remaining⟩ := makes_bind.mp rest
    refine ⟨fun w same => ?_, withExtra_copyable remaining⟩
    cases same
    exact (owned_makes copied).1

theorem ofSchema_copyable {before after : Draft} {made : Entries} (ended : Makes (ofSchema catalogs options s) before made after) :
    ∀ f ∈ s.shownFields options, (∀ v, f.default = some v → v.isCopyable = true) ∧ ∀ e ∈ f.extra, e.2.isCopyable = true := by
  obtain ⟨named, described, -⟩ := ofSchema_makes ended
  generalize s.shownFields options = fields at described
  clear ended
  induction fields generalizing before named with
  | nil => exact List.forall_mem_nil _
  | cons f rest ih =>
    obtain ⟨own, middle, ofField, others, remaining, -⟩ := properties_cons_makes described
    exact List.forall_mem_cons.mpr ⟨ofField_copyable ofField, ih others remaining⟩

variable (options) in
/-- A built schema that refers to schemas only, as far as documents show it, and none of whose fields says itself
whether it is read-only. -/
structure Unmarked (u : Schema) : Prop where
  built : u.IsBuilt
  carries : CarrySchemas (u.shownReferences options)
  extras : ∀ f ∈ u.shownFields options, ∀ e ∈ f.extra, e.1.str? ≠ some "readOnly"

variable (unmarked : ∀ u, (u = s ∨ ∃ name, FollowsFrom catalogs options s name u) → Unmarked options u)
  (identified : Identified catalogs options (scopeOf options s) (s.shownReferences options))
  {document : Entries} (generated : generate catalogs options s = .ok document)

include unmarked identified generated

/-- While a document is made, all schemas that are followed to are described. -/
theorem generate_describes (within : u = s ∨ ∃ name, FollowsFrom catalogs options s name u) :
    ∃ before made after, Makes (ofSchema catalogs options u) before made after := by
  obtain ⟨body, first, draft, names, described, kept, ordered, done, -⟩ :=
    complete_defines (follows_onward fun name t followed => (unmarked t (.inr ⟨name, followed⟩)).carries)
      (unmarked s (.inl rfl)).carries.into (fun _ _ _ => ofSchema_grows) generated
  obtain rfl | ⟨name, followed⟩ := within
  · exact ⟨_, body, first, described⟩
  · have resolved r (member : r ∈ s.shownReferences options) := (ofSchema_resolves described r member).keep kept
    obtain ⟨keywords, -, before, after, made, -⟩ := ordered.defined done (followed.recorded identified ordered done resolved)
    exact ⟨before, keywords, after, made⟩

theorem generate_tabulates :
    Unfailing catalogs options (scopeOf options s) (s.shownReferences options) ∧
      ∃ definitions, Tabulates catalogs options (scopeOf options s) (s.shownReferences options) definitions ∧
        document = withDefinitions options.definitionsKey (schemaContent options s) definitions := by
  obtain ⟨unfailing, body, first, definitions, described, tabulates, same⟩ :=
    complete_tabulates (unmarked s (.inl rfl)).carries (fun name t followed => (unmarked t (.inr ⟨name, followed⟩)).carries)
      identified (fun _ _ _ => ofSchema_grows) (fun _ _ _ => ofSchema_resolves) generated
  obtain rfl := ofSchema_content described rfl
  exact ⟨unfailing, definitions, tabulates, same⟩

theorem describable_omitting (within : u = s ∨ ∃ name, FollowsFrom catalogs options.omitting s name u) :
    Describable options.omitting u := by
  have met : u = s ∨ ∃ name, FollowsFrom catalogs options s name u :=
    within.imp_right fun ⟨name, followed⟩ => ⟨name, .of_omitting followed⟩
  obtain ⟨before, made, after, described⟩ := generate_describes unmarked identified generated met
  have shown {f : Field} (member : f ∈ u.shownFields options.omitting) : f ∈ u.shownFields options := by
    rw [shownFields_omitting] at member
    exact (List.mem_filter.mp member).1
  exact {
    built := (unmarked u met).built
    carries := fun name target member => (unmarked u met).carries name target (shownReferences_omitting member)
    defaults := fun f member => (ofSchema_copyable described f (shown member)).1
    extras := fun f member => (ofSchema_copyable described f (shown member)).2 }

theorem generate_omitting : ∃ input, generate catalogs options.omitting s = .ok input :=
  generate_succeeds (fun _ within => describable_omitting unmarked identified generated within) fun obstructed =>
    (generate_tabulates unmarked identified generated).1.not_obstructed obstructed.of_omitting

end Followed

section Stripped
variable {body definitions document : Entries}

/-- The definitions of a document under a key. -/
def definitionsAt (document : Entries) (key : String) : Entries := (definitionsUnder document key).getD []

section Absent
variable (absent : ∀ e ∈ body, e.1.str? ≠ some key)

include absent

theorem definitionsAt_withDefinitions : definitionsAt (withDefinitions key body definitions) key = definitions := by
  unfold withDefinitions definitionsAt definitionsUnder
  cases definitions with
  | nil =>
    rw [List.isEmpty_nil, if_pos rfl, Entries.field?_of_absent absent]
    rfl
  | cons e rest =>
    rw [List.isEmpty_cons, if_neg Bool.false_ne_true, Entries.field?_setField_self]
    rfl

theorem dropField_withDefinitions : (withDefinitions key body definitions).dropField key = body := by
  unfold withDefinitions
  split
  · exact Entries.dropField_of_absent absent
  · rw [Entries.dropField_setField, Entries.dropField_of_absent absent]

theorem labels_withDefinitions (distinct : (labels body).Nodup) : (labels (withDefinitions key body definitions)).Nodup := by
  unfold withDefinitions
  split
  · exact distinct
  · rw [Entries.setField_of_absent _ (Entries.field?_of_absent absent), labels_append]
    refine List.nodup_append.mpr ⟨distinct, List.pairwise_singleton _ _, fun label listed other new same => ?_⟩
    obtain ⟨e, member, named⟩ := List.mem_filterMap.mp listed
    cases List.mem_singleton.mp new
    exact absent e member (same ▸ named)

end Absent

theorem field?_withDefinitions {keyword : String} (other : keyword ≠ key) :
    (withDefinitions key body definitions).field? keyword = body.field? keyword := by
  unfold withDefinitions
  split
  · rfl
  · exact Entries.field?_setField_of_ne _ _ other

theorem definitionsAt_inputDocument (listed : key ∈ Pointer.definitionsKeys) (document : Entries) :
    definitionsAt (inputDocument document) key = List.map (fun e => (e.1, suppliedDefinition e.2)) (definitionsAt document key) := by
  unfold definitionsAt definitionsUnder
  rw [field?_inputDocument_definitions listed]
  cases document.field? key with
  | none => rfl
  | some v => cases v <;> rfl

theorem dropField_inputDocument (listed : key ∈ Pointer.definitionsKeys) (document : Entries) :
    (inputDocument document).dropField key = inputDocument (document.dropField key) := by
  have removed : readOnlyProperties (document.dropField key) = readOnlyProperties document := by
    have apart : "properties" ≠ key := by
      rintro rfl
      exact absurd listed (by decide)
    rw [readOnlyProperties, readOnlyProperties, propertiesOf, propertiesOf, Entries.field?_dropField_of_ne _ apart]
  show (Entries.adjust (Entries.adjust (Entries.adjust (Entries.adjust document _ _) _ _) _ _) _ _).dropField key =
    Entries.adjust (Entries.adjust (Entries.adjust (Entries.adjust (document.dropField key) _ _) _ _) _ _) _ _
  rw [removed]
  simp only [Entries.dropField_adjust]

theorem inputDocument_of_bare (bare : ∀ key ∈ Pointer.definitionsKeys, ∀ e ∈ body, e.1.str? ≠ some key) :
    inputDocument body = supplied body := by
  have absent {key : String} (listed : key ∈ Pointer.definitionsKeys) : ∀ e ∈ supplied body, e.1.str? ≠ some key := by
    intro e member named
    have label : key ∈ labels body := labels_supplied body ▸ List.mem_filterMap.mpr ⟨e, member, named⟩
    obtain ⟨f, among, text⟩ := List.mem_filterMap.mp label
    exact bare key listed f among text
  show Entries.adjust (Entries.adjust (supplied body) _ _) _ _ = _
  rw [Entries.adjust_of_absent (absent (by decide)), Entries.adjust_of_absent (absent (by decide))]

end Stripped

section Generated
variable {scope : Scope} {references : List (Name × Option Target)} {definitions : Entries} {name : String}
  (tabulates : Tabulates catalogs options scope references definitions)

include tabulates

theorem Tabulates.defines_iff :
    definitions.hasField name = true ↔ ∃ t, Follows catalogs options scope references name t := by
  refine ⟨fun defined => ?_, fun ⟨t, followed⟩ => hasField_iff.mpr ⟨_, tabulates.each name t followed⟩⟩
  obtain ⟨body, found⟩ := hasField_iff.mp defined
  obtain ⟨d, member, named, -⟩ := Entries.mem_of_field? found
  obtain ⟨label, t, same, followed⟩ := (tabulates.listed d.1.str?).mp (List.mem_map_of_mem member)
  cases named.symm.trans same
  exact ⟨t, followed⟩

/-- What is defined under a name describes a schema that is followed to. -/
theorem Tabulates.of_field? {definition : Value} (found : definitions.field? name = some definition) :
    ∃ t, Follows catalogs options scope references name t ∧ definition = .map (schemaContent options t) := by
  obtain ⟨t, followed⟩ := tabulates.defines_iff.mp (hasField_iff.mpr ⟨definition, found⟩)
  cases found.symm.trans (tabulates.each name t followed)
  exact ⟨t, followed, rfl⟩

theorem Tabulates.strippable {d : Value × Value} (member : d ∈ definitions) : ∃ schema, d.2 = .map schema ∧ Strippable schema := by
  obtain ⟨label, t, named, -⟩ := (tabulates.listed d.1.str?).mp (List.mem_map_of_mem member)
  obtain ⟨u, -, described⟩ := tabulates.of_field? (Entries.field?_of_mem (nodup_labels tabulates.distinct) member named)
  exact ⟨_, described, strippable_schemaContent options u⟩

/-- What is generated can be stripped, if it can be copied. -/
theorem Tabulates.strippableDocument (listed : key ∈ Pointer.definitionsKeys)
    (copyable : (Value.map (withDefinitions key (schemaContent options s) definitions)).isCopyable = true) :
    StrippableDocument (withDefinitions key (schemaContent options s) definitions) where
  copyable := copyable
  own := by
    have apart : "required" ≠ key := by
      rintro rfl
      exact absurd listed (by decide)
    have own := strippable_schemaContent options s
    refine ⟨labels_withDefinitions (schemaContent_absent listed s) own.distinct, ?_⟩
    unfold Searchable requiredOf
    rw [field?_withDefinitions apart]
    exact own.searchable
  defined := by
    intro other known inside found d member
    by_cases same : other = key
    · subst same
      have here : definitionsAt (withDefinitions other (schemaContent options s) definitions) other = inside := by
        unfold definitionsAt definitionsUnder
        rw [found]
        rfl
      rw [definitionsAt_withDefinitions (schemaContent_absent listed s)] at here
      exact tabulates.strippable (here ▸ member)
    · rw [field?_withDefinitions same, Entries.field?_of_absent (schemaContent_absent known s)] at found
      cases found

end Generated

section Agreement
variable (unmarked : ∀ u, (u = s ∨ ∃ name, FollowsFrom catalogs options s name u) → Unmarked options u)

theorem Unmarked.omitting {u : Schema} (unmarked : Unmarked options u) : Unmarked options.omitting u where
  built := unmarked.built
  carries name target member := unmarked.carries name target (shownReferences_omitting member)
  extras f member := by
    rw [shownFields_omitting] at member
    exact unmarked.extras f (List.mem_filter.mp member).1

include unmarked

/-- A document that is stripped of derived fields is the one that is made without them, wherever that one says
something: the documents themselves, and each definition of the latter. The definitions that are only in the former
are those of schemas that are followed to, but not without derived fields. -/
theorem strip_generated (listed : options.definitionsKey ∈ Pointer.definitionsKeys)
    (identified : Identified catalogs options (scopeOf options s) (s.shownReferences options)) {document : Entries}
    (generated : generate catalogs options s = .ok document) :
    ∃ input, generate catalogs options.omitting s = .ok input ∧
      ((stripDerived (.map document)).Returns ↔ (Value.map document).isCopyable = true) ∧
      ∀ stripped, stripDerived (.map document) = .ok stripped → ∃ left : Entries, stripped = .map left ∧
        left.dropField options.definitionsKey = input.dropField options.definitionsKey ∧
        (∀ name definition, (definitionsAt input options.definitionsKey).field? name = some definition →
          (definitionsAt left options.definitionsKey).field? name = some definition) ∧
        ∀ name, (definitionsAt left options.definitionsKey).hasField name = true ∧
            ¬ (definitionsAt input options.definitionsKey).hasField name = true ↔
          (∃ t, FollowsFrom catalogs options s name t) ∧ ¬ ∃ t, FollowsFrom catalogs options.omitting s name t := by
  obtain ⟨input, made⟩ := generate_omitting unmarked identified generated
  obtain ⟨-, definitions, tabulates, rfl⟩ := generate_tabulates unmarked identified generated
  have fewer (u : Schema) (within : u = s ∨ ∃ name, FollowsFrom catalogs options.omitting s name u) : Unmarked options.omitting u :=
    (unmarked u (within.imp_right fun ⟨name, followed⟩ => ⟨name, .of_omitting followed⟩)).omitting
  obtain ⟨-, others, tabulatesOthers, same⟩ := generate_tabulates fewer identified.omitting made
  have absent (given : DocumentOptions) : ∀ e ∈ schemaContent given s, e.1.str? ≠ some options.definitionsKey :=
    schemaContent_absent listed s
  have strippable := tabulates.strippableDocument (s := s) listed
  refine ⟨input, made, ⟨copyable_of_stripDerived, fun copyable => ⟨_, (strippable copyable).stripDerived_eq⟩⟩,
    fun stripped ended => ?_⟩
  rw [(strippable (copyable_of_stripDerived ⟨stripped, ended⟩)).stripDerived_eq] at ended
  cases ended
  have here : definitionsAt (inputDocument (withDefinitions options.definitionsKey (schemaContent options s) definitions))
      options.definitionsKey = List.map (fun e => (e.1, suppliedDefinition e.2)) definitions := by
    rw [definitionsAt_inputDocument listed, definitionsAt_withDefinitions (absent options)]
  have there : definitionsAt input options.definitionsKey = others := by
    rw [same]
    exact definitionsAt_withDefinitions (absent options.omitting)
  refine ⟨_, rfl, ?_, fun name definition found => ?_, fun name => ?_⟩
  · rw [dropField_inputDocument listed, dropField_withDefinitions (absent options),
      inputDocument_of_bare fun key known => schemaContent_absent known s,
      supplied_schemaContent (unmarked s (.inl rfl)).built (unmarked s (.inl rfl)).extras, same]
    exact (dropField_withDefinitions (absent options.omitting)).symm
  · rw [there] at found
    obtain ⟨t, followed, rfl⟩ := tabulatesOthers.of_field? found
    have met : Unmarked options t := unmarked t (.inr ⟨name, .of_omitting followed⟩)
    rw [here, field?_map, tabulates.each name t (FollowsFrom.of_omitting followed), ← supplied_schemaContent met.built met.extras]
    rfl
  · have defined : Entries.hasField (List.map (fun e => (e.1, suppliedDefinition e.2)) definitions) name = definitions.hasField name := by
      rw [Entries.hasField, field?_map, Option.isSome_map]
      rfl
    rw [here, there, defined, tabulates.defines_iff, tabulatesOthers.defines_iff]
    rfl

end Agreement

namespace DerivedOmission

open ReferenceClosure (requiredField)

/-- A schema without a catalog. -/
def recordOf (serial : Nat) (name : String) (fields : List Field) : Schema :=
  { ReferenceClosure.recordOf serial name fields with catalog := none }

/-- A stamp, with its mark. -/
def stamp : Schema := recordOf 1 "Stamp" [requiredField "mark" (.primitive .string [])]

/-- Puts a stamp on a notice. -/
def stamping : Hook :=
  ⟨fun v => (v, .success (.map [(.str "mark", .str "X")])), 1, "function", some "notices", some "stamp", some "stamp"⟩

/-- A notice, to which only its derived field adds a stamp. -/
def notice : Schema :=
  { recordOf 2 "Notice" [requiredField "text" (.primitive .string []),
      { requiredField "stamp" (.ref "Stamp" (some (.schema stamp))) with required := false, derived := true }] with
    derivedHooks := [⟨"notices.stamp", .derived, stamping, some (.text "stamp"), false⟩] }

theorem stamp_built : stamp.IsBuilt := by
  have assembly : Schema.Assembly {} {} 1 (.list [.tuple [.str "mark", .str "string"]]) { name := "Stamp" } stamp :=
    ⟨_, stamp.fields, [], [], rfl, by with_unfolding_all rfl, rfl, rfl, rfl⟩
  exact ⟨_, _, _, _, _, assembly.build_eq rfl rfl rfl⟩

theorem notice_built : notice.IsBuilt := by
  have assembly : Schema.Assembly {} {} 2 (.list [.tuple [.str "text", .str "string"]])
      { name := "Notice", derivedFields := [.tuple [.str "stamp", .schema stamp, .hook stamping]] } notice :=
    ⟨_, notice.fields.take 1, [], (notice.fields.drop 1).zip notice.derivedHooks, rfl, by with_unfolding_all rfl, rfl,
      by with_unfolding_all rfl, by with_unfolding_all rfl⟩
  exact ⟨_, _, _, _, _, assembly.build_eq rfl rfl rfl⟩

theorem notice_follows {name : String} {t : Schema} (followed : FollowsFrom {} {} notice name t) : name = "Stamp" ∧ t = stamp := by
  have ofNotice : notice.shownReferences {} = [(.text "Stamp", some (.schema stamp))] := rfl
  have ofStamp : stamp.shownReferences {} = [] := rfl
  induction followed with
  | first leads =>
    obtain ⟨r, member, rfl, resolved⟩ := leads
    rw [ofNotice] at member
    cases List.mem_singleton.mp member
    cases resolved
    exact ⟨rfl, rfl⟩
  | next _ leads ih =>
    obtain ⟨-, rfl⟩ := ih
    obtain ⟨r, member, -⟩ := leads
    rw [ofStamp] at member
    cases member

theorem notice_unmarked (u : Schema) (within : u = notice ∨ ∃ name, FollowsFrom {} {} notice name u) : Unmarked {} u := by
  obtain rfl | ⟨name, followed⟩ := within
  · refine ⟨notice_built, fun name target member => ?_, fun f shown => ?_⟩
    · cases List.mem_singleton.mp (show _ ∈ [(Name.text "Stamp", some (Target.schema stamp))] from member)
      exact ⟨stamp, rfl⟩
    · have bare : ∀ f ∈ notice.shownFields {}, f.extra = [] := by decide
      rw [bare f shown]
      exact List.forall_mem_nil _
  · obtain ⟨-, rfl⟩ := notice_follows followed
    refine ⟨stamp_built, fun name target member => (nomatch (show _ ∈ [] from member)), fun f shown => ?_⟩
    have bare : ∀ f ∈ stamp.shownFields {}, f.extra = [] := by decide
    rw [bare f shown]
    exact List.forall_mem_nil _

theorem notice_identified : Identified {} {} (scopeOf {} notice) (notice.shownReferences {}) := by
  intro _ t left _ u right _
  obtain ⟨-, rfl⟩ := notice_follows left
  obtain ⟨-, rfl⟩ := notice_follows right
  rfl

/-- Without its derived field, the document of a notice defines no stamp. -/
theorem notice_omits :
    (∀ u, (u = notice ∨ ∃ name, FollowsFrom {} {} notice name u) → Unmarked {} u) ∧
    Identified {} {} (scopeOf {} notice) (notice.shownReferences {}) ∧ FollowsFrom {} {} notice "Stamp" stamp ∧
    ∃ document, generate {} {} notice = .ok document ∧ (Value.map document).isCopyable = true ∧
      ∃ input, generate {} ({} : DocumentOptions).omitting notice = .ok input ∧
      ((stripDerived (.map document)).Returns ↔ (Value.map document).isCopyable = true) ∧
      ∀ stripped, stripDerived (.map document) = .ok stripped → ∃ left : Entries, stripped = .map left ∧
        left.dropField "definitions" = input.dropField "definitions" ∧
        (∀ name definition, (definitionsAt input "definitions").field? name = some definition →
          (definitionsAt left "definitions").field? name = some definition) ∧
        ∀ name, (definitionsAt left "definitions").hasField name = true ∧
            ¬ (definitionsAt input "definitions").hasField name = true ↔
          (∃ t, FollowsFrom {} {} notice name t) ∧ ¬ ∃ t, FollowsFrom {} ({} : DocumentOptions).omitting notice name t := by
  obtain ⟨document, generated, copyable⟩ : ∃ document, generate {} {} notice = .ok document ∧ (Value.map document).isCopyable = true :=
    ⟨_, by with_unfolding_all rfl, rfl⟩
  exact ⟨notice_unmarked, notice_identified, .first ⟨_, List.mem_singleton_self _, rfl, rfl⟩, document, generated, copyable,
    strip_generated notice_unmarked (by decide) notice_identified generated⟩

/-- A sketch, for which a view of an empty map is an example. -/
def sketch : Schema := recordOf 3 "Sketch" [{ requiredField "shape" (.primitive .any []) with examples := [.view []] }]

theorem sketch_built : sketch.IsBuilt := by
  have assembly : Schema.Assembly {} {} 3
      (.list [.tuple [.str "shape", .str "any", .map [(.str "examples", .list [.data (.view [])])]]]) { name := "Sketch" } sketch :=
    ⟨_, sketch.fields, [], [], rfl, by with_unfolding_all rfl, rfl, rfl, rfl⟩
  exact ⟨_, _, _, _, _, assembly.build_eq rfl rfl rfl⟩

/-- The example is put into the document as it is. The document cannot be copied then, and is not stripped. -/
theorem sketch_unstripped :
    sketch.IsBuilt ∧ (∀ f ∈ sketch.fields, f.extra = []) ∧ sketch.references = [] ∧
      (generate {} ({} : DocumentOptions).omitting sketch).Returns ∧
      ∃ document, generate {} {} sketch = .ok document ∧ stripDerived (.map document) = .error .wrongType := by
  refine ⟨sketch_built, by decide, rfl, ⟨_, by with_unfolding_all rfl⟩, schemaContent {} sketch, by with_unfolding_all rfl, ?_⟩
  with_unfolding_all rfl

end DerivedOmission
end Document
end RecordSchema
