import RecordSchema.Document.OfSchema
import RecordSchema.Proofs.DocumentKeywords
import RecordSchema.Proofs.Drafting
import RecordSchema.Proofs.References

/-! What the schemas in a document are made of: one equation for each kind of type, for fields and for
whole schemas. While one is made, the draft grows only by what its references lead to. Main statement:
`ofSchema_grows`. -/

namespace RecordSchema.Document
open Drafting Draft

variable {catalogs : Catalogs} {options : DocumentOptions} {scope : Scope} {before after : Draft}

theorem addKeywords_makes {schema made : Entries} {cs : List Constraint}
    (ended : Makes (addKeywords schema cs) before made after) :
    ∃ keywords, Constraint.keywords cs = .ok keywords ∧ made = schema.update keywords ∧ after = before := by
  unfold addKeywords at ended
  split at ended
  next keywords told =>
    obtain ⟨rfl, rfl⟩ := makes_pure.mp ended
    exact ⟨keywords, told, rfl, rfl⟩
  next => exact absurd ended not_makes_throw

theorem ofPrimitive_makes {kind : Primitive} {cs : List Constraint} {made : Entries}
    (ended : Makes (ofPrimitive kind cs) before made after) :
    ∃ keywords, Constraint.keywords cs = .ok keywords ∧
      made = Entries.update (kind.keyword?.toList.map fun name => entry "type" (.str name)) keywords ∧ after = before :=
  addKeywords_makes ended

/-- Names of entries are described only if they are text with constraints. -/
theorem propertyNames_makes {key : SchemaType} {made : Entries} (ended : Makes (propertyNames key) before made after) :
    after = before ∧ (made = [] ∨ ∃ cs names, key = .primitive .string cs ∧ made = [entry "propertyNames" (.map names)] ∧
      Makes (ofPrimitive .string cs) before names before) := by
  unfold propertyNames at ended
  split at ended
  next c rest =>
    obtain ⟨names, middle, described, ended⟩ := makes_bind.mp ended
    obtain ⟨rfl, rfl⟩ := makes_pure.mp ended
    obtain ⟨_, _, _, rfl⟩ := ofPrimitive_makes described
    exact ⟨rfl, .inr ⟨_, names, rfl, rfl, described⟩⟩
  next =>
    obtain ⟨rfl, rfl⟩ := makes_pure.mp ended
    exact ⟨rfl, .inl rfl⟩

theorem ofArray_makes {element : SchemaType} {cs : List Constraint} {made : Entries}
    (ended : Makes (ofType catalogs scope (.array element cs)) before made after) :
    ∃ items, Makes (ofType catalogs scope element) before items after ∧ ∃ keywords,
      Constraint.keywords cs = .ok keywords ∧
      made = Entries.update [entry "type" (.str "array"), entry "items" (.map items)] keywords := by
  rw [ofType] at ended
  obtain ⟨items, middle, described, ended⟩ := makes_bind.mp ended
  obtain ⟨keywords, told, rfl, rfl⟩ := addKeywords_makes ended
  exact ⟨items, described, keywords, told, rfl⟩

theorem ofMap_makes {key value : SchemaType} {cs : List Constraint} {made : Entries}
    (ended : Makes (ofType catalogs scope (.map key value cs)) before made after) :
    ∃ values, Makes (ofType catalogs scope value) before values after ∧ ∃ names,
      Makes (propertyNames key) after names after ∧ ∃ keywords, Constraint.keywords cs = .ok keywords ∧
      made = Entries.update ([entry "type" (.str "object"), entry "additionalProperties" (.map values)] ++ names) keywords := by
  rw [ofType] at ended
  obtain ⟨values, middle, described, ended⟩ := makes_bind.mp ended
  obtain ⟨names, middle', named, ended⟩ := makes_bind.mp ended
  obtain ⟨keywords, told, rfl, rfl⟩ := addKeywords_makes ended
  obtain ⟨rfl, -⟩ := propertyNames_makes named
  exact ⟨values, described, names, named, keywords, told, rfl⟩

theorem ofUnion_makes {variants : List SchemaType} {cs : List Constraint} {made : Entries}
    (ended : Makes (ofType catalogs scope (.union variants cs)) before made after) :
    ∃ subs, Makes (ofVariants catalogs scope variants) before subs after ∧ made = [entry "anyOf" (.list subs)] := by
  rw [ofType] at ended
  obtain ⟨subs, middle, described, ended⟩ := makes_bind.mp ended
  obtain ⟨rfl, rfl⟩ := makes_pure.mp ended
  exact ⟨subs, described, rfl⟩

theorem ofRef_makes {name : Name} {target : Option Target} {made : Entries}
    (ended : Makes (ofType catalogs scope (.ref name target)) before made after) :
    ∃ found, scope.lookup? catalogs name target = some found ∧ ∃ text, Makes (refer (some name) (some found)) before text after ∧
      made = [entry "$ref" (.str text)] := by
  rw [ofType] at ended
  split at ended
  next => exact absurd ended not_makes_throw
  next found resolved =>
    obtain ⟨text, middle, referred, ended⟩ := makes_bind.mp ended
    obtain ⟨rfl, rfl⟩ := makes_pure.mp ended
    exact ⟨found, resolved, text, referred, rfl⟩

theorem ofVariants_cons_makes {t : SchemaType} {rest : List SchemaType} {made : List Value}
    (ended : Makes (ofVariants catalogs scope (t :: rest)) before made after) :
    ∃ first middle, Makes (ofType catalogs scope t) before first middle ∧
      ∃ others, Makes (ofVariants catalogs scope rest) middle others after ∧ made = .map first :: others := by
  rw [ofVariants] at ended
  obtain ⟨first, middle, described, ended⟩ := makes_bind.mp ended
  obtain ⟨others, middle', remaining, ended⟩ := makes_bind.mp ended
  obtain ⟨rfl, rfl⟩ := makes_pure.mp ended
  exact ⟨first, middle, described, others, remaining, rfl⟩

theorem owned_makes {v w : Value} (ended : Makes (owned v) before w after) : v.isCopyable = true ∧ w = v ∧ after = before := by
  unfold owned Value.copy at ended
  by_cases copyable : v.isCopyable = true
  · rw [if_pos copyable] at ended
    exact ⟨copyable, makes_pure.mp ended⟩
  · rw [if_neg copyable] at ended
    exact absurd ended not_makes_throw

theorem withExtra_makes {schema extra made : Entries} (ended : Makes (withExtra schema extra) before made after) :
    made = schema.update extra ∧ after = before := by
  induction extra generalizing schema before with
  | nil => exact makes_pure.mp ended
  | cons e rest ih =>
    obtain ⟨key, v⟩ := e
    obtain ⟨w, middle, copied, remaining⟩ := makes_bind.mp ended
    obtain ⟨-, rfl, rfl⟩ := owned_makes copied
    exact ih remaining

/-- The schema of a field, given that of its type, without keywords of its own. -/
def remarked (s : Schema) (f : Field) (own : Entries) : Entries :=
  let described := if f.description.isTrue then own.setField "description" f.description else own
  let supplied := match f.default with
    | none => described
    | some v => described.setField "default" v
  let shown := if f.examples.isEmpty then supplied else supplied.setField "examples" (.list f.examples)
  if f.derived then
    let told := match s.derivedHooks.find? fun h => h.fieldName.map Name.label = some f.name.label with
      | none => .map []
      | some placed => derivation placed
    (shown.setField "readOnly" (.bool true)).setField "x-derived-field" told
  else shown

/-- The schema of a field is that of its type with remarks, under the keywords that the field has of its own. -/
theorem ofField_makes {s : Schema} {f : Field} {made : Entries} (ended : Makes (ofField catalogs scope s f) before made after) :
    ∃ own, Makes (ofType catalogs scope f.type) before own after ∧ made = (remarked s f own).update f.extra := by
  obtain ⟨own, middle, described, rest⟩ := makes_bind.mp ended
  refine ⟨own, ?_⟩
  unfold remarked
  cases default : f.default with
  | none =>
    simp only [default, pure_bind] at rest
    obtain ⟨rfl, rfl⟩ := withExtra_makes rest
    exact ⟨described, rfl⟩
  | some v =>
    simp only [default, pure_bind] at rest
    obtain ⟨copy, middle', copied, remaining⟩ := makes_bind.mp rest
    obtain ⟨-, rfl, rfl⟩ := owned_makes copied
    obtain ⟨rfl, rfl⟩ := withExtra_makes remaining
    exact ⟨described, rfl⟩

/-- What is remarked of a field are notes: what they do not change holds with them as well. -/
theorem remarked_of {P : Entries → Prop} {s : Schema} {f : Field} {own : Entries} (holds : P own)
    (note : ∀ schema keyword v, keyword ∈ notes → P schema → P (Entries.setField schema keyword v)) : P (remarked s f own) := by
  have described : P (if f.description.isTrue then own.setField "description" f.description else own) := by
    split
    · exact note _ _ _ (by decide) holds
    · exact holds
  have supplied : P (match f.default with
      | none => if f.description.isTrue then own.setField "description" f.description else own
      | some d => (if f.description.isTrue then own.setField "description" f.description else own).setField "default" d) := by
    split
    · exact described
    · exact note _ _ _ (by decide) described
  unfold remarked
  dsimp only
  have shown {supplied : Entries} (holds : P supplied) :
      P (if f.examples.isEmpty then supplied else supplied.setField "examples" (.list f.examples)) := by
    split
    · exact holds
    · exact note _ _ _ (by decide) holds
  split
  · exact note _ _ _ (by decide) (note _ _ _ (by decide) (shown supplied))
  · exact shown supplied

theorem Admits.remarked {s : Schema} {f : Field} {own root : Entries} {v : Value} (admitted : Admits root (.map own) v) :
    Admits root (.map (remarked s f own)) v :=
  remarked_of (P := fun schema => Admits root (.map schema) v) admitted fun _ _ _ note admitted =>
    admitted.remark (List.mem_append_left _ note) _

theorem properties_cons_makes {s : Schema} {f : Field} {rest : List Field} {made : Entries}
    (ended : Makes (properties catalogs scope s (f :: rest)) before made after) :
    ∃ own middle, Makes (ofField catalogs scope s f) before own middle ∧
      ∃ others, Makes (properties catalogs scope s rest) middle others after ∧ made = (f.name.toValue, .map own) :: others := by
  rw [properties] at ended
  obtain ⟨own, middle, described, ended⟩ := makes_bind.mp ended
  obtain ⟨others, middle', remaining, ended⟩ := makes_bind.mp ended
  obtain ⟨rfl, rfl⟩ := makes_pure.mp ended
  exact ⟨own, middle, described, others, remaining, rfl⟩

variable (catalogs) in
/-- One of the references leads to a target under a name. -/
def Leads (scope : Scope) (references : List (Name × Option Target)) (name : String) (found : Target) : Prop :=
  ∃ r ∈ references, r.1.label = name ∧ scope.lookup? catalogs r.1 r.2 = some found

theorem Leads.mono {references others : List (Name × Option Target)} (all : ∀ r ∈ references, r ∈ others) (name : String)
    (found : Target) (leads : Leads catalogs scope references name found) : Leads catalogs scope others name found := by
  obtain ⟨r, member, named, resolved⟩ := leads
  exact ⟨r, all r member, named, resolved⟩

mutual

theorem ofType_grows : ∀ (t : SchemaType) {before after : Draft} {made : Entries},
    Makes (ofType catalogs scope t) before made after → Grows (Leads catalogs scope t.shownReferences) before after
  | .primitive kind cs, _, after, _, ended => by
    rw [ofType] at ended
    obtain ⟨_, _, _, rfl⟩ := ofPrimitive_makes ended
    exact .refl after
  | .array element cs, _, _, _, ended => by
    obtain ⟨items, described, -⟩ := ofArray_makes ended
    exact ofType_grows element described
  | .map key value cs, _, _, _, ended => by
    obtain ⟨values, described, -⟩ := ofMap_makes ended
    exact ofType_grows value described
  | .union variants cs, _, _, _, ended => by
    obtain ⟨subs, described, -⟩ := ofUnion_makes ended
    exact ofVariants_grows variants described
  | .ref name target, _, _, _, ended => by
    obtain ⟨found, resolved, text, referred, -⟩ := ofRef_makes ended
    refine (refer_makes referred).1.weaken fun label t same => ?_
    obtain ⟨rfl, rfl⟩ := same
    exact ⟨(name, target), List.mem_singleton_self _, rfl, resolved⟩

theorem ofVariants_grows : ∀ (types : List SchemaType) {before after : Draft} {made : List Value},
    Makes (ofVariants catalogs scope types) before made after →
      Grows (Leads catalogs scope (SchemaType.shownReferencesOf types)) before after
  | [], _, after, _, ended => by
    rw [ofVariants] at ended
    obtain ⟨rfl, rfl⟩ := makes_pure.mp ended
    exact .refl _
  | t :: rest, _, _, _, ended => by
    obtain ⟨first, middle, described, others, remaining, -⟩ := ofVariants_cons_makes ended
    exact ((ofType_grows t described).weaken (Leads.mono fun r member => List.mem_append_left _ member)).trans
      ((ofVariants_grows rest remaining).weaken (Leads.mono fun r member => List.mem_append_right _ member))

end

theorem properties_grows {s : Schema} {fields : List Field} {made : Entries}
    (ended : Makes (properties catalogs scope s fields) before made after) :
    Grows (Leads catalogs scope (fields.flatMap (·.type.shownReferences))) before after := by
  induction fields generalizing before made with
  | nil =>
    rw [properties] at ended
    obtain ⟨rfl, rfl⟩ := makes_pure.mp ended
    exact .refl _
  | cons f rest ih =>
    obtain ⟨own, middle, described, others, remaining, -⟩ := properties_cons_makes ended
    obtain ⟨_, typed, -⟩ := ofField_makes described
    exact ((ofType_grows f.type typed).weaken (Leads.mono fun r member => List.mem_append_left _ member)).trans
      ((ih remaining).weaken (Leads.mono fun r member => List.mem_append_right _ member))

theorem ofVariants_mem {types : List SchemaType} {made : List Value}
    (ended : Makes (ofVariants catalogs scope types) before made after) :
    ∀ t ∈ types, ∃ first last own, Makes (ofType catalogs scope t) first own last ∧ Kept last after ∧ .map own ∈ made := by
  induction types generalizing before made with
  | nil => exact fun _ member => nomatch member
  | cons t rest ih =>
    obtain ⟨own, middle, described, others, remaining, rfl⟩ := ofVariants_cons_makes ended
    refine List.forall_mem_cons.mpr ⟨?_, fun u member => ?_⟩
    · exact ⟨before, middle, own, described, (ofVariants_grows rest remaining).toKept, List.mem_cons_self⟩
    · obtain ⟨first, last, sub, made, kept, inside⟩ := ih remaining u member
      exact ⟨first, last, sub, made, kept, List.mem_cons_of_mem _ inside⟩

/-- What stands under a name in properties was made of a field of that name. -/
theorem properties_field? {s : Schema} {fields : List Field} {made : Entries} {name : String} {sub : Value}
    (ended : Makes (properties catalogs scope s fields) before made after) (found : made.field? name = some sub) :
    ∃ f ∈ fields, f.name.label = name ∧ ∃ first last own, Makes (ofField catalogs scope s f) first own last ∧
      Kept last after ∧ sub = .map own := by
  induction fields generalizing before made with
  | nil =>
    rw [properties] at ended
    obtain ⟨rfl, rfl⟩ := makes_pure.mp ended
    cases found
  | cons f rest ih =>
    obtain ⟨own, middle, described, others, remaining, rfl⟩ := properties_cons_makes ended
    rw [Entries.field?, Value.str?_toValue] at found
    split at found
    next here =>
      cases found
      exact ⟨f, List.mem_cons_self, Option.some.inj here, before, middle, own, described, (properties_grows remaining).toKept, rfl⟩
    next =>
      obtain ⟨g, member, found⟩ := ih remaining found
      exact ⟨g, List.mem_cons_of_mem _ member, found⟩

theorem properties_listed {s : Schema} {fields : List Field} {made : Entries}
    (ended : Makes (properties catalogs scope s fields) before made after) :
    ∀ f ∈ fields, (made.field? f.name.label).isSome := by
  induction fields generalizing before made with
  | nil => exact fun _ member => nomatch member
  | cons f rest ih =>
    obtain ⟨own, middle, -, others, remaining, rfl⟩ := properties_cons_makes ended
    refine List.forall_mem_cons.mpr ⟨?_, fun g member => ?_⟩
    · exact Entries.field?_isSome_of_mem List.mem_cons_self (Value.str?_toValue _)
    · rw [Entries.field?]
      split
      · rfl
      · exact ih remaining g member

theorem textEntry_key {keyword : String} {text : Option String} {e : Value × Value} (member : e ∈ textEntry keyword text) :
    e.1 = .str keyword := by
  unfold textEntry at member
  split at member
  · cases member
  · cases member
  · cases List.mem_singleton.mp member
    rfl

/-- The keywords of a whole schema, with its properties. -/
def keywordsOf (options : DocumentOptions) (s : Schema) (named : Entries) : Entries :=
  [entry "type" (.str "object")] ++ textEntry "title" s.title ++ textEntry "description" s.description ++
    [entry "properties" (.map named),
      entry "required" (.list (((s.shownFields options).filter fun f => f.required && !f.derived).map fun f => f.name.toValue))] ++
    if options.strict.getD s.strict then [entry "additionalProperties" (.bool false)] else []

/-- The keywords that can stand at the top of a whole schema, in order. -/
def schemaKeywords : List String := ["type", "title", "description", "properties", "required", "additionalProperties"]

/-- A whole schema has these keywords only, none of them twice. -/
theorem keywordsOf_sublist (options : DocumentOptions) (s : Schema) (named : Entries) :
    (List.filterMap (·.1.str?) (keywordsOf options s named)).Sublist schemaKeywords := by
  have text (keyword : String) (t : Option String) : (List.filterMap (·.1.str?) (textEntry keyword t)).Sublist [keyword] := by
    unfold textEntry
    split
    · exact List.nil_sublist _
    · exact List.nil_sublist _
    · exact List.Sublist.refl _
  rw [keywordsOf, List.filterMap_append, List.filterMap_append, List.filterMap_append, List.filterMap_append]
  refine (((List.Sublist.append (List.Sublist.refl ["type"]) (text "title" s.title)).append (text "description" s.description)).append
    (List.Sublist.refl ["properties", "required"])).append ?_
  split
  · exact List.Sublist.refl ["additionalProperties"]
  · exact List.nil_sublist _

theorem properties_keywordsOf (options : DocumentOptions) (s : Schema) (named : Entries) :
    (keywordsOf options s named).field? "properties" = some (.map named) := by
  have text {keyword : String} (other : keyword ≠ "properties") (t : Option String) :
      ∀ e ∈ textEntry keyword t, e.1.str? ≠ some "properties" := by
    intro e member
    rw [textEntry_key member]
    exact fun same => other (Option.some.inj same)
  have absent : ∀ e ∈ [entry "type" (.str "object")] ++ textEntry "title" s.title ++ textEntry "description" s.description,
      e.1.str? ≠ some "properties" :=
    List.forall_mem_append.mpr ⟨List.forall_mem_append.mpr ⟨List.forall_mem_singleton.mpr (by decide), text (by decide) _⟩,
      text (by decide) _⟩
  unfold keywordsOf
  rw [List.append_assoc, Entries.field?_append_of_absent absent]
  rfl

/-- Where a document looks up the references of a schema: its own catalog replaces that of the options. -/
def scopeOf (options : DocumentOptions) (s : Schema) : Scope := ⟨some s, s.catalog.or options.catalog⟩

theorem ofSchema_makes {s : Schema} {made : Entries} (ended : Makes (ofSchema catalogs options s) before made after) :
    ∃ named, Makes (properties catalogs (scopeOf options s) s (s.shownFields options)) before named after ∧
      made = keywordsOf options s named := by
  obtain ⟨named, middle, described, ended⟩ := makes_bind.mp ended
  obtain ⟨rfl, rfl⟩ := makes_pure.mp ended
  exact ⟨named, described, rfl⟩

variable (catalogs options) in
/-- What the references that are shown of a schema lead to. -/
def LeadsFrom (s : Schema) : String → Target → Prop := Leads catalogs (scopeOf options s) (s.shownReferences options)

/-- While a schema is described, the draft grows by what the references of the schema lead to. -/
theorem ofSchema_grows {s : Schema} {made : Entries} (ended : Makes (ofSchema catalogs options s) before made after) :
    Grows (LeadsFrom catalogs options s) before after := by
  obtain ⟨named, described, -⟩ := ofSchema_makes ended
  exact properties_grows described

end RecordSchema.Document
