import RecordSchema.Proofs.DocumentShape
import RecordSchema.Proofs.Outcome

/-! What documents say, apart from how they are made. The keywords of a type depend on the type and on the
key of the definitions alone, so a schema is described alike in every document that defines it. Main
statement: `ofSchema_content`. -/

namespace RecordSchema

/-- The keywords of constraints, if all of them can be told. -/
def Constraint.told (cs : List Constraint) : Entries := (keywords cs).toOption.getD []

theorem Constraint.told_eq {cs : List Constraint} {made : Entries} (ended : keywords cs = .ok made) : told cs = made := by
  rw [told, ended]
  rfl

namespace Document
open Drafting Draft

variable {catalogs : Catalogs} {options : DocumentOptions} {scope : Scope} {before after : Draft} {key : String}

def primitiveContent (kind : Primitive) (cs : List Constraint) : Entries :=
  Entries.update (kind.keyword?.toList.map fun name => entry "type" (.str name)) (Constraint.told cs)

/-- What is said of the names of entries. -/
def namesContent : SchemaType → Entries
  | .primitive .string (c :: rest) => [entry "propertyNames" (.map (primitiveContent .string (c :: rest)))]
  | _ => []

mutual

/-- What is said of a type in a document with its definitions under the key. -/
def typeContent (key : String) : SchemaType → Entries
  | .primitive kind cs => primitiveContent kind cs
  | .array element cs =>
    Entries.update [entry "type" (.str "array"), entry "items" (.map (typeContent key element))] (Constraint.told cs)
  | .map names value cs =>
    Entries.update ([entry "type" (.str "object"), entry "additionalProperties" (.map (typeContent key value))] ++
      namesContent names) (Constraint.told cs)
  | .union variants _ => [entry "anyOf" (.list (variantsContent key variants))]
  | .ref name _ => [entry "$ref" (.str (Pointer.ofName key name.label))]

def variantsContent (key : String) : List SchemaType → List Value
  | [] => []
  | t :: rest => .map (typeContent key t) :: variantsContent key rest

end

def fieldContent (key : String) (s : Schema) (f : Field) : Entries :=
  (remarked s f (typeContent key f.type)).update f.extra

def propertiesContent (key : String) (s : Schema) (fields : List Field) : Entries :=
  fields.map fun f => (f.name.toValue, .map (fieldContent key s f))

/-- What is said of a schema. -/
def schemaContent (options : DocumentOptions) (s : Schema) : Entries :=
  keywordsOf options s (propertiesContent options.definitionsKey s (s.shownFields options))

theorem ofPrimitive_content {kind : Primitive} {cs : List Constraint} {made : Entries}
    (ended : Makes (ofPrimitive kind cs) before made after) : made = primitiveContent kind cs := by
  obtain ⟨keywords, told, rfl, -⟩ := ofPrimitive_makes ended
  rw [primitiveContent, Constraint.told_eq told]

theorem propertyNames_content {names : SchemaType} {made : Entries} (ended : Makes (propertyNames names) before made after) :
    made = namesContent names := by
  unfold propertyNames at ended
  split at ended
  next c rest =>
    obtain ⟨own, middle, described, ended⟩ := makes_bind.mp ended
    obtain ⟨rfl, -⟩ := makes_pure.mp ended
    rw [namesContent, ofPrimitive_content described]
  next plain =>
    obtain ⟨rfl, -⟩ := makes_pure.mp ended
    unfold namesContent
    split
    next c rest => exact absurd rfl (plain c rest)
    next => rfl

mutual

theorem ofType_content : ∀ (t : SchemaType) {before after : Draft} {made : Entries},
    Makes (ofType catalogs scope t) before made after → made = typeContent before.definitionsKey t
  | .primitive kind cs, _, _, _, ended => by
    rw [ofType] at ended
    exact ofPrimitive_content ended
  | .array element cs, _, _, _, ended => by
    obtain ⟨items, described, keywords, told, rfl⟩ := ofArray_makes ended
    rw [typeContent, Constraint.told_eq told, ofType_content element described]
  | .map names value cs, _, _, _, ended => by
    obtain ⟨values, described, own, named, keywords, told, rfl⟩ := ofMap_makes ended
    rw [typeContent, Constraint.told_eq told, ofType_content value described, propertyNames_content named]
  | .union variants cs, _, _, _, ended => by
    obtain ⟨subs, described, rfl⟩ := ofUnion_makes ended
    rw [typeContent, ofVariants_content variants described]
  | .ref name target, _, _, _, ended => by
    obtain ⟨found, -, text, referred, rfl⟩ := ofRef_makes ended
    obtain ⟨growth, rfl, -⟩ := refer_makes referred
    rw [typeContent, pointer, growth.key]

theorem ofVariants_content : ∀ (types : List SchemaType) {before after : Draft} {made : List Value},
    Makes (ofVariants catalogs scope types) before made after → made = variantsContent before.definitionsKey types
  | [], _, _, _, ended => by
    rw [ofVariants] at ended
    exact (makes_pure.mp ended).1
  | t :: rest, _, _, _, ended => by
    obtain ⟨first, middle, described, others, remaining, rfl⟩ := ofVariants_cons_makes ended
    rw [variantsContent, ofType_content t described, ofVariants_content rest remaining, (ofType_grows t described).key]

end

theorem properties_content {s : Schema} {fields : List Field} {made : Entries}
    (ended : Makes (properties catalogs scope s fields) before made after) :
    made = propertiesContent before.definitionsKey s fields := by
  induction fields generalizing before made with
  | nil =>
    rw [properties] at ended
    exact (makes_pure.mp ended).1
  | cons f rest ih =>
    obtain ⟨own, middle, described, others, remaining, rfl⟩ := properties_cons_makes ended
    obtain ⟨typed, ofType, rfl⟩ := ofField_makes described
    have key : middle.definitionsKey = before.definitionsKey := (ofType_grows f.type ofType).key
    rw [ih remaining, ofType_content f.type ofType, key]
    rfl

/-- Whatever the draft, a schema is described alike. -/
theorem ofSchema_content {s : Schema} {made : Entries} (ended : Makes (ofSchema catalogs options s) before made after)
    (key : before.definitionsKey = options.definitionsKey) : made = schemaContent options s := by
  obtain ⟨named, described, rfl⟩ := ofSchema_makes ended
  rw [schemaContent, properties_content described, key]

end Document
end RecordSchema
