import RecordSchema.Declaration.Schema
import RecordSchema.Options.Document

/-! Where references lead. Types mention references at any depth; a schema mentions those of all its
fields. Documents show some of them only: not those in the types of keys, nor those of derived fields that
are left out. -/

namespace RecordSchema

namespace SchemaType

theorem mem_referencesOf {r : Name × Option Target} {types : List SchemaType} :
    r ∈ referencesOf types ↔ ∃ t ∈ types, r ∈ t.references := by
  induction types with
  | nil => simp [referencesOf]
  | cons t rest ih => simp [referencesOf, ih]

mutual

/-- The references in a type that its schema in a document shows, in order. -/
def shownReferences : SchemaType → List (Name × Option Target)
  | .primitive _ _ => []
  | .array element _ => shownReferences element
  | .map _ value _ => shownReferences value
  | .union variants _ => shownReferencesOf variants
  | .ref name target => [(name, target)]

def shownReferencesOf : List SchemaType → List (Name × Option Target)
  | [] => []
  | t :: rest => shownReferences t ++ shownReferencesOf rest

end

mutual

theorem shownReferences_subset : ∀ t : SchemaType, t.shownReferences ⊆ t.references
  | .primitive _ _ => List.Subset.refl _
  | .array element _ => shownReferences_subset element
  | .map _ value _ => List.subset_append_of_subset_right _ (shownReferences_subset value)
  | .union variants _ => shownReferencesOf_subset variants
  | .ref _ _ => List.Subset.refl _

theorem shownReferencesOf_subset : ∀ types : List SchemaType, shownReferencesOf types ⊆ referencesOf types
  | [] => List.Subset.refl _
  | t :: rest => List.append_subset.mpr ⟨List.subset_append_of_subset_left _ (shownReferences_subset t),
      List.subset_append_of_subset_right _ (shownReferencesOf_subset rest)⟩

end

end SchemaType

namespace Schema

/-- The fields that a document shows. -/
def shownFields (options : DocumentOptions) (s : Schema) : List Field :=
  s.fields.filter fun f => options.includeDerived || !f.derived

/-- The references that a document shows, in order. -/
def shownReferences (options : DocumentOptions) (s : Schema) : List (Name × Option Target) :=
  (s.shownFields options).flatMap fun f => f.type.shownReferences

end Schema

theorem Schema.mem_references {r : Name × Option Target} {s : Schema} :
    r ∈ s.references ↔ ∃ f ∈ s.fields, r ∈ f.type.references := by
  simp [Schema.references]

theorem Schema.shownReferences_subset (options : DocumentOptions) (s : Schema) : s.shownReferences options ⊆ s.references := by
  intro r member
  obtain ⟨f, shown, mentioned⟩ := List.mem_flatMap.mp member
  exact mem_references.mpr ⟨f, (List.mem_filter.mp shown).1, f.type.shownReferences_subset mentioned⟩

end RecordSchema
