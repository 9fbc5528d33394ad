import RecordSchema.Catalog
import RecordSchema.Declaration.Schema

/-! What types and schemas mean: which values conform to a type and which ones a schema accepts, by
what is declared alone. Hooks have no part in it. -/

namespace RecordSchema

mutual

/-- A value conforms to a type. References are resolved in the scope. -/
inductive Conforms (catalogs : Catalogs) : Scope → SchemaType → Value → Prop where
  | primitive {scope kind cs v} (shape : kind.admits v = true) (constrained : ∀ c ∈ cs, c.check v = .ok true) :
      Conforms catalogs scope (.primitive kind cs) v
  | array {scope element cs v items} (sequence : v.items? = some items)
      (constrained : ∀ c ∈ cs, c.check v = .ok true) (each : ∀ item ∈ items, Conforms catalogs scope element item) :
      Conforms catalogs scope (.array element cs) v
  | map {scope key value cs v entries} (mapping : v.mapping? = some entries)
      (constrained : ∀ c ∈ cs, c.check (.map entries) = .ok true)
      (eachKey : ∀ e ∈ entries, Conforms catalogs scope key e.1)
      (eachValue : ∀ e ∈ entries, Conforms catalogs scope value e.2) :
      Conforms catalogs scope (.map key value cs) v
  | union {scope variants cs v t} (member : t ∈ variants) (variant : Conforms catalogs scope t v) :
      Conforms catalogs scope (.union variants cs) v
  | ref {scope name target v s} (resolved : Scope.lookup? catalogs scope name target = some (.schema s))
      (accepted : Accepted catalogs s scope.catalog v) : Conforms catalogs scope (.ref name target) v

/-- A schema with a catalog around it accepts a value: every required field is there, every field that
is there conforms to its type, and a strict schema knows every key. -/
inductive Accepted (catalogs : Catalogs) : Schema → Option CatalogId → Value → Prop where
  | intro {s catalog v entries} (mapping : v.mapping? = some entries)
      (required : ∀ f ∈ s.regularFields, f.required = true → (entries.field? f.name.label).isSome)
      (present : ∀ f ∈ s.regularFields, ∀ w, entries.field? f.name.label = some w →
        Conforms catalogs ⟨some s, s.catalog.or catalog⟩ f.type w)
      (known : s.strict = true → ∀ key ∈ entries.keys, ∃ f ∈ s.regularFields, key.str? = some f.name.label) :
      Accepted catalogs s catalog v

end

/-- Schemas that references lead to from a schema, at any depth, each with the catalog around it. -/
inductive Reaches (catalogs : Catalogs) (s : Schema) : Schema → Option CatalogId → Prop where
  | self : Reaches catalogs s s none
  | next {t u : Schema} {catalog : Option CatalogId} {r : Name × Option Target} (reached : Reaches catalogs s t catalog)
      (member : r ∈ t.references)
      (resolved : Scope.lookup? catalogs ⟨some t, t.catalog.or catalog⟩ r.1 r.2 = some (.schema u)) :
      Reaches catalogs s u (t.catalog.or catalog)

/-- What the references of a schema carry are schemas. -/
def Schema.CarriesSchemas (s : Schema) : Prop :=
  ∀ name target, (name, some target) ∈ s.references → ∃ t, target = .schema t

theorem lookup?_schema {catalogs : Catalogs} {s : Schema} {catalog : Option CatalogId} (carries : s.CarriesSchemas)
    {r : Name × Option Target} (member : r ∈ s.references) {found : Target}
    (resolved : Scope.lookup? catalogs ⟨some s, catalog⟩ r.1 r.2 = some found) : ∃ t, found = .schema t := by
  obtain ⟨name, target⟩ := r
  cases target with
  | some target =>
    cases resolved
    exact carries name _ member
  | none =>
    simp only [Scope.lookup?, Option.none_or] at resolved
    obtain ⟨t, -, same⟩ := Option.map_eq_some_iff.mp resolved
    exact ⟨t, same.symm⟩

end RecordSchema
