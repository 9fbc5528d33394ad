import RecordSchema.SchemaType

/-! Catalogs: schemas by name. A reference that carries no schema is looked up when it is needed,
so schemas can refer to each other in cycles. -/

namespace RecordSchema

/-- Schemas by name, each name once. Under a name there can also be nothing. -/
structure Catalog where
  entries : List (String × Option Schema) := []

inductive CatalogError where
  | taken (name : String)
  | absent (name : String)
  deriving DecidableEq, Repr

def CatalogError.message : CatalogError → String
  | .taken name =>
    "Schema " ++ name ++ " is already registered. Unregister the existing schema first."
  | .absent name => "Schema " ++ name ++ " is not registered."

/-- Texts in the order of their code points. -/
def sortTexts (texts : List String) : List String := texts.mergeSort fun a b => !(b < a)

namespace Catalog

def get? (c : Catalog) (name : String) : Option Schema := (c.entries.lookup name).join

def contains (c : Catalog) (name : String) : Bool := (c.entries.lookup name).isSome

/-- The name under which a schema is registered: its own unless another is given. -/
def keyFor? (s : Option Schema) : Option String → Option String
  | none | some "" => s.map Schema.name
  | some name => some name

/-- Registers a schema. Without a schema a name must be given. -/
def register (c : Catalog) (s : Option Schema) (name : Option String) :
    Except (Failing CatalogError) Catalog :=
  match keyFor? s name with
  | none => .error (.fault .missingPart)
  | some key =>
    if c.contains key then .error (.reason (.taken key)) else .ok ⟨c.entries ++ [(key, s)]⟩

def unregister (c : Catalog) (name : String) : Except CatalogError Catalog :=
  if c.contains name then .ok ⟨c.entries.filter (·.1 ≠ name)⟩ else .error (.absent name)

def names (c : Catalog) : List String := sortTexts (c.entries.map Prod.fst)

/-- What is registered, in the order of the names. -/
def schemas (c : Catalog) : List (Option Schema) :=
  c.names.map c.get?

end Catalog

/-- What each catalog holds at the moment; a catalog that is not listed holds nothing. -/
structure Catalogs where
  listed : List (CatalogId × Catalog) := []

def Catalogs.get (catalogs : Catalogs) (id : CatalogId) : Catalog :=
  (catalogs.listed.lookup id).getD {}

/-- Where a reference is looked up. -/
structure Scope where
  owner : Option Schema
  catalog : Option CatalogId

namespace Scope

def inCatalog? (catalogs : Catalogs) (catalog : Option CatalogId) (name : String) : Option Schema :=
  catalog.bind fun id => (catalogs.get id).get? name

/-- The schema that a reference without a target means: the owner under its own name, or what the
owner's catalog or else the scope's catalog holds. -/
def named? (catalogs : Catalogs) (scope : Scope) (name : String) : Option Schema :=
  match scope.owner with
  | none => inCatalog? catalogs scope.catalog name
  | some owner =>
    if owner.name = name then some owner
    else (inCatalog? catalogs owner.catalog name).or (inCatalog? catalogs scope.catalog name)

/-- What a reference means: its target, or else what goes by its name. -/
def lookup? (catalogs : Catalogs) (scope : Scope) (name : Name) (target : Option Target) :
    Option Target :=
  target.or ((named? catalogs scope name.label).map .schema)

end Scope
end RecordSchema
