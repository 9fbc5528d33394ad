import RecordSchema.Options.Settings

/-! Options for making documents and for putting definitions in place of references. -/

namespace RecordSchema

/-- Options for generating a document. Where `strict` is given it replaces that of every schema. -/
structure DocumentOptions where
  includeDerived : Bool := true
  definitionsKey : String := "definitions"
  strict : Option Bool := none
  catalog : Option CatalogId := none

namespace DocumentOptions

def declared : List String := ["include_derived", "definitions_key", "strict", "catalog"]

/-- The options with those given in place of their own. -/
def override (base : DocumentOptions) (given : Options.Given) :
    Except (List Cause) DocumentOptions :=
  let (includeDerived, c₁) :=
    Options.read given "include_derived" Options.flag base.includeDerived
  let (definitionsKey, c₂) :=
    Options.read given "definitions_key" Options.definitionsKey base.definitionsKey
  let (strict, c₃) := Options.read given "strict" (Options.optional Options.flag) base.strict
  let (catalog, c₄) :=
    Options.read given "catalog" (Options.optional Options.catalog) base.catalog
  Options.settle { includeDerived, definitionsKey, strict, catalog }
    (c₁ ++ c₂ ++ c₃ ++ c₄ ++ Options.unknown declared given)

def ofSettings (settings : Settings) : DocumentOptions :=
  { definitionsKey := settings.definitionsKey }

def toValue (o : DocumentOptions) (told : List String) : Value :=
  Options.toValue "GenerateOptions" told
    [("include_derived", .bool o.includeDerived),
     ("definitions_key", Options.ofDefinitionsKey o.definitionsKey),
     ("strict", (o.strict.map Value.bool).getD .null), ("catalog", Options.ofCatalog o.catalog)]

end DocumentOptions

/-- Options for resolving references. A title or description beside a reference replaces that of
its target where it is preserved. -/
structure ResolutionOptions where
  maxDepth : Nat := 10
  preserveTitles : Bool := true
  preserveDescriptions : Bool := true
  deriving DecidableEq, Repr

namespace ResolutionOptions

def declared : List String := ["max_depth", "preserve_titles", "preserve_descriptions"]

/-- The options with those given in place of their own. -/
def override (base : ResolutionOptions) (given : Options.Given) :
    Except (List Cause) ResolutionOptions :=
  let (maxDepth, c₁) := Options.read given "max_depth" Options.natural base.maxDepth
  let (preserveTitles, c₂) :=
    Options.read given "preserve_titles" Options.flag base.preserveTitles
  let (preserveDescriptions, c₃) :=
    Options.read given "preserve_descriptions" Options.flag base.preserveDescriptions
  Options.settle { maxDepth, preserveTitles, preserveDescriptions }
    (c₁ ++ c₂ ++ c₃ ++ Options.unknown declared given)

def ofSettings (settings : Settings) : ResolutionOptions := { maxDepth := settings.resolveMaxDepth }

def toValue (o : ResolutionOptions) (told : List String) : Value :=
  Options.toValue "ResolveOptions" told
    [("max_depth", .int o.maxDepth), ("preserve_titles", .bool o.preserveTitles),
     ("preserve_descriptions", .bool o.preserveDescriptions)]

end ResolutionOptions

/-- Options for flattening: whether references to definitions of objects are kept. -/
structure FlatteningOptions where
  preserveComplexReferences : Bool := false
  deriving DecidableEq, Repr

namespace FlatteningOptions

def declared : List String := ["preserve_complex_refs"]

/-- The options with those given in place of their own. -/
def override (base : FlatteningOptions) (given : Options.Given) :
    Except (List Cause) FlatteningOptions :=
  let (preserve, causes) :=
    Options.read given "preserve_complex_refs" Options.flag base.preserveComplexReferences
  Options.settle ⟨preserve⟩ (causes ++ Options.unknown declared given)

def toValue (o : FlatteningOptions) (told : List String) : Value :=
  Options.toValue "FlattenOptions" told
    [("preserve_complex_refs", .bool o.preserveComplexReferences)]

end FlatteningOptions
end RecordSchema
