import RecordSchema.Options.Settings

/-! Options of a schema as a whole. -/

namespace RecordSchema

structure SchemaOptions where
  name : String := "Schema"
  title : Option String := none
  description : Option String := none
  strict : Bool := false
  materialize : Bool := false
  crossFieldHooks : List Expr := []
  derivedFields : List Expr := []
  catalog : Option CatalogId := none
  hookNamespace : Expr := .null

namespace SchemaOptions

def declared : List String :=
  ["name", "title", "description", "strict", "materialize", "cross_field_hooks", "derived_fields",
   "catalog", "hook_namespace"]

/-- The options with those given in place of their own. -/
def override (base : SchemaOptions) (given : Options.Given) : Except (List Cause) SchemaOptions :=
  let (name, c₁) := Options.read given "name" Options.nonEmptyText base.name
  let (title, c₂) := Options.read given "title" (Options.optional Options.text) base.title
  let (description, c₃) :=
    Options.read given "description" (Options.optional Options.text) base.description
  let (strict, c₄) := Options.read given "strict" Options.flag base.strict
  let (materialize, c₅) := Options.read given "materialize" Options.flag base.materialize
  let (crossFieldHooks, c₆) :=
    Options.read given "cross_field_hooks" Options.list base.crossFieldHooks
  let (derivedFields, c₇) := Options.read given "derived_fields" Options.list base.derivedFields
  let (catalog, c₈) :=
    Options.read given "catalog" (Options.optional Options.catalog) base.catalog
  let (hookNamespace, _) := Options.read given "hook_namespace" Options.any base.hookNamespace
  Options.settle
    { name, title, description, strict, materialize, crossFieldHooks, derivedFields, catalog,
      hookNamespace }
    (c₁ ++ c₂ ++ c₃ ++ c₄ ++ c₅ ++ c₆ ++ c₇ ++ c₈ ++ Options.unknown declared given)

/-- Named sets of options. -/
def preset? : String → Option SchemaOptions
  | "strict" => some { strict := true }
  | "lenient" => some {}
  | "api" => some { strict := true, materialize := true }
  | "llm_output" => some { strict := true }
  | _ => none

/-- The options that a preset tells. -/
def toldBy : String → List String
  | "api" | "llm_output" => ["strict", "materialize"]
  | _ => ["strict"]

def presetNames : List String := ["api", "lenient", "llm_output", "strict"]

/-- The report of a name that is no preset. -/
def unknownPresetMessage (name : String) : String :=
  "Unknown preset '" ++ name ++ "'. Expected one of: " ++
    (Value.list (presetNames.map .str)).literal ++ "."

def ofSettings (settings : Settings) : SchemaOptions :=
  { strict := settings.strictDefault, materialize := settings.materializeDefault }

def toValue (o : SchemaOptions) (told : List String) : Value :=
  Options.toValue "BuildOptions" told
    [("name", .str o.name), ("title", Options.ofText o.title),
     ("description", Options.ofText o.description), ("strict", .bool o.strict),
     ("materialize", .bool o.materialize),
     ("cross_field_hooks", (Expr.list o.crossFieldHooks).toValue),
     ("derived_fields", (Expr.list o.derivedFields).toValue),
     ("catalog", Options.ofCatalog o.catalog), ("hook_namespace", o.hookNamespace.toValue)]

end SchemaOptions
end RecordSchema
