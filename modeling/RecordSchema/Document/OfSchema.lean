import RecordSchema.Document.Draft
import RecordSchema.Document.Subschema
import RecordSchema.Normal.Type
import RecordSchema.Options.Document

/-! Documents from types and schemas. A reference becomes a pointer to a definition; definitions are
written until every schema that is referred to has one. -/

namespace RecordSchema

def Primitive.keyword? : Primitive → Option String
  | .string => some "string"
  | .integer => some "integer"
  | .float => some "number"
  | .boolean => some "boolean"
  | .null => some "null"
  | .any => none

namespace Document

/-- A keyword and what stands under it. -/
def entry (keyword : String) (v : Value) : Value × Value := (.str keyword, v)

/-- Adds the keywords of constraints. -/
def addKeywords (schema : Entries) (constraints : List Constraint) : Drafting Entries := do
  match Constraint.keywords constraints with
  | .ok keywords => return Entries.update schema keywords
  | .error f => throw (.fault f)

/-- What a scalar type says. -/
def ofPrimitive (kind : Primitive) (constraints : List Constraint) : Drafting Entries :=
  addKeywords (kind.keyword?.toList.map fun name => entry "type" (.str name)) constraints

/-- Constrained names of entries; names that are any text need no keyword. -/
def propertyNames : SchemaType → Drafting Entries
  | .primitive .string (c :: rest) => do
    return [entry "propertyNames" (.map (← ofPrimitive .string (c :: rest)))]
  | _ => return []

mutual

/-- The schema of a type. -/
def ofType (catalogs : Catalogs) (scope : Scope) : SchemaType → Drafting Entries
  | .primitive kind constraints => ofPrimitive kind constraints
  | .array element constraints => do
    let element ← ofType catalogs scope element
    addKeywords [entry "type" (.str "array"), entry "items" (.map element)] constraints
  | .map key value constraints => do
    let value ← ofType catalogs scope value
    let names ← propertyNames key
    addKeywords
      ([entry "type" (.str "object"), entry "additionalProperties" (.map value)] ++ names)
      constraints
  | .union variants _ => do
    return [entry "anyOf" (.list (← ofVariants catalogs scope variants))]
  | .ref name target => do
    match scope.lookup? catalogs name target with
    | none => throw (.reason (.unresolved name.shown))
    | some found => return [entry "$ref" (.str (← Draft.refer (some name) (some found)))]

def ofVariants (catalogs : Catalogs) (scope : Scope) : List SchemaType → Drafting (List Value)
  | [] => return []
  | t :: rest => do
    let schema ← ofType catalogs scope t
    return .map schema :: (← ofVariants catalogs scope rest)

end

/-- How a derived field is computed. -/
def derivation (placed : PlacedHook) : Value :=
  .map [entry "hook" (.str placed.identity), entry "name" (.str placed.hook.functionName),
    entry "module" ((placed.hook.moduleName.map Value.str).getD .null)]

/-- The value, which the document will own. -/
def owned (v : Value) : Drafting Value :=
  match v.copy with
  | .ok v => return v
  | .error f => throw (.fault f)

/-- Puts further keywords on top of those of a field. -/
def withExtra (schema : Entries) : Entries → Drafting Entries
  | [] => return schema
  | (key, v) :: rest => do withExtra (Entries.put schema key (← owned v)) rest

/-- The schema of a field. -/
def ofField (catalogs : Catalogs) (scope : Scope) (s : Schema) (f : Field) :
    Drafting Entries := do
  let schema ← ofType catalogs scope f.type
  let schema := if f.description.isTrue then schema.setField "description" f.description else schema
  let schema ← match f.default with
    | none => pure schema
    | some v => do pure (schema.setField "default" (← owned v))
  let schema := if f.examples.isEmpty then schema else schema.setField "examples" (.list f.examples)
  let schema :=
    if f.derived then
      let hook := s.derivedHooks.find? fun h => h.fieldName.map Name.label = some f.name.label
      let told := match hook with
        | none => .map []
        | some placed => derivation placed
      (schema.setField "readOnly" (.bool true)).setField "x-derived-field" told
    else schema
  withExtra schema f.extra

/-- The properties of fields. -/
def properties (catalogs : Catalogs) (scope : Scope) (s : Schema) : List Field → Drafting Entries
  | [] => return []
  | f :: rest => do
    let schema ← ofField catalogs scope s f
    return (f.name.toValue, .map schema) :: (← properties catalogs scope s rest)

/-- A keyword for text that is not empty. -/
def textEntry (keyword : String) : Option String → Entries
  | none | some "" => []
  | some text => [entry keyword (.str text)]

/-- The schema of a whole schema. Its own catalog replaces that of the options. -/
def ofSchema (catalogs : Catalogs) (options : DocumentOptions) (s : Schema) :
    Drafting Entries := do
  let scope : Scope := ⟨some s, s.catalog.or options.catalog⟩
  let fields := s.fields.filter fun f => options.includeDerived || !f.derived
  let properties ← properties catalogs scope s fields
  let required := (fields.filter fun f => f.required && !f.derived).map fun f => f.name.toValue
  let closed :=
    if options.strict.getD s.strict then [entry "additionalProperties" (.bool false)] else []
  return [entry "type" (.str "object")] ++ textEntry "title" s.title ++
    textEntry "description" s.description ++
    [entry "properties" (.map properties), entry "required" (.list required)] ++ closed

mutual

/-- The names in all references of a type, also in the schemas that they carry. -/
def namesInType : SchemaType → List String
  | .primitive _ _ => []
  | .array element _ => namesInType element
  | .map key value _ => namesInType key ++ namesInType value
  | .union variants _ => namesInTypes variants
  | .ref name target => name.label :: namesInTarget target

def namesInTypes : List SchemaType → List String
  | [] => []
  | t :: rest => namesInType t ++ namesInTypes rest

def namesInTarget : Option Target → List String
  | some (.schema s) | some (.lookalike _ _ _ (.ok s) _) => namesInSchema s
  | _ => []

/-- The names in all references of a schema. -/
def namesInSchema : Schema → List String
  | { fields, .. } => namesInFields fields

def namesInFields : List Field → List String
  | [] => []
  | { type, .. } :: rest => namesInType type ++ namesInFields rest

end

/-- All names that can come to be referred to. -/
def namesWithin (catalogs : Catalogs) (draft : Draft) : List String :=
  draft.targets.map (fun (name, _) => (labelOf name).getD "") ++
    draft.targets.flatMap (fun (_, t) => namesInTarget t) ++
    catalogs.listed.flatMap fun (_, catalog) =>
      catalog.entries.flatMap fun (_, s) => (s.map namesInSchema).getD []

/-- Writes definitions, at most as many as `limit` says. -/
def writeUpTo (catalogs : Catalogs) (options : DocumentOptions) : Nat → Drafting Unit
  | 0 => return ()
  | limit + 1 => do
    match (← get).missing with
    | [] => return ()
    | (name, target) :: _ =>
      let label := labelOf name
      modify fun draft => draft.begin label
      let definition ← match target with
        | none => throw (.fault .missingPart)
        | some (.lookalike _ _ _ (.error fault) _) => throw (.fault fault)
        | some (.lookalike _ _ _ (.ok s) gaps) => do
          let definition ← ofSchema catalogs options s
          if options.strict.isNone then
            if let some fault := gaps.strict then throw (.fault fault)
          pure definition
        | some (.schema s) => ofSchema catalogs options s
      modify fun draft => draft.write label (.map definition)
      writeUpTo catalogs options limit

/-- Writes definitions until none is missing. -/
def writeAll (catalogs : Catalogs) (options : DocumentOptions) : Drafting Unit := do
  writeUpTo catalogs options (namesWithin catalogs (← get)).length

/-- Completes a document by its definitions, if there are any. -/
def complete (catalogs : Catalogs) (options : DocumentOptions) (key : String)
    (making : Drafting Entries) : Except (Failing DocumentError) Entries :=
  let whole : Drafting Entries := do
    let document ← making
    writeAll catalogs options
    let definitions := (← get).definitions
    return if definitions.isEmpty then document else document.setField key (.map definitions)
  (whole.run { definitionsKey := key }).1

/-- The document of a schema. -/
def generate (catalogs : Catalogs) (options : DocumentOptions) (s : Schema) :
    Except (Failing DocumentError) Entries :=
  complete catalogs options options.definitionsKey (ofSchema catalogs options s)

/-- The document of a type. -/
def generateType (catalogs : Catalogs) (catalog : Option CatalogId) (key : String)
    (t : SchemaType) : Except (Failing DocumentError) Entries :=
  complete catalogs { definitionsKey := key, catalog } key (ofType catalogs ⟨none, catalog⟩ t)

end Document
end RecordSchema
