import RecordSchema.Expr

/-! Things that look like schemas: attributes of any names with a name, fields and derived hooks
among them. References can carry them; they are read as schemas, and what they lack is a fault only
where it is needed. -/

namespace RecordSchema.Lookalike

/-- The attributes of a thing. -/
abbrev Attributes := List (String × Expr)

/-- An attribute that is needed. -/
def part (attributes : Attributes) (name : String) : Except Fault Expr :=
  match attributes.lookup name with
  | some e => .ok e
  | none => .error .missingPart

def isOn (attributes : Attributes) (name : String) : Except Fault Bool :=
  return (← part attributes name).isTrue

def listed (attributes : Attributes) (name : String) : Except Fault (List Expr) := do
  match (← part attributes name).elements? with
  | some items => return items
  | none => throw .wrongType

/-- Text that counts only if there is some. -/
def text (attributes : Attributes) (name : String) : Except Fault (Option String) := do
  let e ← part attributes name
  if !e.isTrue then return none
  match e.str? with
  | some s => return some s
  | none => throw .wrongType

def attributesOf : Expr → Except Fault Attributes
  | .object _ attributes => .ok attributes
  | _ => .error .missingPart

def name (attributes : Attributes) : Except Fault Name := do
  match (← part attributes "name").name? with
  | some name => return name
  | none => throw .wrongType

def type (attributes : Attributes) : Except Fault SchemaType := do
  match ← part attributes "type" with
  | .type t => return t
  | _ => throw .wrongType

def catalog (attributes : Attributes) : Except Fault (Option CatalogId) := do
  match ← part attributes "catalog" with
  | .null => return none
  | .catalog id _ => return some id
  | _ => throw .missingPart

/-- A field with what data is checked by. -/
def field (e : Expr) : Except Fault Field := do
  let attributes ← attributesOf e
  let name ← name attributes
  let type ← type attributes
  let default ← if ← isOn attributes "has_default" then
      pure (some (← part attributes "default").toValue)
    else pure none
  let required ← isOn attributes "required"
  return { name, type, required, default, description := .null, examples := [], derived := false,
           extra := [] }

/-- The name of a derived field, as far as data is concerned. -/
def derivedField (e : Expr) : Except Fault Field := do
  return { name := ← name (← attributesOf e), type := .primitive .any [], required := false,
           default := none, description := .null, examples := [], derived := true, extra := [] }

/-- A field with all that documents tell of it. -/
def documentedField (e : Expr) : Except Fault Field := do
  let attributes ← attributesOf e
  let f ← field e
  let description := (← part attributes "description").toValue
  let examples ← if ← isOn attributes "examples" then listed attributes "examples" else pure []
  let derived ← isOn attributes "derived"
  match (← part attributes "extra").toValue.entries? with
  | some extra =>
    return { f with description, examples := examples.map Expr.toValue, derived, extra }
  | none => throw .missingPart

/-- A hook with its place. -/
def placedHook (kind : HookStage) (e : Expr) : Except Fault PlacedHook := do
  let attributes ← attributesOf e
  match ← part attributes "func", (← part attributes "identity").str? with
  | .hook hook, some identity =>
    let fieldName := (attributes.lookup "field_name").bind Expr.name?
    return { identity, kind, hook, fieldName, anonymous := false }
  | _, _ => throw .wrongType

def hooks (attributes : Attributes) (name : String) (kind : HookStage) :
    Except Fault (List PlacedHook) := do
  (← listed attributes name).mapM (placedHook kind)

def faultOf {α : Type} : Except Fault α → Option Fault
  | .ok _ => none
  | .error f => some f

/-- Hooks for data. Derived fields cannot be looked up in a thing, so it can have no hooks for them.
-/
def dataHooks (attributes : Attributes) : Except Fault (List PlacedHook) := do
  let found ← hooks attributes "cross_field_hooks" .crossField
  if (← listed attributes "derived_hooks").isEmpty then return found else throw .missingPart

def gaps (attributes : Attributes) : Gaps where
  strict := faultOf (part attributes "strict")
  hooks := faultOf (dataHooks attributes)

def schema (serial : Nat) (label : String) (attributes : Attributes) (fields : List Field)
    (catalog : Option CatalogId) : Schema where
  serial := serial
  name := label
  fields := fields
  crossFieldHooks := (dataHooks attributes).toOption.getD []
  derivedHooks := []
  title := none
  description := none
  strict := (isOn attributes "strict").toOption.getD false
  container := none
  catalog := catalog

/-- What data is checked by. -/
def forData (serial : Nat) (label : String) (attributes : Attributes) : Except Fault Schema := do
  let catalog ← catalog attributes
  let regular ← (← listed attributes "regular_fields").mapM field
  let derived ← (← listed attributes "derived_fields").mapM derivedField
  return schema serial label attributes (regular ++ derived) catalog

/-- What a document is made of. -/
def forDocument (serial : Nat) (label : String) (attributes : Attributes) :
    Except Fault Schema := do
  let catalog ← catalog attributes
  let title ← text attributes "title"
  let description ← text attributes "description"
  let fields ← (← listed attributes "fields").mapM documentedField
  let derivedHooks ←
    if fields.any Field.derived then hooks attributes "derived_hooks" .derived else pure []
  return { schema serial label attributes fields catalog with title, description, derivedHooks }

/-- The name and the target of a reference to a thing, if it looks like a schema. -/
def target? (serial : Nat) (attributes : Attributes) : Option (Name × Target) :=
  match (attributes.lookup "name").bind Expr.name?, attributes.lookup "fields",
      attributes.lookup "derived_hooks" with
  | some name, some _, some _ =>
    some (name, .lookalike serial (Expr.object serial attributes).toValue
      (forData serial name.label attributes) (forDocument serial name.label attributes)
      (gaps attributes))
  | _, _, _ => none

end RecordSchema.Lookalike
