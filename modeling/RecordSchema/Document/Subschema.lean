import RecordSchema.Document.Pointer
import RecordSchema.Value.Copy
import RecordSchema.Value.Equality

/-! Walks over schema documents. Only keywords that hold schemas are followed; what stands under
other keywords is data, where nothing counts as a reference. -/

namespace RecordSchema

/-- How schemas stand under a keyword. -/
inductive KeywordShape where
  /-- One schema, or a list of them. -/
  | single
  /-- A list of schemas. -/
  | many
  /-- Schemas by name. -/
  | named
  deriving DecidableEq, Repr

namespace KeywordShape

def ofKeyword? : String → Option KeywordShape
  | "items" | "additionalProperties" | "not" | "propertyNames" | "if" | "then" | "else"
  | "contains" | "additionalItems" => some .single
  | "anyOf" | "oneOf" | "allOf" | "prefixItems" => some .many
  | "properties" | "patternProperties" | "definitions" | "$defs" | "dependentSchemas" => some .named
  | _ => none

/-- The shape under a key of a document; keys that are not text are no keywords. -/
def ofKey? (key : Value) : Option KeywordShape := key.str?.bind ofKeyword?

end KeywordShape

namespace Document

mutual

/-- The names of definitions that a schema refers to, in order. -/
def references : Value → List String
  | .map entries =>
    ((Entries.field? entries "$ref").bind Pointer.nameOf?).toList ++ referencesOfEntries entries
  | _ => []

def referencesOfEntries : List (Value × Value) → List String
  | [] => []
  | (key, v) :: rest =>
    (match KeywordShape.ofKey? key, v with
      | some .single, .list items | some .many, .list items => referencesOfItems items
      | some .single, v => references v
      | some .named, .map entries => referencesOfNamed entries
      | _, _ => []) ++ referencesOfEntries rest

def referencesOfItems : List Value → List String
  | [] => []
  | v :: rest => references v ++ referencesOfItems rest

def referencesOfNamed : List (Value × Value) → List String
  | [] => []
  | (_, v) :: rest => references v ++ referencesOfNamed rest

end

/-- Whether definitions stand under a key. -/
def isDefinitionsKey (key : Value) : Bool :=
  key.str?.any fun name => Pointer.definitionsKeys.contains name

/-- The definitions of a document under one key. -/
def definitionsUnder (document : Entries) (key : String) : Option Entries :=
  (document.field? key).bind Value.ownEntries?

/-- The definitions of a document and the first key that has any. Of two with one name the later
key's counts. -/
def definitions (document : Entries) : Option String × Entries :=
  let keys := Pointer.definitionsKeys.filter fun key => (definitionsUnder document key).isSome
  let found := keys.filterMap (definitionsUnder document)
  (keys.head?, found.foldl Entries.update [])

variable {m : Type → Type} [Monad m]

/-- Changes the values of entries one after another. -/
def mapValues (change : Value → m Value) : List (Value × Value) → m (List (Value × Value))
  | [] => return []
  | (key, v) :: rest => do
    let v ← change v
    return (key, v) :: (← mapValues change rest)

/-- Changes the schemas directly under the keywords of a schema. -/
def changeDirect (change : Value → m Value) (skipDefinitions : Bool) :
    List (Value × Value) → m (List (Value × Value))
  | [] => return []
  | (key, v) :: rest => do
    let v ← match KeywordShape.ofKey? key, v with
      | some .single, .list items | some .many, .list items => .list <$> items.mapM change
      | some .single, v => change v
      | some .named, .map entries =>
        if skipDefinitions && isDefinitionsKey key then pure v
        else .map <$> mapValues change entries
      | _, v => pure v
    return (key, v) :: (← changeDirect change skipDefinitions rest)

mutual

/-- Changes every schema, the innermost first. A list where a schema should stand is left alone,
or walked through if `lists` is set. -/
def rebuild (lists : Bool) (change : Entries → m Entries) : Value → m Value
  | .map entries => do return .map (← change (← rebuildEntries lists change entries))
  | .list items => if lists then .list <$> rebuildItems lists change items else return .list items
  | v => return v

def rebuildEntries (lists : Bool) (change : Entries → m Entries) :
    List (Value × Value) → m (List (Value × Value))
  | [] => return []
  | (key, v) :: rest => do
    let v ← match KeywordShape.ofKey? key, v with
      | some .single, .list items | some .many, .list items =>
        .list <$> rebuildItems lists change items
      | some .single, v => rebuild lists change v
      | some .named, .map entries => .map <$> rebuildNamed lists change entries
      | _, v => pure v
    return (key, v) :: (← rebuildEntries lists change rest)

def rebuildItems (lists : Bool) (change : Entries → m Entries) : List Value → m (List Value)
  | [] => return []
  | v :: rest => do
    let v ← rebuild lists change v
    return v :: (← rebuildItems lists change rest)

def rebuildNamed (lists : Bool) (change : Entries → m Entries) :
    List (Value × Value) → m (List (Value × Value))
  | [] => return []
  | (key, v) :: rest => do
    let v ← rebuild lists change v
    return (key, v) :: (← rebuildNamed lists change rest)

end

mutual

/-- Goes through the schemas of a value. A schema object is given to `node`, with the computation
that goes through the schemas under its keywords; lists are gone through, and `leaf` is given what
else stands in the place of a schema. -/
def visit (leaf : Value → m Value) (node : Entries → m Entries → m Value) : Value → m Value
  | .map entries => node entries (visitEntries leaf node entries)
  | .list items => .list <$> visitItems leaf node items
  | v => leaf v

def visitEntries (leaf : Value → m Value) (node : Entries → m Entries → m Value) :
    List (Value × Value) → m (List (Value × Value))
  | [] => return []
  | (key, v) :: rest => do
    let v ← match KeywordShape.ofKey? key, v with
      | some .single, .list items | some .many, .list items => .list <$> visitItems leaf node items
      | some .single, v => visit leaf node v
      | some .named, .map entries => .map <$> visitNamed leaf node entries
      | _, v => pure v
    return (key, v) :: (← visitEntries leaf node rest)

def visitItems (leaf : Value → m Value) (node : Entries → m Entries → m Value) :
    List Value → m (List Value)
  | [] => return []
  | v :: rest => do
    let v ← visit leaf node v
    return v :: (← visitItems leaf node rest)

def visitNamed (leaf : Value → m Value) (node : Entries → m Entries → m Value) :
    List (Value × Value) → m (List (Value × Value))
  | [] => return []
  | (key, v) :: rest => do
    let v ← visit leaf node v
    return (key, v) :: (← visitNamed leaf node rest)

end

/-- Changes every schema object of a document, the innermost first. -/
def changeAll (change : Entries → m Entries) (document : Value) : m Value :=
  rebuild false change document

/-- The entries of a document, which must be a map. -/
def entriesOf (document : Value) : Except Fault Entries :=
  match document.entries? with
  | some entries => .ok entries
  | none => .error .missingPart

end Document

end RecordSchema
