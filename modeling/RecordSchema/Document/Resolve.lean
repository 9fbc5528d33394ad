import RecordSchema.Document.Subschema
import RecordSchema.Options.Base
import RecordSchema.Options.Document

/-! Resolving: every reference of a document is replaced by the definition that it means, up to a
number of replacements within each other. A reference that is left marks where the document was
cut. -/

namespace RecordSchema

namespace Document

/-- A document in two parts: the definitions, with the first key that they stand under, and all
else. -/
structure Parts where
  key : Option String := none
  definitions : Entries := []
  root : Entries := []

namespace Parts

def add (parts : Parts) (entry : Value × Value) : Parts :=
  match isDefinitionsKey entry.1, entry.2 with
  | true, .map found =>
    { parts with
      key := parts.key.or entry.1.str?
      definitions := Entries.update parts.definitions found }
  | _, _ => { parts with root := parts.root ++ [entry] }

def ofEntries (document : Entries) : Parts := document.foldl add {}

end Parts

/-- The definition that a schema refers to, with its name. -/
def target? (definitions : Entries) (schema : Entries) : Option (String × Value) := do
  let name ← (schema.field? "$ref").bind Pointer.nameOf?
  let body ← definitions.field? name
  return (name, body)

/-- A schema as a map. -/
def asEntries : Value → Entries
  | .map entries => entries
  | v => [(.str "allOf", .list [v])]

/-- Puts the keywords beside a reference on top of its target, except those that `dropped` tells. -/
def mergeBeside (dropped : Entries → String → Bool) (target beside : Entries) : Entries :=
  beside.foldl (fun merged (key, v) =>
    if key.str?.any (dropped merged) then merged else Entries.put merged key v) target

end Document

namespace ResolutionOptions

/-- Whether the target's own keyword wins. -/
def isDropped (options : ResolutionOptions) (merged : Entries) : String → Bool
  | "$ref" => true
  | "title" => !options.preserveTitles && merged.hasField "title"
  | "description" => !options.preserveDescriptions && merged.hasField "description"
  | _ => false

end ResolutionOptions

namespace Document

/-- Replaces a reference in a schema, whose other keywords are done already. -/
def expand (options : ResolutionOptions) (definitions : Entries) (inside : Value → Value)
    (schema : Entries) : Entries :=
  match target? definitions schema with
  | none => schema
  | some (_, body) => mergeBeside options.isDropped (asEntries (inside body)) schema

/-- Replaces references, as many within each other as `depth` says. Nothing is copied. -/
def resolveTo (options : ResolutionOptions) (definitions : Entries) : Nat → Value → Value
  | 0, schema => schema
  | depth + 1, schema =>
    rebuild (m := Id) true (expand options definitions (resolveTo options definitions depth)) schema

/-- The document with its references resolved; its definitions are left out. -/
def resolveEntries (options : ResolutionOptions) (document : Entries) : Value :=
  let parts := Parts.ofEntries document
  resolveTo options parts.definitions options.maxDepth (.map parts.root)

/-- Puts keywords beside a reference on top of its target as it is done without copies, where titles
and descriptions are copied. -/
def mergeCopied (dropped : Entries → String → Bool) (target beside : Entries) :
    Except Fault Entries :=
  beside.foldlM (fun merged (key, v) => do
    if key.str?.any (dropped merged) then return merged
    if key.str?.any ["title", "description"].contains then return Entries.put merged key (← v.copy)
    return Entries.put merged key v) target

/-- Goes through a schema with something else in the place of references to definitions. What is no
schema but stands in the place of one is copied; data under other keywords is handed on as it is. -/
def exchange (definitions : Entries)
    (found : Value → Entries → Except Fault Entries → Except Fault Value) :
    Value → Except Fault Value :=
  visit Value.copy fun schema rebuilt =>
    match target? definitions schema with
    | none => .map <$> rebuilt
    | some (_, body) => found body schema rebuilt

/-- Replaces references as `resolveTo` does, with copies of the schemas whose reference is left. -/
def resolveCopied (options : ResolutionOptions) (definitions : Entries) :
    Nat → Value → Except Fault Value
  | 0 => exchange definitions fun _ schema _ => (Value.map schema).copy
  | depth + 1 => exchange definitions fun body _ rebuilt => do
    let target ← resolveCopied options definitions depth body
    return .map (← mergeCopied options.isDropped (asEntries target) (← rebuilt))

def resolve (options : ResolutionOptions) (document : Value) : Except Fault Value := do
  let parts := Parts.ofEntries (← entriesOf document)
  resolveCopied options parts.definitions options.maxDepth (.map parts.root)

/-- Resolves a document. Without options no reference to a definition can be handled. -/
def resolveWith (options : Option ResolutionOptions) (document : Value) : Except Fault Value :=
  match options with
  | some options => resolve options document
  | none => do
    let parts := Parts.ofEntries (← entriesOf document)
    exchange parts.definitions (fun _ _ _ => throw .missingPart) (.map parts.root)

end Document
end RecordSchema
