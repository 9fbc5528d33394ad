import RecordSchema.Document.Recursion
import RecordSchema.Document.Resolve

/-! Flattening: definitions take the place of references wherever that comes to an end, and
combinators with one member give way to it. Definitions that are still referred to are kept. -/

namespace RecordSchema.Document

/-- Puts the member of a combinator in its place if it is the only one; keywords beside it win. -/
def collapse (schema : Entries) (keyword : String) : Entries :=
  match schema.field? keyword with
  | some (.list [.map member]) => Entries.update member (schema.dropField keyword)
  | _ => schema

def collapseAll (schema : Entries) : Entries := ["anyOf", "oneOf", "allOf"].foldl collapse schema

/-- Whether a definition describes an object. -/
def isObject : Value → Bool
  | .map entries => (Entries.field? entries "type").bind Value.str? = some "object"
  | _ => false

/-- The definitions whose references are kept. -/
def keptNames (options : FlatteningOptions) (definitions : Entries) : List String :=
  recursive definitions ++ definitions.filterMap fun (key, body) =>
    if options.preserveComplexReferences && isObject body then key.str? else none

/-- Simplifies one schema, in which a reference gives way to its definition unless it is kept. -/
def inline (definitions : Entries) (kept : List String) (inside : Value → Except Fault Value)
    (schema : Entries) : Except Fault Entries := do
  match target? definitions schema with
  | none => return collapseAll schema
  | some (name, body) =>
    if kept.contains name then return collapseAll schema
    let target := asEntries (← inside body)
    return collapseAll (mergeBeside (fun _ keyword => keyword = "$ref") target schema)

/-- Simplifies a schema, with definitions put into each other at most `depth` deep. -/
def inlineTo (definitions : Entries) (kept : List String) : Nat → Value → Except Fault Value
  | 0, schema => rebuild true (inline definitions kept fun _ => .error .endless) schema
  | depth + 1, schema =>
    rebuild true (inline definitions kept (inlineTo definitions kept depth)) schema

/-- Simplifies a schema. Definitions deeper within each other than there are definitions would
never end. -/
def inlineAll (definitions : Entries) (kept : List String) (schema : Value) :
    Except Fault Value :=
  inlineTo definitions kept definitions.length schema

/-- Simplifies the definitions that are referred to, and those that they refer to, in the order in
which references to them are met. At most `limit` are added to those done. -/
def collect (simplify : Value → Except Fault Value) (definitions : Entries) (limit : Nat)
    (done : Entries) (pending : List String) : Except Fault Entries :=
  match pending with
  | [] => .ok done
  | name :: pending =>
    match definitions.field? name with
    | none => collect simplify definitions limit done pending
    | some body =>
      if done.hasField name then collect simplify definitions limit done pending
      else
        match limit with
        | 0 => .ok done
        | limit + 1 => do
          let body ← simplify body
          collect simplify definitions limit (done ++ [(.str name, body)])
            (pending ++ references body)
  termination_by (limit, pending.length)

/-- Flattens a document in its parts, by what simplifies a schema. -/
def flattenParts (simplify : Value → Except Fault Value) (parts : Parts) : Except Fault Value := do
  let root ← simplify (.map parts.root)
  let definitions ← collect simplify parts.definitions parts.definitions.length [] (references root)
  match parts.key, root with
  | some key, .map entries =>
    if definitions.isEmpty then return root
    else return .map (Entries.setField entries key (.map definitions))
  | _, _ => return root

/-- The document flattened, where nothing is copied. -/
def flattenEntries (options : FlatteningOptions) (document : Entries) : Except Fault Value :=
  let parts := Parts.ofEntries document
  flattenParts (inlineAll parts.definitions (keptNames options parts.definitions)) parts

/-- Simplifies a schema as `inlineAll` does, with copies of what is no schema but stands in the place
of one. Whether a reference is kept is looked at first, and its definition before what is beside it. -/
def inlineCopied (definitions : Entries) (isKept : String → Except Fault Bool)
    (inside : Value → Except Fault Value) : Value → Except Fault Value :=
  visit Value.copy fun schema rebuilt =>
    match target? definitions schema with
    | none => return .map (collapseAll (← rebuilt))
    | some (name, body) => do
      if ← isKept name then return .map (collapseAll (← rebuilt))
      let target := asEntries (← inside body)
      return .map (collapseAll (mergeBeside (fun _ keyword => keyword = "$ref") target (← rebuilt)))

def inlineCopiedTo (definitions : Entries) (isKept : String → Except Fault Bool) :
    Nat → Value → Except Fault Value
  | 0 => inlineCopied definitions isKept fun _ => .error .endless
  | depth + 1 => inlineCopied definitions isKept (inlineCopiedTo definitions isKept depth)

/-- Flattens a document. Without options no reference can be decided on but one to a recursive
definition, which is kept. -/
def flattenWith (options : Option FlatteningOptions) (document : Value) : Except Fault Value := do
  let parts := Parts.ofEntries (← entriesOf document)
  let isKept (name : String) : Except Fault Bool :=
    match options with
    | some options => return (keptNames options parts.definitions).contains name
    | none => if (recursive parts.definitions).contains name then return true else throw .missingPart
  flattenParts (inlineCopiedTo parts.definitions isKept parts.definitions.length) parts

def flatten (options : FlatteningOptions) (document : Value) : Except Fault Value :=
  flattenWith (some options) document

end RecordSchema.Document
