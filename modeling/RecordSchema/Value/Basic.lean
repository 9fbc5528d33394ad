import RecordSchema.HostType
import RecordSchema.Number.Binary64
import RecordSchema.Violation

/-! Data: scalars, lists, tuples, sets and maps with values of every kind as keys. A map keeps its
entries in the order of their first insertion. -/

namespace RecordSchema

/-- A member of an enumeration of texts. It counts as its label, but it shows where it is from. -/
structure Member where
  enumeration : String
  symbol : String
  label : String
  deriving DecidableEq, Repr

namespace Member

def text (m : Member) : String := m.enumeration ++ "." ++ m.symbol

/-- The member as it stands inside of other data. -/
def literal (m : Member) : String := "<" ++ m.text ++ ": " ++ Text.quote m.label ++ ">"

end Member

/-- What tells things apart that look the same: the number under which one was given, or the number
that one got when it was made. -/
inductive Mark where
  | given (n : Nat)
  | made (n : Nat)
  deriving DecidableEq, Repr

/-- A thing from outside the data, known by the name of its class, by a name of its own if it has
one, by its text, and by a number that tells things of equal text apart. A collection `holds` names.
-/
structure Foreign where
  className : String
  name : String
  text : String
  serial : Nat
  holds : Option (List String) := none
  deriving DecidableEq, Repr

/-- What a record declares: a type, a constraint, a type with constraints by keywords, a derived
field, attributes of any names, options under the name of their class, a compiled pattern, or a
schema, its fields and its hooks. Of options it is known which ones were left to their defaults. A
schema is known by its number and its text. -/
inductive RecordKind where
  | primitive
  | array
  | map
  | union
  | reference
  | constraint
  | constrained
  | derivedField
  | attributes
  | options (className : String) (unset : List String)
  | compiled
  | schema (serial : Nat) (text : String)
  | field
  | placedHook
  deriving DecidableEq, Repr

namespace RecordKind

def className : RecordKind → String
  | .primitive => "Primitive"
  | .array => "Array"
  | .map => "MapType"
  | .union => "Union"
  | .reference => "SchemaRef"
  | .constraint => "Constraint"
  | .constrained => "TypeSpec"
  | .derivedField => "DerivedFieldDef"
  | .attributes => "SimpleNamespace"
  | .options className _ => className
  | .compiled => "Pattern"
  | .schema _ _ => "FieldRegistry"
  | .field => "FieldDescriptor"
  | .placedHook => "HookSpec"

/-- A part that neither shows nor counts: the schema that a reference carries, and whatever a schema
declares. -/
def hides : RecordKind → String → Bool
  | .reference, name => name = "target"
  | .schema _ _, _ => true
  | _, _ => false

/-- Whether records of two kinds can be equal. It does not matter how options were set. -/
def agrees : RecordKind → RecordKind → Bool
  | .options className _, .options other _ => className == other
  | kind, other => kind == other

/-- The parts that were set. -/
def isSet : RecordKind → String → Bool
  | .options _ unset, name => !unset.contains name
  | _, _ => true

/-- Whether the parts can be changed later: attributes of any names, and settings. -/
def canChange : RecordKind → Bool
  | .attributes => true
  | .options className _ => className = "Settings"
  | _ => false

end RecordKind

/-- Data. A view is a map that cannot be written to; it counts as a mapping, but not as a map
where a type is expected. A number that is none equals nothing, and is told from others by its mark.
A map or list that holds itself is a `ring`: `back` to its label stands for the ring as a whole. -/
inductive Value where
  | null
  | bool (b : Bool)
  | int (n : Int)
  | float (x : Binary64)
  | nan (mark : Mark)
  | str (s : String)
  | member (m : Member)
  | bytes (content : List UInt8)
  | list (items : List Value)
  | tuple (items : List Value)
  | set (items : List Value)
  | map (entries : List (Value × Value))
  | view (entries : List (Value × Value))
  | record (kind : RecordKind) (parts : List (String × Value))
  | violation (v : Violation)
  | hostType (type : HostType)
  | foreign (thing : Foreign)
  | ring (label : Nat) (body : Value)
  | back (label : Nat)

instance : Inhabited Value := ⟨.null⟩

/-- The entries of a map, in order. -/
abbrev Entries := List (Value × Value)

/-- A name: text, or a member of an enumeration, which counts as its label. -/
inductive Name where
  | text (s : String)
  | member (m : Member)
  deriving DecidableEq, Repr

namespace Name

instance : Coe String Name := ⟨.text⟩

/-- What names are told apart by. -/
def label : Name → String
  | .text s => s
  | .member m => m.label

/-- The name in messages. -/
def shown : Name → String
  | .text s => s
  | .member m => m.text

def toValue : Name → Value
  | .text s => .str s
  | .member m => .member m

end Name

/-- The kind of a violation as a member of its enumeration. -/
def ViolationKind.member (kind : ViolationKind) : Member :=
  ⟨"ErrorKind", kind.label.toUpper, kind.label⟩

def Step.toValue : Step → Value
  | .name text => .str text
  | .index n => .int n

def Violation.parts (v : Violation) : List (String × Value) :=
  [("path", .list (v.path.map Step.toValue)), ("kind", .member v.kind.member),
   ("message", .str v.message), ("constraint", (v.constraint.map Value.str).getD .null),
   ("hook", (v.hook.map Value.str).getD .null)]

namespace Foreign

/-- Whether two things are one. What a collection holds does not count. -/
def isSame (a b : Foreign) : Bool :=
  a.serial == b.serial && a.className == b.className && a.name == b.name && a.text == b.text

end Foreign

namespace Value

mutual

/-- Whether a condition holds of a value and of all that it holds and shows. -/
def all (holds : Value → Bool) (v : Value) : Bool :=
  holds v && match v with
    | .list items | .tuple items | .set items => allItems holds items
    | .map entries | .view entries => allEntries holds entries
    | .record kind parts => allParts holds kind parts
    | .ring _ body => all holds body
    | _ => true

def allItems (holds : Value → Bool) : List Value → Bool
  | [] => true
  | v :: rest => all holds v && allItems holds rest

def allEntries (holds : Value → Bool) : List (Value × Value) → Bool
  | [] => true
  | (k, v) :: rest => all holds k && all holds v && allEntries holds rest

def allParts (holds : Value → Bool) (kind : RecordKind) : List (String × Value) → Bool
  | [] => true
  | (name, v) :: rest => (kind.hides name || all holds v) && allParts holds kind rest

end

def entries? : Value → Option Entries
  | .map entries | .view entries => some entries
  | _ => none

/-- The entries of a map proper. -/
def ownEntries? : Value → Option Entries
  | .map entries => some entries
  | _ => none

def list? : Value → Option (List Value)
  | .list items => some items
  | _ => none

/-- Text, and the label of a member. -/
def str? : Value → Option String
  | .str s => some s
  | .member m => some m.label
  | _ => none

theorem str?_toValue (name : Name) : name.toValue.str? = some name.label := by
  cases name <;> rfl

def name? : Value → Option Name
  | .str s => some (.text s)
  | .member m => some (.member m)
  | _ => none

/-- Items of a list or tuple. -/
def sequence? : Value → Option (List Value)
  | .list items | .tuple items => some items
  | _ => none

/-- Named parts as tuples. -/
def tuplesOf (parts : List (String × Value)) : List Value :=
  parts.map fun (name, v) => .tuple [.str name, v]

/-- What iteration over a value yields: items, keys, characters, byte values or named parts. -/
def elements? : Value → Option (List Value)
  | .list items | .tuple items | .set items => some items
  | .map entries | .view entries => some (entries.map Prod.fst)
  | .str s => some (s.toList.map fun c => .str c.toString)
  | .member m => some (m.label.toList.map fun c => .str c.toString)
  | .bytes content => some (content.map fun b => .int b.toNat)
  | .violation v => some (tuplesOf v.parts)
  | .record (.options _ _) parts => some (tuplesOf parts)
  | _ => none

/-- Lists and maps can change, so neither they nor what holds them can be a key. -/
def isHashable : Value → Bool
  | .list _ | .set _ | .map _ | .view _ | .ring _ _ | .back _ | .violation _ => false
  | .tuple items => allHashable items
  | .record kind parts => !kind.canChange && partsHashable kind parts
  | _ => true
where
  allHashable : List Value → Bool
    | [] => true
    | v :: rest => v.isHashable && allHashable rest
  partsHashable (kind : RecordKind) : List (String × Value) → Bool
    | [] => true
    | (name, v) :: rest => (kind.hides name || v.isHashable) && partsHashable kind rest

/-- Booleans count as the numbers 0 and 1. -/
def quantity? : Value → Option Quantity
  | .bool b => some (.ofInt (if b then 1 else 0))
  | .int n => some (.ofInt n)
  | .float x => some x.quantity
  | .nan _ => some .nan
  | _ => none

/-- Numbers proper. -/
def number? : Value → Option Quantity
  | .int n => some (.ofInt n)
  | .float x => some x.quantity
  | .nan _ => some .nan
  | _ => none

/-- The integer that a value stands for where one is needed: itself, or 0 and 1 for booleans. -/
def integer? : Value → Option Int
  | .int n => some n
  | .bool b => some (if b then 1 else 0)
  | _ => none

/-- Zero, the empty and null are false. -/
def isTrue : Value → Bool
  | .null => false
  | .bool b => b
  | .int n => n != 0
  | .float x => !x.isZero
  | .str s => !s.isEmpty
  | .member m => !m.label.isEmpty
  | .bytes content => !content.isEmpty
  | .list items | .tuple items | .set items => !items.isEmpty
  | .map entries | .view entries => !entries.isEmpty
  | .foreign thing => thing.holds.all (!·.isEmpty)
  | .ring _ body => body.isTrue
  | .nan _ | .record _ _ | .violation _ | .hostType _ | .back _ => true

/-- The name of the class of a value. -/
def className : Value → String
  | .null => "NoneType"
  | .bool _ => "bool"
  | .int _ => "int"
  | .float _ | .nan _ => "float"
  | .str _ => "str"
  | .member m => m.enumeration
  | .bytes _ => "bytes"
  | .list _ => "list"
  | .tuple _ => "tuple"
  | .set _ => "set"
  | .map _ | .back _ => "dict"
  | .view _ => "mappingproxy"
  | .record kind _ => kind.className
  | .violation _ => "ValidationError"
  | .hostType t => t.kindName
  | .foreign thing => thing.className
  | .ring _ body => body.className

/-- What a value is called in the vocabulary of schemas. -/
def typeName : Value → String
  | .null => "null"
  | .bool _ => "boolean"
  | .int _ => "integer"
  | .float _ | .nan _ => "float"
  | .str _ | .member _ => "string"
  | .list _ | .tuple _ => "array"
  | .map _ | .view _ | .back _ => "object"
  | .ring _ body => body.typeName
  | v => v.className

end Value
end RecordSchema
