import RecordSchema.Fault
import RecordSchema.Text.Occurrence
import RecordSchema.Text.LetterCase
import RecordSchema.Value.Equality
import RecordSchema.Value.Extent

/-! Access to the parts of data: by key or index, by membership, by iteration. What has no such
parts raises an exception, which is known by the name of its class and its text. -/

namespace RecordSchema

/-- An exception by the name of its class and its text, if it has one. -/
structure Raised where
  className : String
  text : Except Fault String

namespace Raised

/-- An exception with arguments: the text is that of a single one, and a missing key shows in
full. -/
def ofArguments (className : String) : List Value → Raised
  | [] => ⟨className, .ok ""⟩
  | [v] => ⟨className, if className = "KeyError" then v.writtenLiteral else v.writtenText⟩
  | vs => ⟨className, (Value.tuple vs).writtenLiteral⟩

def missingKey (key : Value) : Raised := ofArguments "KeyError" [key]

def wrongType (text : String) : Raised := ⟨"TypeError", .ok text⟩

def badIndex (text : String) : Raised := ⟨"IndexError", .ok text⟩

def badValue (text : String) : Raised := ⟨"ValueError", .ok text⟩

def missingPart (text : String) : Raised := ⟨"AttributeError", .ok text⟩

/-- The text of an object of this class that cannot do something. -/
def unable (className what : String) : Raised :=
  wrongType (Text.quote className ++ " object " ++ what)

/-- The fault that an exception amounts to where it ends an operation. -/
def fault (e : Raised) : Fault :=
  match e.className with
  | "ValueError" => .badValue
  | "AttributeError" => .missingPart
  | "KeyError" => .missingKey
  | "OverflowError" => .tooLarge
  | "TypeError" => .wrongType
  | className => .raised className

end Raised

namespace Value

/-- The name of a class with the module that it needs to be told by. -/
def fullClassName : Value → String
  | .record .attributes _ => "types.SimpleNamespace"
  | .record .compiled _ => "re.Pattern"
  | v => v.className

/-- The first part of a value that keeps it from being a key. -/
def unhashable? : Value → Option Value
  | .tuple items => firstOf items
  | .record kind parts =>
    if kind.canChange then some (.record kind parts) else firstPart kind parts
  | v => if v.isHashable then none else some v
where
  firstOf : List Value → Option Value
    | [] => none
    | v :: rest => (unhashable? v).or (firstOf rest)
  firstPart (kind : RecordKind) : List (String × Value) → Option Value
    | [] => none
    | (name, v) :: rest =>
      (if kind.hides name then none else unhashable? v).or (firstPart kind rest)

/-- A key must not be able to change. -/
def requireKey (key : Value) : Except Raised Unit :=
  match key.unhashable? with
  | none => .ok ()
  | some v => .error (.wrongType ("unhashable type: " ++ Text.quote v.fullClassName))

/-- Whether a value can be looked for among keys. Sets can, although they are no keys. -/
def requireSearchable (v : Value) : Except Raised Unit :=
  match v with
  | .set _ => .ok ()
  | v => v.requireKey

/-- The position that an index means in a sequence; negative ones count from the end. -/
def position? (length : Nat) (index : Int) : Option Nat :=
  let place := if index < 0 then index + length else index
  if 0 ≤ place ∧ place < length then some place.toNat else none

/-- The position in a sequence, or why there is none. -/
def positionOf (length : Nat) (key : Value) (outside form : String) : Except Raised Nat :=
  match key.integer? with
  | none => .error (.wrongType form)
  | some n =>
    if !Word.holds n then
      .error (.badIndex
        ("cannot fit " ++ Text.quote key.className ++ " into an index-sized integer"))
    else match position? length n with
      | none => .error (.badIndex outside)
      | some place => .ok place

/-- How an index of a sequence is refused. -/
def indexForm (sequence : String) (key : Value) : String :=
  sequence ++ " indices must be integers or slices, not " ++ key.className

def itemAt (items : List Value) (place : Nat) : Value := (items[place]?).getD .null

/-- The item of a value under a key or index. -/
def item (v key : Value) : Except Raised Value :=
  match v, v.elements?.getD [] with
  | .map entries, _ | .view entries, _ => do
    key.requireKey
    match Entries.value? entries key with
    | some found => return found
    | none => throw (.missingKey key)
  | .list _, items => do
    return itemAt items
      (← positionOf items.length key "list index out of range" (indexForm "list" key))
  | .tuple _, items => do
    return itemAt items
      (← positionOf items.length key "tuple index out of range" (indexForm "tuple" key))
  | .str _, items | .member _, items => do
    let form := "string indices must be integers, not " ++ Text.quote key.className
    return itemAt items (← positionOf items.length key "string index out of range" form)
  | .bytes _, items => do
    return itemAt items (← positionOf items.length key "index out of range" (indexForm "byte" key))
  | .hostType t, _ =>
    .error (.wrongType ("type " ++ Text.quote t.className ++ " is not subscriptable"))
  | v, _ => .error (.unable v.fullClassName "is not subscriptable")

/-- A value has no attribute of this name that could be called. -/
def lacks (v : Value) (name : String) : Raised :=
  let lacking := " has no attribute " ++ Text.quote name
  match v with
  | .hostType t => .missingPart ("type object " ++ Text.quote t.className ++ lacking)
  | .record .attributes parts =>
    match parts.lookup name with
    | some held => .unable held.fullClassName "is not callable"
    | none => .missingPart (Text.quote v.fullClassName ++ " object" ++ lacking)
  | v => .missingPart (Text.quote v.fullClassName ++ " object" ++ lacking)

/-- Whether a collection holds something under a name. Profiles go by their names in any case. -/
def holdsName (thing : Foreign) (names : List String) (name : Value) : Except Raised Bool :=
  match thing.className with
  | "SchemaCatalog" => do
    name.requireKey
    return name.str?.any names.contains
  | "ProfileRegistry" =>
    match name, name.str? with
    | _, some text => .ok (names.contains (Text.lower text))
    | .bytes _, none => .ok false
    | name, none => .error (name.lacks "lower")
  | className =>
    .error (.wrongType ("argument of type " ++ Text.quote className ++ " is not iterable"))

/-- Whether a value holds another: as key, item or part of its text. -/
def contains (v other : Value) : Except Raised Bool :=
  match v, v.elements? with
  | .map entries, _ | .view entries, _ => do
    other.requireKey
    return Entries.hasKey entries other
  | .foreign ⟨className, name, text, serial, some names⟩, _ =>
    holdsName ⟨className, name, text, serial, names⟩ names other
  | .set items, _ => do
    other.requireSearchable
    return items.any other.same
  | .str _, _ | .member _, _ =>
    match other.str? with
    | some part => return Text.occursIn part.toList ((v.str?.getD "").toList)
    | none =>
      .error (.wrongType
        ("'in <string>' requires string as left operand, not " ++ other.className))
  | .bytes content, _ =>
    match other, other.integer? with
    | .bytes part, _ => return Text.occursIn part content
    | _, some n =>
      if 0 ≤ n ∧ n < 256 then return content.any fun b => (b.toNat : Int) = n
      else .error (.badValue "byte must be in range(0, 256)")
    | _, none =>
      .error (.wrongType ("a bytes-like object is required, not " ++ Text.quote other.className))
  | _, some items => return items.any other.same
  | v, none =>
    .error (.wrongType ("argument of type " ++ Text.quote v.fullClassName ++ " is not iterable"))

/-- How a value is asked for what it holds under a key, with a fallback. -/
def asked (v : Value) : Except Raised (Value → Value → Except Raised Value) :=
  match v, v.entries? with
  | _, some entries => .ok fun key fallback => do
    key.requireKey
    return (Entries.value? entries key).getD fallback
  | .foreign thing, none =>
    if ["SchemaCatalog", "ProfileRegistry"].contains thing.className then
      .ok fun _ _ => .error (.wrongType
        (thing.className ++ ".get() takes 2 positional arguments but 3 were given"))
    else .error (v.lacks "get")
  | v, none => .error (v.lacks "get")

/-- The entries of a mapping that is put into another. -/
def mappingEntries (v : Value) : Except Raised Entries :=
  match v.entries? with
  | some entries => .ok entries
  | none => .error (.unable v.fullClassName "is not a mapping")

/-- The entries of a mapping one by one. -/
def listedEntries (v : Value) : Except Raised Entries :=
  match v.entries? with
  | some entries => .ok entries
  | none => .error (v.lacks "items")

/-- Whether a value takes an index where it refuses a key. -/
def isIndexed : Value → Bool
  | .tuple _ | .str _ | .member _ | .bytes _ | .set _ | .view _ | .violation _ => true
  | .record kind _ => kind ≠ .attributes && kind ≠ .compiled
  | .foreign thing => thing.className ≠ "function" && thing.className ≠ "type"
  | .hostType t => t.kindName ≠ "type"
  | _ => false

/-- Why an item of a value cannot be changed; the index is looked at before. -/
def refuseChange (v key : Value) (what whatIndexed : String) : Raised :=
  match v.isIndexed, key.integer? with
  | true, some n =>
    if Word.holds n then .unable v.fullClassName whatIndexed
    else .badIndex ("cannot fit " ++ Text.quote key.className ++ " into an index-sized integer")
  | _, _ => .unable v.fullClassName what

/-- The value with an item changed in place. -/
def withItem (v key new : Value) : Except Raised Value :=
  match v with
  | .map entries => do
    key.requireKey
    return .map (Entries.put entries key new)
  | .list items => do
    let place ←
      positionOf items.length key "list assignment index out of range" (indexForm "list" key)
    return .list (items.set place new)
  | v =>
    let what := "does not support item assignment"
    .error (v.refuseChange key what what)

/-- The value with an item deleted in place. -/
def withoutItem (v key : Value) : Except Raised Value :=
  match v with
  | .map entries => do
    key.requireKey
    if Entries.hasKey entries key then return .map (Entries.eraseKey entries key)
    else throw (.missingKey key)
  | .list items => do
    let place ←
      positionOf items.length key "list assignment index out of range" (indexForm "list" key)
    return .list (items.eraseIdx place)
  | v =>
    .error (v.refuseChange key "does not support item deletion" "doesn't support item deletion")

/-- What iteration over a value yields. -/
def iterate (v : Value) : Except Raised (List Value) :=
  match v.elements? with
  | some items => .ok items
  | none => .error (.unable v.fullClassName "is not iterable")

/-- The number of items of a value. Named parts are not counted. -/
def count (v : Value) : Except Raised Nat :=
  match v, v.elements? with
  | .foreign ⟨_, _, _, _, some names⟩, _ => .ok names.length
  | .violation _, _ | .record _ _, _ | _, none =>
    .error (.wrongType ("object of type " ++ Text.quote v.fullClassName ++ " has no len()"))
  | _, some items => .ok items.length

/-- Pairs one after another; positions count from zero. -/
def pairs (place : Nat) : List Value → Except Raised (List (Value × Value))
  | [] => .ok []
  | v :: rest =>
    match v.elements? with
    | none =>
      .error (.wrongType ("cannot convert dictionary update sequence element #" ++ toString place ++
        " to a sequence"))
    | some [key, item] => do
      key.requireKey
      return (key, item) :: (← pairs (place + 1) rest)
    | some items =>
      .error (.badValue ("dictionary update sequence element #" ++ toString place ++
        " has length " ++ toString items.length ++ "; 2 is required"))

/-- A map of its own with the entries of a mapping, or of pairs. -/
def toEntries (v : Value) : Except Raised Entries :=
  match v.entries? with
  | some entries => .ok entries
  | none => do return Entries.ofPairs (← pairs 0 (← v.iterate))

end Value
end RecordSchema
