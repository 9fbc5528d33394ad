import RecordSchema.Fault
import RecordSchema.Value.Basic

/-! Plain data: where a record or a violation stands, a map of its parts. Keys are made plain as
well, and must still be keys then. -/

namespace RecordSchema

namespace Value

/-- A set of plain items. Maps cannot be items of a set. -/
def plainSet (items : List Value) : Except Fault Value :=
  if items.all isHashable then .ok (.set items) else .error .wrongType

/-- A key that is still one. -/
def plainKey (key : Value) : Except Fault Value :=
  if key.isHashable then .ok key else .error .wrongType

mutual

/-- The value with maps in place of records and violations; options that were not set are left out.
Attributes of any names and compiled patterns stay as they are, and data that holds itself is
refused. -/
def plain : Value → Except Fault Value
  | .list items => do return .list (← plains items)
  | .tuple items => do return .tuple (← plains items)
  | .set items => do plainSet (← plains items)
  | .map entries => do return .map (← plainEntries entries)
  | .record .attributes parts => return .record .attributes parts
  | .record .compiled parts => return .record .compiled parts
  | .record kind parts => do return .map (← plainParts kind parts)
  | .violation v => return .map (v.parts.map fun (name, part) => (.str name, part))
  | .ring _ _ | .back _ => throw .badValue
  | v => return v

def plains : List Value → Except Fault (List Value)
  | [] => return []
  | v :: rest => do return (← plain v) :: (← plains rest)

def plainEntries : List (Value × Value) → Except Fault (List (Value × Value))
  | [] => return []
  | (k, v) :: rest => do
    let key ← plainKey (← plain k)
    return (key, ← plain v) :: (← plainEntries rest)

def plainParts (kind : RecordKind) :
    List (String × Value) → Except Fault (List (Value × Value))
  | [] => return []
  | (name, v) :: rest => do
    if kind.isSet name then return (.str name, ← plain v) :: (← plainParts kind rest)
    else plainParts kind rest

end

end Value

end RecordSchema
