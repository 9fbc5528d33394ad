import RecordSchema.Fault
import RecordSchema.Number.Word
import RecordSchema.Value.Literal

/-! What can be written and read: integers with too many digits have no text, nor has what holds
them; bytes are read as text if they encode some. -/

namespace RecordSchema

namespace Value

/-- The first natural number with more digits than are written. -/
def longestText : Nat := Nat.pow 10 4300

def tooLongText : String :=
  "Exceeds the limit (4300 digits) for integer string conversion; use " ++
    "sys.set_int_max_str_digits() to increase the limit"

/-- Whether a number has no more digits than are written. -/
def isWritten (n : Int) : Bool := n.natAbs < longestText

/-- Whether a value can be written as far as it is not what it holds. -/
def hasOwnText : Value → Bool
  | .int n => isWritten n
  | .violation v => v.path.all fun
    | .index n => isWritten n
    | .name _ => true
  | _ => true

/-- Whether a value can be written: none of its integers has too many digits. -/
def hasText (v : Value) : Bool := v.all hasOwnText

/-- The text of a value that has one. -/
def writtenText (v : Value) : Except Fault String :=
  if v.hasText then .ok v.text else .error .badValue

/-- The text of a value as it stands inside of other values, if it has one. -/
def writtenLiteral (v : Value) : Except Fault String :=
  if v.hasText then .ok v.literal else .error .badValue

/-- Whether a key can be a step: integers stand as they are, and everything else as text. -/
def hasStep : Value → Bool
  | .int _ => true
  | key => key.hasText

/-- A key that is no step ends an operation. -/
def requireStep (key : Value) : Except Fault Unit :=
  if key.hasStep then .ok () else .error .badValue

/-- A key in a report on it. -/
def refusedText (key : Value) : String :=
  if key.hasText then key.literal else "<unprintable " ++ key.className ++ " object>"

/-- The step to a key that is refused. Integers that fit no machine word stand as text. -/
def refusedStep (key : Value) : Step :=
  match key.str?, key.integer? with
  | some s, _ => .name s
  | none, some n => if Word.holds n then .index n else .name key.refusedText
  | none, none => .name key.refusedText

/-- The text that a value holds, or what is wrong with it where text is expected. -/
def readText (v : Value) : Except CauseKind String :=
  match v.decoded?, v with
  | some text, _ => .ok text
  | none, .bytes _ => .error .stringEncoding
  | none, _ => .error .stringType

end Value
end RecordSchema
