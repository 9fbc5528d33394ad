import RecordSchema.Expr
import RecordSchema.Host.Numeral
import RecordSchema.Value.Access
import RecordSchema.Value.Extent

/-! Host types as functions on data: what comes of making a value of the type. -/

namespace RecordSchema

namespace Host

def refusal (text : String) : Reply := .raising "TypeError" text

/-- A text that begins with a value. A value that cannot be written is an error of its own. -/
def showing (v : Value) (text : String) : String :=
  if v.hasText then v.literal ++ text else Value.tooLongText

/-- Bytes of the items of a sequence; the first item that is none decides. -/
def bytesOfItems (answer : String) : List Value → Reply
  | [] => .ofClass answer
  | v :: rest =>
    match v.integer? with
    | none => refusal (Text.quote v.fullClassName ++ " object cannot be interpreted as an integer")
    | some n =>
      if 0 ≤ n ∧ n < 256 then bytesOfItems answer rest
      else .raising "ValueError" "bytes must be in range(0, 256)"

/-- More bytes than any memory holds. -/
def memoryBound : Int := 1099511627776

/-- So many bytes, unless they are too many for a length or for memory. The header of an object
takes 33 of them. -/
def bytesOfCount (n : Int) : Reply :=
  if n < 0 then .raising "ValueError" "negative count"
  else if !Word.holds (n + 33) then .raising "OverflowError" "byte string is too large"
  else if memoryBound ≤ n then .raising "MemoryError" ""
  else .ofClass "bytes"

def constructBytes (v : Value) : Reply :=
  match v, v.integer?, v.elements? with
  | .str _, _, _ | .member _, _, _ => refusal "string argument without an encoding"
  | _, some n, _ =>
    if !Word.holds n then
      .raising "OverflowError"
        ("cannot fit " ++ Text.quote v.className ++ " into an index-sized integer")
    else bytesOfCount n
  | _, none, some items => bytesOfItems "bytes" items
  | v, none, none => refusal ("cannot convert " ++ Text.quote v.fullClassName ++ " object to bytes")

/-- An integer by its digits, of which there can be too many. -/
def intOfText (v : Value) (text : List Char) : Reply :=
  match Numeral.integerDigits? text with
  | none =>
    .raising "ValueError" ("invalid literal for int() with base 10: " ++
      String.ofList (v.literal.toList.take 200))
  | some digits =>
    if digits ≤ 4300 then .ofClass "int"
    else .raising "ValueError" ("Exceeds the limit (4300 digits) for integer string conversion: " ++
      "value has " ++ toString digits ++
      " digits; use sys.set_int_max_str_digits() to increase the limit")

/-- Bytes as text in ASCII. What is none is neither a digit nor white space. -/
def asciiText (content : List UInt8) : List Char :=
  content.map fun b => if b < 128 then Char.ofNat b.toNat else '?'

def constructInt (v : Value) : Reply :=
  match v, v.str? with
  | _, some text => intOfText v text.toList
  | .bytes content, none => intOfText v (asciiText content)
  | .int _, none | .bool _, none => .ofClass "int"
  | .nan _, none => .raising "ValueError" "cannot convert float NaN to integer"
  | .float x, none =>
    match x.quantity with
    | .finite _ => .ofClass "int"
    | _ => .raising "OverflowError" "cannot convert float infinity to integer"
  | v, none =>
    refusal ("int() argument must be a string, a bytes-like object or a real number, not " ++
      Text.quote v.fullClassName)

def floatOfText (v : Value) (text : List Char) : Reply :=
  if Numeral.isReal text then .ofClass "float"
  else .raising "ValueError" ("could not convert string to float: " ++ v.literal)

def constructFloat (v : Value) : Reply :=
  match v, v.str? with
  | _, some text => floatOfText v text.toList
  | .bytes content, none => floatOfText v (asciiText content)
  | .int n, none =>
    if (Binary64.ofInt? n).isSome then .ofClass "float"
    else .raising "OverflowError" "int too large to convert to float"
  | .float _, none | .nan _, none | .bool _, none => .ofClass "float"
  | v, none =>
    refusal ("float() argument must be a string or a real number, not " ++
      Text.quote v.fullClassName)

/-- What comes of making a value of the type from data. Of text and truth values one can be made of
anything. -/
def construct (t : HostType) (v : Value) : Reply :=
  match t with
  | .str | .bool => .ofClass t.className
  | .bytes => constructBytes v
  | .int => constructInt v
  | .float => constructFloat v
  | .none => refusal "NoneType takes no arguments"
  | .any => refusal "Any cannot be instantiated"
  | .object => refusal "object() takes no arguments"

end Host
end RecordSchema
