import RecordSchema.Text.Blank
import RecordSchema.Text.Word

/-! Numerals: texts that denote integers or real numbers. White space around them does not count,
digits of all scripts serve, and low lines can stand between digits. -/

namespace RecordSchema.Numeral

/-- White space in ASCII. The information separators are none. -/
def isSpace (c : Char) : Bool := c = ' ' || (0x09 ≤ c.toNat && c.toNat ≤ 0x0D)

/-- A character in ASCII, as far as it matters to numerals. -/
def asciiChar (c : Char) : Char :=
  if c.toNat < 127 then c
  else if Text.isBlank c then ' '
  else match Text.digitValue? c.toNat with
    | some d => Char.ofNat (0x30 + d)
    | none => '?'

/-- A text in ASCII, without the white space around it. -/
def bare (text : List Char) : List Char :=
  let ascii := if text.all (·.toNat < 128) then text else text.map asciiChar
  ((ascii.dropWhile isSpace).reverse.dropWhile isSpace).reverse

/-- Drops low lines, which must stand between digits. -/
def dropLowLines (text : List Char) : Option (List Char) :=
  if apart false text then some (text.filter (· ≠ '_')) else none
where
  apart (afterDigit : Bool) : List Char → Bool
    | [] => true
    | '_' :: c :: rest => afterDigit && c.isDigit && apart true rest
    | ['_'] => false
    | c :: rest => apart c.isDigit rest

def dropSign : List Char → List Char
  | '+' :: rest | '-' :: rest => rest
  | text => text

/-- How many digits an integer has that a text denotes. -/
def integerDigits? (text : List Char) : Option Nat := do
  let digits := dropSign (← dropLowLines (bare text))
  if !digits.isEmpty && digits.all Char.isDigit then some digits.length else none

/-- A mark, a sign or none, and digits; or nothing at all. -/
def isExponent : List Char → Bool
  | [] => true
  | mark :: rest =>
    let digits := dropSign rest
    (mark = 'e' || mark = 'E') && !digits.isEmpty && digits.all Char.isDigit

/-- Digits with a point or none, of which one is there at least, and an exponent. -/
def isDecimal (text : List Char) : Bool :=
  let whole := text.takeWhile Char.isDigit
  match text.drop whole.length with
  | '.' :: rest =>
    let fraction := rest.takeWhile Char.isDigit
    !(whole.isEmpty && fraction.isEmpty) && isExponent (rest.drop fraction.length)
  | rest => !whole.isEmpty && isExponent rest

/-- Whether a text denotes a real number, an infinity or no number. -/
def isReal (text : List Char) : Bool :=
  match dropLowLines (bare text) with
  | none => false
  | some text =>
    let text := dropSign text
    isDecimal text || ["inf", "infinity", "nan"].contains (String.ofList (text.map Char.toLower))

end RecordSchema.Numeral
