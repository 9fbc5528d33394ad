import RecordSchema.Fault
import RecordSchema.Text.Blank

/-! Integers as text, the way options are read. Plain digits are read at once; other spellings are
cleaned first: white space around them, a plus sign, zeros in front of the digits, a fraction of
zeros, and low lines between digits. -/

namespace RecordSchema.Options

/-- White space around a number. The information separators do not count. -/
def isPadding (c : Char) : Bool := Text.isBlank c && !(0x1C ≤ c.toNat && c.toNat ≤ 0x1F)

def trimPadding (text : List Char) : List Char :=
  ((text.dropWhile isPadding).reverse.dropWhile isPadding).reverse

/-- How many characters a number can have, its sign included. -/
def longestInteger : Nat := 4300

/-- A minus sign or none, and digits without leading zeros. -/
def plainInteger (text : List Char) : Except CauseKind Int :=
  let (negative, body) := match text with
    | '-' :: rest => (true, rest)
    | rest => (false, rest)
  let digits := body.takeWhile Char.isDigit
  match body with
  | ['0'] => .ok 0
  | '0' :: _ => .error .intParsing
  | _ =>
    if digits.isEmpty then .error .intParsing
    else if digits.length + (if negative then 1 else 0) > longestInteger then
      .error .intParsingSize
    else if digits.length < body.length then .error .intParsing
    else
      let n : Int := digits.foldl (fun n c => 10 * n + (c.toNat - 48)) (0 : Nat)
      .ok (if negative then -n else n)

/-- Drops a plus sign, unless a minus sign follows. -/
def dropPlus : List Char → Option (List Char)
  | '+' :: '-' :: _ => none
  | '+' :: rest => some rest
  | text => some text

/-- Drops zeros and low lines in front of a number that starts with a zero. A zero before the point
stays, and of nothing else than zeros and low lines the last stays. -/
def dropZeros : List Char → Option (List Char)
  | '0' :: rest => go '0' rest
  | c :: rest => if c.isDigit || c = '-' then some (c :: rest) else none
  | [] => none
where
  go (last : Char) : List Char → Option (List Char)
    | [] => some [last]
    | c :: rest =>
      if c = '0' || c = '_' then go c rest
      else if c.isDigit || c = '-' then some (c :: rest)
      else if c = '.' then some (last :: c :: rest)
      else none

/-- Drops a fraction that has no other digits than zeros, and has at least one. -/
def dropFraction (text : List Char) : List Char :=
  let whole := text.takeWhile (· ≠ '.')
  match text.drop whole.length with
  | _ :: zero :: zeros => if (zero :: zeros).all (· = '0') then whole else text
  | _ => text

/-- Drops low lines, if each stands between other characters. -/
def dropLowLines (text : List Char) : List Char :=
  let rec apart : Bool → List Char → Bool
    | last, [] => !last
    | last, c :: rest => !(last && c = '_') && apart (c = '_') rest
  if apart true text then text.filter (· ≠ '_') else text

/-- Cleans what follows the sign of a number. -/
def cleanDigits (text : List Char) : Option (List Char) :=
  (dropZeros text).map fun text => dropLowLines (dropFraction text)

def cleanInteger (text : List Char) : Option (List Char) := do
  match ← dropPlus text with
  | '-' :: digits => return '-' :: (← cleanDigits digits)
  | digits => cleanDigits digits

/-- The integer that a text spells. -/
def integerOfText (text : String) : Except CauseKind Int :=
  let text := trimPadding text.toList
  match plainInteger text, cleanInteger text with
  | .error .intParsing, some cleaned => plainInteger cleaned
  | result, _ => result

end RecordSchema.Options
