import RecordSchema.Text.Printable

/-! Quoted text and quoted bytes. Single quotes are used unless the content holds a single quote
and no double quote; the quote in use, the backslash and everything unprintable is escaped. -/

namespace RecordSchema.Text

/-- At least `width` hexadecimal digits in lower case. -/
def hexDigits (width n : Nat) : List Char :=
  let digits := Nat.toDigits 16 n
  List.replicate (width - digits.length) '0' ++ digits

/-- The quote that encloses the content. -/
def quoteFor (content : List Char) : Char :=
  if content.contains '\'' && !content.contains '"' then '"' else '\''

/-- The escape of the characters that have one at every width. -/
def shortEscape? (quote c : Char) : Option (List Char) :=
  if c = quote ∨ c = '\\' then some ['\\', c]
  else if c = '\t' then some ['\\', 't']
  else if c = '\n' then some ['\\', 'n']
  else if c = '\r' then some ['\\', 'r']
  else none

def escapeChar (quote c : Char) : List Char :=
  match shortEscape? quote c with
  | some escaped => escaped
  | none =>
    if isPrintable c.toNat then [c]
    else if c.toNat < 0x100 then '\\' :: 'x' :: hexDigits 2 c.toNat
    else if c.toNat < 0x10000 then '\\' :: 'u' :: hexDigits 4 c.toNat
    else '\\' :: 'U' :: hexDigits 8 c.toNat

def escapeByte (quote c : Char) : List Char :=
  match shortEscape? quote c with
  | some escaped => escaped
  | none => if 0x20 ≤ c.toNat ∧ c.toNat < 0x7F then [c] else '\\' :: 'x' :: hexDigits 2 c.toNat

/-- Text between quotes. -/
def quote (text : String) : String :=
  let content := text.toList
  let mark := quoteFor content
  String.ofList (mark :: content.flatMap (escapeChar mark) ++ [mark])

/-- Bytes between quotes, after the letter b. -/
def quoteBytes (bytes : List UInt8) : String :=
  let content := bytes.map fun byte => Char.ofNat byte.toNat
  let mark := quoteFor content
  String.ofList ('b' :: mark :: content.flatMap (escapeByte mark) ++ [mark])

end RecordSchema.Text
