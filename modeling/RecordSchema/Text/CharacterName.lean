import RecordSchema.Text.Blocks
import RecordSchema.Text.CharacterName.Aliases
import RecordSchema.Text.CharacterName.Ancient
import RecordSchema.Text.CharacterName.EastAsia
import RecordSchema.Text.CharacterName.Pictures
import RecordSchema.Text.CharacterName.Scripts
import RecordSchema.Text.CharacterName.Symbols
import RecordSchema.Text.Hangul

/-! Names of characters in Unicode 14. A line of a table holds the code of a character in base
sixteen and the names of it and of those after it. A small letter before a name stands for words of
the name before: `a` for the first, `b` for the first two, and so on. Main definition: `code?`. -/

namespace RecordSchema.Text.CharacterName

def hexDigit? (c : Char) : Option Nat :=
  if c.isDigit then some (c.toNat - 48)
  else if 'A' ≤ c && c ≤ 'F' then some (c.toNat - 55)
  else none

/-- The number with some digits in base sixteen. -/
def hexNumber? (digits : List Char) : Option Nat := do
  return (← digits.mapM hexDigit?).foldl (16 * · + ·) 0

/-- How many words a name takes from the name before, and its other words. -/
def unpack (entry : String) : Nat × List String :=
  match entry.toList with
  | c :: rest =>
    if c.isLower then (c.toNat - 96, (String.ofList rest).splitOn " ") else (0, entry.splitOn " ")
  | [] => (0, [])

/-- How many words two names share from the start. -/
def sharedWords : List String → List String → Nat
  | a :: as, b :: bs => if a = b then sharedWords as bs + 1 else 0
  | _, _ => 0

/-- The place of a name among the names of a line. The name before shares `shared` words with it, so
an entry that takes more words than that is another name, and shares as many. -/
def place? (name : List String) (index shared : Nat) : List String → Option Nat
  | [] => none
  | entry :: rest =>
    let (taken, words) := unpack entry
    if shared < taken then place? name (index + 1) shared rest
    else
      let more := sharedWords (name.drop taken) words
      if more = words.length ∧ taken + more = name.length then some index
      else place? name (index + 1) (taken + more) rest

/-- The code of a name in a line of a table. -/
def inLine? (name : List String) (line : String) : Option Nat :=
  match line.splitOn ";" with
  | first :: names => do return (← hexNumber? first.toList) + (← place? name 0 0 names)
  | [] => none

def inTable? (name : List String) (table : String) : Option Nat :=
  (table.splitOn "\n").findSome? (inLine? name)

def tables : List String := [scripts, symbols, eastAsia, ancient, pictures, aliases]

/-- Characters that are named for their codes: the words before the code, and the codes. -/
def numbered : List (String × Blocks) :=
  [("CJK COMPATIBILITY IDEOGRAPH-", #[(0xF900, 0xFA6D), (0xFA70, 0xFAD9), (0x2F800, 0x2FA1D)]),
   ("KHITAN SMALL SCRIPT CHARACTER-", #[(0x18B00, 0x18CD5)]),
   ("NUSHU CHARACTER-", #[(0x1B170, 0x1B2FB)])]

def unifiedIdeographs : Blocks :=
  #[(0x3400, 0x4DBF), (0x4E00, 0x9FFF), (0x20000, 0x2A6DF), (0x2A700, 0x2B738),
    (0x2B740, 0x2B81D), (0x2B820, 0x2CEA1), (0x2CEB0, 0x2EBE0), (0x30000, 0x3134A)]

/-- What follows the words that a name starts with. -/
def afterWords? (words : String) (name : List Char) : Option (List Char) :=
  if words.toList.isPrefixOf name then some (name.drop words.length) else none

/-- A code in blocks by its digits, of which there are four or five. -/
def codeIn? (blocks : Blocks) (digits : List Char) : Option Nat := do
  let code ← hexNumber? digits
  if (digits.length = 4 ∨ digits.length = 5) ∧ blocks.contains code then return code else none

/-- The code of a name that ends in it, without zeros in front. -/
def ofNumbered? (name : List Char) : Option Nat :=
  numbered.findSome? fun (words, blocks) => do
    let digits ← afterWords? words name
    if digits.head? = some '0' then none else codeIn? blocks digits

/-- The code of the character with a name. Case counts only in names that are made by a rule. -/
def code? (name : String) : Option Nat :=
  match afterWords? "HANGUL SYLLABLE " name.toList,
      afterWords? "CJK UNIFIED IDEOGRAPH-" name.toList with
  | some letters, _ => Hangul.code? letters
  | none, some digits => codeIn? unifiedIdeographs digits
  | none, none =>
    let name := name.toUpper
    (ofNumbered? name.toList).or (tables.findSome? (inTable? (name.splitOn " ")))

end RecordSchema.Text.CharacterName
