/-! Names of Hangul syllables: the names of the letters that a syllable is made of. -/

namespace RecordSchema.Text.Hangul

/-- Letters before the vowel, in the order of their codes. One has no sound and so no name. -/
def leads : List String :=
  ["G", "GG", "N", "D", "DD", "R", "M", "B", "BB", "S", "SS", "", "J", "JJ", "C", "K", "T", "P",
   "H"]

def vowels : List String :=
  ["A", "AE", "YA", "YAE", "EO", "E", "YEO", "YE", "O", "WA", "WAE", "OE", "YO", "U", "WEO", "WE",
   "WI", "YU", "EU", "YI", "I"]

/-- Letters after the vowel; there need be none. -/
def tails : List String :=
  ["", "G", "GG", "GS", "N", "NJ", "NH", "D", "L", "LG", "LM", "LB", "LS", "LT", "LP", "LH", "M",
   "B", "BS", "S", "SS", "NG", "J", "C", "K", "T", "P", "H"]

/-- The longest of some letters that a text starts with, by its place among them, and what follows
it. -/
def longest? (letters : List String) (text : List Char) : Option (Nat × List Char) :=
  go 0 none letters
where
  go (index : Nat) (best : Option (Nat × List Char)) :
      List String → Option (Nat × List Char)
    | [] => best
    | letter :: letters =>
      let rest := text.drop letter.length
      let better := letter.toList.isPrefixOf text && best.all fun (_, r) => rest.length < r.length
      go (index + 1) (if better then some (index, rest) else best) letters

/-- The code of the syllable with a name. -/
def code? (name : List Char) : Option Nat := do
  let (lead, name) ← longest? leads name
  let (vowel, name) ← longest? vowels name
  let (tail, name) ← longest? tails name
  if name.isEmpty then
    return 0xAC00 + (lead * vowels.length + vowel) * tails.length + tail
  else none

end RecordSchema.Text.Hangul
