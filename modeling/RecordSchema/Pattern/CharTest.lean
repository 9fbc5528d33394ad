import RecordSchema.Pattern.Basic
import RecordSchema.Text.Blank
import RecordSchema.Text.LetterCase
import RecordSchema.Text.Word

/-! Which characters the parts of a pattern match. Where case is ignored, a character is brought to
lower case and then compared with what the part holds in lower case; a set without a character of
two cases is compared as it is. Main definitions: `CharSet.holds` and `Flags.charTest?`. -/

namespace RecordSchema.Pattern

/-- Which differences of case are ignored. -/
inductive CaseRule where
  | exact | ascii | unicode
  deriving DecidableEq

namespace CaseRule

def lower : CaseRule → Nat → Nat
  | .exact, code => code
  | .ascii, code => Text.asciiLowerCode code
  | .unicode, code => Text.lowerCode code

/-- Whether a character has another case. -/
def isCased : CaseRule → Nat → Bool
  | .exact, _ => false
  | .ascii, code => Text.isAsciiLetter code
  | .unicode, code => Text.isCased code

/-- Whether a character from `first` to `last` has another case. -/
def meetsCased : CaseRule → Nat → Nat → Bool
  | .exact, _, _ => false
  | .ascii, first, last => first ≤ 0x5A && 0x41 ≤ last || first ≤ 0x7A && 0x61 ≤ last
  | .unicode, first, last => Text.meetsCased first last

/-- The characters in lower case that agree with one in lower case. -/
def classOf : CaseRule → Nat → List Nat
  | .unicode, lower => Text.caseClass lower
  | _, lower => [lower]

/-- The characters whose lower case agrees with one in lower case. -/
def variants : CaseRule → Nat → List Nat
  | .exact, lower => [lower]
  | .ascii, lower => if 0x61 ≤ lower ∧ lower ≤ 0x7A then [lower, lower - 32] else [lower]
  | .unicode, lower => Text.caseVariants lower

end CaseRule

def Flags.caseRule (flags : Flags) : CaseRule :=
  if !flags.contains .ignoreCase then .exact
  else if flags.contains .ascii then .ascii
  else .unicode

/-- The last character of the basic plane. Case is ignored among these characters only; a single
one behind them stands for itself. -/
def lastBasic : Nat := 0xFFFF

/-- A character set as it is tested. If it is folded, it is tested in lower case. -/
structure CharSet where
  negated : Bool
  members : List Member
  ascii : Bool
  rule : CaseRule
  folded : Bool

namespace CharSet

def within (first last code : Nat) : Bool := first ≤ code && code ≤ last

/-- Whether a range holds a character in lower case. A range that leaves the basic plane also holds
what it holds in upper case. -/
def rangeHolds (s : CharSet) (first last code : Nat) : Bool :=
  if s.folded then
    (s.rule.variants code).any (within first (min last lastBasic)) ||
      lastBasic < last && (within first last code || within first last (Text.upperCode code))
  else within first last code

def memberHolds (s : CharSet) (code : Nat) : Member → Bool
  | .code c =>
    if s.folded && c ≤ lastBasic then (s.rule.classOf (s.rule.lower c)).contains code
    else code == c
  | .range first last => s.rangeHolds first last code
  | .digit negated => (if s.ascii then Text.isAsciiDigit code else Text.isDigit code) != negated
  | .word negated => (if s.ascii then Text.isAsciiWord code else Text.isWord code) != negated
  | .blank negated =>
    let isBlank :=
      if s.ascii then [32, 9, 10, 11, 12, 13].contains code else Text.blankBlocks.contains code
    isBlank != negated

def holds (s : CharSet) (code : Nat) : Bool :=
  let code := if s.folded then s.rule.lower code else code
  s.members.any (s.memberHolds code) != s.negated

end CharSet

/-- Whether a member makes a set folded: it has a character of two cases, or one that is not in the
basic plane. -/
def Member.isFolded (rule : CaseRule) : Member → Bool
  | .code c => lastBasic < c || rule.isCased c
  | .range first last => lastBasic < last || rule.meetsCased first last
  | _ => false

/-- A set in which case counts. -/
def Flags.exactSet (flags : Flags) (negated : Bool) (members : List Member) : CharSet :=
  ⟨negated, members, flags.contains .ascii, .exact, false⟩

def Flags.charSet (flags : Flags) (negated : Bool) (members : List Member) : CharSet :=
  let rule := flags.caseRule
  ⟨negated, members, flags.contains .ascii, rule, rule != .exact && members.any (·.isFolded rule)⟩

/-- The test that a part of one character makes. -/
inductive CharTest where
  | every
  | noLineFeed
  | code (negated : Bool) (code : Nat)
  | lower (negated : Bool) (rule : CaseRule) (code : Nat)
  | set (set : CharSet)

namespace CharTest

def accepts : CharTest → Nat → Bool
  | .every, _ => true
  | .noLineFeed, c => c != 10
  | .code negated expected, c => (c == expected) != negated
  | .lower negated rule expected, c => (rule.lower c == expected) != negated
  | .set s, c => s.holds c

/-- Tests in lower case against a set are made one by one, and each settles where it ends. -/
def settles : CharTest → Bool
  | .set s => s.folded
  | _ => false

end CharTest

/-- The test for a single character. A letter that agrees with other letters in lower case is
tested as the set of them. -/
def Flags.codeTest (flags : Flags) (negated : Bool) (code : Nat) : CharTest :=
  let rule := flags.caseRule
  if !rule.isCased code then .code negated code
  else match rule.classOf (rule.lower code) with
    | [lower] => .lower negated rule lower
    | letters => .set ⟨negated, letters.map .code, flags.contains .ascii, rule, true⟩

/-- The test of an item that matches one character. -/
def Flags.charTest? (flags : Flags) : Node → Option CharTest
  | .any => some (if flags.contains .dotAll then .every else .noLineFeed)
  | .char negated code => some (flags.codeTest negated code)
  | .set negated members => some (.set (flags.charSet negated members))
  | _ => none

/-- The test of a sequence of one item that matches one character. -/
def Node.charTest? (flags : Flags) : Node → Option CharTest
  | .seq (.scope added removed body) .empty => body.charTest? (flags.adjust added removed)
  | .seq item .empty => flags.charTest? item
  | _ => none

end RecordSchema.Pattern
