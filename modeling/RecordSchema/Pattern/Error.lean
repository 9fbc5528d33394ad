import RecordSchema.Pattern.Basic
import RecordSchema.Text.Quoted

/-! What can be wrong with the text of a pattern, and how it is reported. -/

namespace RecordSchema.Pattern

/-- A fault in the text of a pattern. -/
inductive Defect where
  | danglingBackslash
  | badEscape (written : String)
  | incompleteEscape (written : String)
  | octalTooLarge (written : String)
  | unknownCharacter (name : String)
  | missingBrace
  | missingName (what : String)
  | unterminatedName (terminator : Char)
  | badGroupName (name : String)
  | unknownGroupName (name : String)
  | redefinedGroup (name : String) (number previous : Nat)
  | openGroup
  | groupInSameLookBehind
  | badReference (number : Nat)
  | badGroupNumber
  | tooManyBranches
  | unterminatedSet
  | badRange (first last : String)
  | nothingToRepeat
  | multipleRepeat
  | leastAboveMost
  | unterminatedGroup
  | unterminatedComment
  | unbalancedParenthesis
  | unexpectedEnd
  | unknownExtension (written : String)
  | flagsNotAtStart
  | localeFlag
  | unicodeFlag
  | incompatibleFlags
  | unknownFlag
  | missingFlag
  | missingFlagEnd
  | missingColon
  | globalFlagOn
  | globalFlagOff
  | alphabetFlagOff
  | flagOnAndOff
  | unusable (reason : Unusable)
  deriving DecidableEq

def Eagerness.label : Eagerness → String
  | .greedy => "MAX_REPEAT"
  | .lazy => "MIN_REPEAT"
  | .possessive => "POSSESSIVE_REPEAT"

def Defect.message : Defect → String
  | .danglingBackslash => "bad escape (end of pattern)"
  | .badEscape written => "bad escape " ++ written
  | .incompleteEscape written => "incomplete escape " ++ written
  | .octalTooLarge written => "octal escape value " ++ written ++ " outside of range 0-0o377"
  | .unknownCharacter name => "undefined character name " ++ Text.quote name
  | .missingBrace => "missing \x7b"
  | .missingName what => "missing " ++ what
  | .unterminatedName terminator => "missing " ++ terminator.toString ++ ", unterminated name"
  | .badGroupName name => "bad character in group name " ++ Text.quote name
  | .unknownGroupName name => "unknown group name " ++ Text.quote name
  | .redefinedGroup name number previous =>
    "redefinition of group name " ++ Text.quote name ++ " as group " ++ toString number ++
      "; was group " ++ toString previous
  | .openGroup => "cannot refer to an open group"
  | .groupInSameLookBehind => "cannot refer to group defined in the same lookbehind subpattern"
  | .badReference number => "invalid group reference " ++ toString number
  | .badGroupNumber => "bad group number"
  | .tooManyBranches => "conditional backref with more than two branches"
  | .unterminatedSet => "unterminated character set"
  | .badRange first last => "bad character range " ++ first ++ "-" ++ last
  | .nothingToRepeat => "nothing to repeat"
  | .multipleRepeat => "multiple repeat"
  | .leastAboveMost => "min repeat greater than max repeat"
  | .unterminatedGroup => "missing ), unterminated subpattern"
  | .unterminatedComment => "missing ), unterminated comment"
  | .unbalancedParenthesis => "unbalanced parenthesis"
  | .unexpectedEnd => "unexpected end of pattern"
  | .unknownExtension written => "unknown extension ?" ++ written
  | .flagsNotAtStart => "global flags not at the start of the expression"
  | .localeFlag => "bad inline flags: cannot use 'L' flag with a str pattern"
  | .unicodeFlag => "bad inline flags: cannot use 'u' flag with a bytes pattern"
  | .incompatibleFlags => "bad inline flags: flags 'a', 'u' and 'L' are incompatible"
  | .unknownFlag => "unknown flag"
  | .missingFlag => "missing flag"
  | .missingFlagEnd => "missing -, : or )"
  | .missingColon => "missing :"
  | .globalFlagOn => "bad inline flags: cannot turn on global flag"
  | .globalFlagOff => "bad inline flags: cannot turn off global flag"
  | .alphabetFlagOff => "bad inline flags: cannot turn off flags 'a', 'u' and 'L'"
  | .flagOnAndOff => "bad inline flags: flag turned on and off"
  | .unusable .variableLookBehind => "look-behind requires fixed-width pattern"
  | .unusable (.repetitionInTemplate eagerness) =>
    "internal: unsupported template operator " ++ eagerness.label

/-- A defect and, unless it concerns a part as a whole, where it stands. -/
structure Error where
  defect : Defect
  position : Option Nat
  deriving DecidableEq

/-- The report of a defect. In a pattern of several lines it also gives line and column. -/
def Error.message (error : Error) (pattern : String) : String :=
  match error.position with
  | none => error.defect.message
  | some position =>
    let chars := pattern.toList
    let before := chars.take position
    let place := error.defect.message ++ " at position " ++ toString position
    if chars.contains '\n' then
      let line := before.count '\n' + 1
      let column := (before.reverse.takeWhile (· != '\n')).length + 1
      place ++ " (line " ++ toString line ++ ", column " ++ toString column ++ ")"
    else place

/-- What a pattern without defects must not exceed: the depth of groups within each other, numbers
of repetitions, their digits and the width of look-behinds are limited, and the whole pattern has
one alphabet. -/
inductive Limit where
  | nesting
  | repetitions
  | digits
  | lookBehind
  | alphabets
  deriving DecidableEq

/-- Why a text is no pattern. -/
inductive Failure where
  | invalid (error : Error)
  | exceeds (limit : Limit)
  deriving DecidableEq

end RecordSchema.Pattern
