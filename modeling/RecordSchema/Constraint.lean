import RecordSchema.Value.Equality
import RecordSchema.Value.Extent
import RecordSchema.Pattern.Parser
import RecordSchema.Pattern.Matcher

/-! Constraints: predicates on values that are attached to types. A value of the wrong shape does
not satisfy a constraint; a bound of the wrong type is a fault. -/

namespace RecordSchema

inductive ConstraintKind where
  | minLength | maxLength
  | pattern
  | above | below | atLeast | atMost
  | choices
  | minItems | maxItems
  | minEntries | maxEntries
  deriving DecidableEq, Repr

namespace ConstraintKind

def all : List ConstraintKind :=
  [.minLength, .maxLength, .pattern, .above, .below, .atLeast, .atMost, .choices, .minItems,
    .maxItems, .minEntries, .maxEntries]

/-- The name of a constraint. -/
def label : ConstraintKind → String
  | .minLength => "min_length"
  | .maxLength => "max_length"
  | .pattern => "pattern"
  | .above => "gt"
  | .below => "lt"
  | .atLeast => "gteq"
  | .atMost => "lteq"
  | .choices => "choices"
  | .minItems => "min_items"
  | .maxItems => "max_items"
  | .minEntries => "min_properties"
  | .maxEntries => "max_properties"

/-- The kind as a member of its enumeration. -/
def member (kind : ConstraintKind) : Member := ⟨"ConstraintKind", kind.label.toUpper, kind.label⟩

/-- Other names that authors can use. -/
def aliases : List (String × ConstraintKind) :=
  [("format", .pattern), ("regex", .pattern), ("ge", .atLeast), ("le", .atMost), ("enum", .choices)]

/-- The kind that a name or alias stands for. -/
def ofName? (name : String) : Option ConstraintKind :=
  (aliases.lookup name).or (all.find? (·.label = name))

/-- Keyword of document schemas with the same meaning. -/
def keyword : ConstraintKind → String
  | .minLength => "minLength"
  | .maxLength => "maxLength"
  | .pattern => "pattern"
  | .above => "exclusiveMinimum"
  | .below => "exclusiveMaximum"
  | .atLeast => "minimum"
  | .atMost => "maximum"
  | .choices => "enum"
  | .minItems => "minItems"
  | .maxItems => "maxItems"
  | .minEntries => "minProperties"
  | .maxEntries => "maxProperties"

/-- Constraints on a size. -/
def isSizeBound : ConstraintKind → Bool
  | .minLength | .maxLength | .minItems | .maxItems | .minEntries | .maxEntries => true
  | _ => false

/-- Constraints that compare numbers. -/
def isComparison : ConstraintKind → Bool
  | .above | .below | .atLeast | .atMost => true
  | _ => false

end ConstraintKind

/-- A predicate with its parameter. A message that is not null replaces the usual wording. -/
structure Constraint where
  kind : ConstraintKind
  bound : Value
  message : Value := .null

namespace Value

def isBool : Value → Bool
  | .bool _ => true
  | _ => false

/-- Whether a value is equal to a choice, unless that cannot be told: booleans and numbers are kept
apart at the top. -/
def isChoice? (v choice : Value) : Option Bool :=
  if v.isBool == choice.isBool then v.equal? choice else some false

/-- Length of text. -/
def length? (v : Value) : Option Nat := v.str?.map String.length

def itemCount? (v : Value) : Option Nat := v.items?.map List.length

def entryCount? (v : Value) : Option Nat := v.unfolded.ownEntries?.map List.length

end Value

namespace Constraint

/-- Compares a size with a bound; a value without that size satisfies nothing. -/
def checkSize (size : Option Nat) (bound : Value) (holds : Quantity → Quantity → Bool) :
    Except Fault Bool :=
  match size, bound.quantity? with
  | none, _ => .ok false
  | some n, some q => .ok (holds (.ofInt n) q)
  | some _, none => .error .wrongType

def checkNumber (v bound : Value) (holds : Quantity → Quantity → Bool) : Bool :=
  match v.number?, bound.number? with
  | some x, some y => holds x y
  | _, _ => false

/-- The fault that a pattern beyond a limit is. -/
def limitFault : Pattern.Limit → Fault
  | .nesting => .endless
  | .repetitions => .tooLarge
  | .digits | .alphabets => .badValue
  | .lookBehind => .unreachable

/-- Whether there is a match. One with a crossed group cannot be told. -/
def findingHolds : Pattern.Finding → Except Fault Bool
  | .nothing => .ok false
  | .found => .ok true
  | .crossed => .error (.raised "SystemError")

/-- The answer of a search, unless there is no pattern to search for. -/
def search (pattern : Except Pattern.Failure Pattern.Compiled)
    (look : Pattern.Compiled → Pattern.Finding) : Except Fault Bool :=
  match pattern with
  | .ok compiled => findingHolds (look compiled)
  | .error (.invalid _) => .ok false
  | .error (.exceeds limit) => .error (limitFault limit)

/-- What a value is read as where a pattern is expected, and whether that is a pattern for text and
not one for bytes. -/
def readPattern? : Value → Option (Bool × Except Pattern.Failure Pattern.Compiled)
  | .bytes pattern => some (false, Pattern.parseBytes pattern)
  | .record .compiled parts =>
    let flags := Pattern.Flags.ofBits (((Value.part parts "flags").integer?.getD 0).toNat)
    match Value.part parts "pattern" with
    | .str pattern => some (true, Pattern.parse pattern flags)
    | .bytes pattern => some (false, Pattern.parseBytes pattern flags)
    | _ => none
  | v => v.str?.map fun pattern => (true, Pattern.parse pattern)

/-- Searches text for a pattern. Nothing matches what is no pattern, and no text a pattern for
bytes. -/
def checkPattern (v bound : Value) : Except Fault Bool :=
  match v.str?, readPattern? bound with
  | some text, some (true, pattern) =>
    search pattern fun c => c.node.search c.flags c.width text
  | some _, some (false, pattern) => search pattern fun _ => .nothing
  | _, _ => .ok false

/-- Whether a value is equal to one of the choices. They are tried in order, and none is tried after
one that cannot be compared. -/
def isAmong (v : Value) : List Value → Except Fault Bool
  | [] => .ok false
  | choice :: rest =>
    match v.isChoice? choice with
    | some true => .ok true
    | some false => isAmong v rest
    | none => .error .endless

def checkChoices (v choices : Value) : Except Fault Bool :=
  match choices.unfolded.elements? with
  | some items => isAmong v items
  | none => .ok false

/-- Whether a value satisfies a constraint. -/
def check (c : Constraint) (v : Value) : Except Fault Bool :=
  match c.kind with
  | .minLength => checkSize v.length? c.bound fun n b => b.le n
  | .maxLength => checkSize v.length? c.bound Quantity.le
  | .pattern => checkPattern v c.bound
  | .above => .ok (checkNumber v c.bound fun x b => b.lt x)
  | .below => .ok (checkNumber v c.bound Quantity.lt)
  | .atLeast => .ok (checkNumber v c.bound fun x b => b.le x)
  | .atMost => .ok (checkNumber v c.bound Quantity.le)
  | .choices => checkChoices v c.bound
  | .minItems => checkSize v.itemCount? c.bound fun n b => b.le n
  | .maxItems => checkSize v.itemCount? c.bound Quantity.le
  | .minEntries => checkSize v.entryCount? c.bound fun n b => b.le n
  | .maxEntries => checkSize v.entryCount? c.bound Quantity.le

/-- The usual wording of a violation, with the bound in it. -/
def defaultMessage (c : Constraint) : Except Fault String := do
  match c.kind with
  | .minLength => return "must be at least " ++ (← c.bound.writtenText) ++ " characters long"
  | .maxLength => return "must be at most " ++ (← c.bound.writtenText) ++ " characters long"
  | .pattern => return "must match pattern " ++ (← c.bound.writtenLiteral)
  | .above => return "must be greater than " ++ (← c.bound.writtenText)
  | .below => return "must be less than " ++ (← c.bound.writtenText)
  | .atLeast => return "must be greater than or equal to " ++ (← c.bound.writtenText)
  | .atMost => return "must be less than or equal to " ++ (← c.bound.writtenText)
  | .choices =>
    match c.bound.unfolded.elements? with
    | some items => return "must be one of " ++ (← (Value.list items).writtenLiteral)
    | none => throw .wrongType
  | .minItems => return "must contain at least " ++ (← c.bound.writtenText) ++ " items"
  | .maxItems => return "must contain at most " ++ (← c.bound.writtenText) ++ " items"
  | .minEntries => return "must contain at least " ++ (← c.bound.writtenText) ++ " entries"
  | .maxEntries => return "must contain at most " ++ (← c.bound.writtenText) ++ " entries"

/-- The message of a violation: the constraint's own unless it is empty. -/
def violationMessage (c : Constraint) : Except Fault Value :=
  if c.message.isTrue then .ok c.message else c.defaultMessage.map .str

/-- The constraint in short. -/
def text (c : Constraint) : String := c.kind.label ++ "=" ++ c.bound.literal

/-- The constraints that a value does not satisfy, in order. -/
def failures : List Constraint → Value → Except Fault (List Constraint)
  | [], _ => .ok []
  | c :: rest, v => do
    let satisfied ← c.check v
    let others ← failures rest v
    return if satisfied then others else c :: others

/-- Document keywords for constraints; of several with one keyword the last counts. -/
def keywords : List Constraint → Except Fault Entries :=
  go []
where
  go (done : Entries) : List Constraint → Except Fault Entries
    | [] => .ok done
    | c :: rest =>
      match c.kind, c.bound.unfolded.elements? with
      | .choices, some items => go (done.setField c.kind.keyword (.list items)) rest
      | .choices, none => .error .wrongType
      | _, _ => go (done.setField c.kind.keyword c.bound) rest

end Constraint
end RecordSchema
