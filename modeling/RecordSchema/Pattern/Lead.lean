import RecordSchema.Pattern.CharTest

/-! Where in a text a match can begin. A pattern that begins with a character or a set is only tried
where one stands; a set that begins a pattern is tested with the flags of the whole pattern. Main
definition: `Lead.starts`. -/

namespace RecordSchema.Pattern

/-- What a match begins with, as far as it narrows the search. -/
inductive Lead where
  | char
  | set (set : CharSet)
  | anything

/-- Whether what comes first is a character of one case; `none` if nothing comes. -/
def Node.leadsWithChar? (flags : Flags) : Node → Option Bool
  | .empty => none
  | .seq first rest => (first.leadsWithChar? flags).or (rest.leadsWithChar? flags)
  | .char false code => some !flags.caseRule.isCased code
  | .scope added removed body => body.leadsWithChar? (flags.adjust added removed)
  | .group _ body => body.leadsWithChar? flags
  | _ => some false

/-- The characters that alternatives begin with, if each begins with one of one case. -/
def Node.leadingCodes? (rule : CaseRule) : Node → Option (List Member)
  | .refused => some []
  | .alt (.seq (.char false code) _) rest =>
    if rule.isCased code then none else do return .code code :: (← rest.leadingCodes? rule)
  | _ => none

def Member.hasCase (rule : CaseRule) : Member → Bool
  | .code c => rule.isCased c
  | .range first last => rule != .exact && (lastBasic < last || rule.meetsCased first last)
  | _ => false

/-- The set that a pattern begins with, if it has no character of two cases. -/
def Node.leadingSet? (flags : Flags) : Node → Option (Bool × List Member)
  | .seq (.scope added removed body) _ => body.leadingSet? (flags.adjust added removed)
  | .seq (.group _ body) _ => body.leadingSet? flags
  | .seq (.char false code) _ =>
    if flags.caseRule.isCased code then none else some (false, [.code code])
  | .seq (.set negated members) _ =>
    if members.any (·.hasCase flags.caseRule) then none else some (negated, members)
  | .seq (.alt first rest) _ =>
    ((Node.alt first rest).leadingCodes? flags.caseRule).map (false, ·)
  | _ => none

/-- The lead of a pattern. One that can match nothing at all can begin anywhere. -/
def Node.lead (node : Node) (flags : Flags) (width : Width) : Lead :=
  if width.least = 0 then .anything
  else if node.leadsWithChar? flags = some true then .char
  else match node.leadingSet? flags with
    | some (negated, members) => .set (flags.exactSet negated members)
    | none => .anything

/-- The places where a match of at least some width is looked for. -/
def Lead.starts (lead : Lead) (least : Nat) (text : Array Char) : List Nat :=
  if text.size < least then []
  else match lead with
    | .char => List.range text.size
    | .set s => (List.range text.size).filter fun i => text[i]?.any (s.holds ·.toNat)
    | .anything => List.range (text.size - (least - 1) + 1)

end RecordSchema.Pattern
