import RecordSchema.Pattern.Basic

/-! Alternatives of a pattern and their simplest form: what all of them begin with stands in front
of them, and alternatives of one character each become a set. Main definition: `Node.join`. -/

namespace RecordSchema.Pattern
namespace Node

/-- Whether two items without parts of their own are the same. Items with parts never are. -/
def agrees : Node → Node → Bool
  | .any, .any => true
  | .char negated code, .char negated' code' => negated == negated' && code == code'
  | .set negated members, .set negated' members' => negated == negated' && members == members'
  | .anchor place, .anchor place' => place == place'
  | .backreference number, .backreference number' => number == number'
  | _, _ => false

/-- Takes off the items that all alternatives begin with. -/
def splitShared : List Node → List (List Node) → List Node × List (List Node)
  | [], others => ([], [] :: others)
  | item :: first, others =>
    if others.all fun other => other.head?.any item.agrees then
      let (shared, rest) := splitShared first (others.map List.tail)
      (item :: shared, rest)
    else ([], (item :: first) :: others)

/-- The members of a set that matches the same as an alternative of one character. -/
def members? : List Node → Option (List Member)
  | [.char false code] => some [.code code]
  | [.set false members] => some members
  | _ => none

/-- Drops what has come before. -/
def distinct (members : List Member) : List Member :=
  members.foldl (fun taken m => if taken.contains m then taken else taken ++ [m]) []

/-- The items that stand for a choice among alternatives. -/
def join : List (List Node) → List Node
  | [] => []
  | [items] => items
  | first :: others =>
    let (shared, rest) := splitShared first others
    match rest.mapM members? with
    | some sets => shared ++ [.set false (distinct sets.flatten)]
    | none => shared ++ [ofAlternatives rest]

/-- A set of the members given. A single character stands for itself. -/
def ofMembers (negated : Bool) (members : List Member) : Node :=
  match distinct members with
  | [.code code] => .char negated code
  | members => .set negated members

/-- Puts the items of groups that neither capture nor change flags in the place of the groups. -/
def unwrap (items : List Node) : List Node :=
  items.flatMap fun
    | .scope [] [] body => body.toList
    | item => [item]

end Node
end RecordSchema.Pattern
