/-! Violations: what is wrong with a piece of data, and where. Main statement of the layout: a
location joins names by points and writes indices in brackets. -/

namespace RecordSchema

/-- A step into data: the name of a field, a map key as text, or an index. -/
inductive Step where
  | name (text : String)
  | index (n : Int)
  deriving DecidableEq, Repr

/-- Where a value stands, from the outside in. -/
abbrev Path := List Step

inductive ViolationKind where
  | requiredMissing
  | typeMismatch
  | constraintViolated
  | hookFailed
  | derivedHookFailed
  | extraField
  deriving DecidableEq, Repr

def ViolationKind.label : ViolationKind → String
  | .requiredMissing => "required_missing"
  | .typeMismatch => "type_mismatch"
  | .constraintViolated => "constraint_violated"
  | .hookFailed => "hook_failed"
  | .derivedHookFailed => "derived_hook_failed"
  | .extraField => "extra_field"

def ViolationKind.all : List ViolationKind :=
  [.requiredMissing, .typeMismatch, .constraintViolated, .hookFailed, .derivedHookFailed,
    .extraField]

/-- One violation. The constraint is named where one was violated, the hook where one failed. -/
structure Violation where
  path : Path
  kind : ViolationKind
  message : String
  constraint : Option String := none
  hook : Option String := none
  deriving DecidableEq, Repr

namespace Path

/-- Text of a step that is not the first. -/
def innerStep : Step → String
  | .name text => "." ++ text
  | .index n => "[" ++ toString n ++ "]"

def firstStep : Step → String
  | .name text => text
  | .index n => "[" ++ toString n ++ "]"

/-- The path as text; the empty path is the root. -/
def location : Path → String
  | [] => "<root>"
  | step :: rest => firstStep step ++ String.join (rest.map innerStep)

end Path

namespace Violation

def format (v : Violation) : String := Path.location v.path ++ ": " ++ v.message

/-- The violation seen from further out. -/
def under (outer : Path) (v : Violation) : Violation := { v with path := outer ++ v.path }

/-- One violation a line. -/
def formatAll : List Violation → String
  | [] => "no errors"
  | violations => "\n".intercalate (violations.map format)

end Violation
end RecordSchema
