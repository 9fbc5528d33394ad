import RecordSchema.Expr

/-! Why an expression denotes no type, and how that is reported. -/

namespace RecordSchema

inductive NormalizeError where
  | unknownTypeName (written : String)
  | unsupported (e : Value)
  | arrayShorthand (e : Value)
  | mapShorthand (e : Value)
  | untagged (e : Value)
  | unknownTag (tag : String)
  | arrayForm (e : Value)
  | mapForm (e : Value)
  | unionForm (e : Value)
  | referenceForm (e : Value)
  | scalarForm (tag : String) (e : Value)
  | constraintsForm (e : Value)
  | emptyUnion
  | emptyReference
  | unknownConstraint (name : String)
  | misplacedConstraint (kind : ConstraintKind) (type : String)
  | badSize (kind : ConstraintKind) (type : String) (bound : Value)
  | badNumber (kind : ConstraintKind) (type : String) (bound : Value)
  | badPattern (type : String) (bound : Value)
  | invalidPattern (type : String) (report : String)
  | badChoices (type : String) (bound : Value)
  | crossedBounds (low high : ConstraintKind) (least most : Value) (type : String)
  | constrainedReference (name : Name) (kinds : List ConstraintKind)

namespace NormalizeError

/-- Type names that authors can write, in order. -/
def typeNames : List String :=
  ["any", "bool", "boolean", "float", "int", "integer", "none", "null", "number", "str", "string"]

private def constraintOn (kind : ConstraintKind) (type : String) : String :=
  "Constraint '" ++ kind.label ++ "' on " ++ type

def message : NormalizeError → String
  | .unknownTypeName written =>
    "Unknown type name '" ++ written ++ "'. Expected one of: " ++
      (Value.list (typeNames.map .str)).literal ++ "."
  | .unsupported e => "Unsupported type expression: " ++ e.literal ++ "."
  | .arrayShorthand e =>
    "Array shorthand takes exactly one element type, got " ++ e.literal ++ "."
  | .mapShorthand e => "Map shorthand takes exactly one key/value pair, got " ++ e.literal ++ "."
  | .untagged e => "Tagged type expression must start with a tag, got " ++ e.literal ++ "."
  | .unknownTag tag => "Unknown type tag '" ++ tag ++ "'."
  | .arrayForm e => "('array', element[, constraints]) expected, got " ++ e.literal ++ "."
  | .mapForm e => "('map', key, value[, constraints]) expected, got " ++ e.literal ++ "."
  | .unionForm e => "('union', [variants][, constraints]) expected, got " ++ e.literal ++ "."
  | .referenceForm e => "('ref', name) expected, got " ++ e.literal ++ "."
  | .scalarForm tag e =>
    "(" ++ Text.quote tag ++ "[, constraints]) expected, got " ++ e.literal ++ "."
  | .constraintsForm e => "Constraints must be a mapping, got " ++ e.literal ++ "."
  | .emptyUnion => "Union requires at least one variant."
  | .emptyReference => "Schema reference requires a non-empty target name."
  | .unknownConstraint name => "Unknown constraint '" ++ name ++ "'."
  | .misplacedConstraint kind type =>
    "Constraint '" ++ kind.label ++ "' is not valid for type " ++ type ++ "."
  | .badSize kind type bound =>
    constraintOn kind type ++ " requires a non-negative integer, got " ++ bound.literal ++ "."
  | .badNumber kind type bound =>
    constraintOn kind type ++ " requires a number, got " ++ bound.literal ++ "."
  | .badPattern type bound =>
    constraintOn .pattern type ++ " requires a string, got " ++ bound.literal ++ "."
  | .invalidPattern type report =>
    constraintOn .pattern type ++ " is not a valid regex: " ++ report
  | .badChoices type bound =>
    constraintOn .choices type ++ " requires a non-empty list of values, got " ++ bound.literal ++
      "."
  | .crossedBounds low high least most type =>
    "Constraint '" ++ low.label ++ "' (" ++ least.text ++ ") exceeds '" ++ high.label ++ "' (" ++
      most.text ++ ") on " ++ type ++ "."
  | .constrainedReference name kinds =>
    "Constraints cannot be attached to schema reference '" ++ name.shown ++ "': " ++
      ", ".intercalate (kinds.map ConstraintKind.label) ++ "."

end NormalizeError

/-- What reading an expression gives. -/
abbrev Normalized (α : Type) := Except (Failing NormalizeError) α

def NormalizeError.raise {α : Type} (e : NormalizeError) : Normalized α := .error (.reason e)

end RecordSchema
