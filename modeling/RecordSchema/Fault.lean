import RecordSchema.Violation

/-! Faults: an operation met a value that it has no meaning for. Faults are not violations: they
concern declarations and requests, and end the operation. -/

namespace RecordSchema

/-- What is wrong with one entry of a record of options, or with data for a record. -/
inductive CauseKind where
  | stringType
  | stringTooShort
  | stringEncoding
  | unknownEntry
  | boolParsing
  | boolType
  | listType
  | instanceType
  | notListed
  | belowMinimum
  | intType
  | intParsing
  | intParsingSize
  | intFromFloat
  | notFinite
  | refused
  | notRecord
  | keyType
  deriving DecidableEq, Repr

def CauseKind.label : CauseKind → String
  | .stringType => "string_type"
  | .stringTooShort => "string_too_short"
  | .stringEncoding => "string_unicode"
  | .unknownEntry => "extra_forbidden"
  | .boolParsing => "bool_parsing"
  | .boolType => "bool_type"
  | .listType => "list_type"
  | .instanceType => "is_instance_of"
  | .notListed => "enum"
  | .belowMinimum => "greater_than_equal"
  | .intType => "int_type"
  | .intParsing => "int_parsing"
  | .intParsingSize => "int_parsing_size"
  | .intFromFloat => "int_from_float"
  | .notFinite => "finite_number"
  | .refused => "value_error"
  | .notRecord => "model_type"
  | .keyType => "invalid_key"

/-- A cause and the place of the entry that it concerns. -/
structure Cause where
  kind : CauseKind
  location : Path
  deriving DecidableEq, Repr

/-- Why an operation ended without an answer. -/
inductive Fault where
  /-- The operation is not defined on values of this type. -/
  | wrongType
  /-- The value lacks a part that the operation needs. -/
  | missingPart
  /-- There is no entry under the key. -/
  | missingKey
  /-- The value is of the right type but out of its domain. -/
  | badValue
  /-- The number is too large. -/
  | tooLarge
  /-- The operation would go on for ever. -/
  | endless
  /-- The request is in order, but its means do not reach that far. -/
  | unreachable
  /-- The name is kept for another use. -/
  | reservedName
  /-- Something that was asked for its parts raised an exception of this class. -/
  | raised (className : String)
  /-- The value does not fit the record that it is to become. -/
  | unfit (causes : List Cause)
  deriving DecidableEq, Repr

/-- How an operation on declarations fails: for a reason of its own, or by a fault. -/
inductive Failing (ε : Type) where
  | reason (e : ε)
  | fault (f : Fault)
  deriving Repr

namespace Failing

def map {ε δ : Type} (g : ε → δ) : Failing ε → Failing δ
  | .reason e => .reason (g e)
  | .fault f => .fault f

/-- An operation that can only end by a fault. -/
def ofFault {ε α : Type} (result : Except Fault α) : Except (Failing ε) α := result.mapError .fault

end Failing
end RecordSchema
