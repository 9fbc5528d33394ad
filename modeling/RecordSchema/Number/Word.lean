/-! Integers that a machine word holds. -/

namespace RecordSchema.Word

/-- One more than the greatest integer of a word. -/
def bound : Int := 9223372036854775808

/-- Whether a word holds the integer. -/
def holds (n : Int) : Bool := -bound ≤ n && n < bound

end RecordSchema.Word
