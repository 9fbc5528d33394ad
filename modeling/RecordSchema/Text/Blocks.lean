/-! Sets of characters as ascending blocks of code points. Main definition: `Blocks.contains`, by
bisection. -/

namespace RecordSchema.Text

/-- First and last code point of each block; the blocks ascend and do not meet. -/
abbrev Blocks := Array (Nat × Nat)

namespace Blocks

/-- Whether one of the blocks numbered from `low` up to `high` holds the code point. -/
def search (blocks : Blocks) (code low high : Nat) : Bool :=
  if low < high then
    let middle := (low + high) / 2
    match blocks[middle]? with
    | none => false
    | some (first, last) =>
      if code < first then blocks.search code low middle
      else if last < code then blocks.search code (middle + 1) high
      else true
  else false
  termination_by high - low

def contains (blocks : Blocks) (code : Nat) : Bool := blocks.search code 0 blocks.size

end Blocks
end RecordSchema.Text
