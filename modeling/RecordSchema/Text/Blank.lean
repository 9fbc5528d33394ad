import RecordSchema.Text.Blocks

/-! White space: what trimming removes. It includes the four information separators. -/

namespace RecordSchema.Text

/-- Code points of Unicode 14 that are white space or separate paragraphs and segments. -/
def blankBlocks : Blocks := #[
  (0x9, 0xD), (0x1C, 0x20), (0x85, 0x85), (0xA0, 0xA0), (0x1680, 0x1680), (0x2000, 0x200A),
  (0x2028, 0x2029), (0x202F, 0x202F), (0x205F, 0x205F), (0x3000, 0x3000)]

def isBlank (c : Char) : Bool := blankBlocks.contains c.toNat

/-- The text without white space at either end. -/
def trim (cs : List Char) : List Char :=
  ((cs.dropWhile isBlank).reverse.dropWhile isBlank).reverse

end RecordSchema.Text
