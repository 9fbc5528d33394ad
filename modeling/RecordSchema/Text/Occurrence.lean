/-! Occurrence of one text in another. -/

namespace RecordSchema.Text

/-- Whether the part stands somewhere in the whole. -/
def occursIn {α : Type} [BEq α] (part : List α) : List α → Bool
  | [] => part.isEmpty
  | c :: rest => part.isPrefixOf (c :: rest) || occursIn part rest

end RecordSchema.Text
