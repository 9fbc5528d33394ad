import RecordSchema.Expr

/-! Expressions as data: data is the same again after it was an expression, and a mapping has the same entries as data. -/

namespace RecordSchema
namespace Expr

mutual

theorem toValue_ofValue : ∀ v : Value, (ofValue v).toValue = v
  | .list items | .tuple items | .set items => by rw [ofValue, toValue, toValues_ofValues items]
  | .map entries | .view entries => by rw [ofValue, toValue, toEntries_ofEntries entries]
  | .null | .bool _ | .int _ | .float _ | .nan _ | .str _ | .member _ | .bytes _ | .hostType _ | .violation _ | .record _ _
  | .foreign _ | .back _ | .ring _ _ => rfl

theorem toValues_ofValues : ∀ vs : List Value, toValues (ofValues vs) = vs
  | [] => rfl
  | v :: rest => by rw [ofValues, toValues, toValue_ofValue v, toValues_ofValues rest]

theorem toEntries_ofEntries : ∀ entries : List (Value × Value), toEntries (ofEntries entries) = entries
  | [] => rfl
  | (k, v) :: rest => by rw [ofEntries, toEntries, toValue_ofValue k, toValue_ofValue v, toEntries_ofEntries rest]

end

variable {e : Expr} {entries : List (Expr × Expr)}

theorem entries?_toValue (maps : e.entries? = some entries) : e.toValue.entries? = some (toEntries entries) := by
  cases e with
  | map _ | view _ => cases maps; rfl
  | _ => cases maps

/-- A mapping counts as false if it is empty. -/
theorem isTrue_of_entries (maps : e.entries? = some entries) : e.isTrue = !entries.isEmpty := by
  cases e with
  | map _ | view _ =>
    cases maps
    cases entries <;> rfl
  | _ => cases maps

end Expr
end RecordSchema
