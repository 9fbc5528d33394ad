import RecordSchema.Proofs.WellFormedTypes

/-! The constraints of types that are made from expressions. Each has a bound that it can be checked
with, at every level of the type. Main statement: `normalize_bounded`. -/

namespace RecordSchema

namespace Constraint

/-- Only values without end are beyond comparison. -/
theorem isChoice?_eq_none {v choice : Value} (untold : v.isChoice? choice = none) : v.hasEnd = false := by
  unfold Value.isChoice? Value.equal? at untold
  cases ends : v.hasEnd with
  | false => rfl
  | true =>
    simp only [ends, if_true] at untold
    split at untold <;> cases untold

theorem readPattern?_of_text {bound : Value} {pattern : String} (written : bound.str? = some pattern) :
    readPattern? bound = some (true, Pattern.parse pattern) := by
  cases bound with
  | str _ | member _ => cases written; rfl
  | _ => cases written

/-- The bound of a constraint passed the check for some type. -/
def Bounded (c : Constraint) : Prop := ∃ type, c.requireBound type = .ok ()

theorem Bounded.size {c : Constraint} (bounded : c.Bounded) (size : c.kind.isSizeBound = true) :
    ∃ n, c.bound = .int n := by
  obtain ⟨type, passed⟩ := bounded
  obtain ⟨n, bound⟩ := (requireBound_size size).mp passed
  exact ⟨n, bound⟩

theorem Bounded.choices {c : Constraint} (bounded : c.Bounded) (kind : c.kind = .choices) :
    ∃ items, c.bound = .tuple items := by
  obtain ⟨type, passed⟩ := bounded
  have sane := requireBound_eq_ok.mp passed
  rw [IsSane, kind] at sane
  obtain ⟨first, others, bound⟩ := sane
  exact ⟨first :: others, bound⟩

theorem Bounded.pattern {c : Constraint} (bounded : c.Bounded) (kind : c.kind = .pattern) :
    ∃ text, c.bound.str? = some text := by
  obtain ⟨type, passed⟩ := bounded
  have sane := requireBound_eq_ok.mp passed
  rw [IsSane, kind] at sane
  obtain ⟨text, _, read, -⟩ := sane
  exact ⟨text, read⟩

end Constraint

namespace SchemaType

mutual

/-- The constraints of a type, at every level. -/
def allConstraints : SchemaType → List Constraint
  | .primitive _ cs => cs
  | .array element cs => cs ++ allConstraints element
  | .map key value cs => cs ++ (allConstraints key ++ allConstraints value)
  | .union variants cs => cs ++ constraintsOf variants
  | .ref _ _ => []

def constraintsOf : List SchemaType → List Constraint
  | [] => []
  | t :: rest => allConstraints t ++ constraintsOf rest

end

theorem mem_constraintsOf {types : List SchemaType} {t : SchemaType} (member : t ∈ types) {c : Constraint}
    (inside : c ∈ t.allConstraints) : c ∈ constraintsOf types := by
  induction types with
  | nil => cases member
  | cons u rest ih =>
    rw [constraintsOf]
    obtain rfl | later := List.mem_cons.mp member
    · exact List.mem_append_left _ inside
    · exact List.mem_append_right _ (ih later)

/-- All constraints of a type can be checked. -/
def Bounded (t : SchemaType) : Prop := ∀ c ∈ t.allConstraints, c.Bounded

theorem SoundlyConstrained.bounded {t : SchemaType} (own : t.SoundlyConstrained) : ∀ c ∈ t.constraints, c.Bounded :=
  fun c member => ⟨t.describe, Constraint.requireBound_eq_ok.mpr (own.sane c member)⟩

theorem constraintsOf_bounded {types : List SchemaType} (bounded : ∀ t ∈ types, t.Bounded) :
    ∀ c ∈ constraintsOf types, c.Bounded := by
  induction types with
  | nil => exact List.forall_mem_nil _
  | cons t rest ih =>
    obtain ⟨first, others⟩ := List.forall_mem_cons.mp bounded
    exact List.forall_mem_append.mpr ⟨first, ih others⟩

theorem FormedWith.bounded {Named : Name → Option Target → Prop} {t : SchemaType} (formed : t.FormedWith Named) :
    t.Bounded := by
  induction formed with
  | primitive own => exact own.bounded
  | array own _ inner => exact List.forall_mem_append.mpr ⟨own.bounded, inner⟩
  | map own _ _ ofKey ofValue =>
    exact List.forall_mem_append.mpr ⟨own.bounded, List.forall_mem_append.mpr ⟨ofKey, ofValue⟩⟩
  | union own _ _ inner => exact List.forall_mem_append.mpr ⟨own.bounded, constraintsOf_bounded inner⟩
  | ref _ => exact List.forall_mem_nil _

/-- Every type that declarations come to has constraints that can be checked. -/
theorem normalize_bounded {e constraints messages : Expr} {t : SchemaType}
    (made : normalize e constraints messages = .ok t) : t.Bounded := by
  have anything : Expr.CarriesOnly (fun _ _ => True) e.carried := fun _ _ _ _ _ => trivial
  exact (normalize_formed (fun _ _ _ => trivial) anything made).bounded

end SchemaType
end RecordSchema
