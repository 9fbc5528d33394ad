import Mathlib.Data.List.Forall2
import RecordSchema.Proofs.Outcome

/-! Computations side by side. Two computations are related if both come to results that are, or both fail for reasons
that are; the same for what may be there or not, and for lists item by item. One of them can also be allowed to fail for
reasons of its own. -/

namespace Except

variable {ε δ α β γ η : Type}

/-- Both computations end with values that are related, or both fail for reasons that are. -/
inductive Related (E : ε → δ → Prop) (R : α → β → Prop) : Except ε α → Except δ β → Prop where
  | error {e : ε} {d : δ} (reasons : E e d) : Related E R (.error e) (.error d)
  | ok {a : α} {b : β} (values : R a b) : Related E R (.ok a) (.ok b)

namespace Related

variable {E : ε → δ → Prop} {R : α → β → Prop} {S : γ → η → Prop} {x : Except ε α} {y : Except δ β}

theorem bind {f : α → Except ε γ} {g : β → Except δ η} (first : Related E R x y)
    (next : ∀ a b, R a b → Related E S (f a) (g b)) : Related E S (x >>= f) (y >>= g) := by
  cases first with
  | error reasons => exact .error reasons
  | ok values => exact next _ _ values

theorem map {f : α → γ} {g : β → η} (first : Related E R x y) (next : ∀ a b, R a b → S (f a) (g b)) :
    Related E S (f <$> x) (g <$> y) := by
  cases first with
  | error reasons => exact .error reasons
  | ok values => exact .ok (next _ _ values)

theorem mapM {as : List α} {bs : List β} {f : α → Except ε γ} {g : β → Except δ η} (each : List.Forall₂ R as bs)
    (next : ∀ a b, R a b → Related E S (f a) (g b)) : Related E (List.Forall₂ S) (as.mapM f) (bs.mapM g) := by
  induction each with
  | nil => exact .ok .nil
  | cons first _ ih =>
    rw [List.mapM_cons, List.mapM_cons]
    exact (next _ _ first).bind fun _ _ head => ih.bind fun _ _ tail => .ok (.cons head tail)

/-- Checks that refuse alike, and what comes after them. -/
theorem guard {c : Prop} [Decidable c] {e : ε} {d : δ} {f : PUnit → Except ε α} {g : PUnit → Except δ β}
    (reasons : E e d) (next : Related E R (f ⟨⟩) (g ⟨⟩)) :
    Related E R (if c then (Except.error e : Except ε PUnit) >>= f else f ⟨⟩)
      (if c then (Except.error d : Except δ PUnit) >>= g else g ⟨⟩) := by
  split
  · exact .error reasons
  · exact next

theorem of_eq {F : ε → ε → Prop} {T : α → α → Prop} (reasons : ∀ e, F e e) (values : ∀ a, T a a) (x : Except ε α) :
    Related F T x x := by
  cases x with
  | error e => exact .error (reasons e)
  | ok a => exact .ok (values a)

/-- What follows one computation on both sides. -/
theorem bind_same {F : ε → ε → Prop} {x : Except ε α} {f : α → Except ε γ} {g : α → Except ε η} (reasons : ∀ e, F e e)
    (next : ∀ a, Related F S (f a) (g a)) : Related F S (x >>= f) (x >>= g) := by
  cases x with
  | error e => exact .error (reasons e)
  | ok a => exact next a

theorem returns_iff (both : Related E R x y) : x.Returns ↔ y.Returns := by
  cases both with
  | error => exact iff_of_false (error_not_ok _) (error_not_ok _)
  | ok => exact iff_of_true (returns_ok _) (returns_ok _)

theorem of_returns_iff (both : x.Returns ↔ y.Returns) : Related (fun _ _ => True) (fun _ _ => True) x y := by
  cases x with
  | error e =>
    cases y with
    | error d => exact .error trivial
    | ok b => exact absurd (both.mpr (returns_ok b)) (error_not_ok e)
  | ok a =>
    cases y with
    | error d => exact absurd (both.mp (returns_ok a)) (error_not_ok d)
    | ok b => exact .ok trivial

theorem eq {x y : Except ε α} (both : Related Eq Eq x y) : x = y := by
  cases both with
  | error reasons => rw [reasons]
  | ok values => rw [values]

theorem values_of_ok {a : α} {b : β} (both : Related E R (.ok a) (.ok b)) : R a b := by
  cases both with
  | ok values => exact values

end Related

/-- Both computations come to the same, or the second one is lost for a reason that is excused. -/
inductive RelatedUnless (lost : δ → Prop) (E : ε → δ → Prop) (R : α → β → Prop) : Except ε α → Except δ β → Prop where
  | both {x : Except ε α} {y : Except δ β} (related : Related E R x y) : RelatedUnless lost E R x y
  | lost {x : Except ε α} {d : δ} (excused : lost d) : RelatedUnless lost E R x (.error d)

namespace RelatedUnless

variable {lost : δ → Prop} {E : ε → δ → Prop} {R : α → β → Prop} {S : γ → η → Prop} {x : Except ε α} {y : Except δ β}

theorem ok {a : α} {b : β} (values : R a b) : RelatedUnless lost E R (.ok a) (.ok b) := .both (.ok values)

theorem error {e : ε} {d : δ} (reasons : E e d) : RelatedUnless lost E R (.error e) (.error d) := .both (.error reasons)

theorem bind {f : α → Except ε γ} {g : β → Except δ η} (first : RelatedUnless lost E R x y)
    (next : ∀ a b, R a b → RelatedUnless lost E S (f a) (g b)) : RelatedUnless lost E S (x >>= f) (y >>= g) := by
  cases first with
  | lost excused => exact .lost excused
  | both related =>
    cases related with
    | error reasons => exact .error reasons
    | ok values => exact next _ _ values

theorem map {f : α → γ} {g : β → η} (first : RelatedUnless lost E R x y) (next : ∀ a b, R a b → S (f a) (g b)) :
    RelatedUnless lost E S (f <$> x) (g <$> y) := by
  cases first with
  | lost excused => exact .lost excused
  | both related => exact .both (related.map next)

theorem mapM {as : List α} {bs : List β} {f : α → Except ε γ} {g : β → Except δ η} (each : List.Forall₂ R as bs)
    (next : ∀ a b, R a b → RelatedUnless lost E S (f a) (g b)) :
    RelatedUnless lost E (List.Forall₂ S) (as.mapM f) (bs.mapM g) := by
  induction each with
  | nil => exact .ok .nil
  | cons first _ ih =>
    rw [List.mapM_cons, List.mapM_cons]
    exact (next _ _ first).bind fun _ _ head => ih.bind fun _ _ tail => .ok (.cons head tail)

/-- What follows one computation on both sides. -/
theorem bind_same {lost : ε → Prop} {F : ε → ε → Prop} {x : Except ε α} {f : α → Except ε γ} {g : α → Except ε η}
    (reasons : ∀ e, F e e) (next : ∀ a, RelatedUnless lost F S (f a) (g a)) : RelatedUnless lost F S (x >>= f) (x >>= g) := by
  cases x with
  | error e => exact .error (reasons e)
  | ok a => exact next a

/-- Checks that refuse alike, and what comes after them. -/
theorem guard {c : Prop} [Decidable c] {e : ε} {d : δ} {f : PUnit → Except ε α} {g : PUnit → Except δ β}
    (reasons : E e d) (next : RelatedUnless lost E R (f ⟨⟩) (g ⟨⟩)) :
    RelatedUnless lost E R (if c then (Except.error e : Except ε PUnit) >>= f else f ⟨⟩)
      (if c then (Except.error d : Except δ PUnit) >>= g else g ⟨⟩) := by
  split
  · exact .error reasons
  · exact next

/-- Where nothing excuses a loss, both come to the same. -/
theorem related (both : RelatedUnless lost E R x y) (kept : ∀ d, ¬ lost d) : Related E R x y := by
  cases both with
  | both related => exact related
  | lost excused => exact absurd excused (kept _)

theorem returns_iff (both : RelatedUnless lost E R x y) : (x.Returns ↔ y.Returns) ∨ ∃ d, lost d ∧ y = .error d := by
  cases both with
  | both related => exact .inl related.returns_iff
  | lost excused => exact .inr ⟨_, excused, rfl⟩

theorem values_of_ok {a : α} {b : β} (both : RelatedUnless lost E R (.ok a) (.ok b)) : R a b := by
  cases both with
  | both related => exact related.values_of_ok

end RelatedUnless
end Except

namespace Option.Rel

variable {α β γ δ : Type} {R : α → β → Prop} {S : γ → δ → Prop} {x : Option α} {y : Option β}

theorem refl {R : α → α → Prop} (each : ∀ a, R a a) : ∀ o : Option α, Rel R o o
  | .none => .none
  | .some a => .some (each a)

theorem mono {T : α → β → Prop} (rel : Rel R x y) (implies : ∀ a b, R a b → T a b) : Rel T x y := by
  cases rel with
  | none => exact .none
  | some values => exact .some (implies _ _ values)

theorem map {f : α → γ} {g : β → δ} (rel : Rel R x y) (next : ∀ a b, R a b → S (f a) (g b)) :
    Rel S (x.map f) (y.map g) := by
  cases rel with
  | none => exact .none
  | some values => exact .some (next _ _ values)

theorem bind {f : α → Option γ} {g : β → Option δ} (rel : Rel R x y) (next : ∀ a b, R a b → Rel S (f a) (g b)) :
    Rel S (x.bind f) (y.bind g) := by
  cases rel with
  | none => exact .none
  | some values => exact next _ _ values

theorem or {v : Option α} {w : Option β} (first : Rel R x y) (second : Rel R v w) : Rel R (x.or v) (y.or w) := by
  cases first with
  | none => exact second
  | some values => exact .some values

end Option.Rel

namespace List.Forall₂

variable {α β γ : Type} {R : α → β → Prop} {as : List α} {bs : List β}

/-- What is read alike from related items is read alike from all of them. -/
theorem map_eq {f : α → γ} {g : β → γ} (each : List.Forall₂ R as bs) (read : ∀ a b, R a b → g b = f a) :
    bs.map g = as.map f := by
  induction each with
  | nil => rfl
  | cons first _ ih => rw [List.map_cons, List.map_cons, read _ _ first, ih]

theorem flatMap_eq {f : α → List γ} {g : β → List γ} (each : List.Forall₂ R as bs)
    (read : ∀ a b, R a b → g b = f a) :
    bs.flatMap g = as.flatMap f := by
  rw [List.flatMap_def, List.flatMap_def, each.map_eq read]

theorem isEmpty_eq (each : List.Forall₂ R as bs) : bs.isEmpty = as.isEmpty := by
  cases each <;> rfl

end List.Forall₂

namespace RecordSchema

/-- What is found under a key among related entries is related. -/
theorem lookup_related {κ α β : Type} [BEq κ] {R : α → β → Prop} {as : List (κ × α)} {bs : List (κ × β)}
    (each : List.Forall₂ (fun a b => b.1 = a.1 ∧ R a.2 b.2) as bs) (key : κ) :
    Option.Rel R (as.lookup key) (bs.lookup key) := by
  induction each with
  | nil => exact .none
  | @cons a b _ _ first _ ih =>
    obtain ⟨k, x⟩ := a
    obtain ⟨l, y⟩ := b
    obtain ⟨rfl, values⟩ : l = k ∧ R x y := first
    rw [List.lookup_cons, List.lookup_cons]
    split
    · exact .some values
    · exact ih

end RecordSchema
