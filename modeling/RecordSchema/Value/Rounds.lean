import RecordSchema.Value.Ring

/-! Going through data, part by part. What has an end is done with when its parts, which are smaller,
are done with. What holds itself has no smallest part, so the rounds through it are counted. -/

namespace RecordSchema.Value

/-- The rounds that are left for the parts of a value. A value that has an end takes none. -/
def roundsAfter (v : Value) (rounds : Nat) : Option Nat :=
  if v.hasEnd then some rounds else if rounds = 0 then none else some (rounds - 1)

/-- What is to be gone through of data of some size. -/
def work (rounds : Nat) (ends : Bool) (size : Nat) : Nat × Nat :=
  if ends then (0, size) else (rounds + 1, 0)

theorem unfolded_of_hasEnd {v : Value} (ends : v.hasEnd = true) : v.unfolded = v := by
  cases v with
  | ring => simp [hasEnd, all] at ends
  | _ => rfl

theorem roundsAfter_of_hasEnd {v : Value} (ends : v.hasEnd = true) (rounds : Nat) : v.roundsAfter rounds = some rounds := if_pos ends

section Parts
variable {v w : Value} {items rest : List Value} {entries others : Entries}

/-- The items of a value that has an end have one, too, and are smaller. -/
theorem items?_smaller (found : v.items? = some items) (ends : v.hasEnd = true) :
    (list items).hasEnd = true ∧ sizeOf items < sizeOf v := by
  rw [items?, unfolded_of_hasEnd ends] at found
  cases v with
  | list _ | tuple _ =>
    cases found
    exact ⟨ends, by simp⟩
  | _ => cases found

/-- The entries of a value that has an end have one, too, and are smaller. -/
theorem mapping?_smaller (found : v.mapping? = some entries) (ends : v.hasEnd = true) :
    (map entries).hasEnd = true ∧ sizeOf entries < sizeOf v := by
  rw [mapping?, unfolded_of_hasEnd ends] at found
  cases v with
  | map _ | view _ =>
    cases found
    exact ⟨ends, by simp⟩
  | _ => cases found

theorem hasEnd_cons (ends : (list (v :: rest)).hasEnd = true) : v.hasEnd = true ∧ (list rest).hasEnd = true := by
  simpa [hasEnd, all, allItems] using ends

theorem hasEnd_entry (ends : (map ((v, w) :: others)).hasEnd = true) :
    v.hasEnd = true ∧ w.hasEnd = true ∧ (map others).hasEnd = true := by
  simpa [hasEnd, all, allEntries, and_assoc] using ends

end Parts

section Work
variable {rounds left m n : Nat} {part whole : Bool} {α : Type} {r : α → α → Prop} {x y : α}

/-- A part is no more work than the whole. -/
theorem work_part (kept : whole = true → part = true ∧ m ≤ n) (less : r x y) :
    Prod.Lex (Prod.Lex (· < ·) (· < ·)) r (work rounds part m, x) (work rounds whole n, y) := by
  cases whole with
  | true =>
    obtain ⟨rfl, smaller⟩ := kept rfl
    obtain rfl | smaller := Nat.eq_or_lt_of_le smaller
    · exact .right _ less
    · exact .left _ _ (.right _ smaller)
  | false =>
    cases part with
    | true => exact .left _ _ (.left _ _ (Nat.succ_pos _))
    | false => exact .right _ less

/-- A round makes less work. -/
theorem work_round {v : Value} (spent : v.roundsAfter rounds = some left)
    (kept : v.hasEnd = true → part = true ∧ m < sizeOf v) :
    Prod.Lex (· < ·) (· < ·) (work left part m) (work rounds v.hasEnd (sizeOf v)) := by
  cases ends : v.hasEnd with
  | true =>
    obtain ⟨rfl, smaller⟩ := kept ends
    exact .right _ smaller
  | false =>
    rw [roundsAfter, ends] at spent
    obtain ⟨some, rfl⟩ : rounds ≠ 0 ∧ rounds - 1 = left := by simpa using spent
    cases part with
    | true => exact .left _ _ (Nat.succ_pos _)
    | false => exact .left _ _ (show rounds - 1 + 1 < rounds + 1 by omega)

end Work

end RecordSchema.Value
