import Mathlib.Data.List.Nodup
import Mathlib.Data.List.Perm.Subperm
import RecordSchema.Proofs.BuiltSchema

/-! Names of attributes. A label that is taken is tried again with a low line behind it, until it is free; this comes to
an end, since the tries are different. Main statement: `assign_names`. -/

namespace RecordSchema.ContainerClass

/-- A name with as many low lines behind it. -/
def attempt (name : String) : Nat → String
  | 0 => name
  | k + 1 => attempt (name ++ "_") k

/-- The first attempt at a name that is not taken. -/
def FirstFree (taken : List String) (name label : String) : Prop :=
  ∃ k, label = attempt name k ∧ attempt name k ∉ taken ∧ ∀ j < k, attempt name j ∈ taken

theorem length_attempt (name : String) (k : Nat) : (attempt name k).length = name.length + k := by
  induction k generalizing name with
  | zero => rfl
  | succ k ih =>
    rw [attempt, ih, String.length_append]
    change name.length + 1 + k = _
    omega

theorem attempt_injective (name : String) : Function.Injective (attempt name) := by
  intro j k same
  have lengths := congrArg String.length same
  rw [length_attempt, length_attempt] at lengths
  omega

/-- Among one more attempt than there are taken names, one is free. -/
theorem exists_free (taken : List String) (name : String) : ∃ k < taken.length + 1, attempt name k ∉ taken := by
  by_contra none
  push Not at none
  have different : ((List.range (taken.length + 1)).map (attempt name)).Nodup := .map (attempt_injective name) List.nodup_range
  have inside : (List.range (taken.length + 1)).map (attempt name) ⊆ taken :=
    List.forall_mem_map.mpr fun k below => none k (List.mem_range.mp below)
  have fits := different.length_le_of_subset inside
  rw [List.length_map, List.length_range] at fits
  omega

theorem firstFree_go {taken : List String} {fuel : Nat} {name : String} (free : ∃ k < fuel, attempt name k ∉ taken) :
    FirstFree taken name (freshName.go taken fuel name) := by
  induction fuel generalizing name with
  | zero =>
    obtain ⟨k, impossible, -⟩ := free
    exact absurd impossible k.not_lt_zero
  | succ fuel ih =>
    rw [freshName.go]
    by_cases known : name ∈ taken
    · rw [if_pos (List.contains_iff_mem.mpr known)]
      obtain ⟨k, below, untaken⟩ := free
      cases k with
      | zero => exact absurd known untaken
      | succ k =>
        -- the attempts that are left are those at the longer name, one fewer with each
        obtain ⟨m, same, fresh, earlier⟩ := ih ⟨k, Nat.lt_of_succ_lt_succ below, untaken⟩
        refine ⟨m + 1, same, fresh, fun j before => ?_⟩
        cases j with
        | zero => exact known
        | succ j => exact earlier j (Nat.lt_of_succ_lt_succ before)
    · rw [if_neg fun here => known (List.contains_iff_mem.mp here)]
      exact ⟨0, rfl, known, fun j impossible => absurd impossible j.not_lt_zero⟩

theorem firstFree_freshName (taken : List String) (name : String) : FirstFree taken name (freshName taken name) :=
  firstFree_go (exists_free taken name)

theorem FirstFree.congr {taken others : List String} {name label : String} (first : FirstFree taken name label)
    (same : ∀ l, l ∈ taken ↔ l ∈ others) : FirstFree others name label := by
  obtain ⟨k, here, free, earlier⟩ := first
  exact ⟨k, here, fun known => free ((same _).mpr known), fun j before => (same _).mp (earlier j before)⟩

theorem FirstFree.not_mem {taken : List String} {name label : String} (first : FirstFree taken name label) : label ∉ taken := by
  obtain ⟨k, rfl, free, -⟩ := first
  exact free

theorem assign_distinct (index : Nat) (taken : List String) (fields : List (Name × Value)) :
    ((assign index taken fields).map (·.label)).Nodup ∧ ∀ slot ∈ assign index taken fields, slot.label ∉ taken := by
  induction fields generalizing index taken with
  | nil => exact ⟨List.nodup_nil, List.forall_mem_nil _⟩
  | cons first rest ih =>
    exact Declaration.distinct_cons (fun slot : Slot => slot.label) (firstFree_freshName taken _).not_mem (ih _ _)

theorem assign_firstFree {index : Nat} {taken : List String} {fields : List (Name × Value)} {before after : List Slot} {slot : Slot}
    (split : assign index taken fields = before ++ slot :: after) :
    FirstFree (before.map (·.label) ++ taken) (labelFor slot.field.label (index + before.length)) slot.label := by
  induction before generalizing index taken fields with
  | nil =>
    cases fields with
    | nil => cases split
    | cons first rest =>
      obtain ⟨rfl, -⟩ := List.cons.inj split
      exact firstFree_freshName taken _
  | cons earlier before ih =>
    cases fields with
    | nil => cases split
    | cons first rest =>
      obtain ⟨rfl, remaining⟩ := List.cons.inj split
      have later := ih remaining
      rw [List.length_cons, show index + (before.length + 1) = index + 1 + before.length by omega]
      exact later.congr fun l => by simp [or_left_comm]

/-- Attributes for fields: in order, one for each, with the name of the field beside its label. The label is the first
free attempt at what stands for the name, so no two are the same. -/
structure Names (slots : List Slot) (names : List Name) : Prop where
  fields : slots.map (·.field) = names
  distinct : (slots.map (·.label)).Nodup
  firstFree : ∀ before slot after, slots = before ++ slot :: after →
    FirstFree (before.map (·.label)) (labelFor slot.field.label before.length) slot.label

theorem assign_names (fields : List (Name × Value)) : Names (assign 0 [] fields) (fields.map Prod.fst) where
  fields := assign_fields 0 [] fields
  distinct := (assign_distinct 0 [] fields).1
  firstFree before slot after split := by
    have first := assign_firstFree split
    rwa [List.append_nil, Nat.zero_add] at first

/-- What cannot be an attribute has a numbered label, and does not keep that label from a field of that name. -/
example : (assign 0 [] [("class", .null), ("field_0", .null), ("field_0_", .null)]).map (·.label) =
    ["field_0", "field_0_", "field_0__"] := by
  decide +kernel

end RecordSchema.ContainerClass
