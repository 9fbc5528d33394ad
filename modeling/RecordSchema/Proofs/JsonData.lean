import RecordSchema.Proofs.StrippedDocuments

/-! Data that a JSON text stands for: scalars, and lists and maps of such data. Main statement: `json_induction`. -/

namespace RecordSchema.Value
open Document

/-- In a map, no key stands twice. -/
def keysApart : Value → Bool
  | .map entries => decide (labels entries).Nodup
  | _ => true

/-- What holds of JSON scalars, and of lists and maps if of everything inside, holds of all JSON. -/
theorem json_induction {motive : (v : Value) → v.isJson = true → Prop}
    (scalar : ∀ v json, v.isScalar = true → motive v json)
    (list : ∀ items json, (∀ v ∈ items, ∃ inside, motive v inside) → motive (.list items) json)
    (map : ∀ entries json, (∀ e ∈ entries, (∃ name, e.1 = .str name) ∧ ∃ inside, motive e.2 inside) → motive (.map entries) json)
    (v : Value) (json : v.isJson = true) : motive v json := by
  induction size : sizeOf v using Nat.strongRecOn generalizing v with
  | _ n ih =>
    subst size
    cases v with
    | list items =>
      refine list items json fun v member => ⟨isJson_of_mem_list json v member, ih _ ?_ v _ rfl⟩
      have inside := List.sizeOf_lt_of_mem member
      simp only [Value.list.sizeOf_spec]
      omega
    | map entries =>
      refine map entries json fun e member => ?_
      obtain ⟨key, value⟩ := isJson_of_mem_map json e member
      refine ⟨key, value, ih _ ?_ e.2 value rfl⟩
      have inside := List.sizeOf_lt_of_mem member
      obtain ⟨_, _⟩ := e
      simp only [Prod.mk.sizeOf_spec, Value.map.sizeOf_spec] at inside ⊢
      omega
    | null | bool _ | int _ | float _ | str _ => exact scalar _ json rfl
    | _ => cases json

/-- The keys of a JSON map, where none stands twice. -/
theorem keyed_of_isJson {entries : Entries} (json : (Value.map entries).isJson = true)
    (apart : (Value.map entries).all keysApart = true) : Keyed entries := by
  rw [all, Bool.and_eq_true] at apart
  exact ⟨fun e member => (isJson_of_mem_map json e member).1, of_decide_eq_true apart.1⟩

end RecordSchema.Value
