import Mathlib.Data.List.Forall2
import RecordSchema.Proofs.DeeperResolution
import RecordSchema.Proofs.MeaningChange

/-! Documents up to the order of their keys. Schemas whose keywords agree one by one are the same in this sense, if the
schemas under their keywords are again. Main statements: `Related.reordered`, `reordered_of_simulation`. -/

namespace RecordSchema

/-- Values that are the same up to the order of keys, at any depth. -/
inductive Value.Reordered : Value → Value → Prop where
  | refl (v : Value) : Reordered v v
  | trans {u v w : Value} (first : Reordered u v) (second : Reordered v w) : Reordered u w
  | permuted {first second : Entries} (order : first.Perm second) : Reordered (.map first) (.map second)
  | list {first second : List Value} (each : List.Forall₂ Reordered first second) : Reordered (.list first) (.list second)
  | map {first second : Entries} (keys : first.keys = second.keys)
      (each : List.Forall₂ Reordered (first.map Prod.snd) (second.map Prod.snd)) : Reordered (.map first) (.map second)

namespace Document
open Entries

variable {C : Value → Value → Prop} {keyword : String} {schema other : Entries} {v w : Value}

section Under

variable (C keyword) in
/-- What stands under a keyword in two schemas: the schemas there are related one by one, and all else is the same. -/
inductive Under : Value → Value → Prop where
  | same {v : Value} (free : subvalues (.str keyword) v = []) : Under v v
  | single {v w : Value} (shape : KeywordShape.ofKeyword? keyword = some .single) (pair : C v w) : Under v w
  | many {vs ws : List Value} (shape : KeywordShape.ofKeyword? keyword = some .many) (pairs : List.Forall₂ C vs ws) :
      Under (.list vs) (.list ws)
  | named {es fs : Entries} (shape : KeywordShape.ofKeyword? keyword = some .named) (keys : es.keys = fs.keys)
      (pairs : List.Forall₂ C (es.map Prod.snd) (fs.map Prod.snd)) : Under (.map es) (.map fs)

theorem Under.flat (flat : KeywordShape.ofKeyword? keyword = none) (v : Value) : Under C keyword v v :=
  .same (subvalues_eq_nil rfl flat v)

theorem Under.eq_of_flat (flat : KeywordShape.ofKeyword? keyword = none) (under : Under C keyword v w) : v = w := by
  cases under with
  | same => rfl
  | single shape | many shape | named shape =>
    rw [flat] at shape
    cases shape

/-- What stands under a keyword agrees with itself, if each schema there is related to itself. -/
theorem Under.self (each : ∀ u ∈ subvalues (.str keyword) v, C u u) : Under C keyword v v := by
  have key : KeywordShape.ofKey? (.str keyword) = KeywordShape.ofKeyword? keyword := rfl
  have same (free : subvalues (.str keyword) v = []) : Under C keyword v v := .same free
  unfold subvalues at each same
  rw [key] at each same
  generalize shape : KeywordShape.ofKeyword? keyword = found at each same
  rcases found with _ | _ | _ | _
  · exact same rfl
  · exact .single shape (each v (List.mem_singleton_self v))
  · cases v with
    | list items => exact .many shape (List.forall₂_same.mpr each)
    | _ => exact same rfl
  · cases v with
    | map entries => exact .named shape rfl (List.forall₂_same.mpr each)
    | _ => exact same rfl

/-- What stands under a keyword is the same if the schemas there are. -/
theorem Under.eq (under : Under Eq keyword v w) : v = w := by
  cases under with
  | same => rfl
  | single _ pair => exact pair
  | many _ pairs =>
    rw [List.forall₂_eq_eq_eq] at pairs
    rw [pairs]
  | named _ keys pairs =>
    rw [List.forall₂_eq_eq_eq] at pairs
    exact congrArg Value.map ((List.zip_of_prod keys pairs).trans (List.zip_of_prod rfl rfl).symm)

/-- What two pairs of walks make of what stands under a keyword is related, if it is for each schema there. -/
theorem under_rebuilt {first second third fourth : Entries → Entries}
    (each : ∀ u ∈ subvalues (.str keyword) v, C (rebuilt second (rebuilt first u)) (rebuilt fourth (rebuilt third u))) :
    Under C keyword (rebuiltUnder second (.str keyword) (rebuiltUnder first (.str keyword) v))
      (rebuiltUnder fourth (.str keyword) (rebuiltUnder third (.str keyword) v)) := by
  have key : KeywordShape.ofKey? (.str keyword) = KeywordShape.ofKeyword? keyword := rfl
  have same (free : subvalues (.str keyword) v = []) (still : ∀ plain, rebuiltUnder plain (.str keyword) v = v) :
      Under C keyword (rebuiltUnder second (.str keyword) (rebuiltUnder first (.str keyword) v))
        (rebuiltUnder fourth (.str keyword) (rebuiltUnder third (.str keyword) v)) := by
    rw [still, still, still, still]
    exact .same free
  unfold subvalues at each same
  unfold rebuiltUnder at same ⊢
  rw [key] at each same ⊢
  generalize shape : KeywordShape.ofKeyword? keyword = found at each same
  rcases found with _ | _ | _ | _
  · exact same rfl fun _ => rfl
  · exact .single shape (each v (List.mem_singleton_self v))
  · cases v with
    | list items =>
      refine .many shape ?_
      simp only [List.map_map, List.forall₂_map_left_iff, List.forall₂_map_right_iff, List.forall₂_same]
      exact each
    | _ => exact same rfl fun _ => rfl
  · cases v with
    | map entries =>
      refine .named shape ?_ ?_
      · simp only [keys, List.map_map]
        rfl
      · simp only [List.map_map, List.forall₂_map_left_iff, List.forall₂_map_right_iff, List.forall₂_same]
        exact fun e member => each e.2 (List.mem_map_of_mem member)
    | _ => exact same rfl fun _ => rfl

/-- Where a walk leads from the schemas under a keyword, it leads from what stands there. -/
theorem Under.of_rebuilt {plain : Entries → Entries} (graph : ∀ u made, C u made → made = rebuilt plain u)
    (under : Under C keyword v w) : w = rebuiltUnder plain (.str keyword) v := by
  have key : KeywordShape.ofKey? (.str keyword) = KeywordShape.ofKeyword? keyword := rfl
  have values {vs ws : List Value} (pairs : List.Forall₂ C vs ws) : ws = vs.map (rebuilt plain) := by
    induction pairs with
    | nil => rfl
    | cons pair _ ih => rw [graph _ _ pair, ih, List.map_cons]
  unfold rebuiltUnder
  rw [key]
  cases under with
  | same free =>
    unfold subvalues at free
    rw [key] at free
    generalize KeywordShape.ofKeyword? keyword = found at free
    rcases found with _ | _ | _ | _
    · rfl
    · cases free
    · cases v with
      | list items =>
        cases free
        rfl
      | _ => rfl
    · cases v with
      | map entries =>
        cases List.map_eq_nil_iff.mp free
        rfl
      | _ => rfl
  | single shape pair =>
    rw [shape]
    exact graph _ _ pair
  | many shape pairs =>
    rw [shape]
    exact congrArg Value.list (values pairs)
  | named shape keys pairs =>
    rw [shape]
    refine congrArg Value.map ?_
    have values := values pairs
    rw [List.map_map] at values
    rw [List.zip_of_prod keys.symm values]
    exact (List.zip_of_prod (by rw [List.map_map]; rfl) (by rw [List.map_map]; rfl)).symm

/-- What stands under a keyword is the same up to the order of keys, if the schemas there are. -/
theorem Under.reordered (under : Under C keyword v w)
    (below : ∀ u ∈ subvalues (.str keyword) v, ∀ w, C u w → u.Reordered w) : v.Reordered w := by
  have key : KeywordShape.ofKey? (.str keyword) = KeywordShape.ofKeyword? keyword := rfl
  unfold subvalues at below
  rw [key] at below
  cases under with
  | same => exact .refl v
  | single shape pair =>
    rw [shape] at below
    exact below v (List.mem_singleton_self v) w pair
  | many shape pairs =>
    rw [shape] at below
    exact .list (((List.forall₂_and_left _ _).mpr ⟨below, pairs⟩).imp fun _ w each => each.1 w each.2)
  | named shape keys pairs =>
    rw [shape] at below
    exact .map keys (((List.forall₂_and_left _ _).mpr ⟨below, pairs⟩).imp fun _ w each => each.1 w each.2)

end Under

section Related

variable (C schema other) in
/-- Two schemas have the same keywords, and what stands under each agrees. -/
structure Related : Prop where
  first : Keyed schema
  second : Keyed other
  fields : ∀ keyword, Option.Rel (Under C keyword) (schema.field? keyword) (other.field? keyword)

theorem Related.field? (related : Related C schema other) (keyword : String) :
    schema.field? keyword = none ∧ other.field? keyword = none ∨
      ∃ v w, schema.field? keyword = some v ∧ other.field? keyword = some w ∧ Under C keyword v w := by
  have fields := related.fields keyword
  generalize schema.field? keyword = one at fields
  generalize other.field? keyword = two at fields
  cases fields with
  | none => exact .inl ⟨rfl, rfl⟩
  | some under => exact .inr ⟨_, _, rfl, rfl, under⟩

theorem Related.hasField (related : Related C schema other) (keyword : String) : schema.hasField keyword = other.hasField keyword := by
  unfold Entries.hasField
  obtain ⟨left, right⟩ | ⟨v, w, left, right, -⟩ := related.field? keyword
  · rw [left, right]
  · rw [left, right, Option.isSome_some, Option.isSome_some]

theorem Related.field?_flat (related : Related C schema other) (flat : KeywordShape.ofKeyword? keyword = none) :
    schema.field? keyword = other.field? keyword := by
  obtain ⟨left, right⟩ | ⟨v, w, left, right, under⟩ := related.field? keyword
  · rw [left, right]
  · rw [left, right, under.eq_of_flat flat]

/-- The fields of a schema with some names, in the order of the names. -/
def listed (names : List String) (schema : Entries) : Entries :=
  names.map fun name => (.str name, (schema.field? name).getD .null)

theorem Keyed.eq_listed (keyed : Keyed schema) : schema = listed (labels schema) schema := by
  induction schema with
  | nil => rfl
  | cons e rest ih =>
    obtain ⟨key, v⟩ := e
    obtain ⟨name, rfl⟩ := keyed.text (key, v) List.mem_cons_self
    have later : listed (labels rest) ((.str name, v) :: rest) = listed (labels rest) rest := by
      refine List.map_congr_left fun other member => ?_
      have apart : ¬ (Value.str name).str? = some other := by
        rintro ⟨⟩
        exact keyed.fresh member
      rw [Entries.field?, if_neg apart]
    have here : Entries.field? ((.str name, v) :: rest) name = some v := if_pos rfl
    show _ = (.str name, (Entries.field? ((.str name, v) :: rest) name).getD .null) :: listed (labels rest) ((.str name, v) :: rest)
    rw [later, ← ih keyed.tail, here]
    rfl

/-- Schemas that agree are the same up to the order of keys, if the schemas below them that are related are. -/
theorem Related.reordered (related : Related C schema other)
    (below : ∀ e ∈ schema, ∀ u ∈ subvalues e.1 e.2, ∀ w, C u w → u.Reordered w) :
    (Value.map schema).Reordered (.map other) := by
  have order : (labels schema).Perm (labels other) := by
    refine (List.perm_ext_iff_of_nodup related.first.distinct related.second.distinct).mpr fun name => ?_
    rw [mem_labels, mem_labels, related.hasField]
  -- the fields of the one schema in the order of the other
  have same : schema.Perm (listed (labels other) schema) := by
    nth_rewrite 1 [related.first.eq_listed]
    exact order.map _
  have each : (Value.map (listed (labels other) schema)).Reordered (.map (listed (labels other) other)) := by
    refine .map (by simp only [keys, listed, List.map_map]; rfl) ?_
    simp only [listed, List.map_map, List.forall₂_map_left_iff, List.forall₂_map_right_iff, List.forall₂_same]
    intro name member
    dsimp only [Function.comp]
    obtain ⟨left, right⟩ | ⟨v, w, left, right, under⟩ := related.field? name
    · rw [left, right]
      exact .refl _
    · rw [left, right]
      refine under.reordered fun u inside => ?_
      obtain ⟨e, stands, named, rfl⟩ := mem_of_field? left
      exact below e stands u (by rw [subvalues_of_str? named]; exact inside)
  rw [← related.second.eq_listed] at each
  exact .trans (.permuted same) each

end Related

/-- A relation that holds between schemas only if they agree, and of what stands below them then, is one between values
that are the same up to the order of keys. -/
theorem reordered_of_simulation (agree : ∀ v w, C v w → v = w ∨ ∃ schema other, v = .map schema ∧ w = .map other ∧ Related C schema other)
    (pair : C v w) : v.Reordered w := by
  induction v using descend generalizing w with
  | map schema below =>
    obtain rfl | ⟨_, other, same, rfl, related⟩ := agree _ _ pair
    · exact .refl _
    · cases same
      exact related.reordered fun e member u inside w pair => below e member u inside pair
  | list items _ =>
    obtain rfl | ⟨_, _, same, _⟩ := agree _ _ pair
    · exact .refl _
    · cases same
  | leaf v noMap _ =>
    obtain rfl | ⟨schema, _, same, _⟩ := agree _ _ pair
    · exact .refl _
    · exact absurd same (noMap schema)

end Document
end RecordSchema
