import RecordSchema.Proofs.MeaningChange

/-! What schemas without references mean, with all combinators. A schema accepts a value if it meets every keyword, and
a keyword can refuse by a schema below it, so that acceptance goes down the schema rather than being built up from what
is accepted. Main definition: `Accepts`. Main statements: `accepts_map`, `accepts_rebuilt`. -/

namespace RecordSchema.Document
open Entries

/-- The keywords that apply schemas, without references. -/
def subschemaKeywords : List String := ["properties", "additionalProperties", "items", "anyOf", "oneOf", "allOf"]

/-- The keywords that documents without references are built from. -/
def vocabulary : List String :=
  subschemaKeywords ++ ["type", "enum", "minimum", "maximum", "exclusiveMinimum", "exclusiveMaximum", "minLength", "maxLength",
    "minItems", "maxItems", "minProperties", "maxProperties", "pattern", "required"] ++ notes

/-- The types that can stand under a keyword, one or several. -/
def typeNames : Value → List String
  | .list names => names.filterMap Value.str?
  | v => v.str?.toList

open Classical in
/-- A value meets a keyword of a schema, by what stands under it and by what the schemas there accept. -/
def Meets (accepts : Value → Value → Prop) (schema : Entries) (keyword : String) (under v : Value) : Prop :=
  match keyword with
  | "properties" => ∃ named, under = .map named ∧ ∀ entries, v.ownEntries? = some entries → ∀ name sub w,
      Entries.field? named name = some sub → entries.field? name = some w → accepts sub w
  | "additionalProperties" => ∀ entries, v.ownEntries? = some entries → ∀ e ∈ entries,
      ∀ name, e.1.str? = some name → ¬ Lists schema name → accepts under e.2
  | "items" => ∀ items, v.list? = some items → match under with
    | .list subs => ∀ pair ∈ subs.zip items, accepts pair.1 pair.2
    | sub => ∀ item ∈ items, accepts sub item
  | "anyOf" => ∃ subs, under = .list subs ∧ ∃ sub ∈ subs, accepts sub v
  | "oneOf" => ∃ subs, under = .list subs ∧ (subs.filter (accepts · v)).length = 1
  | "allOf" => ∃ subs, under = .list subs ∧ ∀ sub ∈ subs, accepts sub v
  | "type" => ∃ name ∈ typeNames under, name ∈ v.documentTypes
  | keyword => Asserts keyword under v

/-- A value stands right below a schema, also in a list of schemas. -/
def Beneath (schema : Entries) (w : Value) : Prop := ∃ e ∈ schema, w ∈ searched e.1 e.2

theorem Beneath.sizeOf_lt {schema : Entries} {w : Value} (beneath : Beneath schema w) : sizeOf w < sizeOf (Value.map schema) := by
  obtain ⟨e, member, inside⟩ := beneath
  obtain inside | ⟨items, inside, item⟩ := subvalue_of_searched inside
  · exact sizeOf_subvalue_lt member inside
  · have list := sizeOf_subvalue_lt member inside
    have smaller := List.sizeOf_lt_of_mem item
    rw [Value.list.sizeOf_spec] at list
    omega

/-- A schema without references accepts a value. -/
def Accepts (schema v : Value) : Prop :=
  match schema with
  | .bool anything => anything = true
  | .map entries => ∀ keyword under, Entries.field? entries keyword = some under →
      Meets (fun w u => ∃ _ : Beneath entries w, Accepts w u) entries keyword under v
  | _ => False
termination_by sizeOf schema
decreasing_by exact Beneath.sizeOf_lt ‹_›

section Meaning
variable {accepts other : Value → Value → Prop} {schema entries : Entries} {keyword : String} {under v : Value}

theorem not_accepts_list (items : List Value) (v : Value) : ¬ Accepts (.list items) v := by
  simp [Accepts]

/-- Whether a keyword is met depends on no other schemas than those that stand under it. -/
theorem meets_congr (agree : ∀ w, w ∈ searched (.str keyword) under ∨ (∃ items, w = .list items) → ∀ u, accepts w u ↔ other w u) :
    Meets accepts schema keyword under v ↔ Meets other schema keyword under v := by
  unfold Meets
  split
  · refine exists_congr fun named => and_congr_right fun map => ?_
    have inner {name : String} {sub : Value} (found : Entries.field? named name = some sub) (u : Value) : accepts sub u ↔ other sub u := by
      obtain ⟨e, member, -, rfl⟩ := mem_of_field? found
      refine agree e.2 (.inl ?_) u
      rw [map]
      exact List.mem_map_of_mem member
    constructor
    · exact fun each entries own name sub w found stands => (inner found w).mp (each entries own name sub w found stands)
    · exact fun each entries own name sub w found stands => (inner found w).mpr (each entries own name sub w found stands)
  · have whole (u : Value) : accepts under u ↔ other under u := by
      cases under with
      | list items => exact agree _ (.inr ⟨items, rfl⟩) u
      | _ => exact agree _ (.inl (List.mem_singleton_self _)) u
    simp only [whole]
  · cases under with
    | list subs =>
      refine forall_congr' fun items => imp_congr_right fun _ => forall_congr' fun pair => forall_congr' fun member => ?_
      exact agree pair.1 (.inl (List.of_mem_zip member).1) pair.2
    | _ =>
      have whole (u : Value) := agree _ (.inl (List.mem_singleton_self _)) u
      simp only [whole]
  · refine exists_congr fun subs => and_congr_right fun same => ?_
    subst same
    exact exists_congr fun sub => and_congr_right fun member => agree sub (.inl member) v
  · refine exists_congr fun subs => and_congr_right fun same => ?_
    subst same
    have each : ∀ sub ∈ subs, (accepts sub v ↔ other sub v) := fun sub member => agree sub (.inl member) v
    rw [List.filter_congr fun sub member => decide_eq_decide.mpr (each sub member)]
  · refine exists_congr fun subs => and_congr_right fun same => ?_
    subst same
    exact forall_congr' fun sub => forall_congr' fun member => agree sub (.inl member) v
  · rfl
  · rfl

theorem accepts_map : Accepts (.map schema) v ↔
    ∀ keyword under, schema.field? keyword = some under → Meets Accepts schema keyword under v := by
  rw [Accepts]
  refine forall_congr' fun keyword => forall_congr' fun under => forall_congr' fun found => meets_congr fun w place u => ?_
  obtain inside | ⟨items, rfl⟩ := place
  · obtain ⟨e, member, named, rfl⟩ := mem_of_field? found
    have beneath : Beneath schema w := ⟨e, member, by rw [searched_of_str? named]; exact inside⟩
    simp [beneath]
  · simp [not_accepts_list]

/-- A keyword that applies no schemas means the same wherever it stands. -/
theorem meets_plain (plain : keyword ∉ subschemaKeywords) :
    Meets accepts schema keyword under v ↔ Meets other entries keyword under v := by
  unfold Meets
  split
  case h_7 | h_8 => rfl
  all_goals exact absurd (by decide) plain

/-- Of the schema that it stands in, a keyword looks at nothing but the properties that are listed. -/
theorem meets_of_lists (lists : keyword = "additionalProperties" → ∀ name, Lists schema name ↔ Lists entries name) :
    Meets accepts schema keyword under v ↔ Meets accepts entries keyword under v := by
  unfold Meets
  split
  case h_2 => simp only [lists rfl]
  all_goals rfl

theorem ofKey?_of_plain (known : keyword ∈ vocabulary) (plain : keyword ∉ subschemaKeywords) :
    KeywordShape.ofKey? (.str keyword) = none := by
  revert keyword
  decide

theorem exists_rebuiltUnder_list {change : Entries → Entries} {key : Value} (shape : KeywordShape.ofKey? key = some .many)
    {P : List Value → Prop} :
    (∃ made, rebuiltUnder change key under = .list made ∧ P made) ↔ ∃ subs, under = .list subs ∧ P (subs.map (rebuilt change)) := by
  unfold rebuiltUnder
  rw [shape]
  cases under <;> simp

theorem exists_rebuiltUnder_map {change : Entries → Entries} {key : Value} (shape : KeywordShape.ofKey? key = some .named)
    {P : Entries → Prop} :
    (∃ made, rebuiltUnder change key under = .map made ∧ P made) ↔
      ∃ named, under = .map named ∧ P (List.map (fun e => (e.1, rebuilt change e.2)) named) := by
  unfold rebuiltUnder
  rw [shape]
  cases under <;> simp

/-- What is met after a walk through the schemas under a keyword is met before it. -/
theorem meets_rebuilt (change : Entries → Entries) (known : keyword ∈ vocabulary) :
    Meets accepts schema keyword (rebuiltUnder change (.str keyword) under) v ↔
      Meets (fun w u => accepts (rebuilt change w) u) schema keyword under v := by
  by_cases plain : keyword ∈ subschemaKeywords
  · simp only [subschemaKeywords, List.mem_cons, List.not_mem_nil, or_false] at plain
    obtain rfl | rfl | rfl | rfl | rfl | rfl := plain
    · refine (exists_rebuiltUnder_map rfl).trans (exists_congr fun named => and_congr_right fun _ => ?_)
      refine forall_congr' fun entries => imp_congr_right fun _ => forall_congr' fun name => ?_
      rw [field?_map (rebuilt change) named name]
      cases Entries.field? named name with
      | none => simp
      | some sub =>
        constructor
        · rintro each _ w ⟨⟩
          exact each _ w rfl
        · rintro each _ w ⟨⟩
          exact each _ w rfl
    · rfl
    · have single : rebuiltUnder change (.str "items") under = rebuilt change under := rfl
      unfold Meets
      refine forall_congr' fun items => imp_congr_right fun _ => ?_
      rw [single]
      cases under with
      | list subs =>
        simp only [rebuilt_list, List.zip_map_left]
        exact List.forall_mem_map
      | map entries => simp only [rebuilt_map]
      | _ => rfl
    · refine (exists_rebuiltUnder_list rfl).trans (exists_congr fun subs => and_congr_right fun _ => ?_)
      simp
    · refine (exists_rebuiltUnder_list rfl).trans (exists_congr fun subs => and_congr_right fun _ => ?_)
      rw [List.filter_map, List.length_map]
      rfl
    · refine (exists_rebuiltUnder_list rfl).trans (exists_congr fun subs => and_congr_right fun _ => ?_)
      exact List.forall_mem_map
  · rw [rebuiltUnder_of_unshaped (ofKey?_of_plain known plain)]
    exact meets_plain plain

/-- The schemas below a schema can be changed, if each accepts the same afterwards. -/
theorem accepts_rebuilt {change : Entries → Entries} (known : ∀ keyword under, schema.field? keyword = some under → keyword ∈ vocabulary)
    (below : ∀ w, Beneath schema w → ∀ u, Accepts (rebuilt change w) u ↔ Accepts w u) :
    Accepts (.map (rebuiltEntries change schema)) v ↔ Accepts (.map schema) v := by
  have each {keyword : String} {under : Value} (found : schema.field? keyword = some under) :
      Meets Accepts (rebuiltEntries change schema) keyword (rebuiltUnder change (.str keyword) under) v ↔
        Meets Accepts schema keyword under v := by
    rw [meets_rebuilt change (known keyword under found), meets_of_lists fun _ => lists_rebuilt change schema]
    refine meets_congr fun w place u => ?_
    obtain inside | ⟨items, rfl⟩ := place
    · obtain ⟨e, member, named, rfl⟩ := mem_of_field? found
      exact below w ⟨e, member, by rw [searched_of_str? named]; exact inside⟩ u
    · simp [rebuilt_list, not_accepts_list]
  rw [accepts_map, accepts_map]
  constructor
  · intro meets keyword under found
    refine (each found).mp (meets keyword _ ?_)
    rw [field?_rebuilt, found, Option.map_some]
  · intro meets keyword made found
    rw [field?_rebuilt] at found
    obtain ⟨under, stands, rfl⟩ := Option.map_eq_some_iff.mp found
    exact (each stands).mpr (meets keyword under stands)

end Meaning
end RecordSchema.Document
