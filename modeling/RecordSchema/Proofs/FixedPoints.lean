import RecordSchema.Proofs.BuiltSchema

/-! Types that reading gives back as they are. Options leave no schema without a name, so that whatever reading comes to
is well-formed and could be read again. Main statement: `normalize_fixedPoints`. -/

namespace RecordSchema

/-- What holds of a fallback and of all that a reader accepts holds of the option. -/
theorem Options.read_satisfies {α : Type} {P : α → Prop} {reader : Options.Reader α} {fallback : α}
    (known : P fallback) (accepted : ∀ e a, reader e = .ok a → P a) (given : Options.Given) (name : String) :
    P (Options.read given name reader fallback).1 := by
  unfold Options.read
  split
  next => exact known
  next e _ =>
    split
    next a read => exact accepted e a read
    next => exact known

theorem Options.settle_eq_ok {α : Type} {options o : α} {causes : List Cause} (settled : settle options causes = .ok o) :
    o = options := by
  unfold settle at settled
  split at settled
  · exact (Except.ok.inj settled).symm
  · cases settled

theorem Options.nonEmptyText_accepts (e : Expr) (s : String) (read : nonEmptyText e = .ok s) : s ≠ "" := by
  obtain ⟨text, -, read⟩ := Except.bind_eq_ok.mp read
  split at read
  · cases read
  next inhabited =>
    cases read
    exact fun nothing => inhabited (String.isEmpty_iff.mpr nothing)

namespace SchemaOptions

/-- Options that can be had: those that nothing is told of, a preset, what settings say, and any of these with others
given in their place. -/
inductive Obtained : SchemaOptions → Prop where
  | untold : Obtained {}
  | preset {name : String} {o : SchemaOptions} (known : preset? name = some o) : Obtained o
  | settings (settings : Settings) : Obtained (ofSettings settings)
  | override {base o : SchemaOptions} {given : Options.Given} (obtained : Obtained base)
      (read : base.override given = .ok o) : Obtained o

theorem preset?_name {name : String} {o : SchemaOptions} (known : preset? name = some o) : o.name = "Schema" := by
  unfold preset? at known
  split at known <;> cases known <;> rfl

theorem Obtained.named {o : SchemaOptions} (obtained : o.Obtained) : o.name ≠ "" := by
  induction obtained with
  | untold => decide
  | preset known => rw [preset?_name known]; decide
  | settings _ => exact (by decide : "Schema" ≠ "")
  | @override base o given _ read ih =>
    rw [Options.settle_eq_ok read]
    exact Options.read_satisfies (P := (· ≠ "")) ih Options.nonEmptyText_accepts given "name"

end SchemaOptions

namespace Schema

theorem build_name {catalogs : Catalogs} {modules : Modules} {serial : Nat} {definitions : Expr} {options : SchemaOptions}
    {s : Schema} (built : build catalogs modules serial definitions options = .ok s) : s.name = options.name := by
  obtain ⟨base, ⟨assembly⟩, -, -, same⟩ := build_eq_ok built
  have name : base.name = options.name := congrArg Schema.name assembly.assembled
  obtain rfl | ⟨layout, -, rfl⟩ := same <;> exact name

/-- Some declarations build the schema, with options that can be had. -/
def IsProduced (s : Schema) : Prop :=
  ∃ catalogs modules serial definitions options,
    options.Obtained ∧ build catalogs modules serial definitions options = .ok s

theorem IsProduced.named {s : Schema} (produced : s.IsProduced) : s.name ≠ "" := by
  obtain ⟨catalogs, modules, serial, definitions, options, obtained, built⟩ := produced
  rw [build_name built]
  exact obtained.named

end Schema

namespace SchemaType

/-- Whatever an expression comes to is well-formed, whichever way its constraints were added, and just the well-formed
types are read as themselves. -/
theorem normalize_fixedPoints :
    (∀ (e constraints messages : Expr) (t : SchemaType),
      (∀ thing ∈ e.carried, ∃ s : Schema, thing = .schema s ∧ s.IsProduced) →
      normalize e constraints messages = .ok t → t.WellFormed) ∧
    ∀ t u : SchemaType, normalize (.type t) = .ok u ↔ u = t ∧ t.WellFormed := by
  refine ⟨fun e constraints messages t produced made => normalize_formed (fun _ _ named => named) ?_ made,
    fun t u => normalize_type⟩
  intro thing member name target read
  obtain ⟨s, rfl, produced⟩ := produced thing member
  cases read
  exact produced.named

/-- An author, by name. -/
def author : Schema where
  serial := 1
  name := "Author"
  fields := [
    { name := "name", type := .primitive .string [], required := true, default := none, description := .null,
      examples := [], derived := false, extra := [] }]
  crossFieldHooks := []
  derivedHooks := []
  title := none
  description := none
  strict := false
  container := none
  catalog := none

theorem author_produced : author.IsProduced := by
  have assembly : Schema.Assembly {} {} 1 (.list [.tuple [.str "name", .str "string"]]) { name := "Author" } author :=
    ⟨_, author.fields, [], [], rfl, by with_unfolding_all rfl, rfl, rfl, rfl⟩
  have read : ({} : SchemaOptions).override [("name", .str "Author")] = .ok { name := "Author" } := by with_unfolding_all rfl
  exact ⟨_, _, _, _, _, .override .untold read, assembly.build_eq rfl rfl rfl⟩

/-- Authors by schema or by a short name: some, and at most five of them. -/
def authors : Expr :=
  .constrained
    (.tuple [.str "array",
      .tuple [.str "union", .list [.schema author, .tuple [.str "string", .map [(.str "max_length", .data (.int 8))]]]],
      .map [(.str "min_items", .data (.int 1))]])
    [("max_items", .data (.int 5))]

/-- Constraints are given by a tag, by keywords and beside the expression, where they get a message. -/
theorem authors_wellFormed :
    (∀ thing ∈ authors.carried, ∃ s : Schema, thing = .schema s ∧ s.IsProduced) ∧
    ∃ t, normalize authors (.map [(.str "max_items", .data (.int 3))]) (.map [(.str "max_items", .str "too many")]) = .ok t ∧
      t = .array
        (.union [.ref "Author" (some (.schema author)), .primitive .string [⟨.maxLength, .int 8, .null⟩]] [])
        [⟨.minItems, .int 1, .null⟩, ⟨.maxItems, .int 5, .str "too many"⟩, ⟨.maxItems, .int 3, .str "too many"⟩] ∧
      t.WellFormed := by
  have produced : ∀ thing ∈ authors.carried, ∃ s : Schema, thing = .schema s ∧ s.IsProduced :=
    fun thing member => ⟨author, List.mem_singleton.mp member, author_produced⟩
  have made : normalize authors (.map [(.str "max_items", .data (.int 3))]) (.map [(.str "max_items", .str "too many")]) =
      .ok (.array
        (.union [.ref "Author" (some (.schema author)), .primitive .string [⟨.maxLength, .int 8, .null⟩]] [])
        [⟨.minItems, .int 1, .null⟩, ⟨.maxItems, .int 5, .str "too many"⟩, ⟨.maxItems, .int 3, .str "too many"⟩]) := by
    with_unfolding_all rfl
  exact ⟨produced, _, made, rfl, normalize_fixedPoints.1 _ _ _ _ produced made⟩

end SchemaType
end RecordSchema
