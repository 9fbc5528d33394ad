import RecordSchema.Proofs.BuiltSchema
import RecordSchema.Proofs.ExpressionData
import RecordSchema.Proofs.Related

/-! The two forms of a derived field: a tuple that ends with options, and a record with a part for each of them. They mean
the same, except that only the tuple is refused for a name that is empty. Main statement: `build_tuple_iff_record`. -/

namespace RecordSchema

namespace DerivedDeclaration
open Declaration

/-- Whether an option is a constraint on the type. -/
def isConstraint (option : Expr × Expr) : Bool := (option.1.str?.bind ConstraintKind.ofName?).isSome

/-- Parts of a record for options about the field. -/
def partNames : List String := ["description", "examples", "extra"]

/-- Options that a record has parts for: a description, a list of examples, further keywords in a mapping, and constraints. -/
structure Recordable (given : List (Expr × Expr)) : Prop where
  known : ∀ option ∈ given, isConstraint option = true ∨ ∃ name ∈ partNames, option.1.str? = some name
  examples : ∀ e, fieldOf? given "examples" = some e → e.toValue.sequence?.isSome = true
  extra : ∀ e, fieldOf? given "extra" = some e → e.entries?.isSome = true

/-- The record for a derived field with the given options. -/
def record (name : String) (type hook : Expr) (given : List (Expr × Expr)) : Expr :=
  .derivedField name type hook ((fieldOf? given "description").getD .null) ((fieldOf? given "examples").getD (.tuple []))
    ((fieldOf? given "extra").getD (.map [])) (.map (given.filter isConstraint))

/-- Declarations of one field, however their examples and further keywords are written. -/
structure Agree (d e : DerivedDeclaration) : Prop where
  name : d.name = e.name
  type : d.type = e.type
  hook : d.hook = e.hook
  description : d.description = e.description
  examples : d.examples.toValue.elements? = e.examples.toValue.elements?
  extra : (optionEntries d.extra).map Expr.toEntries = (optionEntries e.extra).map Expr.toEntries
  constraints : d.constraints = e.constraints

theorem Agree.build_eq {d e : DerivedDeclaration} (agree : Agree d e) (modules : Modules) (schema : String) (namespaceOf : Expr)
    (position : Nat) : d.build modules schema namespaceOf position = e.build modules schema namespaceOf position := by
  unfold build
  rw [agree.name, agree.type, agree.hook, agree.description, agree.examples, agree.extra, agree.constraints]

section
variable {given : List (Expr × Expr)}

theorem not_constraint : ∀ name ∈ fieldOptions, ConstraintKind.ofName? name = none := by decide +kernel

theorem partNames_subset : partNames ⊆ fieldOptions := by decide

/-- An option about the field is no constraint. -/
theorem isConstraint_eq_false {option : Expr × Expr} {name : String} (about : name ∈ fieldOptions) (named : option.1.str? = some name) :
    isConstraint option = false := by
  rw [isConstraint, named, Option.bind_some, not_constraint name about]
  rfl

/-- A constraint is not about the field, and everything else is that a record has a part for. -/
theorem about_eq {option : Expr × Expr} (known : isConstraint option = true ∨ ∃ name ∈ partNames, option.1.str? = some name) :
    option.1.str?.any fieldOptions.contains = !isConstraint option := by
  obtain bound | ⟨part, listed, named⟩ := known
  · rw [bound]
    refine Bool.eq_false_iff.mpr fun about => ?_
    obtain ⟨name, named, listed⟩ := (Option.any_eq_true _ _).mp about
    exact absurd bound (by rw [isConstraint_eq_false (List.contains_iff_mem.mp listed) named]; exact Bool.false_ne_true)
  · have about := partNames_subset listed
    rw [isConstraint_eq_false about named, named]
    exact List.contains_iff_mem.mpr about

theorem optionEntries_of_entries {e : Expr} (maps : e.entries? = some given) : optionEntries e = .ok given := by
  unfold optionEntries
  rw [maps]

/-- Options sorted by whether they are constraints. -/
def sorted (given : List (Expr × Expr)) : Options :=
  { about := given.filter fun option => !isConstraint option, constraints := given.filter isConstraint }

theorem option?_sorted {name : String} (about : name ∈ fieldOptions) : (sorted given).option? name = fieldOf? given name := by
  unfold Options.option? sorted fieldOf?
  rw [List.find?_filter]
  congr 2
  funext option
  by_cases named : option.1.str? = some name
  · simp [named, isConstraint_eq_false about named]
  · simp [named]

namespace Recordable

/-- Nothing but constraints and what is about the field can be recorded. -/
theorem ofEntries_eq (recordable : Recordable given) (field : String) :
    Options.ofEntries field given = .ok (sorted given) := by
  -- Only the names count here; the other parts need not hold of the rest of the options.
  have known := recordable.known
  clear recordable
  induction given with
  | nil => rfl
  | cons option rest ih =>
    obtain ⟨key, e⟩ := option
    obtain ⟨here, others⟩ := List.forall_mem_cons.mp known
    have about := about_eq here
    have bounds : (key.str?.bind ConstraintKind.ofName?).isSome = isConstraint (key, e) := rfl
    rw [Options.ofEntries, ih others, about, bounds, sorted, sorted, List.filter_cons, List.filter_cons]
    cases isConstraint (key, e) <;> rfl

/-- Other options about a field are not given. -/
theorem fieldOf?_eq_none (recordable : Recordable given) {name : String} (about : name ∈ fieldOptions)
    (other : name ∉ partNames) : fieldOf? given name = none := by
  refine Option.map_eq_none_iff.mpr (List.find?_eq_none.mpr fun entry member named => ?_)
  have named : entry.1.str? = some name := of_decide_eq_true named
  obtain bound | ⟨part, known, same⟩ := recordable.known entry member
  · rw [isConstraint_eq_false about named] at bound
    cases bound
  · cases named.symm.trans same
    exact other known

theorem allowed (recordable : Recordable given) :
    forbiddenOptions.find? (fun o => ((sorted given).option? o).isSome) = none := by
  refine List.find?_eq_none.mpr fun name forbidden => ?_
  have about : name ∈ fieldOptions := (by decide : forbiddenOptions ⊆ fieldOptions) forbidden
  have other : name ∉ partNames := (by decide : ∀ name ∈ forbiddenOptions, name ∉ partNames) name forbidden
  rw [option?_sorted about, recordable.fieldOf?_eq_none about other]
  exact Bool.false_ne_true

/-- The examples of a list are those that a record gives. -/
theorem examples_eq (recordable : Recordable given) (field : String) :
    ∃ items, (sorted given).examples field = .ok items ∧
      ((fieldOf? given "examples").getD (.tuple [])).toValue.elements? = some items := by
  have single : (sorted given).option? "example" = none :=
    (option?_sorted (by decide)).trans (recordable.fieldOf?_eq_none (by decide) (by decide))
  rw [Options.examples, single, option?_sorted (by decide)]
  cases found : fieldOf? given "examples" with
  | none => exact ⟨[], rfl, rfl⟩
  | some e =>
    obtain ⟨items, listed⟩ := Option.isSome_iff_exists.mp (recordable.examples e found)
    refine ⟨items, ?_, ?_⟩
    · dsimp only
      rw [listed]
      rfl
    · unfold Value.sequence? at listed
      split at listed
      next same => cases listed; rw [Option.getD_some, same]; rfl
      next same => cases listed; rw [Option.getD_some, same]; rfl
      next => cases listed

/-- The further keywords are those that a record gives; an empty mapping gives none. -/
theorem extra_eq (recordable : Recordable given) (field : String) :
    ∃ entries, (sorted given).extra field = .ok entries ∧
      (optionEntries ((fieldOf? given "extra").getD (.map []))).map Expr.toEntries = .ok entries := by
  rw [Options.extra, option?_sorted (by decide)]
  cases found : fieldOf? given "extra" with
  | none => exact ⟨[], rfl, rfl⟩
  | some e =>
    obtain ⟨entries, maps⟩ := Option.isSome_iff_exists.mp (recordable.extra e found)
    refine ⟨Expr.toEntries entries, ?_, ?_⟩
    · dsimp only
      rw [Expr.entries?_toValue maps, Expr.isTrue_of_entries maps]
      cases entries <;> rfl
    · rw [Option.getD_some, optionEntries_of_entries maps]
      rfl

end Recordable

/-- A tuple with a name declares what the record does, at any position. -/
theorem ofExpr_agree (recordable : Recordable given) {options : Expr} (listed : options.entries? = some given) {name : String}
    (named : name ≠ "") (type hook : Expr) (position : Nat) :
    Except.Related Eq Agree (ofExpr position (.tuple [.str name, type, hook, options]))
      (ofExpr position (record name type hook given)) := by
  obtain ⟨items, examples, sameExamples⟩ := recordable.examples_eq name
  obtain ⟨entries, extra, sameExtra⟩ := recordable.extra_eq name
  have declared : ofExpr position (.tuple [.str name, type, hook, options]) = .ok
      { name, type, hook, description := (sorted given).description, examples := .tuple (Expr.ofValues items),
        extra := .map (Expr.ofEntries entries), constraints := .map (given.filter isConstraint) } := by
    show ofParts position (.str name) type hook (some options) = _
    unfold ofParts
    show (optionEntries options >>= _) = _
    rw [optionEntries_of_entries listed, Except.ok_bind]
    show (if name.isEmpty = true then _ else Options.ofEntries name given >>= _) = _
    rw [if_neg (by simpa using named), recordable.ofEntries_eq name, Except.ok_bind]
    dsimp only
    rw [recordable.allowed]
    show ((sorted given).examples name >>= _) = _
    rw [examples, Except.ok_bind]
    show ((sorted given).extra name >>= _) = _
    rw [extra]
    rfl
  rw [declared]
  refine .ok ⟨rfl, rfl, rfl, ?_, ?_, ?_, rfl⟩
  · show (((sorted given).option? "description").map Expr.toValue).getD .null =
      ((fieldOf? given "description").getD .null).toValue
    rw [option?_sorted (by decide)]
    cases fieldOf? given "description" <;> rfl
  · show some (Expr.toValues (Expr.ofValues items)) = _
    rw [Expr.toValues_ofValues]
    exact sameExamples.symm
  · show Except.ok (Expr.toEntries (Expr.ofEntries entries)) = _
    rw [Expr.toEntries_ofEntries]
    exact sameExtra.symm

/-- A tuple without a name declares nothing. -/
theorem ofExpr_nameless {options : Expr} (listed : options.entries? = some given) (type hook : Expr) (position : Nat) :
    ofExpr position (.tuple [.str "", type, hook, options]) = (DeclarationError.derivedName position (.str "")).raise := by
  show ofParts position (.str "") type hook (some options) = _
  unfold ofParts
  show (optionEntries options >>= _) = _
  rw [optionEntries_of_entries listed]
  rfl

end
end DerivedDeclaration

namespace Declaration

variable (modules : Modules) (schema : String) (namespaceOf : Expr) (before after : List Expr)

/-- A declaration can be replaced by one that agrees with it at every position. -/
theorem derivedFields_congr {e f : Expr}
    (agree : ∀ position,
      Except.Related Eq DerivedDeclaration.Agree (DerivedDeclaration.ofExpr position e) (DerivedDeclaration.ofExpr position f))
    (taken : List String) (position : Nat) :
    derivedFields modules schema namespaceOf taken position (before ++ e :: after) =
      derivedFields modules schema namespaceOf taken position (before ++ f :: after) := by
  induction before generalizing taken position with
  | nil =>
    rw [List.nil_append, List.nil_append, derivedFields, derivedFields]
    refine ((agree position).bind fun d d' same => ?_).eq
    rw [same.name, same.build_eq]
    exact .of_eq (fun _ => rfl) (fun _ => rfl) _
  | cons first rest ih =>
    rw [List.cons_append, List.cons_append, derivedFields, derivedFields]
    simp only [ih]

end Declaration

/-- The options with a derived field among others. -/
def SchemaOptions.declaring (options : SchemaOptions) (before : List Expr) (e : Expr) (after : List Expr) : SchemaOptions :=
  { options with derivedFields := before ++ e :: after }

namespace Schema
open DerivedDeclaration

variable (catalogs : Catalogs) (modules : Modules) (serial : Nat) (definitions : Expr) (options : SchemaOptions)
  (before after : List Expr) (name : String) (type hook : Expr)

/-- With a derived field as a tuple, a schema is built exactly if it is with the record in its place and the name is not empty,
and it is the same schema. Under a name that is not empty, both are also refused for the same reason. -/
theorem build_tuple_iff_record {given : List (Expr × Expr)} (recordable : Recordable given) {o : Expr}
    (listed : o.entries? = some given) :
    (∀ s, build catalogs modules serial definitions (options.declaring before (.tuple [.str name, type, hook, o]) after) = .ok s ↔
        name ≠ "" ∧
          build catalogs modules serial definitions (options.declaring before (record name type hook given) after) = .ok s) ∧
      (name ≠ "" →
        build catalogs modules serial definitions (options.declaring before (.tuple [.str name, type, hook, o]) after) =
          build catalogs modules serial definitions (options.declaring before (record name type hook given) after)) := by
  have same (named : name ≠ "") :
      build catalogs modules serial definitions (options.declaring before (.tuple [.str name, type, hook, o]) after) =
        build catalogs modules serial definitions (options.declaring before (record name type hook given) after) := by
    have agree := ofExpr_agree recordable listed named type hook
    simp only [build, SchemaOptions.declaring, Declaration.derivedFields_congr _ _ _ before after agree]
    rfl
  refine ⟨fun s => ⟨fun built => ?_, fun both => (same both.1).trans both.2⟩, same⟩
  -- Every declaration of a built schema was read, and this tuple cannot be.
  have named : name ≠ "" := by
    rintro rfl
    obtain ⟨_, ⟨assembly⟩, -⟩ := build_eq_ok built
    have placed : (.tuple [.str "", type, hook, o], 1 + before.length) ∈
        (before ++ .tuple [.str "", type, hook, o] :: after).zipIdx 1 := by
      rw [List.zipIdx_append, List.zipIdx_cons]
      exact List.mem_append_right _ List.mem_cons_self
    obtain ⟨-, -, d, read, -⟩ := (Declaration.derivedFields_declared assembly.readDerived).flip.exists_of_mem_right placed
    rw [ofExpr_nameless listed] at read
    cases read
  exact ⟨named, (same named).symm.trans built⟩

/-- Adds up what is in a basket. -/
def totalling : Hook := ⟨fun v => (v, .success (.int 0)), 1, "function", some "baskets", some "total", some "total"⟩

def totalOptions : List (Expr × Expr) :=
  [(.str "gteq", .data (.int 0)), (.str "description", .str "in cents"), (.str "examples", .list [.data (.int 250)]),
    (.str "extra", .map [(.str "unit", .str "cent")])]

theorem totalOptions_recordable : Recordable totalOptions where
  known := by decide +kernel
  examples e found := by
    have listed : fieldOf? totalOptions "examples" = some (.list [.data (.int 250)]) := by with_unfolding_all rfl
    cases listed.symm.trans found
    rfl
  extra e found := by
    have listed : fieldOf? totalOptions "extra" = some (.map [(.str "unit", .str "cent")]) := by with_unfolding_all rfl
    cases listed.symm.trans found
    rfl

def basket : Schema where
  serial := 0
  name := "Basket"
  fields := [
    { name := "total", type := .primitive .integer [⟨.atLeast, .int 0, .null⟩], required := false, default := none,
      description := .str "in cents", examples := [.int 250], derived := true, extra := [(.str "unit", .str "cent")] }]
  crossFieldHooks := []
  derivedHooks := [⟨"baskets.total", .derived, totalling, some (.text "total"), false⟩]
  title := none
  description := none
  strict := false
  container := none
  catalog := none

/-- The total of a basket is declared by a record, and just as well by a tuple. -/
theorem basket_either_way :
    build {} {} 0 (.list []) { name := "Basket", derivedFields := [record "total" (.str "integer") (.hook totalling) totalOptions] } =
      .ok basket ∧
    build {} {} 0 (.list [])
        { name := "Basket", derivedFields := [.tuple [.str "total", .str "integer", .hook totalling, .map totalOptions]] } =
      .ok basket := by
  have assembly : Assembly {} {} 0 (.list [])
      { name := "Basket", derivedFields := [record "total" (.str "integer") (.hook totalling) totalOptions] } basket :=
    ⟨[], [], [], basket.fields.zip basket.derivedHooks, rfl, rfl, rfl, by with_unfolding_all rfl, rfl⟩
  have recorded := assembly.build_eq rfl rfl rfl
  obtain ⟨agree, -⟩ := build_tuple_iff_record {} {} 0 (.list []) { name := "Basket" } [] [] "total" (.str "integer") (.hook totalling)
    totalOptions_recordable (rfl : (Expr.map totalOptions).entries? = _)
  exact ⟨recorded, (agree basket).mpr ⟨by decide, recorded⟩⟩

/-- A record without a name declares a field whose name is empty; a tuple is refused. -/
theorem unnamed_record :
    (∃ s, build {} {} 0 (.list []) { derivedFields := [record "" (.str "integer") (.hook totalling) []] } = .ok s ∧
      s.fields.map (·.name.label) = [""]) ∧
    build {} {} 0 (.list []) { derivedFields := [.tuple [.str "", .str "integer", .hook totalling, .map []]] } =
      (DeclarationError.derivedName 1 (.str "")).raise := by
  have assembly : Assembly {} {} 0 (.list []) { derivedFields := [record "" (.str "integer") (.hook totalling) []] } _ :=
    ⟨[], [], [], [({ name := "", type := .primitive .integer [], required := false, default := none, description := .null,
                     examples := [], derived := true, extra := [] },
                   ⟨"baskets.total", .derived, totalling, some (.text ""), false⟩)], rfl, rfl, rfl, by with_unfolding_all rfl, rfl⟩
  exact ⟨⟨_, assembly.build_eq rfl rfl rfl, rfl⟩, rfl⟩

end Schema
end RecordSchema
