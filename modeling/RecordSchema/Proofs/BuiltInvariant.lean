import RecordSchema.Proofs.FixedPoints
import RecordSchema.Proofs.SuppliedDefault

/-! What a built schema keeps of its declarations, and what holds of its fields ever after. Its types are well-formed as
far as the things are named that stand for schemas in the declarations: a thing without a name is let through. Main
statement: `build_keeps`. -/

namespace RecordSchema

/-! What declarations carry. -/

namespace Expr

mutual

theorem ofValue_carried : ∀ v : Value, (ofValue v).carried = []
  | .list items | .tuple items | .set items => by rw [ofValue, carried, ofValues_carried items]
  | .map entries | .view entries => by rw [ofValue, carried, ofEntries_carried entries]
  | .null | .bool _ | .int _ | .float _ | .nan _ | .str _ | .member _ | .bytes _ | .hostType _ | .violation _ | .record _ _
  | .foreign _ | .back _ | .ring _ _ => rfl

theorem ofValues_carried : ∀ vs : List Value, carriedOf (ofValues vs) = []
  | [] => rfl
  | v :: rest => by rw [ofValues, carriedOf, ofValue_carried v, ofValues_carried rest]; rfl

theorem ofEntries_carried : ∀ entries : List (Value × Value), carriedIn (ofEntries entries) = []
  | [] => rfl
  | (k, v) :: rest => by rw [ofEntries, carriedIn, ofValue_carried k, ofValue_carried v, ofEntries_carried rest]; rfl

end

theorem carriedOf_keys_subset : ∀ entries : List (Expr × Expr), carriedOf (entries.map Prod.fst) ⊆ carriedIn entries
  | [] => List.Subset.refl _
  | (_, _) :: rest => List.append_subset.mpr
      ⟨List.subset_append_of_subset_left _ (List.subset_append_left _ _),
        List.subset_append_of_subset_right _ (carriedOf_keys_subset rest)⟩

/-- What goes through an expression carries nothing that the expression does not. -/
theorem elements?_carried {e : Expr} {items : List Expr} (listed : e.elements? = some items) : carriedOf items ⊆ e.carried := by
  unfold elements? at listed
  split at listed
  · cases listed; exact List.Subset.refl _
  · cases listed; exact List.Subset.refl _
  · cases listed; exact List.Subset.refl _
  · cases listed; exact carriedOf_keys_subset _
  · cases listed; exact carriedOf_keys_subset _
  · obtain ⟨vs, -, rfl⟩ := Option.map_eq_some_iff.mp listed
    rw [ofValues_carried]
    exact List.nil_subset _

theorem sequence?_carried {e : Expr} {items : List Expr} (listed : e.sequence? = some items) : e.carried = carriedOf items := by
  unfold sequence? at listed
  split at listed
  · cases listed; rfl
  · cases listed; rfl
  · cases listed

mutual

/-- Nothing is carried but schemas and things with attributes. -/
theorem carried_form : ∀ e : Expr, ∀ thing ∈ e.carried,
    (∃ s, thing = .schema s) ∨ ∃ serial attributes, thing = .object serial attributes
  | .schema s => fun _ member => .inl ⟨s, List.mem_singleton.mp member⟩
  | .object serial attributes => fun _ member => .inr ⟨serial, attributes, List.mem_singleton.mp member⟩
  | .constrained base _ => carried_form base
  | .list items | .tuple items | .set items => carriedOf_form items
  | .map entries | .view entries => carriedIn_form entries
  | .derivedField _ declared _ _ _ _ _ => carried_form declared
  | .data _ | .type _ | .constraint _ | .catalog _ _ | .hook _ => List.forall_mem_nil _

theorem carriedOf_form : ∀ items : List Expr, ∀ thing ∈ carriedOf items,
    (∃ s, thing = .schema s) ∨ ∃ serial attributes, thing = .object serial attributes
  | [] => List.forall_mem_nil _
  | e :: rest => List.forall_mem_append.mpr ⟨carried_form e, carriedOf_form rest⟩

theorem carriedIn_form : ∀ entries : List (Expr × Expr), ∀ thing ∈ carriedIn entries,
    (∃ s, thing = .schema s) ∨ ∃ serial attributes, thing = .object serial attributes
  | [] => List.forall_mem_nil _
  | (key, e) :: rest => List.forall_mem_append.mpr
      ⟨List.forall_mem_append.mpr ⟨carried_form key, carried_form e⟩, carriedIn_form rest⟩

end

/-- Whatever is carried becomes a reference that carries it. -/
theorem carried_targets (e : Expr) : CarriesOnly (fun name target => name.label ≠ "" ∨ target.isSome = true) e.carried := by
  intro thing member name target read
  obtain ⟨s, rfl⟩ | ⟨serial, attributes, rfl⟩ := carried_form e thing member
  · cases read
    exact .inr rfl
  · unfold SchemaType.ofExpr at read
    split at read
    · cases read
      exact .inr rfl
    · cases read

end Expr

namespace SchemaType

/-- A type that is formed is well-formed in another sense just if its references are named so. -/
theorem FormedWith.iff_references {Named Other : Name → Option Target → Prop} {t : SchemaType} (formed : t.FormedWith Named) :
    t.FormedWith Other ↔ ∀ r ∈ t.references, Other r.1 r.2 := by
  induction formed with
  | primitive own => exact iff_of_true (.primitive own) (List.forall_mem_nil _)
  | array own _ ih => exact ⟨fun | .array _ inner => ih.mp inner, fun named => .array own (ih.mpr named)⟩
  | map own _ _ ofKey ofValue =>
    rw [references, List.forall_mem_append, ← ofKey, ← ofValue]
    exact ⟨fun | .map _ ofKey ofValue => ⟨ofKey, ofValue⟩, fun ⟨ofKey, ofValue⟩ => .map own ofKey ofValue⟩
  | union own inhabited _ ih =>
    refine ⟨fun | .union _ _ inner => fun r member => ?_, fun named => .union own inhabited fun t member => ?_⟩
    · obtain ⟨t, variant, inside⟩ := mem_referencesOf.mp member
      exact (ih t variant).mp (inner t variant) r inside
    · exact (ih t member).mpr fun r inside => named r (mem_referencesOf.mpr ⟨t, member, inside⟩)
  | ref _ =>
    rw [references, List.forall_mem_singleton]
    exact ⟨fun | .ref named => named, .ref⟩

end SchemaType

namespace Declaration

theorem parts_carried {position : Nat} {definition type : Expr} {name : Name} {given : List (Expr × Expr)}
    (read : parts position definition = .ok (name, type, given)) : type.carried ⊆ definition.carried := by
  unfold parts at read
  dsimp only at read
  split at read
  · next first second listed =>
    obtain ⟨_, -, same⟩ := Except.bind_eq_ok.mp read
    cases same
    rw [Expr.sequence?_carried listed]
    exact Expr.carried_subset (by simp)
  · next first second third listed =>
    obtain ⟨_, -, read⟩ := Except.bind_eq_ok.mp read
    rw [Expr.sequence?_carried listed]
    split at read
    · cases read; exact Expr.carried_subset (by simp)
    · cases read; exact Expr.carried_subset (by simp)
    · cases read
  · cases read

end Declaration

namespace DerivedDeclaration

theorem ofParts_type {position : Nat} {name type hook : Expr} {options : Option Expr} {d : DerivedDeclaration}
    (read : ofParts position name type hook options = .ok d) : d.type = type := by
  cases options
  all_goals
    obtain ⟨given, -, read⟩ := Except.bind_eq_ok.mp read
    split at read
    · cases read
    · obtain ⟨-, read⟩ := Except.guard_eq_ok.mp read
      obtain ⟨options, -, read⟩ := Except.bind_eq_ok.mp read
      split at read
      · cases read
      · obtain ⟨examples, -, read⟩ := Except.bind_eq_ok.mp read
        obtain ⟨extra, -, same⟩ := Except.bind_eq_ok.mp read
        cases same
        rfl

theorem ofExpr_carried {position : Nat} {e : Expr} {d : DerivedDeclaration} (read : ofExpr position e = .ok d) :
    d.type.carried ⊆ e.carried := by
  unfold ofExpr at read
  split at read
  · cases read
    exact List.Subset.refl _
  · split at read
    · next listed =>
      rw [ofParts_type read, Expr.sequence?_carried listed]
      exact Expr.carried_subset (by simp)
    · next listed =>
      rw [ofParts_type read, Expr.sequence?_carried listed]
      exact Expr.carried_subset (by simp)
    · cases read

end DerivedDeclaration

namespace Schema

/-- The type of a field is read from an expression in its declaration. -/
theorem Assembly.typed {catalogs : Catalogs} {modules : Modules} {serial : Nat} {definitions : Expr} {options : SchemaOptions}
    {s : Schema} (assembly : Assembly catalogs modules serial definitions options s) {f : Field} (member : f ∈ s.fields) :
    ∃ type constraints messages, type.carried ⊆ definitions.carried ++ Expr.carriedOf options.derivedFields ∧
      SchemaType.normalize type constraints messages = .ok f.type := by
  rw [assembly.fields_eq] at member
  obtain regular | derived := List.mem_append.mp member
  · obtain ⟨definition, inside, declares⟩ := (Declaration.fields_declared assembly.readFields).exists_of_mem_right regular
    obtain ⟨name, type, given, read, made, -⟩ := declares.made
    obtain ⟨constraints, messages, normalized⟩ := made.typed
    have within : definition.1.carried ⊆ definitions.carried :=
      List.Subset.trans (Expr.carried_subset (List.fst_mem_of_mem_zipIdx inside)) (Expr.elements?_carried assembly.listed)
    exact ⟨type, constraints, messages,
      List.subset_append_of_subset_left _ (List.Subset.trans (Declaration.parts_carried read) within), normalized⟩
  · obtain ⟨pair, computed, rfl⟩ := List.mem_map.mp derived
    obtain ⟨declaration, inside, d, read, built⟩ :=
      (Declaration.derivedFields_declared assembly.readDerived).exists_of_mem_right computed
    obtain ⟨constraints, messages, normalized⟩ := (Declaration.derivedField_made built).1.typed
    have within : declaration.1.carried ⊆ Expr.carriedOf options.derivedFields :=
      Expr.carried_subset (List.fst_mem_of_mem_zipIdx inside)
    exact ⟨d.type, constraints, messages,
      List.subset_append_of_subset_right _ (List.Subset.trans (DerivedDeclaration.ofExpr_carried read) within), normalized⟩

/-- What a schema keeps of the declarations and the options that built it. -/
structure Keeps (catalogs : Catalogs) (modules : Modules) (definitions : Expr) (options : SchemaOptions) (s : Schema) : Prop where
  distinct : (s.fields.map (·.name.label)).Nodup
  layout : s.fields = s.regularFields ++ s.derivedFields
  regular : ∃ items, definitions.elements? = some items ∧
    List.Forall₂ Declaration.Declares (items.zipIdx 1) s.regularFields
  derived : List.Forall₂ (Declaration.DeclaresDerived modules options.name options.hookNamespace)
    (options.derivedFields.zipIdx 1) (s.derivedFields.zip s.derivedHooks)
  hooked : s.derivedHooks.map (·.fieldName) = s.derivedFields.map fun f => some f.name
  computed : ∀ f ∈ s.derivedFields, f.required = false ∧ f.default = none
  apart : ∀ f ∈ s.fields, f.required = true → f.default = none
  /-- Types are well-formed, but that a reference need not have a name if it carries its target. -/
  formed : ∀ f ∈ s.fields, f.type.FormedWith fun name target => name.label ≠ "" ∨ target.isSome = true
  /-- All types are kept when they are read again just if every reference has a name. -/
  kept : (∀ f ∈ s.fields, SchemaType.normalize (.type f.type) = .ok f.type) ↔ ∀ r ∈ s.references, r.1.label ≠ ""
  /-- Every reference has a name if all that stands for a schema in the declarations has one. -/
  named : Expr.CarriesOnly (fun name _ => name.label ≠ "") (definitions.carried ++ Expr.carriedOf options.derivedFields) →
    ∀ r ∈ s.references, r.1.label ≠ ""
  defaults : ∀ f ∈ s.fields, ∀ v, f.default = some v →
    ∃ w, Validation.checkSingle catalogs f.type v (some s) = .ok ⟨w, []⟩
  resolved : ∀ r ∈ s.references,
    (Scope.lookup? catalogs ⟨some s, none⟩ r.1 r.2).isSome = true ∨ s.catalog.isSome = true

variable {catalogs : Catalogs} {modules : Modules} {serial : Nat} {definitions : Expr} {options : SchemaOptions}

/-- Whatever declarations and options build a schema, it keeps them. -/
theorem build_keeps {s : Schema} (built : build catalogs modules serial definitions options = .ok s) :
    s.Keeps catalogs modules definitions options := by
  have isBuilt : s.IsBuilt := ⟨_, _, _, _, _, built⟩
  obtain ⟨base, ⟨assembly⟩, references, -, same⟩ := build_eq_ok built
  have bare : s.bare = base.bare := by obtain rfl | ⟨layout, -, rfl⟩ := same <;> rfl
  have fields : s.fields = base.fields := congr_of_bare bare Schema.fields fun _ => rfl
  have regular : s.regularFields = assembly.regular :=
    (congr_of_bare bare regularFields fun _ => rfl).trans assembly.regularFields_eq
  have derived : s.derivedFields = assembly.derived.map Prod.fst :=
    (congr_of_bare bare derivedFields fun _ => rfl).trans assembly.derivedFields_eq
  have hooks : s.derivedHooks = assembly.derived.map Prod.snd :=
    (congr_of_bare bare derivedHooks fun _ => rfl).trans assembly.derivedHooks_eq
  have computed : ∀ f ∈ s.derivedFields, f.required = false ∧ f.default = none := by
    rw [derived]
    exact List.forall_mem_map.mpr fun pair member => (assembly.derived_made member).2.1.2
  have formed : ∀ f ∈ s.fields, f.type.FormedWith fun name target => name.label ≠ "" ∨ target.isSome = true := by
    intro f member
    rw [fields] at member
    obtain ⟨type, constraints, messages, -, read⟩ := assembly.typed member
    exact SchemaType.normalize_formed (fun _ _ => .inl) type.carried_targets read
  exact {
    distinct := isBuilt.distinct
    layout := isBuilt.parts.1
    regular := ⟨assembly.items, assembly.listed, regular ▸ Declaration.fields_declared assembly.readFields⟩
    derived := by
      rw [derived, hooks, ← List.unzip_fst, ← List.unzip_snd, List.zip_unzip]
      exact Declaration.derivedFields_declared assembly.readDerived
    hooked := isBuilt.parts.2
    computed := computed
    apart := fun f member => (isBuilt.sound f member).noDefault
    formed := formed
    kept := by
      refine ⟨fun kept r member => ?_, fun named f member => ?_⟩
      · obtain ⟨f, inside, mentioned⟩ := mem_references.mp member
        exact (formed f inside).iff_references.mp (SchemaType.normalize_type.mp (kept f inside)).2 r mentioned
      · refine SchemaType.normalize_type.mpr ⟨rfl, (formed f member).iff_references.mpr fun r mentioned => ?_⟩
        exact named r (mem_references.mpr ⟨f, member, mentioned⟩)
    named := by
      intro only r member
      obtain ⟨f, inside, mentioned⟩ := mem_references.mp member
      obtain ⟨type, constraints, messages, within, read⟩ := assembly.typed (fields ▸ inside)
      exact (formed f inside).iff_references.mp
        (SchemaType.normalize_formed (fun _ _ named => named) (only.mono within) read) r mentioned
    defaults := by
      intro f member v given
      rw [isBuilt.parts.1] at member
      obtain inside | inside := List.mem_append.mp member
      · obtain ⟨w, passes⟩ := Proofs.SuppliedDefault.default_passes built inside given
        exact ⟨w, passes Value.deepest (.inr rfl)⟩
      · rw [(computed f inside).2] at given
        cases given
    resolved := by
      intro r member
      have owned : s.catalog = base.catalog := congr_of_bare bare Schema.catalog fun _ => rfl
      have same : (Scope.lookup? catalogs ⟨some s, none⟩ r.1 r.2).map Target.bare =
          (Scope.lookup? catalogs ⟨some base, none⟩ r.1 r.2).map Target.bare := Proofs.RunRelocation.lookup?_bare bare none r.1 r.2
      have alike := congrArg Option.isSome same
      rw [Option.isSome_map, Option.isSome_map] at alike
      rw [alike, owned]
      exact requireReferences_eq_ok.mp references r (congr_of_bare bare Schema.references (fun _ => rfl) ▸ member) }

/-- Gives a book its label. -/
def labelling : Hook := ⟨fun v => (v, .success (.str "a book")), 1, "function", some "books", some "label", some "label"⟩

/-- Definitions of a book: an author, a sequel, and how many copies there are. -/
def bookDefinitions : Expr :=
  .list [
    .tuple [.str "author", .schema SchemaType.author, .map [(.str "default", .map [(.str "name", .str "unknown")])]],
    .tuple [.str "sequel", .tuple [.str "ref", .str "Book"], .map [(.str "optional", .data (.bool true))]],
    .tuple [.str "copies", .str "integer", .map [(.str "gteq", .data (.int 0))]]]

def bookOptions : SchemaOptions where
  name := "Book"
  derivedFields := [.tuple [.str "label", .str "string", .hook labelling]]

def book : Schema where
  serial := 2
  name := "Book"
  fields := [
    { name := "author", type := .ref "Author" (some (.schema SchemaType.author)), required := false,
      default := some (.map [(.str "name", .str "unknown")]), description := .null, examples := [], derived := false, extra := [] },
    { name := "sequel", type := .ref "Book" none, required := false, default := none, description := .null, examples := [],
      derived := false, extra := [] },
    { name := "copies", type := .primitive .integer [⟨.atLeast, .int 0, .null⟩], required := true, default := none,
      description := .null, examples := [], derived := false, extra := [] },
    { name := "label", type := .primitive .string [], required := false, default := none, description := .null, examples := [],
      derived := true, extra := [] }]
  crossFieldHooks := []
  derivedHooks := [⟨"books.label", .derived, labelling, some (.text "label"), false⟩]
  title := none
  description := none
  strict := false
  container := none
  catalog := none

theorem book_built : build {} {} 2 bookDefinitions bookOptions = .ok book := by
  have assembly : Assembly {} {} 2 bookDefinitions bookOptions book :=
    ⟨_, book.fields.take 3, [], (book.fields.drop 3).zip book.derivedHooks, rfl, by with_unfolding_all rfl, rfl,
      by with_unfolding_all rfl, by with_unfolding_all rfl⟩
  have defaults : book.requireDefaults {} book.regularFields = .ok () := by cbv
  exact assembly.build_eq rfl defaults rfl

/-- The definitions of a book and its label, with their types as they can be read again. -/
theorem book_keeps :
    build {} {} 2 bookDefinitions bookOptions = .ok book ∧ book.Keeps {} {} bookDefinitions bookOptions ∧
      ∀ f ∈ book.fields, SchemaType.normalize (.type f.type) = .ok f.type := by
  have keeps := build_keeps book_built
  have named : ∀ r ∈ book.references, r.1.label ≠ "" := by
    have references : book.references = [(.text "Author", some (.schema SchemaType.author)), (.text "Book", none)] := rfl
    rw [references]
    simp [Name.label]
  exact ⟨book_built, keeps, keeps.kept.mpr named⟩

/-- A thing with all that makes it look like a schema, but with a name that is empty. -/
def nameless : Lookalike.Attributes := [("name", .str ""), ("fields", .list []), ("derived_hooks", .list [])]

/-- A thing without a name is let through where a schema is expected, and makes a type that is refused when it is read again. -/
theorem nameless_unkept :
    ∃ s, build {} {} 1 (.list [.tuple [.str "owner", .object 1 nameless]]) { name := "R" } = .ok s ∧
      ∃ f ∈ s.fields, SchemaType.normalize (.type f.type) = NormalizeError.emptyReference.raise := by
  have assembly : Assembly {} {} 1 (.list [.tuple [.str "owner", .object 1 nameless]]) { name := "R" } _ :=
    ⟨_, [{ name := "owner", type := .ref "" ((Lookalike.target? 1 nameless).map Prod.snd), required := true, default := none,
           description := .null, examples := [], derived := false, extra := [] }], [], [], rfl,
      by with_unfolding_all rfl, rfl, rfl, rfl⟩
  exact ⟨_, assembly.build_eq rfl rfl rfl, _, List.mem_singleton_self _, by with_unfolding_all rfl⟩

end Schema
end RecordSchema
