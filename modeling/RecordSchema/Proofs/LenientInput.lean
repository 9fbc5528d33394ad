import RecordSchema.Proofs.Acceptance
import RecordSchema.Proofs.DataParts
import RecordSchema.Proofs.DataRounds
import RecordSchema.Validation.Verdict

/-! What a lenient schema reads of its input: the entries of its declared fields and nothing else. Hooks only ever see
what was read, so keys that are unknown or named like derived fields come to nothing, and so does the order of the
input. Main statement: `validate_reads_declared`. -/

namespace RecordSchema.Validation
open Proofs Proofs.Acceptance

/-- The same under the name of each of the fields: one value, or none. -/
def AgreeOn (fields : List Field) (left right : Entries) : Prop :=
  ∀ f ∈ fields, left.field? f.name.label = right.field? f.name.label

variable {catalogs : Catalogs} {rounds : Nat} {left right : Entries}

/-- The report on fields reads the fields in the order in which they are declared. -/
theorem fieldReport_congr {scope : Scope} {path : Path} {fields : List Field} (agree : AgreeOn fields left right) :
    fieldReport catalogs rounds scope path left fields = fieldReport catalogs rounds scope path right fields := by
  induction fields with
  | nil => rw [fieldReport, fieldReport]
  | cons f rest ih =>
    obtain ⟨here, others⟩ := List.forall_mem_cons.mp agree
    cases found : left.field? f.name.label with
    | some v => rw [fieldReport_present found, fieldReport_present (here.symm.trans found), ih others]
    | none => rw [fieldReport_absent found, fieldReport_absent (here.symm.trans found), ih others]

theorem unexpected_lenient {s : Schema} (lenient : s.strict = false) (path : Path) (entries : Entries) :
    unexpectedWith {} s path entries = .ok [] := by
  have nothing : unexpected s path entries = [] :=
    (unexpected_eq_nil s path entries).mpr fun strict => nomatch lenient.symm.trans strict
  rw [unexpectedWith_nothing, lenient, nothing]
  rfl

variable {s : Schema} (lenient : s.strict = false) (agree : AgreeOn s.regularFields left right)
include lenient agree

theorem fieldStages_congr {v w : Value} (ofLeft : v.mapping? = some left) (ofRight : w.mapping? = some right) (positive : rounds ≠ 0)
    (path : Path) (catalog : Option CatalogId) :
    fieldStages catalogs rounds s {} v path catalog = fieldStages catalogs rounds s {} w path catalog := by
  obtain ⟨m, spentLeft⟩ := DataRounds.roundsAfter_some (v := v) positive
  obtain ⟨n, spentRight⟩ := DataRounds.roundsAfter_some (v := w) positive
  have reported : fieldReport catalogs n ⟨some s, s.catalog.or catalog⟩ path left s.regularFields =
      fieldReport catalogs m ⟨some s, s.catalog.or catalog⟩ path left s.regularFields :=
    DataRounds.fieldReport_left ofLeft ofRight spentLeft spentRight fun f member u found => (agree f member).symm.trans found
  simp only [fieldStages, ofLeft, ofRight, spentLeft, spentRight, unexpected_lenient lenient, ← reported, fieldReport_congr agree]

/-- A run is told apart from another one by declared fields only, wherever in the data it takes place. -/
theorem run_congr {v w : Value} (ofLeft : v.mapping? = some left) (ofRight : w.mapping? = some right) (positive : rounds ≠ 0)
    (path : Path) (catalog : Option CatalogId) : run catalogs rounds s {} v path catalog = run catalogs rounds s {} w path catalog := by
  rw [run_eq_stages, run_eq_stages, fieldStages_congr lenient agree ofLeft ofRight positive]

/-- Two maps with the same entries for the declared fields of a lenient schema have the same verdict: the same data in
the same order, in the same container, or else the same violations in the same order. -/
theorem validate_reads_declared {d₁ d₂ : Value} (ofLeft : d₁.unfolded.entries? = some left)
    (ofRight : d₂.unfolded.entries? = some right) : validate catalogs s d₁ = validate catalogs s d₂ := by
  rw [validate, validate, run_congr lenient agree (Value.mapping?_of_entries ofLeft) (Value.mapping?_of_entries ofRight) (by decide)]

omit lenient agree

/-- Tells the names of all entries that it sees. -/
def listing : Hook :=
  ⟨fun v => (v, .success (.list ((v.entries?.getD []).map Prod.fst))), 1, "function", some "orders", some "list", some "list"⟩

/-- Orders, with the names of what the hook for derived fields was given. -/
def order : Schema where
  serial := 1
  name := "Order"
  fields := [
    { name := "article", type := .primitive .string [], required := true, default := none, description := .null,
      examples := [], derived := false, extra := [] },
    { name := "count", type := .primitive .integer [], required := false, default := none, description := .null,
      examples := [], derived := false, extra := [] },
    { name := "seen", type := .array (.primitive .any []) [], required := false, default := none, description := .null,
      examples := [], derived := true, extra := [] }]
  crossFieldHooks := []
  derivedHooks := [⟨"orders.list", .derived, listing, some (.text "seen"), false⟩]
  title := none
  description := none
  strict := false
  container := none
  catalog := none

/-- An order as it should be, and one in another sequence with a supplied derived field and an unknown key. -/
theorem order_reads_declared :
    order.strict = false ∧
    AgreeOn order.regularFields [(.str "article", .str "tea"), (.str "count", .int 2)]
      [(.str "seen", .null), (.str "count", .int 2), (.int 7, .null), (.str "article", .str "tea")] ∧
    (validate {} order (.map [(.str "article", .str "tea"), (.str "count", .int 2)]) =
      validate {} order (.map [(.str "seen", .null), (.str "count", .int 2), (.int 7, .null), (.str "article", .str "tea")])) ∧
    validate {} order (.map [(.str "article", .str "tea"), (.str "count", .int 2)]) =
      .ok (.accepted [(.str "article", .str "tea"), (.str "count", .int 2),
        (.str "seen", .list [.str "article", .str "count"])] none) := by
  have agree : AgreeOn order.regularFields [(.str "article", .str "tea"), (.str "count", .int 2)]
      [(.str "seen", .null), (.str "count", .int 2), (.int 7, .null), (.str "article", .str "tea")] :=
    List.forall_mem_cons.mpr ⟨rfl, List.forall_mem_cons.mpr ⟨rfl, List.forall_mem_nil _⟩⟩
  exact ⟨rfl, agree, validate_reads_declared rfl agree rfl rfl, by cbv⟩

end RecordSchema.Validation
