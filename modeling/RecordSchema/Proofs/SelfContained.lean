import Mathlib.Control.Traversable.Instances
import RecordSchema.Proofs.Conformance
import RecordSchema.Proofs.DocumentFailures
import RecordSchema.Proofs.LostReferences

/-! Schemas that need no catalog. Building looks at the references of one schema only, each as the schema itself
would resolve it; where all schemas around were built in this way, no reference is lost in validation or in documents.
Main statement: `references_never_lost`. -/

namespace RecordSchema
namespace Schema
open Validation Document Proofs.LostReferences

/-- A schema that was built without a catalog, as were the schemas that its references carry, at any depth. -/
inductive SelfContained : Schema → Prop where
  | intro {s : Schema} (built : s.IsBuilt) (alone : s.catalog = none) (carries : s.CarriesSchemas)
      (carried : ∀ name t, (name, some (.schema t)) ∈ s.references → SelfContained t) : SelfContained s

variable {s : Schema} {catalogs : Catalogs}

/-- Whatever catalog is around, a reference leads to a schema that is self-contained again. -/
theorem SelfContained.resolves (contained : s.SelfContained) {r : Name × Option Target} (member : r ∈ s.references)
    (catalogs : Catalogs) (catalog : Option CatalogId) :
    ∃ t, Scope.lookup? catalogs ⟨some s, catalog⟩ r.1 r.2 = some (.schema t) ∧ t.SelfContained := by
  have whole := contained
  obtain ⟨built, alone, carries, carried⟩ := contained
  obtain ⟨t, leads, inside⟩ := built.lookup?_alone alone carries member catalogs catalog
  refine ⟨t, leads, ?_⟩
  obtain rfl | mentioned := inside
  · exact whole
  · exact carried _ _ mentioned

/-- References lead from self-contained schemas to self-contained schemas. -/
theorem SelfContained.reaches (contained : s.SelfContained) {t : Schema} {catalog : Option CatalogId}
    (reached : Reaches catalogs s t catalog) : t.SelfContained := by
  induction reached with
  | self => exact contained
  | @next t u catalog r _ member resolved ih =>
    obtain ⟨v, leads, inside⟩ := ih.resolves member catalogs (t.catalog.or catalog)
    rw [resolved] at leads
    cases leads
    exact inside

theorem SelfContained.sparing (lost : OnLost) (catalogs : Catalogs) :
    Sparing lost catalogs fun t _ => t.SelfContained := by
  intro t around contained f inside r mentioned
  obtain ⟨u, leads, further⟩ := contained.resolves (mem_references.mpr ⟨f, inside, mentioned⟩) catalogs (t.catalog.or around)
  constructor
  case here =>
    intro none
    rw [leads] at none
    cases none
  case onward =>
    intro found v gaps resolved read
    rw [leads] at resolved
    cases resolved
    cases read
    exact further

/-- The schemas that get definitions are self-contained, too. -/
theorem SelfContained.leads (contained : s.SelfContained) {options : DocumentOptions} {name : String} {found : Target}
    (leads : LeadsFrom catalogs options s name found) : ∃ t, found = .schema t ∧ t.SelfContained := by
  obtain ⟨r, member, -, resolved⟩ := leads
  obtain ⟨t, own, inside⟩ := contained.resolves (s.shownReferences_subset options member) catalogs _
  rw [scopeOf, own] at resolved
  exact ⟨t, (Option.some.inj resolved).symm, inside⟩

theorem SelfContained.not_unresolved (contained : s.SelfContained) {options : DocumentOptions} {before : Draft} {shown : String} :
    ¬ Drafting.Fails (ofSchema catalogs options s) before (.reason (.unresolved shown)) := by
  intro failed
  obtain ⟨r, member, lost⟩ := ofSchema_unresolved failed
  obtain ⟨t, leads, -⟩ := contained.resolves (s.shownReferences_subset options member) catalogs _
  rw [scopeOf, leads] at lost
  cases lost

theorem SelfContained.generate_not_unresolved (contained : s.SelfContained) (options : DocumentOptions) (shown : String) :
    generate catalogs options s ≠ .error (.reason (.unresolved shown)) := by
  intro failed
  have onward : Onward catalogs options fun _ t => t.SelfContained := fun _ _ contained _ _ => contained.leads
  obtain failed | ⟨name, t, middle, inside, -, failed⟩ :=
    complete_fails_in onward (fun _ _ => contained.leads) (fun _ _ _ => ofSchema_grows) failed
  · exact contained.not_unresolved failed
  · exact inside.not_unresolved failed

/-- A self-contained schema loses no reference. All schemas that references lead to are self-contained and have their
references resolved; what validation would do at a lost reference makes no difference, and no document fails for one. -/
theorem references_never_lost (contained : s.SelfContained) (catalogs : Catalogs) :
    (∀ t catalog, Reaches catalogs s t catalog → ∀ r ∈ t.references,
      ∃ u, Scope.lookup? catalogs ⟨some t, t.catalog.or catalog⟩ r.1 r.2 = some (.schema u) ∧ u.SelfContained) ∧
    (∀ lost data, validateWith lost catalogs s data = validate catalogs s data) ∧
    ∀ options shown, generate catalogs options s ≠ .error (.reason (.unresolved shown)) := by
  refine ⟨?_, ?_, contained.generate_not_unresolved⟩
  · intro t catalog reached r member
    exact (contained.reaches reached).resolves member catalogs _
  · intro lost data
    exact validate_spared (SelfContained.sparing lost catalogs) contained data

/-- Locks, each of which can guard another one. -/
def lock : Schema where
  serial := 1
  name := "Lock"
  fields := [
    { name := "number", type := .primitive .integer [], required := true, default := none, description := .null, examples := [],
      derived := false, extra := [] },
    { name := "guards", type := .ref "Lock" none, required := false, default := none, description := .null, examples := [],
      derived := false, extra := [] }]
  crossFieldHooks := []
  derivedHooks := []
  title := none
  description := none
  strict := false
  container := none
  catalog := none

/-- Puts a lock on a crate. -/
def locking : Hook :=
  ⟨fun v => (v, .success (.map [(.str "number", .int 9)])), 1, "function", some "crates", some "close", some "close"⟩

/-- Definitions of a crate: the crates inside, and its locks by their places. -/
def crateDefinitions : Expr :=
  .list [
    .tuple [.str "inside", .tuple [.str "array", .tuple [.str "ref", .str "Crate"]]],
    .tuple [.str "locks", .tuple [.str "map", .str "string", .schema lock]]]

def crateOptions : SchemaOptions where
  name := "Crate"
  derivedFields := [.tuple [.str "closed", .schema lock, .hook locking]]

def crate : Schema where
  serial := 2
  name := "Crate"
  fields := [
    { name := "inside", type := .array (.ref "Crate" none) [], required := true, default := none, description := .null,
      examples := [], derived := false, extra := [] },
    { name := "locks", type := .map (.primitive .string []) (.ref "Lock" (some (.schema lock))) [], required := true,
      default := none, description := .null, examples := [], derived := false, extra := [] },
    { name := "closed", type := .ref "Lock" (some (.schema lock)), required := false, default := none, description := .null,
      examples := [], derived := true, extra := [] }]
  crossFieldHooks := []
  derivedHooks := [⟨"crates.close", .derived, locking, some (.text "closed"), false⟩]
  title := none
  description := none
  strict := false
  container := none
  catalog := none

theorem lock_selfContained : lock.SelfContained := by
  have assembly : Assembly {} {} 1
      (.list [.tuple [.str "number", .str "integer"],
        .tuple [.str "guards", .tuple [.str "ref", .str "Lock"], .map [(.str "optional", .data (.bool true))]]])
      { name := "Lock" } lock := ⟨_, lock.fields, [], [], rfl, by with_unfolding_all rfl, rfl, rfl, rfl⟩
  have references : lock.references = [(.text "Lock", none)] := rfl
  refine ⟨⟨_, _, _, _, _, assembly.build_eq rfl rfl rfl⟩, rfl, fun name target member => ?_, fun name t member => ?_⟩
  all_goals
    rw [references] at member
    simp at member

theorem crate_selfContained : crate.SelfContained := by
  have assembly : Assembly {} {} 2 crateDefinitions crateOptions crate :=
    ⟨_, crate.fields.take 2, [], (crate.fields.drop 2).zip crate.derivedHooks, rfl, by with_unfolding_all rfl, rfl,
      by with_unfolding_all rfl, by with_unfolding_all rfl⟩
  have references : crate.references =
      [(.text "Crate", none), (.text "Lock", some (.schema lock)), (.text "Lock", some (.schema lock))] := rfl
  refine ⟨⟨_, _, _, _, _, assembly.build_eq rfl rfl rfl⟩, rfl, fun name target member => ?_, fun name t member => ?_⟩
  · rw [references] at member
    obtain ⟨-, same⟩ : name = .text "Lock" ∧ target = .schema lock := by simpa using member
    exact ⟨lock, same⟩
  · rw [references] at member
    obtain ⟨-, rfl⟩ : name = .text "Lock" ∧ t = lock := by simpa using member
    exact lock_selfContained

/-- A crate in a crate, with a lock on a lock. -/
def crateData : Value :=
  .map [(.str "inside", .list [.map [(.str "inside", .list []), (.str "locks", .map [])]]),
    (.str "locks", .map [(.str "lid", .map [(.str "number", .int 1), (.str "guards", .map [(.str "number", .int 2)])])])]

/-- Validation of the crate never comes to where it would be broken off, and its documents find
every reference. -/
theorem crate_never_lost :
    crate.SelfContained ∧ (validateWith (fun _ _ _ => .error .wrongType) {} crate crateData).isOk = true ∧
      ∀ shown, generate {} { catalog := some 0 } crate ≠ .error (.reason (.unresolved shown)) := by
  obtain ⟨-, validated, described⟩ := references_never_lost crate_selfContained {}
  refine ⟨crate_selfContained, ?_, described _⟩
  rw [validated]
  cbv

end Schema
end RecordSchema
