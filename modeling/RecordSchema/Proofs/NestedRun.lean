import Mathlib.Control.Traversable.Instances
import Mathlib.Data.List.Permutation
import RecordSchema.Proofs.BuiltSchema
import RecordSchema.Proofs.RunRelocation

/-! Where a built schema is checked inside of other data. Building leaves no reference that only the
surroundings could resolve, so the run is the one that the schema would have alone, up to the path
before its violations. -/

namespace RecordSchema.Proofs.NestedRun
open Validation RunRelocation

/-- The catalogs around a schema may differ if it has its own, or if it is well built. -/
def Alike (s : Schema) (c₁ c₂ : Option CatalogId) : Prop := s.catalog.or c₁ = s.catalog.or c₂ ∨ s.WellBuilt

variable {catalogs : Catalogs}

theorem lookup?_closed {s : Schema} {c₁ c₂ : Option CatalogId} {r : Name × Option Target}
    (closed : r.2.isSome ∨ s.name = r.1.label) :
    Scope.lookup? catalogs ⟨some s, c₁⟩ r.1 r.2 = Scope.lookup? catalogs ⟨some s, c₂⟩ r.1 r.2 := by
  obtain ⟨name, target⟩ := r
  cases target with
  | some target => rfl
  | none =>
    obtain impossible | own := closed
    · cases impossible
    · simp only [Scope.lookup?, Scope.named?, if_pos own]

/-- What a well built schema refers to is the schema itself or carried by it, so well built again. -/
theorem wellBuilt_of_lookup? {s : Schema} (built : s.WellBuilt) (alone : s.catalog = none) {c : Option CatalogId}
    {r : Name × Option Target} (member : r ∈ s.references) {found : Target} {t : Schema} {gaps : Gaps}
    (resolved : Scope.lookup? catalogs ⟨some s, c⟩ r.1 r.2 = some found) (read : found.forRun = .ok (t, gaps)) :
    t.WellBuilt := by
  have whole := built
  obtain ⟨isBuilt, carriesSchemas, carried⟩ := built
  obtain ⟨u, leads, inside⟩ := isBuilt.lookup?_alone alone carriesSchemas member catalogs c
  rw [resolved] at leads
  cases leads
  cases read
  obtain rfl | mentioned := inside
  · exact whole
  · exact carried _ _ mentioned

theorem alike_bisimulation : Bisimulation catalogs catalogs Alike := by
  intro s c₁ c₂ alike f inside r mentioned
  have member := Schema.mem_references.mpr ⟨f, inside, mentioned⟩
  by_cases same : s.catalog.or c₁ = s.catalog.or c₂
  · rw [same]
    exact ⟨rfl, fun _ t _ _ _ => .inl rfl⟩
  · have built := alike.resolve_left same
    have alone : s.catalog = none := by
      cases own : s.catalog with
      | none => rfl
      | some id => simp [own] at same
    obtain ⟨isBuilt, -, -⟩ := id built
    exact ⟨congrArg _ (lookup?_closed (isBuilt.references_closed alone member)), fun found t gaps resolved read =>
      .inr (wellBuilt_of_lookup? built alone member resolved read)⟩

/-- Checking a map against a reference to a built schema gives the data that the schema gives alone,
or else the violations that it reports alone, in their order, each with the outer path before its own.
Neither the owner nor the catalog around it matters. -/
theorem check_carried_eq_run_alone {s : Schema} (built : s.WellBuilt) (catalogs : Catalogs) (rounds : Nat)
    (scope : Scope) (name : Name) {v : Value} (mapping : v.isMapping = true) (path : Path) :
    check catalogs (.full rounds) scope (.ref name (some (.schema s))) v path =
      match run catalogs rounds s {} v [] none with
      | .error fault => .error fault
      | .ok (.ok fields) => .ok ⟨.map fields, []⟩
      | .ok (.error violations) => .ok ⟨.null, violations.map (Violation.under path)⟩ := by
  have relocated : run catalogs rounds s {} v path scope.catalog =
      outcomeUnder path <$> run catalogs rounds s {} v [] none := by
    have alike : Alike s scope.catalog none := .inr built
    simpa only [List.append_nil] using run_relocated alike_bisimulation alike rounds {} v path []
  obtain ⟨entries, found⟩ := Option.isSome_iff_exists.mp mapping
  have resolved : scope.lookup? catalogs name (some (.schema s)) = some (.schema s) := rfl
  rw [check_ref_found resolved found]
  show Checked.ofRun <$> run catalogs rounds s {} v path scope.catalog = _
  rw [relocated]
  cases run catalogs rounds s {} v [] none with
  | error fault => rfl
  | ok outcome => cases outcome <;> rfl

/-- A hook that finds fault with everything. -/
def refusal : Hook where
  run := fun v => (v, .failure (.str "refused"))
  className := "function"
  moduleName := some "trees"
  qualifiedName := some "refuse"
  name := some "refuse"

/-- Trees: a node can have a child, which is known by the name of the schema only. -/
def tree : Schema where
  serial := 1
  name := "Tree"
  fields := [
    { name := "child", type := .ref "Tree" none, required := false, default := none, description := .null,
      examples := [], derived := false, extra := [] },
    { name := "size", type := .primitive .integer [], required := true, default := none, description := .null,
      examples := [], derived := false, extra := [] }]
  crossFieldHooks := [⟨"trees.refuse", .crossField, refusal, none, false⟩]
  derivedHooks := []
  title := none
  description := none
  strict := true
  container := none
  catalog := none

theorem tree_wellBuilt : tree.WellBuilt := by
  have built : Schema.build {} {} 1
      (.list [
        .tuple [.str "child", .type (.ref "Tree" none), .map [(.str "required", .data (.bool false))]],
        .tuple [.str "size", .type (.primitive .integer [])]])
      { name := "Tree", strict := true, crossFieldHooks := [.hook refusal] } = .ok tree := by with_unfolding_all rfl
  have references : tree.references = [(.text "Tree", none)] := rfl
  refine ⟨⟨_, _, _, _, _, built⟩, fun name target member => ?_, fun name t member => ?_⟩
  all_goals
    rw [references] at member
    simp at member

theorem check_carried_tree :
    tree.WellBuilt ∧ (Value.map [(.str "child", .map [(.str "size", .int 1)]), (.str "size", .int 2)]).isMapping = true ∧
      check {} (.full Value.deepest) ⟨none, none⟩ (.ref "Tree" (some (.schema tree)))
        (.map [(.str "child", .map [(.str "size", .int 1)]), (.str "size", .int 2)]) [.name "trees", .index 3] =
        .ok ⟨.null, [{ path := [.name "trees", .index 3, .name "child"], kind := .hookFailed,
                       message := "refused", hook := some "trees.refuse" }]⟩ := by
  refine ⟨tree_wellBuilt, rfl, ?_⟩
  rw [check_carried_eq_run_alone tree_wellBuilt {} Value.deepest ⟨none, none⟩ "Tree" rfl]
  cbv

end RecordSchema.Proofs.NestedRun
