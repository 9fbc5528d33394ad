import RecordSchema.Proofs.DocumentKeywords
import RecordSchema.Proofs.References
import RecordSchema.Proofs.ReturnedChecks
import RecordSchema.Proofs.RunRelocation
import RecordSchema.Proofs.Verdicts

/-! Where violations point to. Hooks can report any place; without them each violation points into the data that was
given, a missing field to the map that lacks it and every other one to a value that stands there. Main statement:
`validate_points_into`. -/

namespace RecordSchema
open Validation

/-- A value stands inside of another one: the path leads to it, from the outside in, through the entries of maps and the
items of lists. -/
inductive Value.HoldsAt : Value → Path → Value → Prop where
  | here (v : Value) : HoldsAt v [] v
  | entry {v w x : Value} {entries : Entries} {key : Value} {name : String} {rest : Path} (mapping : v.entries? = some entries)
      (member : (key, w) ∈ entries) (named : key.str? = some name) (onward : HoldsAt w rest x) :
      HoldsAt v (.name name :: rest) x
  | item {v w x : Value} {items : List Value} {index : Nat} {rest : Path} (sequence : v.sequence? = some items)
      (there : items[index]? = some w) (onward : HoldsAt w rest x) : HoldsAt v (.index index :: rest) x

/-- What a violation points to is there: the map without the missing field, or else the value that is found fault
with. -/
def Violation.PointsInto (d : Value) (x : Violation) : Prop :=
  match x.kind with
  | .requiredMissing => ∃ place name v entries, x.path = place ++ [.name name] ∧ d.HoldsAt place v ∧
      v.entries? = some entries ∧ entries.field? name = none
  | _ => ∃ v, d.HoldsAt x.path v

namespace Proofs.ViolationPlaces

variable {d v w : Value} {path : Path}

theorem holdsAt_append {rest : Path} (first : d.HoldsAt path v) (onward : v.HoldsAt rest w) : d.HoldsAt (path ++ rest) w := by
  induction first with
  | here v => exact onward
  | entry mapping member named _ ih => exact .entry mapping member named (ih onward)
  | item sequence there _ ih => exact .item sequence there (ih onward)

theorem holdsAt_entry {entries : Entries} {key : Value} {name : String} (stands : d.HoldsAt path v)
    (mapping : v.entries? = some entries) (member : (key, w) ∈ entries) (named : key.str? = some name) :
    d.HoldsAt (path ++ [.name name]) w :=
  holdsAt_append stands (.entry mapping member named (.here w))

theorem holdsAt_item {items : List Value} {index : Nat} (stands : d.HoldsAt path v) (sequence : v.sequence? = some items)
    (there : items[index]? = some w) : d.HoldsAt (path ++ [.index index]) w :=
  holdsAt_append stands (.item sequence there (.here w))

/-- A value is checked at the place where it stands, a key at that of its value. -/
def ChecksAt (d v : Value) (path : Path) : Prop := d.HoldsAt path v ∨ (∃ text, v = .str text) ∧ ∃ w, d.HoldsAt path w

theorem ChecksAt.somewhere (checks : ChecksAt d v path) : ∃ w, d.HoldsAt path w :=
  checks.elim (fun stands => ⟨v, stands⟩) And.right

theorem ChecksAt.of_mapping {entries : Entries} (checks : ChecksAt d v path) (mapping : v.mapping? = some entries) :
    d.HoldsAt path v := by
  obtain stands | ⟨⟨text, rfl⟩, -⟩ := checks
  · exact stands
  · cases mapping

theorem ChecksAt.of_sequence {items : List Value} (checks : ChecksAt d v path) (sequence : v.items? = some items) :
    d.HoldsAt path v := by
  obtain stands | ⟨⟨text, rfl⟩, -⟩ := checks
  · exact stands
  · cases sequence

section Violations
variable {violations : List Violation}

/-- All violations point into the data. -/
def AllPointInto (d : Value) (violations : List Violation) : Prop := ∀ x ∈ violations, x.PointsInto d

theorem allPointInto_nil (d : Value) : AllPointInto d [] := List.forall_mem_nil _

theorem AllPointInto.append {others : List Violation} (first : AllPointInto d violations) (rest : AllPointInto d others) :
    AllPointInto d (violations ++ others) :=
  List.forall_mem_append.mpr ⟨first, rest⟩

theorem mismatch_points (somewhere : ∃ w, d.HoldsAt path w) (expected : String) (v : Value) :
    AllPointInto d (Checked.mismatch expected v path).violations :=
  List.forall_mem_singleton.mpr somewhere

theorem unresolved_points (somewhere : ∃ w, d.HoldsAt path w) (name : Name) (v : Value) :
    AllPointInto d (Checked.unresolved name v path).violations :=
  List.forall_mem_singleton.mpr somewhere

theorem constraintViolations_point (somewhere : ∃ w, d.HoldsAt path w) {cs : List Constraint}
    (checked : constraintViolations cs v path = .ok violations) : AllPointInto d violations := by
  obtain ⟨failed, -, told⟩ := Except.bind_eq_ok.mp checked
  intro x member
  obtain ⟨c, -, made⟩ := Except.mem_of_mapM told member
  obtain ⟨message, -, same⟩ := Except.bind_eq_ok.mp made
  cases same
  exact somewhere

theorem ownViolations_point (somewhere : ∃ w, d.HoldsAt path w) {mode : Mode} {cs : List Constraint}
    (checked : ownViolations mode cs v path = .ok violations) : AllPointInto d violations := by
  cases mode with
  | shape =>
    cases checked
    exact allPointInto_nil d
  | full rounds => exact constraintViolations_point somewhere checked

/-- An extra key points to its own value. -/
theorem unexpected_points {s : Schema} {entries : Entries} (stands : d.HoldsAt path (.map entries))
    (texts : ∀ e ∈ entries, ∃ text, e.1 = .str text) : AllPointInto d (unexpected s path entries) := by
  intro x member
  obtain ⟨key, inside, given⟩ := List.mem_filterMap.mp member
  obtain ⟨⟨k, w⟩, here, same⟩ := List.mem_map.mp inside
  obtain ⟨text, isText⟩ := texts _ here
  cases same
  cases isText
  rw [unexpected?] at given
  split at given
  · cases given
  · cases given
    exact ⟨w, holdsAt_entry stands rfl here rfl⟩

theorem report_points {s : Schema} {entries : Entries} {report : FieldReport} {gaps : Gaps} {found : List Violation}
    (stands : d.HoldsAt path (.map entries)) (texts : ∀ e ∈ entries, ∃ text, e.1 = .str text)
    (missing : AllPointInto d report.missing) (invalid : AllPointInto d report.invalid)
    (extra : unexpectedWith gaps s path entries = .ok found) : AllPointInto d (report.violations found) := by
  obtain rfl := Proofs.Acceptance.unexpectedWith_eq_ok extra
  exact (missing.append invalid).append (unexpected_points stands texts)

end Violations

variable {catalogs : Catalogs} {Inside : Schema → Option CatalogId → Prop} {scope : Scope}

/-- Schemas without hooks that are only run into each other. -/
structure Quiet (catalogs : Catalogs) (Inside : Schema → Option CatalogId → Prop) : Prop where
  silent : ∀ s catalog, Inside s catalog → s.crossFieldHooks = [] ∧ s.derivedHooks = []
  onward : ∀ s catalog, Inside s catalog → ∀ r ∈ s.references, ∀ found t gaps,
    Scope.lookup? catalogs ⟨some s, s.catalog.or catalog⟩ r.1 r.2 = some found → found.forRun = .ok (t, gaps) →
    Inside t (s.catalog.or catalog)

variable (catalogs Inside) in
/-- What references of a type run is inside. -/
def Within (scope : Scope) (t : SchemaType) : Prop :=
  ∀ r ∈ t.references, ∀ found s gaps, scope.lookup? catalogs r.1 r.2 = some found → found.forRun = .ok (s, gaps) →
    Inside s scope.catalog

theorem Quiet.within (quiet : Quiet catalogs Inside) {s : Schema} {catalog : Option CatalogId} (inside : Inside s catalog)
    {f : Field} (member : f ∈ s.regularFields) : Within catalogs Inside ⟨some s, s.catalog.or catalog⟩ f.type :=
  fun r mentioned => quiet.onward s catalog inside r
    (Schema.mem_references.mpr ⟨f, (List.mem_filter.mp member).1, mentioned⟩)

variable (catalogs Inside d) in
/-- What each function of a run finds fault with, in data `d` that it was led into. -/
def motives : Motives where
  ofValue mode scope t v path := Within catalogs Inside scope t → v.isJson = true → ChecksAt d v path →
    ∀ c, check catalogs mode scope t v path = .ok c → AllPointInto d c.violations
  ofRun rounds s gaps v path catalog := Inside s catalog → v.isJson = true → ChecksAt d v path →
    ∀ violations, run catalogs rounds s gaps v path catalog = .ok (.error violations) → AllPointInto d violations
  ofFields rounds scope path entries fields := (∀ f ∈ fields, Within catalogs Inside scope f.type) →
    (Value.map entries).isJson = true → d.HoldsAt path (.map entries) →
    ∀ report, fieldReport catalogs rounds scope path entries fields = .ok report →
      AllPointInto d report.missing ∧ AllPointInto d report.invalid
  ofVariants mode scope variants v path := ∀ c, checkVariants catalogs mode scope variants v path = .ok (some c) → c.violations = []
  ofEntries mode scope key value path entries := Within catalogs Inside scope key → Within catalogs Inside scope value →
    ∀ whole, (Value.map whole).isJson = true → d.HoldsAt path (.map whole) → entries ⊆ whole →
    ∀ checked, checkEntries catalogs mode scope key value path entries = .ok checked → AllPointInto d checked.2
  ofItems mode scope t path index items := Within catalogs Inside scope t →
    ∀ whole, (Value.list whole).isJson = true → d.HoldsAt path (.list whole) → items = whole.drop index →
    ∀ checked, checkItems catalogs mode scope t path index items = .ok checked → AllPointInto d checked.2

private theorem array_points (mode : Mode) (scope : Scope) (element : SchemaType) (cs : List Constraint) (v : Value) (path : Path)
    (ofItems : ∀ items, v.items? = some items → (motives d catalogs Inside).ofItems mode scope element path 0 items) :
    (motives d catalogs Inside).ofValue mode scope (.array element cs) v path := by
  intro within json checks c checked
  obtain ⟨-, rfl⟩ | ⟨items, own, inner, found, constrained, each, rfl⟩ := check_array_eq_ok.mp checked
  · exact mismatch_points checks.somewhere _ v
  · cases Value.eq_list_of_isJson json found
    exact (ownViolations_point checks.somewhere constrained).append
      (ofItems items found within items json (checks.of_sequence found) rfl inner each)

private theorem map_points (mode : Mode) (scope : Scope) (key value : SchemaType) (cs : List Constraint) (v : Value) (path : Path)
    (ofEntries : ∀ entries, v.mapping? = some entries → (motives d catalogs Inside).ofEntries mode scope key value path entries) :
    (motives d catalogs Inside).ofValue mode scope (.map key value cs) v path := by
  intro within json checks c checked
  obtain ⟨-, rfl⟩ | ⟨entries, own, inner, found, constrained, each, rfl⟩ := check_map_eq_ok.mp checked
  · exact mismatch_points checks.somewhere _ v
  · cases Value.eq_map_of_isJson json found
    exact (ownViolations_point checks.somewhere constrained).append
      (ofEntries entries found (fun r member => within r (List.mem_append_left _ member))
        (fun r member => within r (List.mem_append_right _ member)) entries json (checks.of_mapping found)
        (List.Subset.refl entries) inner each)

/-- A union is found fault with as a whole. -/
private theorem union_points (mode : Mode) (scope : Scope) (variants : List SchemaType) (cs : List Constraint) (v : Value) (path : Path)
    (ofVariants : (motives d catalogs Inside).ofVariants mode scope variants v path) :
    (motives d catalogs Inside).ofValue mode scope (.union variants cs) v path := by
  intro _ _ checks c checked
  rw [check_union] at checked
  obtain ⟨first, chosen, same⟩ := Except.map_eq_ok.mp checked
  subst same
  cases first with
  | none => exact mismatch_points checks.somewhere _ v
  | some first =>
    rw [Option.getD_some, ofVariants first chosen]
    exact allPointInto_nil d

private theorem ref_points (mode : Mode) (scope : Scope) (name : Name) (target : Option Target) (v : Value) (path : Path)
    (ofRun : ∀ rounds found s gaps, mode = .full rounds → v.isMapping = true → scope.lookup? catalogs name target = some found →
      found.forRun = .ok (s, gaps) → (motives d catalogs Inside).ofRun rounds s gaps v path scope.catalog) :
    (motives d catalogs Inside).ofValue mode scope (.ref name target) v path := by
  intro within json checks c checked
  have missed (lost : Missed catalogs scope name target v path c) : AllPointInto d c.violations := by
    obtain ⟨-, rfl⟩ | ⟨-, -, rfl⟩ := lost
    · exact unresolved_points checks.somewhere name v
    · exact mismatch_points checks.somewhere _ v
  cases mode with
  | shape =>
    obtain lost | ⟨entries, -, -, rfl⟩ := check_ref_shape_eq_ok.mp checked
    · exact missed lost
    · exact allPointInto_nil d
  | full rounds =>
    obtain lost | ⟨found, entries, s, gaps, outcome, resolved, mapping, read, returned, rfl⟩ := check_ref_eq_ok.mp checked
    · exact missed lost
    · cases outcome with
      | ok fields => exact allPointInto_nil d
      | error violations =>
        have held : v.isMapping = true := by rw [Value.isMapping, mapping]; rfl
        exact ofRun rounds found s gaps rfl held resolved read
          (within (name, target) List.mem_cons_self found s gaps resolved read) json checks violations returned

private theorem run_points (quiet : Quiet catalogs Inside) (rounds : Nat) (s : Schema) (gaps : Gaps) (v : Value) (path : Path)
    (catalog : Option CatalogId) (inner : ∀ entries left, v.mapping? = some entries → v.roundsAfter rounds = some left →
      (motives d catalogs Inside).ofFields left ⟨some s, s.catalog.or catalog⟩ path entries s.regularFields ∧
        ∀ t w place, (motives d catalogs Inside).ofValue .shape ⟨some s, s.catalog.or catalog⟩ t w place) :
    (motives d catalogs Inside).ofRun rounds s gaps v path catalog := by
  intro inside json checks violations returned
  rw [run_eq_stages] at returned
  obtain ⟨found, fieldsFound, returned⟩ := Except.bind_eq_ok.mp returned
  cases found with
  | ok fields =>
    obtain ⟨-, returned⟩ := Except.check_eq_ok.mp returned
    rw [runHooks, (quiet.silent s catalog inside).1, (quiet.silent s catalog inside).2] at returned
    cases returned
  | error others =>
    cases returned
    cases mapping : v.mapping? with
    | none =>
      rw [fieldStages, mapping] at fieldsFound
      cases fieldsFound
      exact mismatch_points checks.somewhere _ v
    | some entries =>
      have stands := checks.of_mapping mapping
      have spent : v.roundsAfter rounds = some rounds := Value.roundsAfter_of_hasEnd (Value.hasEnd_of_isJson json) rounds
      obtain ⟨ofFields, -⟩ := inner entries rounds mapping spent
      cases Value.eq_map_of_isJson json mapping
      rw [fieldStages, mapping, spent] at fieldsFound
      obtain ⟨report, reported, fieldsFound⟩ := Except.bind_eq_ok.mp fieldsFound
      obtain ⟨extra, unexpected, fieldsFound⟩ := Except.bind_eq_ok.mp fieldsFound
      have same := Except.ok.inj fieldsFound
      split at same
      next => cases same
      next =>
        cases same
        obtain ⟨missing, invalid⟩ := ofFields (fun f member => quiet.within inside member) json stands report reported
        exact report_points stands (fun e member => (Value.isJson_of_mem_map json e member).1) missing invalid unexpected

private theorem field_points (rounds : Nat) (scope : Scope) (path : Path) (entries : Entries) (f : Field) (rest : List Field)
    (ofValue : ∀ v, entries.field? f.name.label = some v →
      (motives d catalogs Inside).ofValue (.full rounds) scope f.type v (path ++ [.name f.name.label]))
    (ofRest : (motives d catalogs Inside).ofFields rounds scope path entries rest) :
    (motives d catalogs Inside).ofFields rounds scope path entries (f :: rest) := by
  intro within json stands report reported
  obtain ⟨here, later⟩ := List.forall_mem_cons.mp within
  obtain ⟨v, c, others, found, checked, remaining, rfl⟩ | ⟨others, found, -, remaining, rfl⟩ :=
    fieldReport_cons_eq_ok.mp reported
  · obtain ⟨missing, invalid⟩ := ofRest later json stands others remaining
    obtain ⟨e, member, named, same⟩ := Entries.mem_of_field? found
    subst same
    have place : d.HoldsAt (path ++ [.name f.name.label]) e.2 := holdsAt_entry stands rfl member named
    have first := ofValue e.2 found here (Value.isJson_of_mem_map json e member).2 (.inl place) c checked
    rw [FieldReport.withPresent]
    split
    · exact ⟨missing, invalid⟩
    · exact ⟨missing, first.append invalid⟩
  · obtain ⟨missing, invalid⟩ := ofRest later json stands others remaining
    cases f.default with
    | some v => exact ⟨missing, invalid⟩
    | none =>
      rw [FieldReport.withAbsent]
      split
      · exact ⟨List.forall_mem_cons.mpr ⟨⟨path, _, _, entries, rfl, stands, rfl, found⟩, missing⟩, invalid⟩
      · exact ⟨missing, invalid⟩

private theorem entry_points (mode : Mode) (scope : Scope) (key value : SchemaType) (path : Path) (k v : Value) (rest : Entries)
    (ofKey : (motives d catalogs Inside).ofValue mode scope key k (path ++ [k.keyStep]))
    (ofValue : (motives d catalogs Inside).ofValue mode scope value v (path ++ [k.keyStep]))
    (ofRest : (motives d catalogs Inside).ofEntries mode scope key value path rest) :
    (motives d catalogs Inside).ofEntries mode scope key value path ((k, v) :: rest) := by
  intro keys values whole json stands part checked each
  obtain ⟨-, first, second, others, checkedKey, checkedValue, remaining, rfl⟩ := checkEntries_cons_eq_ok.mp each
  have member : (k, v) ∈ whole := part List.mem_cons_self
  obtain ⟨⟨text, isText⟩, inner⟩ := Value.isJson_of_mem_map json _ member
  change k = .str text at isText
  subst isText
  have place : d.HoldsAt (path ++ [.name text]) v := holdsAt_entry stands rfl member rfl
  exact ((ofKey keys rfl (.inr ⟨⟨text, rfl⟩, v, place⟩) first checkedKey).append
    (ofValue values inner (.inl place) second checkedValue)).append
    (ofRest keys values whole json stands (List.subset_of_cons_subset part) others remaining)

private theorem item_points (mode : Mode) (scope : Scope) (t : SchemaType) (path : Path) (index : Nat) (v : Value) (rest : List Value)
    (ofValue : (motives d catalogs Inside).ofValue mode scope t v (path ++ [.index index]))
    (ofRest : (motives d catalogs Inside).ofItems mode scope t path (index + 1) rest) :
    (motives d catalogs Inside).ofItems mode scope t path index (v :: rest) := by
  intro within whole json stands part checked each
  obtain ⟨first, others, checkedItem, remaining, rfl⟩ := checkItems_cons_eq_ok.mp each
  have there : whole[index]? = some v := by rw [← List.head?_drop, ← part]; rfl
  have later : rest = whole.drop (index + 1) := by rw [← List.tail_drop, ← part]; rfl
  have inner : v.isJson = true := Value.isJson_of_mem_list json v (List.mem_of_getElem? there)
  exact (ofValue within inner (.inl (holdsAt_item stands rfl there)) first checkedItem).append
    (ofRest within whole json stands later others remaining)

private theorem step (quiet : Quiet catalogs Inside) : Cases catalogs (motives d catalogs Inside) where
  primitive mode scope kind cs v path := by
    intro _ _ checks c checked
    obtain ⟨-, rfl⟩ | ⟨-, own, constrained, rfl⟩ := check_primitive_eq_ok.mp checked
    · exact mismatch_points checks.somewhere _ v
    · exact ownViolations_point checks.somewhere constrained
  array := array_points
  map := map_points
  union := union_points
  ref := ref_points
  run := run_points quiet
  noField rounds scope path entries := by
    intro _ _ _ report reported
    rw [fieldReport] at reported
    cases reported
    exact ⟨allPointInto_nil d, allPointInto_nil d⟩
  field := field_points
  noVariant mode scope v path := by
    intro c chosen
    rw [checkVariants] at chosen
    cases chosen
  variant mode scope t rest v path _ ofRest := by
    intro c chosen
    obtain ⟨first, -, ⟨clean, same⟩ | ⟨-, chosen⟩⟩ := checkVariants_cons_eq_ok.mp chosen
    · cases same
      exact clean
    · exact ofRest c chosen
  noEntry mode scope key value path := by
    intro _ _ _ _ _ _ checked each
    rw [checkEntries] at each
    cases each
    exact allPointInto_nil d
  entry := entry_points
  noItem mode scope t path index := by
    intro _ _ _ _ _ checked each
    rw [checkItems] at each
    cases each
    exact allPointInto_nil d
  item := item_points

theorem run_points_into (quiet : Quiet catalogs Inside) {rounds : Nat} {s : Schema} {gaps : Gaps} {catalog : Option CatalogId}
    (inside : Inside s catalog) (json : d.isJson = true) {violations : List Violation}
    (returned : run catalogs rounds s gaps d [] catalog = .ok (.error violations)) : AllPointInto d violations :=
  (step quiet).all.2 rounds s gaps d [] catalog inside json (.inl (.here d)) violations returned

end Proofs.ViolationPlaces

namespace Validation
open Proofs.ViolationPlaces Proofs.Verdicts

variable {catalogs : Catalogs} {s : Schema}

/-- Where no schema that is run has hooks, every violation that validation reports points into the data. -/
theorem validate_points_into
    (silent : ∀ t catalog, RunsInto catalogs s t catalog → t.crossFieldHooks = [] ∧ t.derivedHooks = []) {d : Value}
    (json : d.isJson = true) {verdict : Verdict} (given : validate catalogs s d = .ok verdict) :
    ∀ x ∈ verdict.violations, x.PointsInto d := by
  have quiet : Quiet catalogs (RunsInto catalogs s) :=
    ⟨silent, fun _ _ reached _ member _ _ _ resolved read => .next reached member resolved read⟩
  obtain ⟨outcome, returned, given⟩ := Except.bind_eq_ok.mp given
  rw [Value.unfolded_of_isJson json] at returned
  cases outcome with
  | ok fields =>
    obtain ⟨data, container, rfl, -⟩ := data_of_accept given
    exact allPointInto_nil d
  | error violations =>
    cases given
    exact run_points_into quiet .self json (Failing.ofFault_eq_ok.mp returned)

/-- An outline with faults of every kind further down. -/
def sketch : Value :=
  .map [(.str "label", .str "top"), (.str "below", .list [
    .map [(.str "label", .str ""), (.str "page", .int 3)],
    .map [(.str "below", .str "nothing")]])]

theorem outline_silent (t : Schema) (catalog : Option CatalogId) (reached : RunsInto {} outline t catalog) :
    t.crossFieldHooks = [] ∧ t.derivedHooks = [] := by
  have itself : t = outline := by
    induction reached with
    | self => rfl
    | @next t u gaps catalog r found _ member resolved read ih =>
      subst ih
      rw [show outline.references = [(.text "Outline", none)] from rfl] at member
      cases List.mem_singleton.mp member
      cases resolved
      cases read
      rfl
  subst itself
  exact ⟨rfl, rfl⟩

theorem sketch_rejected :
    ∃ violations, validate {} outline sketch = .ok (.rejected violations) ∧ violations.map (fun x => (x.path, x.kind)) =
      [([.name "below", .index 0, .name "label"], .constraintViolated),
       ([.name "below", .index 0, .name "page"], .extraField),
       ([.name "below", .index 1, .name "label"], .requiredMissing),
       ([.name "below", .index 1, .name "below"], .typeMismatch)] := by
  let lower : Value := .map [(.str "label", .str ""), (.str "page", .int 3)]
  let lowest : Value := .map [(.str "below", .str "nothing")]
  let unknown : Violation := { path := [.name "below", .index 0, .name "page"], kind := .extraField, message := "unknown field" }
  let missing : Violation :=
    { path := [.name "below", .index 1, .name "label"], kind := .requiredMissing, message := "field is required" }
  let noArray := Checked.mismatch (SchemaType.array (.ref "Outline" none) []).describe (.str "nothing")
    [.name "below", .index 1, .name "below"]
  have nothing : check {} (.full Value.deepest) ⟨some outline, none⟩ (.array (.ref "Outline" none) []) (.str "nothing")
      [.name "below", .index 1, .name "below"] = .ok noArray := check_array_eq_ok.mpr (.inl ⟨rfl, rfl⟩)
  have ofLower : run {} Value.deepest outline {} lower [.name "below", .index 0] none = .ok (.error [unlabelled, unknown]) :=
    run_of_report rfl (fieldReport_of_present rfl label_lacking (fieldReport_of_absent rfl rfl fieldReport_nil)) rfl rfl
  have ofLowest : run {} Value.deepest outline {} lowest [.name "below", .index 1] none =
      .ok (.error (missing :: noArray.violations)) :=
    run_of_report rfl (fieldReport_of_absent rfl rfl (fieldReport_of_present rfl nothing fieldReport_nil)) rfl rfl
  have below : check {} (.full Value.deepest) ⟨some outline, none⟩ (.array (.ref "Outline" none) []) (.list [lower, lowest])
      [.name "below"] = .ok ⟨.list [.null, .null], [unlabelled, unknown] ++ missing :: noArray.violations⟩ :=
    check_array_of_items rfl rfl (checkItems_of_cons (check_ref_of_run rfl rfl rfl ofLower rfl)
      (checkItems_of_cons (check_ref_of_run rfl rfl rfl ofLowest rfl) checkItems_nil)) rfl
  have given : run {} Value.deepest outline {} sketch [] none =
      .ok (.error ([unlabelled, unknown] ++ missing :: noArray.violations)) :=
    run_of_report rfl (fieldReport_of_present rfl label_fits (fieldReport_of_present rfl below fieldReport_nil)) rfl rfl
  exact ⟨_, validate_of_violations given, rfl⟩

/-- Each of the faults is found, and has its place in the outline. -/
theorem sketch_points_into :
    (∀ t catalog, RunsInto {} outline t catalog → t.crossFieldHooks = [] ∧ t.derivedHooks = []) ∧ sketch.isJson = true ∧
    ∃ verdict, validate {} outline sketch = .ok verdict ∧
      verdict.violations.map (fun x => (x.path, x.kind)) =
        [([.name "below", .index 0, .name "label"], .constraintViolated),
         ([.name "below", .index 0, .name "page"], .extraField),
         ([.name "below", .index 1, .name "label"], .requiredMissing),
         ([.name "below", .index 1, .name "below"], .typeMismatch)] ∧
      ∀ x ∈ verdict.violations, x.PointsInto sketch := by
  have json : sketch.isJson = true := by decide
  obtain ⟨violations, given, places⟩ := sketch_rejected
  exact ⟨outline_silent, json, _, given, places, validate_points_into outline_silent json given⟩

end Validation
end RecordSchema
