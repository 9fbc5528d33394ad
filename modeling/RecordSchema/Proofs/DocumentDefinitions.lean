import RecordSchema.Proofs.DocumentShape

/-! The definitions of a document. Each round of writing takes one name that is referred to and describes
its schema; there are no more names than the limit counts, so in the end every pointer leads to the
description of the schema that is recorded under its name. Main statement: `generate_defines`. -/

namespace RecordSchema.Document
open Drafting Draft

variable {catalogs : Catalogs} {options : DocumentOptions} {Inside : String → Schema → Prop} {names : List String}

variable (catalogs options) in
/-- Schemas under names that references do not lead out of, and all names by which they do. -/
def Closed (Inside : String → Schema → Prop) (names : List String) : Prop :=
  ∀ label s, Inside label s → ∀ name found, LeadsFrom catalogs options s name found →
    name ∈ names ∧ ∃ t, found = .schema t ∧ Inside name t

variable (catalogs options) in
/-- Keywords that were made of a schema, all of whose references the draft knows. -/
def Describes (draft : Draft) (s : Schema) (keywords : Entries) : Prop :=
  ∃ before after, Makes (ofSchema catalogs options s) before keywords after ∧ Kept after draft

theorem Describes.keep {before after : Draft} {s : Schema} {keywords : Entries}
    (describes : Describes catalogs options before s keywords) (kept : Kept before after) :
    Describes catalogs options after s keywords := by
  obtain ⟨first, last, made, known⟩ := describes
  exact ⟨first, last, made, known.trans kept⟩

variable (catalogs options Inside names) in
/-- What holds of a draft between two rounds of writing. -/
structure Ordered (draft : Draft) : Prop where
  key : draft.definitionsKey = options.definitionsKey
  unambiguous : draft.Unambiguous
  targets : ∀ label found, draft.recorded? label = some found →
    ∃ name t, label = some name ∧ found = some (.schema t) ∧ name ∈ names ∧ Inside name t
  idle : draft.underway = []
  distinct : (draft.written.map Prod.fst).Nodup
  definitions : ∀ e ∈ draft.written, ∃ t keywords, draft.recorded? e.1 = some (some (.schema t)) ∧
    e.2 = .map keywords ∧ Describes catalogs options draft t keywords

theorem Ordered.weaken {Other : String → Schema → Prop} {draft : Draft} (ordered : Ordered catalogs options Inside names draft)
    (implies : ∀ label t, Inside label t → Other label t) : Ordered catalogs options Other names draft where
  key := ordered.key
  unambiguous := ordered.unambiguous
  targets label found recorded := by
    obtain ⟨name, t, same, schema, known, inside⟩ := ordered.targets label found recorded
    exact ⟨name, t, same, schema, known, implies name t inside⟩
  idle := ordered.idle
  distinct := ordered.distinct
  definitions := ordered.definitions

theorem not_written_of_missing {draft : Draft} {entry : Option Name × Option Target} (missing : entry ∈ draft.missing) :
    entry ∈ draft.targets ∧ labelOf entry.1 ∉ draft.written.map Prod.fst := by
  obtain ⟨listed, absent⟩ := List.mem_filter.mp missing
  rw [Bool.and_eq_true, Option.isNone_iff_eq_none, List.lookup_eq_none_iff] at absent
  refine ⟨listed, fun written => ?_⟩
  obtain ⟨e, member, same⟩ := List.mem_map.mp written
  have differ := absent.1 e member
  rw [same] at differ
  simp at differ

/-- A definition under a name that had none is written after all others. -/
theorem written_write {draft : Draft} {label : Option String} (unwritten : label ∉ draft.written.map Prod.fst)
    (definition : Value) : (draft.write label definition).written = draft.written ++ [(label, definition)] := by
  have others : draft.written.filter (·.1 ≠ label) = draft.written := by
    apply List.filter_eq_self.mpr
    intro e member
    exact decide_eq_true fun same => unwritten (List.mem_map.mpr ⟨e, member, same⟩)
  exact congrArg (· ++ [(label, definition)]) others

theorem write_distinct {draft : Draft} {label : Option String} (unwritten : label ∉ draft.written.map Prod.fst)
    (distinct : (draft.written.map Prod.fst).Nodup) (definition : Value) :
    ((draft.write label definition).written.map Prod.fst).Nodup := by
  rw [written_write unwritten, List.map_append]
  apply List.nodup_append.mpr
  refine ⟨distinct, List.pairwise_singleton _ _, ?_⟩
  intro one earlier other new same
  rw [same, List.mem_singleton.mp new] at earlier
  exact unwritten earlier

/-- Names are written once, so that fewer definitions than names are written while one of the names lacks its own. -/
theorem written_lt_of_missing {draft : Draft} (distinct : (draft.written.map Prod.fst).Nodup)
    (listed : ∀ entry ∈ draft.targets, ∃ name ∈ names, labelOf entry.1 = some name)
    (written : ∀ e ∈ draft.written, ∃ name ∈ names, e.1 = some name) {entry : Option Name × Option Target}
    (missing : entry ∈ draft.missing) : draft.written.length < names.length := by
  obtain ⟨member, unwritten⟩ := not_written_of_missing missing
  have apart : (labelOf entry.1 :: draft.written.map Prod.fst).Nodup := List.nodup_cons.mpr ⟨unwritten, distinct⟩
  have known : labelOf entry.1 :: draft.written.map Prod.fst ⊆ names.map some := by
    apply List.cons_subset.mpr
    constructor
    · obtain ⟨name, inside, same⟩ := listed entry member
      exact List.mem_map.mpr ⟨name, inside, same.symm⟩
    · intro label earlier
      obtain ⟨e, among, rfl⟩ := List.mem_map.mp earlier
      obtain ⟨name, inside, same⟩ := written e among
      exact List.mem_map.mpr ⟨name, inside, same.symm⟩
  have bound := apart.length_le_of_subset known
  simp only [List.length_cons, List.length_map] at bound
  omega

/-- One round: the schema under the first missing name is described, and that is written. -/
theorem writeUpTo_round {limit : Nat} {draft after : Draft} {name : Option Name} {t : Schema}
    {rest : List (Option Name × Option Target)} (missing : draft.missing = (name, some (.schema t)) :: rest)
    (ended : Makes (writeUpTo catalogs options (limit + 1)) draft ⟨⟩ after) :
    ∃ keywords middle, Makes (ofSchema catalogs options t) (draft.begin (labelOf name)) keywords middle ∧
      Makes (writeUpTo catalogs options limit) (middle.write (labelOf name) (.map keywords)) ⟨⟩ after := by
  rw [writeUpTo] at ended
  obtain ⟨_, _, got, taken⟩ := makes_bind.mp ended
  obtain ⟨rfl, rfl⟩ := makes_get.mp got
  simp only [missing] at taken
  obtain ⟨⟨⟩, _, begins, round⟩ := makes_bind.mp taken
  obtain rfl := makes_modify.mp begins
  obtain ⟨keywords, middle, described, writing⟩ := makes_bind.mp round
  obtain ⟨⟨⟩, _, writes, remaining⟩ := makes_bind.mp writing
  obtain rfl := makes_modify.mp writes
  exact ⟨keywords, middle, described, remaining⟩

/-- Between two rounds the draft is in order. -/
theorem Ordered.round {draft middle : Draft} {name : Option Name} {target : Option Target} {label : String} {t : Schema}
    {keywords : Entries} (closed : Closed catalogs options Inside names) (ordered : Ordered catalogs options Inside names draft)
    (missing : (name, target) ∈ draft.missing) (inside : Inside label t) (schema : target = some (.schema t))
    (described : Makes (ofSchema catalogs options t) (draft.begin (labelOf name)) keywords middle) :
    Ordered catalogs options Inside names (middle.write (labelOf name) (.map keywords)) ∧
      Kept draft (middle.write (labelOf name) (.map keywords)) ∧
      (middle.write (labelOf name) (.map keywords)).written = draft.written ++ [(labelOf name, .map keywords)] := by
  obtain ⟨listed, unwritten⟩ := not_written_of_missing missing
  have growth := ofSchema_grows described
  have kept : Kept draft (middle.write (labelOf name) (.map keywords)) := ⟨growth.key, growth.recorded⟩
  have written : (middle.write (labelOf name) (.map keywords)).written = draft.written ++ [(labelOf name, .map keywords)] := by
    have before : middle.written = draft.written := growth.written
    rw [← before] at unwritten ⊢
    exact written_write unwritten _
  refine ⟨⟨growth.key.trans ordered.key, growth.unambiguous ordered.unambiguous, fun other found recorded => ?_, ?_, ?_, ?_⟩,
    kept, written⟩
  · obtain old | ⟨fresh, found, rfl, rfl, leads⟩ := growth.fresh other found recorded
    · exact ordered.targets other found old
    · obtain ⟨known, u, rfl, onward⟩ := closed label t inside fresh found leads
      exact ⟨fresh, u, rfl, rfl, known, onward⟩
  · have underway : middle.underway = labelOf name :: draft.underway := growth.underway
    show middle.underway.filter (· ≠ labelOf name) = []
    rw [underway, ordered.idle]
    simp
  · have before : middle.written = draft.written := growth.written
    rw [← before] at unwritten
    exact write_distinct unwritten (before ▸ ordered.distinct) _
  · rw [written]
    refine List.forall_mem_append.mpr ⟨fun e member => ?_, List.forall_mem_singleton.mpr ?_⟩
    · obtain ⟨u, own, recorded, same, describes⟩ := ordered.definitions e member
      exact ⟨u, own, kept.recorded _ _ recorded, same, describes.keep kept⟩
    · refine ⟨t, keywords, ?_, rfl, _, middle, described, ⟨rfl, fun _ _ recorded => recorded⟩⟩
      exact kept.recorded _ _ (by rw [ordered.unambiguous.recorded? listed, schema])

/-- What is listed is a schema, under a name that counts. -/
theorem Ordered.listed {draft : Draft} (ordered : Ordered catalogs options Inside names draft)
    {entry : Option Name × Option Target} (member : entry ∈ draft.targets) :
    ∃ name t, labelOf entry.1 = some name ∧ entry.2 = some (.schema t) ∧ name ∈ names ∧ Inside name t :=
  ordered.targets _ _ (ordered.unambiguous.recorded? member)

/-- While something is missing, not all names are written. -/
theorem Ordered.written_lt {draft : Draft} (ordered : Ordered catalogs options Inside names draft)
    {entry : Option Name × Option Target} (missing : entry ∈ draft.missing) : draft.written.length < names.length := by
  refine written_lt_of_missing ordered.distinct ?_ ?_ missing
  · intro entry listed
    obtain ⟨name, t, same, -, known, -⟩ := ordered.listed listed
    exact ⟨name, known, same⟩
  · intro e member
    obtain ⟨t, keywords, recorded, -⟩ := ordered.definitions e member
    obtain ⟨name, _, same, -, known, -⟩ := ordered.targets _ _ recorded
    exact ⟨name, known, same⟩

/-- There are no more rounds than there are names. -/
theorem writeUpTo_ordered {limit : Nat} {draft after : Draft} (closed : Closed catalogs options Inside names)
    (ordered : Ordered catalogs options Inside names draft) (enough : names.length ≤ draft.written.length + limit)
    (ended : Makes (writeUpTo catalogs options limit) draft ⟨⟩ after) :
    Ordered catalogs options Inside names after ∧ Kept draft after ∧ after.missing = [] := by
  induction limit generalizing draft with
  | zero =>
    obtain ⟨-, rfl⟩ := makes_pure.mp ended
    refine ⟨ordered, .refl _, List.eq_nil_iff_forall_not_mem.mpr fun entry missing => ?_⟩
    exact absurd (ordered.written_lt missing) (Nat.not_lt.mpr enough)
  | succ limit ih =>
    cases missing : draft.missing with
    | nil =>
      rw [writeUpTo] at ended
      obtain ⟨_, _, got, taken⟩ := makes_bind.mp ended
      obtain ⟨rfl, rfl⟩ := makes_get.mp got
      simp only [missing] at taken
      obtain ⟨-, rfl⟩ := makes_pure.mp taken
      exact ⟨ordered, .refl _, missing⟩
    | cons entry rest =>
      have first : entry ∈ draft.missing := by rw [missing]; exact List.mem_cons_self
      obtain ⟨name, t, -, schema, -, inside⟩ := ordered.listed (not_written_of_missing first).1
      obtain ⟨keywords, middle, described, remaining⟩ := writeUpTo_round (by rw [missing, ← schema]) ended
      obtain ⟨next, kept, written⟩ := ordered.round closed first inside schema described
      obtain ⟨last, later, done⟩ := ih next (by rw [written, List.length_append, List.length_singleton]; omega) remaining
      exact ⟨last, kept.trans later, done⟩

/-- A definition is read under the label of its name. -/
theorem str?_key (name : Option Name) : ((name.map Name.toValue).getD .null).str? = labelOf name := by
  cases name with
  | none => rfl
  | some name => cases name <;> rfl

/-- What is written under a name stands there in the document. -/
theorem definitions_field? {draft : Draft} {name : String} {definition : Value}
    (listed : ∃ entry ∈ draft.targets, labelOf entry.1 = some name)
    (written : draft.written.lookup (some name) = some definition) :
    Entries.field? draft.definitions name = some definition := by
  unfold Draft.definitions
  generalize draft.targets = targets at listed
  induction targets with
  | nil =>
    obtain ⟨_, member, -⟩ := listed
    cases member
  | cons entry rest ih =>
    obtain ⟨n, target⟩ := entry
    by_cases here : labelOf n = some name
    · simp [here, written, Entries.field?, str?_key]
    · obtain ⟨other, member, same⟩ := listed
      have later : other ∈ rest := (List.mem_cons.mp member).resolve_left fun first => here (by rw [← same, first])
      have found := ih ⟨other, later, same⟩
      rw [List.filterMap_cons]
      split
      next => exact found
      next e told =>
        obtain ⟨definition, -, rfl⟩ := Option.map_eq_some_iff.mp told
        rw [Entries.field?, str?_key, if_neg here]
        exact found

mutual

theorem mem_namesInType : ∀ (t : SchemaType) {r : Name × Option Target}, r ∈ t.references →
    r.1.label ∈ namesInType t ∧ namesInTarget r.2 ⊆ namesInType t
  | .primitive _ _, _, member => nomatch member
  | .array element _, _, member => mem_namesInType element member
  | .map key value _, _, member => by
    obtain inKey | inValue := List.mem_append.mp member
    · obtain ⟨label, within⟩ := mem_namesInType key inKey
      exact ⟨List.mem_append_left _ label, List.subset_append_of_subset_left _ within⟩
    · obtain ⟨label, within⟩ := mem_namesInType value inValue
      exact ⟨List.mem_append_right _ label, List.subset_append_of_subset_right _ within⟩
  | .union variants _, _, member => mem_namesInTypes variants member
  | .ref name target, _, member => by
    cases List.mem_singleton.mp member
    exact ⟨List.mem_cons_self, List.subset_cons_self _ _⟩

theorem mem_namesInTypes : ∀ (types : List SchemaType) {r : Name × Option Target}, r ∈ SchemaType.referencesOf types →
    r.1.label ∈ namesInTypes types ∧ namesInTarget r.2 ⊆ namesInTypes types
  | [], _, member => nomatch member
  | t :: rest, _, member => by
    obtain first | later := List.mem_append.mp member
    · obtain ⟨label, within⟩ := mem_namesInType t first
      exact ⟨List.mem_append_left _ label, List.subset_append_of_subset_left _ within⟩
    · obtain ⟨label, within⟩ := mem_namesInTypes rest later
      exact ⟨List.mem_append_right _ label, List.subset_append_of_subset_right _ within⟩

end

theorem namesInFields_eq (fields : List Field) : namesInFields fields = fields.flatMap fun f => namesInType f.type := by
  induction fields with
  | nil => rfl
  | cons f rest ih =>
    obtain ⟨_, _, _, _, _, _, _, _⟩ := f
    rw [namesInFields, List.flatMap_cons, ih]

theorem mem_namesInSchema {s : Schema} {r : Name × Option Target} (member : r ∈ s.references) :
    r.1.label ∈ namesInSchema s ∧ namesInTarget r.2 ⊆ namesInSchema s := by
  have names : namesInSchema s = s.fields.flatMap fun f => namesInType f.type := by
    obtain ⟨_, _, _, _, _, _, _, _, _, _⟩ := s
    rw [namesInSchema, namesInFields_eq]
  obtain ⟨f, inside, mentioned⟩ := Schema.mem_references.mp member
  obtain ⟨label, within⟩ := mem_namesInType f.type mentioned
  rw [names]
  exact ⟨List.mem_flatMap.mpr ⟨f, inside, label⟩, fun x named => List.mem_flatMap.mpr ⟨f, inside, within named⟩⟩

/-- What a reference leads to is carried by it, the schema itself, or in a catalog. -/
theorem lookup?_cases {s t : Schema} {catalog : Option CatalogId} {name : Name} {target : Option Target}
    (resolved : Scope.lookup? catalogs ⟨some s, catalog⟩ name target = some (.schema t)) :
    target = some (.schema t) ∨ t = s ∨ ∃ id, (catalogs.get id).get? name.label = some t := by
  unfold Scope.lookup? Scope.named? at resolved
  cases target with
  | some _ => exact .inl resolved
  | none =>
    rw [Option.none_or] at resolved
    obtain ⟨u, found, same⟩ := Option.map_eq_some_iff.mp resolved
    cases same
    dsimp only at found
    split at found
    next => exact .inr (.inl (Option.some.inj found).symm)
    next =>
      refine .inr (.inr ?_)
      obtain own | ⟨-, around⟩ := Option.or_eq_some_iff.mp found
      · obtain ⟨id, -, listed⟩ := Option.bind_eq_some_iff.mp own
        exact ⟨id, listed⟩
      · obtain ⟨id, -, listed⟩ := Option.bind_eq_some_iff.mp around
        exact ⟨id, listed⟩

private theorem mem_of_lookup {α β : Type} [BEq α] [LawfulBEq α] {entries : List (α × β)} {key : α} {v : β}
    (found : entries.lookup key = some v) : (key, v) ∈ entries := by
  obtain ⟨before, after, rfl, -⟩ := List.lookup_eq_some_iff.mp found
  exact List.mem_append_right _ List.mem_cons_self

variable (catalogs) in
/-- The names in all references of what the catalogs hold. -/
def namesInCatalogs : List String :=
  catalogs.listed.flatMap fun (_, catalog) => catalog.entries.flatMap fun (_, s) => (s.map namesInSchema).getD []

/-- The names in a schema of a catalog are among those in all catalogs. -/
theorem names_of_catalog {id : CatalogId} {label : String} {t : Schema} (listed : (catalogs.get id).get? label = some t) :
    namesInSchema t ⊆ namesInCatalogs catalogs := by
  have entry := mem_of_lookup (Option.join_eq_some_iff.mp listed)
  unfold Catalogs.get at entry
  cases found : catalogs.listed.lookup id with
  | none =>
    rw [found] at entry
    cases entry
  | some catalog =>
    rw [found] at entry
    exact fun x named => List.mem_flatMap.mpr ⟨_, mem_of_lookup found, List.mem_flatMap.mpr ⟨_, entry, named⟩⟩

theorem namesInTarget_schema (t : Schema) : namesInTarget (some (.schema t)) = namesInSchema t := by
  rw [namesInTarget]

/-- All names within what a reference leads to come from the schema that has the reference, or from a catalog. -/
theorem namesInTarget_of_leads {s : Schema} (own : namesInSchema s ⊆ names) (held : namesInCatalogs catalogs ⊆ names)
    {name : String} {found : Target} (leads : LeadsFrom catalogs options s name found) :
    name ∈ names ∧ namesInTarget (some found) ⊆ names := by
  obtain ⟨⟨label, target⟩, member, rfl, resolved⟩ := leads
  obtain ⟨named, carried⟩ := mem_namesInSchema (s.shownReferences_subset options member)
  refine ⟨own named, ?_⟩
  cases target with
  | some target =>
    obtain rfl : target = found := Option.some.inj resolved
    exact fun x inside => own (carried inside)
  | none =>
    obtain ⟨u, -, rfl⟩ := Option.map_eq_some_iff.mp resolved
    rw [namesInTarget_schema]
    obtain impossible | rfl | ⟨id, listed⟩ := lookup?_cases resolved
    · cases impossible
    · exact own
    · exact fun x inside => held (names_of_catalog listed inside)

theorem complete_makes {making : Drafting Entries} {key : String} {document : Entries}
    (completed : complete catalogs options key making = .ok document) :
    ∃ body first after, Makes making { definitionsKey := key } body first ∧
      Makes (writeUpTo catalogs options (namesWithin catalogs first).length) first ⟨⟩ after ∧
      document = if after.definitions.isEmpty then body else body.setField key (.map after.definitions) := by
  have made : Makes _ { definitionsKey := key } document _ := Prod.ext completed rfl
  obtain ⟨body, first, described, rest⟩ := makes_bind.mp made
  obtain ⟨⟨⟩, after, wrote, ended⟩ := makes_bind.mp rest
  obtain ⟨_, _, got, writing⟩ := makes_bind.mp wrote
  obtain ⟨rfl, rfl⟩ := makes_get.mp got
  obtain ⟨_, _, got', finished⟩ := makes_bind.mp ended
  obtain ⟨rfl, rfl⟩ := makes_get.mp got'
  exact ⟨body, _, _, described, writing, (makes_pure.mp finished).1⟩

variable (catalogs options) in
/-- References lead from schemas of a kind to others of that kind, which can depend on the name. -/
def Onward (Reached : String → Schema → Prop) : Prop :=
  ∀ label s, Reached label s → ∀ name found, LeadsFrom catalogs options s name found → ∃ t, found = .schema t ∧ Reached name t

/-- All names that references can have are counted from the first draft on. -/
theorem Onward.closed {Reached : String → Schema → Prop} (onward : Onward catalogs options Reached) (draft : Draft) :
    Closed catalogs options (fun label t => Reached label t ∧ namesInSchema t ⊆ namesWithin catalogs draft)
      (namesWithin catalogs draft) := by
  rintro label s ⟨reached, within⟩ name found leads
  have held : namesInCatalogs catalogs ⊆ namesWithin catalogs draft := List.subset_append_right _ _
  obtain ⟨named, inside⟩ := namesInTarget_of_leads within held leads
  obtain ⟨t, rfl, further⟩ := onward label s reached name found leads
  rw [namesInTarget_schema] at inside
  exact ⟨named, t, rfl, further, inside⟩

theorem ordered_of_grows {Reached : String → Schema → Prop} {First : String → Target → Prop}
    (into : ∀ name found, First name found → ∃ t, found = .schema t ∧ Reached name t) {first : Draft}
    (growth : Grows First { definitionsKey := options.definitionsKey } first) :
    Ordered catalogs options (fun label t => Reached label t ∧ namesInSchema t ⊆ namesWithin catalogs first)
      (namesWithin catalogs first) first := by
  refine ⟨growth.key, growth.unambiguous List.nodup_nil, fun label found recorded => ?_, growth.underway, ?_, ?_⟩
  · obtain impossible | ⟨name, target, rfl, rfl, leads⟩ := growth.fresh label found recorded
    · cases impossible
    · obtain ⟨t, rfl, reached⟩ := into name target leads
      obtain ⟨n, listed, same⟩ := recorded?_eq_some recorded
      refine ⟨name, t, rfl, rfl, ?_, reached, fun x named => ?_⟩
      · exact List.mem_append_left _ (List.mem_append_left _ (List.mem_map.mpr ⟨_, listed, congrArg (Option.getD · "") same⟩))
      · exact List.mem_append_left _ (List.mem_append_right _ (List.mem_flatMap.mpr ⟨_, listed, named⟩))
  · rw [growth.written]
    exact List.nodup_nil
  · rw [growth.written]
    exact fun _ member => nomatch member

/-- When nothing is missing, every schema that is recorded has been described. -/
theorem Ordered.defined {draft : Draft} (ordered : Ordered catalogs options Inside names draft) (done : draft.missing = [])
    {name : String} {t : Schema} (recorded : draft.recorded? (some name) = some (some (.schema t))) :
    ∃ keywords, Entries.field? draft.definitions name = some (.map keywords) ∧ Describes catalogs options draft t keywords := by
  obtain ⟨n, listed, label⟩ := recorded?_eq_some recorded
  cases written : draft.written.lookup (some name) with
  | none =>
    refine absurd (List.mem_filter.mpr ⟨listed, ?_⟩) (done ▸ List.not_mem_nil)
    dsimp only
    rw [label, written, ordered.idle]
    rfl
  | some definition =>
    obtain ⟨u, keywords, again, rfl, describes⟩ := ordered.definitions _ (mem_of_lookup written)
    rw [recorded] at again
    cases again
    exact ⟨keywords, definitions_field? ⟨_, listed, label⟩ written, describes⟩

theorem Ordered.labels {draft : Draft} (ordered : Ordered catalogs options Inside names draft) (done : draft.missing = []) :
    draft.definitions.map (·.1.str?) = draft.targets.map fun entry => labelOf entry.1 := by
  have written : ∀ entry ∈ draft.targets, (draft.written.lookup (labelOf entry.1)).isSome := by
    intro entry listed
    refine Decidable.byContradiction fun absent => absurd (List.mem_filter.mpr ⟨listed, ?_⟩) (done ▸ List.not_mem_nil)
    have idle := ordered.idle
    simp [Option.not_isSome_iff_eq_none.mp absent, idle]
  unfold Draft.definitions
  generalize draft.targets = targets at written
  induction targets with
  | nil => rfl
  | cons entry rest ih =>
    obtain ⟨first, others⟩ := List.forall_mem_cons.mp written
    obtain ⟨definition, found⟩ := Option.isSome_iff_exists.mp first
    simp only [List.filterMap_cons, found, Option.map_some, List.map_cons, str?_key]
    exact congrArg (_ :: ·) (ih others)

theorem Ordered.of_definition {draft : Draft} (ordered : Ordered catalogs options Inside names draft) {name : String} {v : Value}
    (found : Entries.field? draft.definitions name = some v) :
    ∃ t, draft.recorded? (some name) = some (some (.schema t)) ∧ Inside name t := by
  obtain ⟨e, member, named, -⟩ := Entries.mem_of_field? found
  obtain ⟨⟨label, target⟩, listed, told⟩ := List.mem_filterMap.mp member
  obtain ⟨definition, -, rfl⟩ := Option.map_eq_some_iff.mp told
  obtain ⟨own, t, same, rfl, -, inside⟩ := ordered.listed listed
  rw [str?_key] at named
  cases same.symm.trans named
  exact ⟨t, same ▸ ordered.unambiguous.recorded? listed, inside⟩

variable (catalogs options) in
/-- Each target that is recorded is a schema of a kind, and the pointer of its name leads to what describes it. -/
def Defines (Reached : Schema → Prop) (root : Entries) (draft : Draft) : Prop :=
  ∀ name known, draft.recorded? (some name) = some (some known) → ∃ t keywords, known = .schema t ∧ Reached t ∧
    Describes catalogs options draft t keywords ∧ Pointer.target? root (draft.pointer name) = some (.map keywords)

/-- What is made is completed by definitions for all that its references lead to. -/
theorem complete_defines {Reached : String → Schema → Prop} (onward : Onward catalogs options Reached)
    {First : String → Target → Prop} (into : ∀ name found, First name found → ∃ t, found = .schema t ∧ Reached name t)
    {making : Drafting Entries} (grows : ∀ before made after, Makes making before made after → Grows First before after)
    {document : Entries} (completed : complete catalogs options options.definitionsKey making = .ok document) :
    ∃ body first draft names, Makes making { definitionsKey := options.definitionsKey } body first ∧ Kept first draft ∧
      Ordered catalogs options Reached names draft ∧ draft.missing = [] ∧
      document = if draft.definitions.isEmpty then body else body.setField options.definitionsKey (.map draft.definitions) := by
  obtain ⟨body, first, draft, described, writing, same⟩ := complete_makes completed
  obtain ⟨ordered, kept, done⟩ :=
    writeUpTo_ordered (onward.closed first) (ordered_of_grows into (grows _ _ _ described)) (Nat.le_add_left _ _) writing
  exact ⟨body, first, draft, _, described, kept, ordered.weaken fun _ _ inside => inside.1, done, same⟩

/-- A document describes its schema, and defines what the description refers to. -/
theorem generate_defines {Reached : Schema → Prop} (onward : Onward catalogs options fun _ => Reached)
    (key : options.definitionsKey ∈ Pointer.definitionsKeys) {s : Schema} (reached : Reached s) {document : Entries}
    (generated : generate catalogs options s = .ok document) :
    ∃ draft body, Describes catalogs options draft s body ∧ Defines catalogs options Reached document draft ∧
      ∀ v, Admits document (.map body) v → Admits document (.map document) v := by
  obtain ⟨body, first, draft, names, described, kept, ordered, done, same⟩ :=
    complete_defines onward (onward "" s reached) (fun _ _ _ => ofSchema_grows) generated
  refine ⟨draft, body, ⟨_, first, described, kept⟩, fun name known recorded => ?_, fun v admitted => ?_⟩
  · obtain ⟨_, t, -, schema, -, further⟩ := ordered.targets _ _ recorded
    cases schema
    obtain ⟨keywords, defined, describes⟩ := ordered.defined done recorded
    refine ⟨t, keywords, rfl, further, describes, ?_⟩
    have under : Entries.field? document options.definitionsKey = some (.map draft.definitions) := by
      have some : draft.definitions.isEmpty ≠ true := fun none => by
        rw [List.isEmpty_iff.mp none] at defined
        cases defined
      rw [same, if_neg some, Entries.field?_setField_self]
    rw [Draft.pointer, ordered.key]
    exact Pointer.target?_ofName key under defined
  · split at same
    · subst same
      exact admitted
    · subst same
      refine admitted.remark ?_ _
      revert key
      generalize options.definitionsKey = key
      revert key
      decide

end RecordSchema.Document
