import Mathlib.Control.Traversable.Instances
import RecordSchema.Document.Recursion
import RecordSchema.Proofs.Outcome

/-! Walks over schema documents, entry by entry: the schemas that a walk meets, the definitions that they
point to, and what becomes of them when each is changed. Main statements: `rebuild_eq_pure`,
`rebuild_schemas`. -/

namespace RecordSchema.Document

/-- The values under a key that stand for schemas. -/
def subvalues (key v : Value) : List Value :=
  match KeywordShape.ofKey? key, v with
  | some .single, v => [v]
  | some .many, .list items => items
  | some .named, .map entries => entries.map Prod.snd
  | _, _ => []

theorem sizeOf_subvalue_lt {entries : Entries} {key v w : Value} (member : (key, v) ∈ entries)
    (inside : w ∈ subvalues key v) : sizeOf w < sizeOf (Value.map entries) := by
  have outer : sizeOf v < sizeOf (Value.map entries) := by
    have smaller := List.sizeOf_lt_of_mem member
    simp only [Prod.mk.sizeOf_spec] at smaller
    simp only [Value.map.sizeOf_spec]
    omega
  revert inside
  unfold subvalues
  generalize KeywordShape.ofKey? key = shape
  intro inside
  rcases shape with _ | _ | _ | _
  · cases inside
  · cases List.mem_singleton.mp inside
    exact outer
  · cases v with
    | list items =>
      have smaller : sizeOf w < sizeOf items := List.sizeOf_lt_of_mem inside
      simp only [Value.list.sizeOf_spec] at outer
      omega
    | _ => cases inside
  · cases v with
    | map named =>
      obtain ⟨⟨k, u⟩, among, rfl⟩ := List.mem_map.mp inside
      have smaller := List.sizeOf_lt_of_mem among
      simp only [Prod.mk.sizeOf_spec] at smaller
      rw [Value.map.sizeOf_spec named] at outer
      dsimp only
      omega
    | _ => cases inside

/-- To show something of every value, show it of a map if the values that stand for schemas in it have it; of a
list if its items have it; and of all else. -/
theorem descend {P : Value → Prop}
    (map : ∀ entries : Entries, (∀ e ∈ entries, ∀ w ∈ subvalues e.1 e.2, P w) → P (.map entries))
    (list : ∀ items, (∀ v ∈ items, P v) → P (.list items))
    (leaf : ∀ v, (∀ entries, v ≠ .map entries) → (∀ items, v ≠ .list items) → P v) (v : Value) : P v := by
  cases v with
  | map entries =>
    refine map entries fun e member w inside => ?_
    have smaller : sizeOf w < sizeOf (Value.map entries) := sizeOf_subvalue_lt member inside
    exact descend map list leaf w
  | list items =>
    refine list items fun v member => ?_
    have smaller : sizeOf v < sizeOf (Value.list items) := by
      have inside := List.sizeOf_lt_of_mem member
      simp only [Value.list.sizeOf_spec]
      omega
    exact descend map list leaf v
  | _ => exact leaf _ (fun _ same => nomatch same) fun _ same => nomatch same
termination_by sizeOf v
decreasing_by all_goals exact smaller

section Schemas

mutual

/-- The schemas that a walk meets: every map where a schema can stand, also in lists of lists. -/
def schemas : Value → List Entries
  | .map entries => entries :: schemasOfEntries entries
  | .list items => schemasOfItems items
  | _ => []

def schemasOfEntries : List (Value × Value) → List Entries
  | [] => []
  | (key, v) :: rest =>
    (match KeywordShape.ofKey? key, v with
      | some .single, v => schemas v
      | some .many, .list items => schemasOfItems items
      | some .named, .map entries => schemasOfNamed entries
      | _, _ => []) ++ schemasOfEntries rest

def schemasOfItems : List Value → List Entries
  | [] => []
  | v :: rest => schemas v ++ schemasOfItems rest

def schemasOfNamed : List (Value × Value) → List Entries
  | [] => []
  | (_, v) :: rest => schemas v ++ schemasOfNamed rest

end

theorem schemas_list (items : List Value) : schemas (.list items) = items.flatMap schemas := by
  rw [schemas]
  induction items with
  | nil => rfl
  | cons v rest ih => rw [schemasOfItems, ih, List.flatMap_cons]

private theorem schemasOfNamed_eq (entries : List (Value × Value)) :
    schemasOfNamed entries = (entries.map Prod.snd).flatMap schemas := by
  induction entries with
  | nil => rfl
  | cons e rest ih => rw [schemasOfNamed, ih, List.map_cons, List.flatMap_cons]

/-- The schemas that a walk meets under a key. -/
def schemasUnder (key v : Value) : List Entries := (subvalues key v).flatMap schemas

theorem schemas_map (entries : Entries) :
    schemas (.map entries) = entries :: List.flatMap (fun e => schemasUnder e.1 e.2) entries := by
  rw [schemas]
  congr 1
  induction entries with
  | nil => rfl
  | cons e rest ih =>
    obtain ⟨key, v⟩ := e
    rw [List.flatMap_cons, ← ih, schemasOfEntries.eq_def]
    unfold schemasUnder subvalues
    dsimp only
    generalize KeywordShape.ofKey? key = shape
    congr 1
    rcases shape with _ | _ | _ | _
    · rfl
    · exact (List.flatMap_singleton _ _).symm
    · cases v with
      | list items => exact schemas_list items
      | _ => rfl
    · cases v with
      | map entries => exact schemasOfNamed_eq entries
      | _ => rfl

theorem mem_schemas_map {entries schema : Entries} :
    schema ∈ schemas (.map entries) ↔ schema = entries ∨ ∃ e ∈ entries, schema ∈ schemasUnder e.1 e.2 := by
  rw [schemas_map, List.mem_cons, List.mem_flatMap]

theorem schemas_leaf {v : Value} (noMap : ∀ entries, v ≠ .map entries) (noList : ∀ items, v ≠ .list items) :
    schemas v = [] := by
  cases v with
  | map entries => exact absurd rfl (noMap entries)
  | list items => exact absurd rfl (noList items)
  | _ => rfl

/-- Schemas under a key stand under every key of that text. -/
theorem mem_schemasUnder {key v : Value} {schema : Entries} (met : schema ∈ schemasUnder key v) :
    ∃ name, key.str? = some name ∧ ∀ other : Value, other.str? = some name → schema ∈ schemasUnder other v := by
  unfold schemasUnder at met ⊢
  cases named : key.str? with
  | none =>
    have shape : KeywordShape.ofKey? key = none := by rw [KeywordShape.ofKey?, named]; rfl
    unfold subvalues at met
    rw [shape] at met
    cases met
  | some name =>
    refine ⟨name, rfl, fun other text => ?_⟩
    have shape : KeywordShape.ofKey? other = KeywordShape.ofKey? key := by
      rw [KeywordShape.ofKey?, KeywordShape.ofKey?, named, text]
    unfold subvalues at met ⊢
    rw [shape]
    exact met

end Schemas

section Pointers

/-- The definition that a schema points to. -/
def pointer? (schema : Entries) : Option String := (schema.field? "$ref").bind Pointer.nameOf?

/-- The definitions that the schemas in a value point to. -/
def pointers (v : Value) : List String := (schemas v).filterMap pointer?

theorem mem_pointers {v : Value} {name : String} : name ∈ pointers v ↔ ∃ schema ∈ schemas v, pointer? schema = some name :=
  List.mem_filterMap

private theorem referencesOfItems_eq (items : List Value) : referencesOfItems items = items.flatMap references := by
  induction items with
  | nil => rfl
  | cons v rest ih => rw [referencesOfItems, ih, List.flatMap_cons]

private theorem referencesOfNamed_eq (entries : List (Value × Value)) :
    referencesOfNamed entries = (entries.map Prod.snd).flatMap references := by
  induction entries with
  | nil => rfl
  | cons e rest ih => rw [referencesOfNamed, ih, List.map_cons, List.flatMap_cons]

/-- The values under a key in which the search for references goes on. -/
def searched (key v : Value) : List Value :=
  match KeywordShape.ofKey? key, v with
  | some .single, .list items => items
  | _, _ => subvalues key v

theorem subvalue_of_searched {key v w : Value} (inside : w ∈ searched key v) :
    w ∈ subvalues key v ∨ ∃ items, .list items ∈ subvalues key v ∧ w ∈ items := by
  unfold searched at inside
  split at inside
  next items shape =>
    refine .inr ⟨items, ?_, inside⟩
    unfold subvalues
    rw [shape]
    exact List.mem_singleton_self _
  next => exact .inl inside

/-- In a list where schemas can stand the search goes on with the items, unless one schema should stand there. -/
theorem searched_of_subvalue {key v w : Value} (inside : w ∈ subvalues key v) :
    w ∈ searched key v ∨ ∃ items, w = .list items ∧ ∀ i ∈ items, i ∈ searched key v := by
  unfold searched
  split
  next items shape =>
    unfold subvalues at inside
    rw [shape] at inside
    exact .inr ⟨items, List.mem_singleton.mp inside, fun _ member => member⟩
  next => exact .inl inside

private theorem referencesOfEntries_cons (key v : Value) (rest : List (Value × Value)) :
    referencesOfEntries ((key, v) :: rest) = (searched key v).flatMap references ++ referencesOfEntries rest := by
  rw [referencesOfEntries.eq_def]
  unfold searched subvalues
  dsimp only
  generalize KeywordShape.ofKey? key = shape
  congr 1
  rcases shape with _ | _ | _ | _
  · rfl
  · cases v with
    | list items => exact referencesOfItems_eq items
    | _ => exact (List.flatMap_singleton _ _).symm
  · cases v with
    | list items => exact referencesOfItems_eq items
    | _ => rfl
  · cases v with
    | map named => exact referencesOfNamed_eq named
    | _ => rfl

/-- The names that a schema refers to, in order: the one that it points to, and those under its keywords. -/
theorem references_map (entries : Entries) :
    references (.map entries) = (pointer? entries).toList ++ List.flatMap (fun e => (searched e.1 e.2).flatMap references) entries := by
  rw [references]
  congr 1
  induction entries with
  | nil => rfl
  | cons e rest ih =>
    obtain ⟨key, v⟩ := e
    rw [referencesOfEntries_cons, ih, List.flatMap_cons]

/-- A schema refers to what it points to itself, and to what the values in it refer to. -/
theorem mem_references_map {entries : Entries} {name : String} :
    name ∈ references (.map entries) ↔ pointer? entries = some name ∨ ∃ e ∈ entries, ∃ w ∈ searched e.1 e.2, name ∈ references w := by
  rw [references_map, List.mem_append, Option.mem_toList]
  simp only [List.mem_flatMap]

/-- What the schemas below a schema refer to, it refers to itself. -/
theorem references_subset_map {entries : Entries} {e : Value × Value} (member : e ∈ entries) {w : Value}
    (inside : w ∈ subvalues e.1 e.2) (noList : ∀ items, w ≠ .list items) : references w ⊆ references (.map entries) := by
  obtain found | ⟨items, same, -⟩ := searched_of_subvalue inside
  · exact fun name mentioned => mem_references_map.mpr (.inr ⟨e, member, w, found, mentioned⟩)
  · exact absurd same (noList items)

/-- References are found by a walk that does not look into lists of lists. -/
theorem references_subset (v : Value) : references v ⊆ pointers v ∧
    ∀ items, v = .list items → ∀ i ∈ items, references i ⊆ pointers i := by
  induction v using descend with
  | map entries below =>
    refine ⟨fun name mentioned => ?_, fun _ same => nomatch same⟩
    rw [mem_pointers]
    obtain here | ⟨e, member, w, found, refers⟩ := mem_references_map.mp mentioned
    · exact ⟨entries, mem_schemas_map.mpr (.inl rfl), here⟩
    · have pointed : ∃ sub ∈ subvalues e.1 e.2, ∃ schema ∈ schemas sub, pointer? schema = some name := by
        obtain inside | ⟨items, inside, item⟩ := subvalue_of_searched found
        · exact ⟨w, inside, mem_pointers.mp ((below e member w inside).1 refers)⟩
        · obtain ⟨schema, met, points⟩ := mem_pointers.mp ((below e member _ inside).2 items rfl w item refers)
          refine ⟨_, inside, schema, ?_, points⟩
          rw [schemas_list]
          exact List.mem_flatMap.mpr ⟨w, item, met⟩
      obtain ⟨sub, inside, schema, met, points⟩ := pointed
      exact ⟨schema, mem_schemas_map.mpr (.inr ⟨e, member, List.mem_flatMap.mpr ⟨sub, inside, met⟩⟩), points⟩
  | list items ofItems =>
    refine ⟨fun _ mentioned => (nomatch mentioned), fun items' same i member => ?_⟩
    cases same
    exact (ofItems i member).1
  | leaf v noMap noList =>
    refine ⟨fun name mentioned => ?_, fun items same => absurd same (noList items)⟩
    cases v with
    | map entries => exact absurd rfl (noMap entries)
    | _ => cases mentioned

/-- No list stands in the place of one schema, and none in that of the value itself. -/
def Straight (v : Value) : Prop :=
  v.list?.isNone ∧ ∀ schema ∈ schemas v, ∀ e ∈ schema, ∀ w ∈ searched e.1 e.2, w.list?.isNone

instance (v : Value) : Decidable (Straight v) := inferInstanceAs (Decidable (_ ∧ ∀ schema ∈ schemas v, ∀ e ∈ schema, _))

/-- The search for references finds all that a walk meets, if no list stands in the place of one schema. -/
theorem Straight.pointers_subset {v : Value} (straight : Straight v) : pointers v ⊆ references v := by
  have found : (Straight v → pointers v ⊆ references v) ∧
      ∀ items, v = .list items → ∀ i ∈ items, Straight i → pointers i ⊆ references i := by
    clear straight
    induction v using descend with
    | map entries below =>
      refine ⟨fun ⟨_, places⟩ name pointed => ?_, fun _ same => nomatch same⟩
      have within {e : Value × Value} (member : e ∈ entries) {w : Value} (found : w ∈ searched e.1 e.2)
          (met : ∀ schema ∈ schemas w, schema ∈ schemas (.map entries)) : Straight w :=
        ⟨places entries (mem_schemas_map.mpr (.inl rfl)) e member w found, fun schema inside => places schema (met schema inside)⟩
      obtain ⟨schema, met, points⟩ := mem_pointers.mp pointed
      obtain rfl | ⟨e, member, deeper⟩ := mem_schemas_map.mp met
      · exact mem_references_map.mpr (.inl points)
      · obtain ⟨w, inside, deeper⟩ := List.mem_flatMap.mp deeper
        have around (schema : Entries) (met : schema ∈ schemas w) : schema ∈ schemas (.map entries) :=
          mem_schemas_map.mpr (.inr ⟨e, member, List.mem_flatMap.mpr ⟨w, inside, met⟩⟩)
        refine mem_references_map.mpr (.inr ⟨e, member, ?_⟩)
        obtain found | ⟨items, rfl, each⟩ := searched_of_subvalue inside
        · exact ⟨w, found, (below e member w inside).1 (within member found around) (mem_pointers.mpr ⟨schema, deeper, points⟩)⟩
        · rw [schemas_list] at deeper around
          obtain ⟨i, item, deeper⟩ := List.mem_flatMap.mp deeper
          have own : Straight i := within member (each i item) fun schema met => around schema (List.mem_flatMap.mpr ⟨i, item, met⟩)
          exact ⟨i, each i item, (below e member _ inside).2 items rfl i item own (mem_pointers.mpr ⟨schema, deeper, points⟩)⟩
    | list items ofItems =>
      refine ⟨fun ⟨noList, _⟩ => (nomatch noList), fun items' same i member => ?_⟩
      cases same
      exact (ofItems i member).1
    | leaf v noMap noList =>
      refine ⟨fun _ name pointed => ?_, fun items same => absurd same (noList items)⟩
      rw [pointers, schemas_leaf noMap noList] at pointed
      cases pointed
  exact found.1 straight

end Pointers

theorem rebuild_leaf {m : Type → Type} [Monad m] {change : Entries → m Entries} {v : Value}
    (noMap : ∀ entries, v ≠ .map entries) (noList : ∀ items, v ≠ .list items) : rebuild true change v = pure v := by
  cases v with
  | map entries => exact absurd rfl (noMap entries)
  | list items => exact absurd rfl (noList items)
  | _ => rfl

section Rebuild
variable {m : Type → Type} [Monad m] [LawfulMonad m] (change : Entries → m Entries)

/-- What becomes of what stands under a key. -/
def rebuildUnder (key v : Value) : m Value :=
  match KeywordShape.ofKey? key, v with
  | some .single, v => rebuild true change v
  | some .many, .list items => .list <$> items.mapM (rebuild true change)
  | some .named, .map entries => .map <$> entries.mapM fun e => (e.1, ·) <$> rebuild true change e.2
  | _, v => pure v

private theorem rebuildItems_eq (items : List Value) : rebuildItems true change items = items.mapM (rebuild true change) := by
  induction items with
  | nil => rfl
  | cons v rest ih => rw [rebuildItems, ih, List.mapM_cons]

private theorem rebuildNamed_eq (entries : List (Value × Value)) :
    rebuildNamed true change entries = entries.mapM fun e => (e.1, ·) <$> rebuild true change e.2 := by
  induction entries with
  | nil => rfl
  | cons e rest ih =>
    obtain ⟨key, v⟩ := e
    rw [rebuildNamed, ih, List.mapM_cons]
    simp only [map_eq_pure_bind, bind_assoc, pure_bind]

theorem rebuild_list (items : List Value) :
    rebuild true change (.list items) = .list <$> items.mapM (rebuild true change) := by
  rw [rebuild, if_pos rfl, rebuildItems_eq]

theorem rebuildEntries_eq (entries : List (Value × Value)) :
    rebuildEntries true change entries = entries.mapM fun e => (e.1, ·) <$> rebuildUnder change e.1 e.2 := by
  induction entries with
  | nil => rfl
  | cons e rest ih =>
    obtain ⟨key, v⟩ := e
    rw [List.mapM_cons, ← ih, rebuildEntries.eq_def]
    unfold rebuildUnder
    dsimp only
    generalize KeywordShape.ofKey? key = shape
    simp only [map_eq_pure_bind, bind_assoc, pure_bind]
    rcases shape with _ | _ | _ | _
    · simp
    · cases v <;> simp [rebuild]
    · cases v <;> simp [rebuildItems_eq]
    · cases v <;> simp [rebuildNamed_eq]

theorem rebuild_map (entries : Entries) :
    rebuild true change (.map entries) = do
      return .map (← change (← List.mapM (fun e => (e.1, ·) <$> rebuildUnder change e.1 e.2) entries)) := by
  rw [rebuild, rebuildEntries_eq]

end Rebuild

section Pure
variable {m : Type → Type} [Monad m] [LawfulMonad m] {change : Entries → m Entries} {plain : Entries → Entries}

theorem mapM_eq_pure {α β : Type} {f : α → m β} {g : α → β} {items : List α} (each : ∀ a ∈ items, f a = pure (g a)) :
    items.mapM f = pure (items.map g) := by
  induction items with
  | nil => rfl
  | cons a rest ih =>
    obtain ⟨first, others⟩ := List.forall_mem_cons.mp each
    rw [List.mapM_cons, first, ih others, pure_bind, pure_bind]
    rfl

/-- A walk on which changing a schema takes nothing else. -/
def rebuilt (plain : Entries → Entries) (v : Value) : Value := rebuild (m := Id) true plain v

/-- What becomes of what stands under a key on such a walk. -/
def rebuiltUnder (plain : Entries → Entries) (key v : Value) : Value :=
  match KeywordShape.ofKey? key, v with
  | some .single, v => rebuilt plain v
  | some .many, .list items => .list (items.map (rebuilt plain))
  | some .named, .map entries => .map (entries.map fun e => (e.1, rebuilt plain e.2))
  | _, v => v

def rebuiltEntries (plain : Entries → Entries) (entries : Entries) : Entries :=
  List.map (fun e => (e.1, rebuiltUnder plain e.1 e.2)) entries

private theorem rebuildUnder_eq_pure {key v : Value}
    (each : ∀ w ∈ subvalues key v, rebuild true change w = pure (rebuilt plain w)) :
    rebuildUnder change key v = pure (rebuiltUnder plain key v) := by
  unfold rebuildUnder rebuiltUnder
  unfold subvalues at each
  revert each
  generalize KeywordShape.ofKey? key = shape
  intro each
  rcases shape with _ | _ | _ | _
  · rfl
  · exact each v (List.mem_singleton_self v)
  · cases v with
    | list items =>
      show (Value.list <$> List.mapM _ items : m Value) = _
      rw [mapM_eq_pure each, map_pure]
    | _ => rfl
  · cases v with
    | map entries =>
      have entry : ∀ e ∈ entries, ((e.1, ·) <$> rebuild true change e.2 : m (Value × Value)) = pure (e.1, rebuilt plain e.2) := by
        intro e member
        rw [each e.2 (List.mem_map_of_mem member), map_pure]
      show (Value.map <$> List.mapM _ entries : m Value) = _
      rw [mapM_eq_pure entry, map_pure]
    | _ => rfl

theorem rebuildEntries_eq_pure {entries : Entries}
    (each : ∀ e ∈ entries, ∀ w ∈ subvalues e.1 e.2, rebuild true change w = pure (rebuilt plain w)) :
    rebuildEntries true change entries = pure (rebuiltEntries plain entries) := by
  rw [rebuildEntries_eq]
  refine mapM_eq_pure fun e member => ?_
  rw [rebuildUnder_eq_pure (each e member), map_pure]

theorem rebuilt_map (plain : Entries → Entries) (entries : Entries) :
    rebuilt plain (.map entries) = .map (plain (rebuiltEntries plain entries)) := by
  rw [rebuilt, rebuild, rebuildEntries_eq_pure fun _ _ _ _ => rfl]
  rfl

theorem rebuilt_list (plain : Entries → Entries) (items : List Value) :
    rebuilt plain (.list items) = .list (items.map (rebuilt plain)) := by
  have each : ∀ v ∈ items, rebuild (m := Id) true plain v = pure (rebuilt plain v) := fun _ _ => rfl
  rw [rebuilt, rebuild_list, mapM_eq_pure each]
  rfl

theorem list?_rebuilt {v : Value} (noList : v.list? = none) (plain : Entries → Entries) : (rebuilt plain v).list? = none := by
  cases v with
  | map schema =>
    rw [rebuilt_map]
    rfl
  | list items => cases noList
  | _ => rfl

theorem subvalues_rebuilt (plain : Entries → Entries) (key v : Value) :
    subvalues key (rebuiltUnder plain key v) = (subvalues key v).map (rebuilt plain) := by
  unfold rebuiltUnder subvalues
  generalize KeywordShape.ofKey? key = shape
  rcases shape with _ | _ | _ | _
  · rfl
  · rfl
  · cases v <;> rfl
  · cases v with
    | map entries =>
      show List.map Prod.snd (List.map _ entries) = List.map _ (List.map Prod.snd entries)
      rw [List.map_map, List.map_map]
      rfl
    | _ => rfl

theorem rebuiltUnder_of_unshaped {key v : Value} (shape : KeywordShape.ofKey? key = none) : rebuiltUnder plain key v = v := by
  unfold rebuiltUnder
  rw [shape]

theorem searched_rebuilt (plain : Entries → Entries) (key v : Value) :
    searched key (rebuiltUnder plain key v) = (searched key v).map (rebuilt plain) := by
  unfold searched subvalues rebuiltUnder
  generalize KeywordShape.ofKey? key = shape
  rcases shape with _ | _ | _ | _
  · rfl
  · cases v with
    | map entries => simp [rebuilt_map]
    | list items => simp [rebuilt_list]
    | _ => rfl
  · cases v <;> rfl
  · cases v with
    | map entries => simp
    | _ => rfl

theorem field?_rebuilt (plain : Entries → Entries) (schema : Entries) (keyword : String) :
    (rebuiltEntries plain schema).field? keyword = (schema.field? keyword).map (rebuiltUnder plain (.str keyword)) := by
  induction schema with
  | nil => rfl
  | cons e rest ih =>
    obtain ⟨key, v⟩ := e
    show Entries.field? ((key, rebuiltUnder plain key v) :: rebuiltEntries plain rest) keyword = _
    rw [Entries.field?, Entries.field?, ih]
    split
    next named =>
      have shape : KeywordShape.ofKey? key = KeywordShape.ofKey? (.str keyword) := congrArg (Option.bind · _) named
      unfold rebuiltUnder
      rw [shape]
      rfl
    next => rfl

theorem pointer?_rebuilt (plain : Entries → Entries) (schema : Entries) :
    pointer? (rebuiltEntries plain schema) = pointer? schema := by
  have same : rebuiltUnder plain (.str "$ref") = id := rfl
  rw [pointer?, pointer?, field?_rebuilt, same, Option.map_id]
  rfl

/-- Whether changing a schema can take anything else makes no difference to a walk that meets no schema where
it does. -/
theorem rebuild_eq_pure {v : Value}
    (agree : ∀ schema ∈ schemas v, change (rebuiltEntries plain schema) = pure (plain (rebuiltEntries plain schema))) :
    rebuild true change v = pure (rebuilt plain v) := by
  induction v using descend with
  | map entries below =>
    have beneath : rebuildEntries true change entries = pure (rebuiltEntries plain entries) := by
      refine rebuildEntries_eq_pure fun e member w inside => below e member w inside fun schema met => agree schema ?_
      exact mem_schemas_map.mpr (.inr ⟨e, member, List.mem_flatMap.mpr ⟨w, inside, met⟩⟩)
    rw [rebuild, beneath, pure_bind, agree entries (mem_schemas_map.mpr (.inl rfl)), pure_bind, rebuilt_map]
  | list items ofItems =>
    rw [schemas_list] at agree
    have each : ∀ v ∈ items, rebuild true change v = pure (rebuilt plain v) :=
      fun v member => ofItems v member fun schema met => agree schema (List.mem_flatMap.mpr ⟨v, member, met⟩)
    rw [rebuild_list, mapM_eq_pure each, rebuilt_list, map_pure]
  | leaf v noMap noList =>
    rw [rebuild_leaf noMap noList, rebuilt, rebuild_leaf noMap noList]
    rfl

theorem rebuiltUnder_id {key v : Value} (each : ∀ w ∈ subvalues key v, rebuilt id w = w) :
    rebuiltUnder id key v = v := by
  revert each
  unfold rebuiltUnder subvalues
  generalize KeywordShape.ofKey? key = shape
  intro each
  rcases shape with _ | _ | _ | _
  · rfl
  · exact each v (List.mem_singleton_self v)
  · cases v with
    | list items => exact congrArg Value.list ((List.map_congr_left each).trans (List.map_id items))
    | _ => rfl
  · cases v with
    | map named =>
      refine congrArg Value.map ((List.map_congr_left fun e member => ?_).trans (List.map_id named))
      rw [each e.2 (List.mem_map_of_mem member)]
      rfl
    | _ => rfl

theorem rebuilt_id (v : Value) : rebuilt id v = v := by
  induction v using descend with
  | map entries below =>
    have entry : ∀ e ∈ entries, (e.1, rebuiltUnder id e.1 e.2) = id e := by
      intro e member
      rw [rebuiltUnder_id (below e member)]
      rfl
    rw [rebuilt_map, rebuiltEntries, List.map_congr_left entry, List.map_id, id]
  | list items ofItems =>
    rw [rebuilt_list]
    exact congrArg Value.list ((List.map_congr_left ofItems).trans (List.map_id items))
  | leaf v noMap noList => exact rebuild_leaf noMap noList

theorem rebuiltEntries_id (schema : Entries) : rebuiltEntries id schema = schema := by
  have same := rebuilt_id (.map schema)
  rw [rebuilt_map] at same
  exact Value.map.inj same

theorem rebuild_unchanged {v : Value} (unchanged : ∀ schema ∈ schemas v, change schema = pure schema) :
    rebuild true change v = pure v := by
  have agree : ∀ schema ∈ schemas v, change (rebuiltEntries id schema) = pure (id (rebuiltEntries id schema)) := by
    intro schema met
    rw [rebuiltEntries_id]
    exact unchanged schema met
  rw [rebuild_eq_pure agree, rebuilt_id]

/-- What holds of each schema once it is changed, if it holds of the schemas below it, holds of all schemas that a
walk leaves. -/
theorem rebuild_schemas {Fine : Entries → Prop} {v : Value}
    (fine : ∀ schema ∈ schemas v, (∀ e ∈ rebuiltEntries plain schema, ∀ below ∈ schemasUnder e.1 e.2, Fine below) →
      ∀ made ∈ schemas (.map (plain (rebuiltEntries plain schema))), Fine made) :
    ∀ made ∈ schemas (rebuilt plain v), Fine made := by
  induction v using descend with
  | map entries below =>
    rw [rebuilt_map]
    refine fine entries (mem_schemas_map.mpr (.inl rfl)) fun e member made met => ?_
    obtain ⟨⟨key, v⟩, inside, rfl⟩ := List.mem_map.mp member
    rw [schemasUnder, subvalues_rebuilt] at met
    obtain ⟨_, among, met⟩ := List.mem_flatMap.mp met
    obtain ⟨w, sub, rfl⟩ := List.mem_map.mp among
    refine below (key, v) inside w sub (fun schema deeper => fine schema ?_) made met
    exact mem_schemas_map.mpr (.inr ⟨_, inside, List.mem_flatMap.mpr ⟨w, sub, deeper⟩⟩)
  | list items ofItems =>
    rw [rebuilt_list, schemas_list]
    rw [schemas_list] at fine
    intro made met
    obtain ⟨_, member, met⟩ := List.mem_flatMap.mp met
    obtain ⟨v, inside, rfl⟩ := List.mem_map.mp member
    exact ofItems v inside (fun schema deeper => fine schema (List.mem_flatMap.mpr ⟨v, inside, deeper⟩)) made met
  | leaf v noMap noList =>
    have same : rebuilt plain v = v := rebuild_leaf noMap noList
    rw [same, schemas_leaf noMap noList]
    exact List.forall_mem_nil _

end Pure

section Failing
variable {ε : Type} {change : Entries → Except ε Entries}

theorem pointer?_of_rebuilt {entries made : Entries}
    (ended : List.mapM (fun e => (e.1, ·) <$> rebuildUnder change e.1 e.2) entries = .ok made) : pointer? made = pointer? entries := by
  rw [pointer?, pointer?]
  congr 1
  induction entries generalizing made with
  | nil =>
    cases ended
    rfl
  | cons e rest ih =>
    obtain ⟨key, v⟩ := e
    rw [List.mapM_cons] at ended
    obtain ⟨first, changed, ended⟩ := Except.bind_eq_ok.mp ended
    obtain ⟨others, remaining, same⟩ := Except.bind_eq_ok.mp ended
    obtain ⟨w, under, rfl⟩ := Except.map_eq_ok.mp changed
    cases same
    rw [Entries.field?, Entries.field?, ih remaining]
    split
    next named =>
      have shape : KeywordShape.ofKey? key = none := by rw [KeywordShape.ofKey?, named]; rfl
      unfold rebuildUnder at under
      rw [shape] at under
      cases under
      rfl
    next => rfl

private theorem subvalue_rebuilt {key v w : Value} (ended : rebuildUnder change key v = .ok w) :
    ∀ sub ∈ subvalues key v, (rebuild true change sub).Returns := by
  unfold rebuildUnder at ended
  unfold subvalues
  revert ended
  generalize KeywordShape.ofKey? key = shape
  intro ended
  rcases shape with _ | _ | _ | _
  · exact List.forall_mem_nil _
  · exact List.forall_mem_singleton.mpr ⟨w, ended⟩
  · cases v with
    | list items =>
      obtain ⟨results, ended, -⟩ := Except.map_eq_ok.mp ended
      intro sub member
      obtain ⟨made, -, done⟩ := Except.returned_of_mapM ended sub member
      exact ⟨made, done⟩
    | _ => exact List.forall_mem_nil _
  · cases v with
    | map named =>
      obtain ⟨results, ended, -⟩ := Except.map_eq_ok.mp ended
      refine List.forall_mem_map.mpr fun e member => ?_
      obtain ⟨_, -, done⟩ := Except.returned_of_mapM ended e member
      obtain ⟨made, done, -⟩ := Except.map_eq_ok.mp done
      exact ⟨made, done⟩
    | _ => exact List.forall_mem_nil _

/-- A walk that returns has changed every schema that it meets, with the pointer that was there. -/
theorem changed_of_rebuild {v : Value} (returns : (rebuild true change v).Returns) :
    ∀ schema ∈ schemas v, ∃ made, pointer? made = pointer? schema ∧ (change made).Returns := by
  induction v using descend with
  | map entries below =>
    obtain ⟨w, ended⟩ := returns
    rw [rebuild_map] at ended
    obtain ⟨made, under, ended⟩ := Except.bind_eq_ok.mp ended
    obtain ⟨done, changed, -⟩ := Except.bind_eq_ok.mp ended
    intro schema met
    obtain rfl | ⟨e, member, deeper⟩ := mem_schemas_map.mp met
    · exact ⟨made, pointer?_of_rebuilt under, done, changed⟩
    · obtain ⟨sub, inside, deeper⟩ := List.mem_flatMap.mp deeper
      obtain ⟨_, -, done⟩ := Except.returned_of_mapM under e member
      obtain ⟨w, done, -⟩ := Except.map_eq_ok.mp done
      exact below e member sub inside (subvalue_rebuilt done sub inside) schema deeper
  | list items ofItems =>
    obtain ⟨w, ended⟩ := returns
    rw [rebuild_list] at ended
    obtain ⟨results, ended, -⟩ := Except.map_eq_ok.mp ended
    rw [schemas_list]
    intro schema met
    obtain ⟨v, member, met⟩ := List.mem_flatMap.mp met
    obtain ⟨made, -, done⟩ := Except.returned_of_mapM ended v member
    exact ofItems v member ⟨made, done⟩ schema met
  | leaf v noMap noList =>
    rw [schemas_leaf noMap noList]
    exact List.forall_mem_nil _

private theorem rebuildUnder_failsOnlyWith {fault : ε} {key v : Value}
    (each : ∀ sub ∈ subvalues key v, (rebuild true change sub).FailsOnlyWith fault) :
    (rebuildUnder change key v).FailsOnlyWith fault := by
  revert each
  unfold rebuildUnder subvalues
  generalize KeywordShape.ofKey? key = shape
  intro each
  rcases shape with _ | _ | _ | _
  · exact Except.failsOnly_ok _ v
  · exact each v (List.mem_singleton_self v)
  · cases v with
    | list items => exact (Except.FailsOnly.mapM each).map _
    | _ => exact Except.failsOnly_ok _ _
  · cases v with
    | map named =>
      exact (Except.FailsOnly.mapM fun e member => (each e.2 (List.mem_map_of_mem member)).map _).map _
    | _ => exact Except.failsOnly_ok _ _

/-- A walk fails with nothing else than changing a schema does. -/
theorem rebuild_failsOnlyWith {fault : ε} (each : ∀ schema, (change schema).FailsOnlyWith fault) (v : Value) :
    (rebuild true change v).FailsOnlyWith fault := by
  induction v using descend with
  | map entries below =>
    rw [rebuild_map]
    refine (Except.FailsOnly.mapM fun e member => ?_).bind fun made _ => (each made).bind fun _ _ => Except.failsOnly_ok _ _
    exact (rebuildUnder_failsOnlyWith (below e member)).map _
  | list items ofItems =>
    rw [rebuild_list]
    exact (Except.FailsOnly.mapM ofItems).map _
  | leaf v noMap noList =>
    rw [rebuild_leaf noMap noList]
    exact Except.failsOnly_ok _ v

theorem rebuildEntries_failsOnlyWith {fault : ε} (each : ∀ schema, (change schema).FailsOnlyWith fault) (entries : Entries) :
    (rebuildEntries true change entries).FailsOnlyWith fault := by
  rw [rebuildEntries_eq]
  exact Except.FailsOnly.mapM fun _ _ => (rebuildUnder_failsOnlyWith fun w _ => rebuild_failsOnlyWith each w).map _

end Failing

end RecordSchema.Document
