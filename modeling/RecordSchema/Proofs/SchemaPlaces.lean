import RecordSchema.Proofs.JsonData
import RecordSchema.Proofs.MeaningChange

/-! The places of schemas in a document, and changes of all schemas, the innermost first. A change that puts no schemas
of its own below the one that it changes is done once and for all if it is for one schema, and it leaves every schema
that it keeps at its place. Main statements: `Throughout.changed`, `changed_changed`, `reached?_changed`. -/

namespace RecordSchema.Document
open Entries

/-- Where a schema stands right below another one: by itself under a keyword, in a list, or under a name. -/
inductive Place where
  | alone (keyword : String)
  | item (keyword : String) (index : Nat)
  | named (keyword name : String)
  deriving DecidableEq, Repr

def Place.keyword : Place → String
  | .alone keyword | .item keyword _ | .named keyword _ => keyword

variable {plain first second : Entries → Entries} {schema other : Entries} {key v w : Value} {keyword : String}

/-- To show something of every value, show it of a map if the schemas below it have it, and of all else. -/
theorem descend_searched {P : Value → Prop} (map : ∀ schema : Entries, (∀ e ∈ schema, ∀ w ∈ searched e.1 e.2, P w) → P (.map schema))
    (leaf : ∀ v, v.ownEntries? = none → P v) (v : Value) : P v := by
  induction size : sizeOf v using Nat.strongRecOn generalizing v with
  | _ n ih =>
    subst size
    cases v with
    | map schema =>
      refine map schema fun e member w found => ih _ ?_ w rfl
      obtain inside | ⟨items, inside, item⟩ := subvalue_of_searched found
      · exact sizeOf_subvalue_lt member inside
      · have outer := sizeOf_subvalue_lt member inside
        have inner := List.sizeOf_lt_of_mem item
        simp only [Value.list.sizeOf_spec] at outer
        omega
    | _ => exact leaf _ rfl

section Changes

/-- A walk that changes every schema, where a change takes nothing else. -/
def changed (plain : Entries → Entries) (v : Value) : Value := rebuild (m := Id) false plain v

/-- What becomes of what stands under a key on such a walk. -/
def changedUnder (plain : Entries → Entries) (key v : Value) : Value :=
  match KeywordShape.ofKey? key, v with
  | some .single, .list items | some .many, .list items => .list (items.map (changed plain))
  | some .single, v => changed plain v
  | some .named, .map entries => .map (List.map (fun e => (e.1, changed plain e.2)) entries)
  | _, v => v

def changedEntries (plain : Entries → Entries) (schema : Entries) : Entries :=
  List.map (fun e => (e.1, changedUnder plain e.1 e.2)) schema

variable {m : Type → Type} [Monad m] [LawfulMonad m] {change : Entries → m Entries}

private theorem changeItems_eq {items : List Value} (each : ∀ v ∈ items, rebuild false change v = pure (changed plain v)) :
    rebuildItems false change items = pure (items.map (changed plain)) := by
  induction items with
  | nil => rfl
  | cons v rest ih =>
    obtain ⟨here, others⟩ := List.forall_mem_cons.mp each
    rw [rebuildItems, here, ih others, pure_bind, pure_bind, List.map_cons]

private theorem changeNamed_eq {entries : Entries} (each : ∀ v ∈ entries.map Prod.snd, rebuild false change v = pure (changed plain v)) :
    rebuildNamed false change entries = pure (List.map (fun e => (e.1, changed plain e.2)) entries) := by
  induction entries with
  | nil => rfl
  | cons e rest ih =>
    obtain ⟨key, v⟩ := e
    obtain ⟨here, others⟩ := List.forall_mem_cons.mp each
    rw [rebuildNamed, here, ih others, pure_bind, pure_bind, List.map_cons]

private theorem changeEntries_eq (each : ∀ e ∈ schema, ∀ w ∈ searched e.1 e.2, rebuild false change w = pure (changed plain w)) :
    rebuildEntries false change schema = pure (changedEntries plain schema) := by
  induction schema with
  | nil => rfl
  | cons e rest ih =>
    obtain ⟨key, v⟩ := e
    obtain ⟨here, others⟩ := List.forall_mem_cons.mp each
    show _ = pure ((key, changedUnder plain key v) :: changedEntries plain rest)
    rw [rebuildEntries.eq_def]
    dsimp only
    rw [ih others]
    unfold changedUnder
    unfold searched subvalues at here
    dsimp only at here
    revert here
    generalize KeywordShape.ofKey? key = shape
    intro here
    rcases shape with _ | _ | _ | _
    · simp
    · cases v with
      | list items => simp [changeItems_eq here]
      | _ => simp [List.forall_mem_singleton.mp here]
    · cases v with
      | list items => simp [changeItems_eq here]
      | _ => simp
    · cases v with
      | map entries => simp [changeNamed_eq here]
      | _ => simp

theorem changed_map (plain : Entries → Entries) (schema : Entries) :
    changed plain (.map schema) = .map (plain (changedEntries plain schema)) := by
  have entries : rebuildEntries (m := Id) false plain schema = pure (changedEntries plain schema) :=
    changeEntries_eq fun _ _ _ _ => rfl
  rw [changed, rebuild, entries]
  rfl

theorem changed_of_leaf (leaf : v.ownEntries? = none) : changed plain v = v := by
  cases v with
  | map _ => cases leaf
  | _ => rfl

theorem searched_changed (plain : Entries → Entries) (key v : Value) :
    searched key (changedUnder plain key v) = (searched key v).map (changed plain) := by
  unfold searched subvalues changedUnder
  generalize KeywordShape.ofKey? key = shape
  rcases shape with _ | _ | _ | _
  · rfl
  · cases v with
    | map entries => simp [changed_map]
    | _ => rfl
  · cases v <;> rfl
  · cases v with
    | map entries => simp
    | _ => rfl

/-- The schemas below a schema whose parts are changed are changed ones. -/
theorem exists_below_changed {e : Value × Value} (member : e ∈ changedEntries plain schema) (inside : w ∈ searched e.1 e.2) :
    ∃ d ∈ schema, ∃ before ∈ searched d.1 d.2, changed plain before = w := by
  obtain ⟨d, among, rfl⟩ := List.mem_map.mp member
  rw [searched_changed] at inside
  obtain ⟨before, found, same⟩ := List.mem_map.mp inside
  exact ⟨d, among, before, found, same⟩

theorem changedUnder_of_unshaped (shape : KeywordShape.ofKey? key = none) : changedUnder plain key v = v := by
  unfold changedUnder
  rw [shape]

theorem field?_changed (plain : Entries → Entries) (schema : Entries) (keyword : String) :
    (changedEntries plain schema).field? keyword = (schema.field? keyword).map (changedUnder plain (.str keyword)) := by
  induction schema with
  | nil => rfl
  | cons e rest ih =>
    obtain ⟨key, v⟩ := e
    show Entries.field? ((key, changedUnder plain key v) :: changedEntries plain rest) keyword = _
    rw [Entries.field?, Entries.field?, ih]
    split
    next named =>
      have shape : KeywordShape.ofKey? key = KeywordShape.ofKey? (.str keyword) := congrArg (Option.bind · _) named
      unfold changedUnder
      rw [shape]
      rfl
    next => rfl

theorem field?_changed_of_flat (flat : KeywordShape.ofKeyword? keyword = none) (plain : Entries → Entries) (schema : Entries) :
    (changedEntries plain schema).field? keyword = schema.field? keyword := by
  have same : changedUnder plain (.str keyword) = id := funext fun _ => changedUnder_of_unshaped flat
  rw [field?_changed, same, Option.map_id, id]

theorem labels_changed (plain : Entries → Entries) (schema : Entries) : labels (changedEntries plain schema) = labels schema :=
  List.filterMap_map

/-- Where no schema below a schema changes, its parts are left alone. -/
theorem changedEntries_of_fixed (fixed : ∀ e ∈ schema, ∀ w ∈ searched e.1 e.2, changed plain w = w) :
    changedEntries plain schema = schema := by
  refine (List.map_congr_left fun e member => ?_).trans (List.map_id schema)
  obtain ⟨key, v⟩ := e
  have each := fixed (key, v) member
  refine Prod.ext rfl ?_
  unfold changedUnder
  unfold searched subvalues at each
  dsimp only at each ⊢
  revert each
  generalize KeywordShape.ofKey? key = shape
  intro each
  rcases shape with _ | _ | _ | _
  · rfl
  · cases v with
    | list items => exact congrArg Value.list ((List.map_congr_left each).trans (List.map_id items))
    | _ => exact each _ (List.mem_singleton_self _)
  · cases v with
    | list items => exact congrArg Value.list ((List.map_congr_left each).trans (List.map_id items))
    | _ => rfl
  · cases v with
    | map entries =>
      refine congrArg Value.map ((List.map_congr_left fun e member => ?_).trans (List.map_id entries))
      rw [each e.2 (List.mem_map_of_mem member)]
      rfl
    | _ => rfl

namespace Composite
variable {Key Fine : Value → Prop} (composite : Composite Key Fine)
include composite

theorem of_mem_searched (fine : Fine v) : ∀ w ∈ searched key v, Fine w := by
  intro w found
  obtain inside | ⟨items, inside, item⟩ := subvalue_of_searched found
  · exact composite.of_mem_subvalues fine w inside
  · exact (composite.list _).mp (composite.of_mem_subvalues fine _ inside) w item

theorem of_below (fine : Fine (.map schema)) : ∀ e ∈ schema, ∀ w ∈ searched e.1 e.2, Fine w :=
  fun e member => composite.of_mem_searched ((composite.map _).mp fine e member).2

theorem changedUnder (fine : Fine v) (each : ∀ w ∈ searched key v, Fine (changed plain w)) : Fine (changedUnder plain key v) := by
  revert each
  unfold Document.changedUnder searched subvalues
  generalize KeywordShape.ofKey? key = shape
  intro each
  rcases shape with _ | _ | _ | _
  · exact fine
  · cases v with
    | list items => exact (composite.list _).mpr (List.forall_mem_map.mpr each)
    | _ => exact each _ (List.mem_singleton_self _)
  · cases v with
    | list items => exact (composite.list _).mpr (List.forall_mem_map.mpr each)
    | _ => exact fine
  · cases v with
    | map entries =>
      refine (composite.map _).mpr (List.forall_mem_map.mpr fun e member => ⟨?_, each e.2 (List.mem_map_of_mem member)⟩)
      exact ((composite.map _).mp fine e member).1
    | _ => exact fine

theorem changed (keeps : ∀ schema, Fine (.map schema) → Fine (.map (plain schema))) (fine : Fine v) : Fine (changed plain v) := by
  induction v using descend_searched with
  | map schema below =>
    rw [changed_map]
    refine keeps _ ((composite.map _).mpr (List.forall_mem_map.mpr fun e member => ?_))
    obtain ⟨key, value⟩ := (composite.map _).mp fine e member
    exact ⟨key, composite.changedUnder value fun w inside => below e member w inside (composite.of_below fine e member w inside)⟩
  | leaf v leaf =>
    rw [changed_of_leaf leaf]
    exact fine

end Composite

end Changes

section Everywhere

/-- Every schema that such a walk meets is so. -/
inductive Throughout (P : Entries → Prop) : Value → Prop where
  | map {schema : Entries} (here : P schema) (below : ∀ e ∈ schema, ∀ w ∈ searched e.1 e.2, Throughout P w) : Throughout P (.map schema)
  | leaf {v : Value} (leaf : v.ownEntries? = none) : Throughout P v

variable {P Q : Entries → Prop}

theorem Throughout.here (each : Throughout P (.map schema)) : P schema := by
  cases each with
  | map here _ => exact here
  | leaf leaf => cases leaf

theorem Throughout.of_below (each : Throughout P (.map schema)) : ∀ e ∈ schema, ∀ w ∈ searched e.1 e.2, Throughout P w := by
  cases each with
  | map _ below => exact below
  | leaf leaf => cases leaf

theorem Throughout.imp (each : Throughout P v) (implies : ∀ schema, P schema → Q schema) : Throughout Q v := by
  induction each with
  | map here _ ih => exact .map (implies _ here) ih
  | leaf leaf => exact .leaf leaf

variable (plain) in
/-- A change that puts no schemas of its own below the one that it changes. -/
def Grounded : Prop :=
  ∀ schema, ∀ e ∈ plain schema, ∀ w ∈ searched e.1 e.2, w.ownEntries? = none ∨ ∃ d ∈ schema, w ∈ searched d.1 d.2

theorem Grounded.of_subset (part : ∀ schema, plain schema ⊆ schema) : Grounded plain :=
  fun schema e member _ inside => .inr ⟨e, part schema member, inside⟩

theorem Grounded.comp (before : Grounded first) (after : Grounded second) : Grounded fun schema => second (first schema) := by
  intro schema e member w inside
  obtain leaf | ⟨d, among, found⟩ := after _ e member w inside
  · exact .inl leaf
  · exact before schema d among w found

/-- What a change brings about is so for all schemas that are left, also for those below changed ones. -/
theorem Throughout.changed (grounded : Grounded plain) (each : Throughout P v)
    (made : ∀ schema, P schema → Q (plain (changedEntries plain schema))) : Throughout Q (changed plain v) := by
  induction each with
  | map here _ ih =>
    rw [changed_map]
    refine .map (made _ here) fun e member w inside => ?_
    obtain leaf | ⟨d, among, found⟩ := grounded _ e member w inside
    · exact .leaf leaf
    · obtain ⟨origin, source, before, below, rfl⟩ := exists_below_changed among found
      exact ih origin source before below
  | leaf leaf =>
    rw [changed_of_leaf leaf]
    exact .leaf leaf

/-- Whether a change can take anything else makes no difference where it takes nothing else. -/
theorem changeAll_eq_pure {m : Type → Type} [Monad m] [LawfulMonad m] {change : Entries → m Entries}
    (each : Throughout (fun schema => change (changedEntries plain schema) = pure (plain (changedEntries plain schema))) v) :
    changeAll change v = pure (Document.changed plain v) := by
  induction each with
  | map here _ ih =>
    rw [changeAll, rebuild, changeEntries_eq ih, pure_bind, here, pure_bind, changed_map]
  | @leaf v leaf =>
    cases v with
    | map _ => cases leaf
    | _ => rfl

/-- Changing all schemas again changes nothing, if changing one again does not. -/
theorem changed_changed (grounded : Grounded plain) (once : ∀ schema, plain (plain schema) = plain schema) (v : Value) :
    changed plain (changed plain v) = changed plain v := by
  induction v using descend_searched with
  | map schema below =>
    have settled : changedEntries plain (plain (changedEntries plain schema)) = plain (changedEntries plain schema) := by
      refine changedEntries_of_fixed fun e member w inside => ?_
      obtain leaf | ⟨d, among, found⟩ := grounded _ e member w inside
      · exact changed_of_leaf leaf
      · obtain ⟨origin, source, before, stands, rfl⟩ := exists_below_changed among found
        exact below origin source before stands
    rw [changed_map, changed_map, settled, once]
  | leaf v leaf => rw [changed_of_leaf leaf, changed_of_leaf leaf]

end Everywhere

section Places

/-- What stands at a place below a schema. -/
def child? (schema : Entries) : Place → Option Value
  | .alone keyword =>
    if KeywordShape.ofKeyword? keyword = some .single then (schema.field? keyword).filter (·.list?.isNone) else none
  | .item keyword index =>
    if KeywordShape.ofKeyword? keyword = some .single ∨ KeywordShape.ofKeyword? keyword = some .many then
      ((schema.field? keyword).bind Value.list?).bind (·[index]?)
    else none
  | .named keyword name =>
    if KeywordShape.ofKeyword? keyword = some .named then
      ((schema.field? keyword).bind Value.ownEntries?).bind (·.field? name)
    else none

/-- The schema that one comes to by one place after another, as long as what stands there is gone on with. -/
def reached? (stays : Entries → Place → Value → Bool) : Value → List Place → Option Entries
  | v, [] => v.ownEntries?
  | v, place :: rest =>
    (v.ownEntries?.bind fun schema => (child? schema place).filter (stays schema place)).bind (reached? stays · rest)

/-- The schema at a position of a document. -/
def schemaAt? : Value → List Place → Option Entries := reached? fun _ _ _ => true

variable {stays : Entries → Place → Value → Bool} {place : Place} {path : List Place} {P : Entries → Prop}

/-- What stands at a place is read off under its keyword. -/
theorem child?_of_field? (same : schema.field? place.keyword = other.field? place.keyword) : child? schema place = child? other place := by
  cases place with
  | alone keyword | item keyword _ | named keyword _ =>
    rw [Place.keyword] at same
    rw [child?, child?, same]

theorem child?_of_unshaped (shape : KeywordShape.ofKeyword? place.keyword = none) : child? schema place = none := by
  cases place with
  | alone keyword | item keyword _ | named keyword _ =>
    rw [Place.keyword] at shape
    simp [child?, shape]


theorem schemaAt?_cons (schema : Entries) (place : Place) (path : List Place) :
    schemaAt? (.map schema) (place :: path) = (child? schema place).bind fun w => schemaAt? w path := by
  show ((child? schema place).filter fun _ => true).bind _ = _
  cases child? schema place <;> rfl

theorem ofKey?_str (keyword : String) : KeywordShape.ofKey? (.str keyword) = KeywordShape.ofKeyword? keyword := rfl

/-- What stands at a place stands under its keyword. -/
theorem searched_of_child? (found : child? schema place = some w) :
    ∃ v, schema.field? place.keyword = some v ∧ w ∈ searched (.str place.keyword) v := by
  cases place with
  | alone keyword =>
    rw [child?] at found
    split at found
    next shape =>
      obtain ⟨stands, single⟩ := Option.filter_eq_some_iff.mp found
      refine ⟨w, stands, ?_⟩
      unfold searched subvalues
      rw [Place.keyword, ofKey?_str, shape]
      cases w with
      | list _ => cases single
      | _ => exact List.mem_singleton_self _
    next => cases found
  | item keyword index =>
    rw [child?] at found
    split at found
    next shape =>
      obtain ⟨items, listed, item⟩ := Option.bind_eq_some_iff.mp found
      obtain ⟨v, stands, list⟩ := Option.bind_eq_some_iff.mp listed
      refine ⟨v, stands, ?_⟩
      cases v with
      | list items =>
        cases list
        unfold searched subvalues
        rcases shape with shape | shape
        all_goals
          rw [Place.keyword, ofKey?_str, shape]
          exact List.mem_of_getElem? item
      | _ => cases list
    next => cases found
  | named keyword name =>
    rw [child?] at found
    split at found
    next shape =>
      obtain ⟨entries, mapped, entry⟩ := Option.bind_eq_some_iff.mp found
      obtain ⟨v, stands, own⟩ := Option.bind_eq_some_iff.mp mapped
      obtain ⟨f, among, -, rfl⟩ := mem_of_field? entry
      refine ⟨v, stands, ?_⟩
      cases v with
      | map entries =>
        cases own
        unfold searched subvalues
        rw [Place.keyword, ofKey?_str, shape]
        exact List.mem_map_of_mem among
      | _ => cases own
    next => cases found

theorem below_of_child? (found : child? schema place = some w) : ∃ e ∈ schema, w ∈ searched e.1 e.2 := by
  obtain ⟨v, stands, inside⟩ := searched_of_child? found
  obtain ⟨e, member, named, rfl⟩ := mem_of_field? stands
  exact ⟨e, member, by rwa [searched_of_str? named]⟩

/-- What stands below a schema has a place there. -/
theorem exists_child? (keyed : Keyed schema) {e : Value × Value} (member : e ∈ schema)
    (inner : ∀ entries, e.2 = .map entries → Keyed entries) (inside : w ∈ searched e.1 e.2) : ∃ place, child? schema place = some w := by
  obtain ⟨key, v⟩ := e
  obtain ⟨keyword, rfl⟩ := keyed.text _ member
  have stands : schema.field? keyword = some v := field?_of_mem keyed.distinct member rfl
  unfold searched subvalues at inside
  dsimp only at inside
  cases shape : KeywordShape.ofKeyword? keyword with
  | none =>
    rw [ofKey?_str, shape] at inside
    cases inside
  | some kind =>
    rw [ofKey?_str, shape] at inside
    cases kind with
    | single =>
      cases v with
      | list items =>
        obtain ⟨index, item⟩ := List.mem_iff_getElem?.mp inside
        exact ⟨.item keyword index, by simp [child?, shape, stands, Value.list?, item]⟩
      | _ =>
        obtain rfl := List.mem_singleton.mp inside
        exact ⟨.alone keyword, by simp [child?, shape, stands, Value.list?]⟩
    | many =>
      cases v with
      | list items =>
        obtain ⟨index, item⟩ := List.mem_iff_getElem?.mp inside
        exact ⟨.item keyword index, by simp [child?, shape, stands, Value.list?, item]⟩
      | _ => cases inside
    | named =>
      cases v with
      | map entries =>
        obtain ⟨f, among, rfl⟩ := List.mem_map.mp inside
        have own := inner entries rfl
        obtain ⟨name, key⟩ := own.text f among
        have entry : field? entries name = some f.2 := field?_of_mem own.distinct among (by rw [key]; rfl)
        exact ⟨.named keyword name, by simp [child?, shape, stands, Value.ownEntries?, entry]⟩
      | _ => cases inside

/-- What is handed down to what stands below a schema holds at every position. -/
theorem holds_of_reached? {Q : Value → Prop} (inherits : ∀ schema, Q (.map schema) → ∀ e ∈ schema, ∀ w ∈ searched e.1 e.2, Q w)
    (holds : Q v) (reached : reached? stays v path = some schema) : Q (.map schema) := by
  induction path generalizing v with
  | nil =>
    cases v with
    | map _ => cases reached; exact holds
    | _ => cases reached
  | cons place rest ih =>
    obtain ⟨w, kept, onwards⟩ := Option.bind_eq_some_iff.mp reached
    obtain ⟨outer, own, kept⟩ := Option.bind_eq_some_iff.mp kept
    obtain ⟨found, -⟩ := Option.filter_eq_some_iff.mp kept
    cases v with
    | map _ =>
      cases own
      obtain ⟨e, member, inside⟩ := below_of_child? found
      exact ih (inherits _ holds e member w inside) onwards
    | _ => cases own

theorem Throughout.reached (each : Throughout P v) (reached : reached? stays v path = some schema) : Throughout P (.map schema) :=
  holds_of_reached? (fun _ => Throughout.of_below) each reached

theorem Composite.reached {Key Fine : Value → Prop} (composite : Composite Key Fine) (fine : Fine v)
    (reached : reached? stays v path = some schema) : Fine (.map schema) :=
  holds_of_reached? (fun _ fine => composite.of_below fine) fine reached

theorem all_of_mem_searched {holds : Value → Bool} (all : v.all holds = true) (inside : w ∈ searched key v) : w.all holds = true := by
  have direct {u : Value} (inside : u ∈ subvalues key v) : u.all holds = true := by
    unfold subvalues at inside
    split at inside
    next => exact List.mem_singleton.mp inside ▸ all
    next => exact Value.all_of_mem_list all u inside
    next =>
      obtain ⟨e, among, rfl⟩ := List.mem_map.mp inside
      exact Value.all_of_mem_map all e among
    next => cases inside
  obtain inside | ⟨items, inside, item⟩ := subvalue_of_searched inside
  · exact direct inside
  · exact Value.all_of_mem_list (direct inside) w item

/-- In a JSON document all schemas have a position. -/
theorem throughout_of_schemaAt? (json : v.isJson = true) (apart : v.all Value.keysApart = true)
    (each : ∀ path schema, schemaAt? v path = some schema → P schema) : Throughout P v := by
  induction v using descend_searched with
  | map schema below =>
    have keyed := Value.keyed_of_isJson json apart
    refine .map (each [] schema rfl) fun e member w inside => ?_
    have under := (Value.isJson_of_mem_map json e member).2
    have apartUnder := Value.all_of_mem_map apart e member
    obtain ⟨place, found⟩ := exists_child? keyed member (fun entries same => Value.keyed_of_isJson (same ▸ under) (same ▸ apartUnder)) inside
    have onwards (path : List Place) : schemaAt? w path = schemaAt? (.map schema) (place :: path) := by
      rw [schemaAt?_cons, found]
      rfl
    exact below e member w inside (isJson_composite.of_mem_searched under w inside) (all_of_mem_searched apartUnder inside)
      fun path s reached => each (place :: path) s ((onwards path).symm.trans reached)
  | leaf v leaf => exact .leaf leaf

theorem reached?_eq_bind (stays : Entries → Place → Value → Bool) (v : Value) (path : List Place) :
    reached? stays v path = v.ownEntries?.bind fun schema => reached? stays (.map schema) path := by
  cases path with
  | nil => cases v <;> rfl
  | cons place rest =>
    cases v with
    | map _ => rfl
    | _ => rfl

theorem ownEntries?_changed (v : Value) (plain : Entries → Entries) :
    (changed plain v).ownEntries? = v.ownEntries?.map fun schema => plain (changedEntries plain schema) := by
  cases v with
  | map schema => rw [changed_map]; rfl
  | _ => rfl

/-- The parts of a schema are changed at their places. -/
theorem child?_changed (plain : Entries → Entries) (schema : Entries) (place : Place) :
    child? (changedEntries plain schema) place = (child? schema place).map (changed plain) := by
  cases place with
  | alone keyword =>
    rw [child?, child?]
    split
    next shape =>
      rw [field?_changed]
      cases schema.field? keyword with
      | none => rfl
      | some v =>
        unfold changedUnder
        rw [ofKey?_str, shape]
        cases v with
        | list _ => rfl
        | map _ => simp [changed_map, Value.list?, Option.filter]
        | _ => rfl
    next => rfl
  | item keyword index =>
    rw [child?, child?]
    split
    next shape =>
      rw [field?_changed]
      cases schema.field? keyword with
      | none => rfl
      | some v =>
        unfold changedUnder
        rcases shape with shape | shape
        all_goals
          rw [ofKey?_str, shape]
          cases v with
          | list items => simp [Value.list?]
          | map _ => simp [changed_map, Value.list?]
          | _ => rfl
    next => rfl
  | named keyword name =>
    rw [child?, child?]
    split
    next shape =>
      rw [field?_changed]
      cases schema.field? keyword with
      | none => rfl
      | some v =>
        unfold changedUnder
        rw [ofKey?_str, shape]
        cases v with
        | map entries => exact field?_map (changed plain) entries name
        | _ => rfl
    next => rfl

/-- Where a change leaves the schemas below the one that it changes at their places, or takes them out, the changed document
has at every position what has become of the schema that stood there. -/
theorem schemaAt?_changed (each : Throughout P v) (leaves : ∀ schema, P schema → ∀ place,
      (child? (plain (changedEntries plain schema)) place).bind Value.ownEntries? =
        ((child? schema place).filter (stays schema place)).bind fun w => (changed plain w).ownEntries?) (path : List Place) :
    schemaAt? (changed plain v) path = (reached? stays v path).map fun schema => plain (changedEntries plain schema) := by
  induction path generalizing v with
  | nil => exact ownEntries?_changed v plain
  | cons place rest ih =>
    cases v with
    | map schema =>
      have below (w : Value) (kept : (child? schema place).filter (stays schema place) = some w) :
          schemaAt? (changed plain w) rest = (reached? stays w rest).map fun schema => plain (changedEntries plain schema) := by
        obtain ⟨found, -⟩ := Option.filter_eq_some_iff.mp kept
        obtain ⟨e, member, inside⟩ := below_of_child? found
        exact ih (each.of_below e member w inside)
      have bySchema (w : Value) : schemaAt? w rest = w.ownEntries?.bind fun s => schemaAt? (.map s) rest := reached?_eq_bind _ w rest
      calc schemaAt? (changed plain (.map schema)) (place :: rest)
          = (child? (plain (changedEntries plain schema)) place).bind fun w => schemaAt? w rest := by
            rw [changed_map, schemaAt?_cons]
        _ = ((child? (plain (changedEntries plain schema)) place).bind Value.ownEntries?).bind fun s => schemaAt? (.map s) rest := by
            rw [Option.bind_assoc]
            exact congrArg _ (funext bySchema)
        _ = ((child? schema place).filter (stays schema place)).bind fun w => schemaAt? (changed plain w) rest := by
            rw [leaves schema each.here place, Option.bind_assoc]
            exact congrArg _ (funext fun w => (bySchema (changed plain w)).symm)
        _ = (reached? stays (.map schema) (place :: rest)).map fun schema => plain (changedEntries plain schema) := by
            show _ = (((child? schema place).filter (stays schema place)).bind _).map _
            cases kept : (child? schema place).filter (stays schema place) with
            | none => rfl
            | some w => exact below w kept
    | _ => rfl

end Places

end RecordSchema.Document
