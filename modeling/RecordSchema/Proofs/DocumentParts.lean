import RecordSchema.Document.Resolve
import RecordSchema.Proofs.DocumentKeywords
import RecordSchema.Proofs.SchemaWalk

/-! The parts of a document, its definitions and its root, and what a schema in it refers to. What all parts of a
document are like, the changes that are made to documents keep. Main statements: `parts_eq`, `parts_within`,
`Composite.resolveTo`. -/

namespace RecordSchema.Document

section Targets
variable {definitions schema made : Entries}

theorem target?_eq : target? definitions schema =
    (pointer? schema).bind fun name => (definitions.field? name).bind fun body => some (name, body) := rfl

theorem target?_eq_some {name : String} {body : Value} :
    target? definitions schema = some (name, body) ↔ pointer? schema = some name ∧ definitions.field? name = some body := by
  rw [target?_eq]
  simp only [Option.bind_eq_some_iff, Option.some.injEq, Prod.mk.injEq]
  constructor
  · rintro ⟨_, points, _, found, rfl, rfl⟩
    exact ⟨points, found⟩
  · rintro ⟨points, found⟩
    exact ⟨name, points, body, found, rfl, rfl⟩

theorem target?_eq_none (lost : ∀ name, pointer? schema = some name → definitions.field? name = none) :
    target? definitions schema = none := by
  refine Option.eq_none_iff_forall_ne_some.mpr fun (name, body) found => ?_
  obtain ⟨points, defined⟩ := target?_eq_some.mp found
  rw [lost name points] at defined
  cases defined

theorem target?_congr (same : pointer? made = pointer? schema) : target? definitions made = target? definitions schema := by
  rw [target?_eq, target?_eq, same]

theorem target?_rebuilt (plain : Entries → Entries) (schema : Entries) :
    target? definitions (rebuiltEntries plain schema) = target? definitions schema := target?_congr (pointer?_rebuilt plain schema)

end Targets

section Parts
variable {document : Entries}

/-- What the parts of a document are made of. -/
structure Parts.Within (parts : Parts) (document : Entries) : Prop where
  root : ∀ e ∈ parts.root, e ∈ document
  definitions : ∀ d ∈ parts.definitions, ∃ e ∈ document, isDefinitionsKey e.1 = true ∧ d.2 ∈ subvalues e.1 e.2

/-- An entry under which definitions stand. -/
def holdsDefinitions (e : Value × Value) : Bool := isDefinitionsKey e.1 && e.2.ownEntries?.isSome

theorem isDefinitionsKey_of_listed {key : Value} {name : String} (named : key.str? = some name) (listed : name ∈ Pointer.definitionsKeys) :
    isDefinitionsKey key = true := by
  rw [isDefinitionsKey, named]
  exact List.contains_iff_mem.mpr listed

theorem key_of_isDefinitionsKey {key : Value} (known : isDefinitionsKey key = true) :
    ∃ name ∈ Pointer.definitionsKeys, key.str? = some name := by
  obtain ⟨name, named, listed⟩ := (Option.any_eq_true _ _).mp known
  exact ⟨name, List.contains_iff_mem.mp listed, named⟩

theorem key_of_holdsDefinitions {e : Value × Value} (holds : holdsDefinitions e = true) :
    ∃ name ∈ Pointer.definitionsKeys, e.1.str? = some name := key_of_isDefinitionsKey (Bool.and_eq_true_iff.mp holds).1

/-- Entries without definitions go to the root. -/
theorem Parts.foldl_add_of_plain {rest : Entries} (plain : ∀ e ∈ rest, holdsDefinitions e = false) (parts : Parts) :
    rest.foldl Parts.add parts = { parts with root := parts.root ++ rest } := by
  induction rest generalizing parts with
  | nil => rw [List.foldl_nil, List.append_nil]
  | cons e rest ih =>
    obtain ⟨first, later⟩ := List.forall_mem_cons.mp plain
    have added : parts.add e = { parts with root := parts.root ++ [e] } := by
      unfold Parts.add
      split
      next found known same =>
        rw [holdsDefinitions, known, same] at first
        cases first
      next => rfl
    rw [List.foldl_cons, added, ih later, List.append_assoc]
    rfl

/-- The parts of a document: the first key with definitions, the definitions under all such keys, and what is left. -/
theorem parts_eq (document : Entries) :
    Parts.ofEntries document =
      { key := (document.find? holdsDefinitions).bind (·.1.str?)
        definitions := (document.filter holdsDefinitions).foldl (fun found e => Entries.update found (e.2.ownEntries?.getD [])) []
        root := document.filter (!holdsDefinitions ·) } := by
  suffices fold : ∀ parts : Parts, document.foldl Parts.add parts =
      { key := parts.key.or ((document.find? holdsDefinitions).bind (·.1.str?))
        definitions := (document.filter holdsDefinitions).foldl (fun found e => Entries.update found (e.2.ownEntries?.getD [])) parts.definitions
        root := parts.root ++ document.filter (!holdsDefinitions ·) } from fold {}
  induction document with
  | nil => simp
  | cons e rest ih =>
    intro parts
    obtain ⟨key, v⟩ := e
    by_cases held : holdsDefinitions (key, v) = true
    · obtain ⟨known, map⟩ := Bool.and_eq_true_iff.mp held
      dsimp only at known map
      obtain ⟨name, named, -⟩ := (Option.any_eq_true _ _).mp known
      cases v with
      | map found => simp [Parts.add, known, held, named, ih, Value.ownEntries?]
      | _ => cases map
    · have plain := Bool.eq_false_iff.mpr held
      have added : parts.add (key, v) = { parts with root := parts.root ++ [(key, v)] } :=
        Parts.foldl_add_of_plain (List.forall_mem_singleton.mpr plain) parts
      simp [added, ih, plain]

/-- The first key of definitions is one under which they can stand. -/
theorem parts_key {key : String} (first : (Parts.ofEntries document).key = some key) : isDefinitionsKey (.str key) = true := by
  rw [parts_eq] at first
  obtain ⟨e, found, named⟩ := Option.bind_eq_some_iff.mp first
  have held : holdsDefinitions e = true := List.find?_some found
  obtain ⟨known, -⟩ := Bool.and_eq_true_iff.mp held
  unfold isDefinitionsKey at known
  rw [named] at known
  exact known

theorem definitions_shape {key : Value} (known : isDefinitionsKey key = true) : KeywordShape.ofKey? key = some .named := by
  obtain ⟨name, listed, named⟩ := key_of_isDefinitionsKey known
  have shapes : ∀ name ∈ Pointer.definitionsKeys, KeywordShape.ofKeyword? name = some .named := by decide
  rw [KeywordShape.ofKey?, named]
  exact shapes name listed

theorem subvalues_definitions {key : Value} (known : isDefinitionsKey key = true) (found : Entries) :
    subvalues key (.map found) = List.map Prod.snd found := by
  unfold subvalues
  rw [definitions_shape known]

theorem searched_definitions {key : Value} (known : isDefinitionsKey key = true) (v : Value) : searched key v = subvalues key v := by
  unfold searched
  rw [definitions_shape known]

theorem Parts.Within.add {parts : Parts} (within : parts.Within document) {e : Value × Value} (member : e ∈ document) :
    (parts.add e).Within document := by
  obtain ⟨key, v⟩ := e
  unfold Parts.add
  split
  next found known same =>
    dsimp only at known same
    subst same
    refine ⟨within.root, fun d inside => ?_⟩
    obtain before | ⟨o, new, -, same⟩ := Entries.mem_update inside
    · exact within.definitions d before
    · refine ⟨(key, .map found), member, known, ?_⟩
      rw [subvalues_definitions known, same]
      exact List.mem_map_of_mem new
  next =>
    refine ⟨fun other inside => ?_, within.definitions⟩
    obtain before | new := List.mem_append.mp inside
    · exact within.root other before
    · cases List.mem_singleton.mp new
      exact member

theorem parts_within (document : Entries) : (Parts.ofEntries document).Within document := by
  have fold {rest : Entries} (inside : ∀ e ∈ rest, e ∈ document) {parts : Parts} (within : parts.Within document) :
      (rest.foldl Parts.add parts).Within document := by
    induction rest generalizing parts with
    | nil => exact within
    | cons e rest ih =>
      obtain ⟨here, later⟩ := List.forall_mem_cons.mp inside
      exact ih later (within.add here)
  exact fold (fun _ member => member) ⟨fun _ member => (nomatch member), fun _ member => nomatch member⟩

theorem Parts.Within.mem_schemas {parts : Parts} (within : parts.Within document) {name : String} {body : Value}
    (defined : parts.definitions.field? name = some body) : schemas body ⊆ schemas (.map document) := by
  obtain ⟨d, member, -, rfl⟩ := Entries.mem_of_field? defined
  obtain ⟨e, inside, -, stands⟩ := within.definitions d member
  exact fun schema met => mem_schemas_map.mpr (.inr ⟨e, inside, List.mem_flatMap.mpr ⟨_, stands, met⟩⟩)

end Parts

section Composite
variable {options : ResolutionOptions} {definitions schema target beside : Entries} {plain : Entries → Entries} {depth : Nat}
  {key v : Value} {Key Fine : Value → Prop}

variable (Key Fine) in
/-- A kind of values that lists and maps are of if all of their parts are. -/
structure Composite : Prop where
  list : ∀ items, Fine (.list items) ↔ ∀ item ∈ items, Fine item
  map : ∀ entries, Fine (.map entries) ↔ ∀ e ∈ entries, Key e.1 ∧ Fine e.2
  text : ∀ name, Key (.str name)

theorem isJson_composite : Composite (fun key => ∃ text, key = .str text) (·.isJson = true) where
  list _ := ⟨Value.isJson_of_mem_list, Value.isJson_list⟩
  map _ := ⟨Value.isJson_of_mem_map, Value.isJson_map⟩
  text name := ⟨name, rfl⟩

theorem isCopyable_composite : Composite (·.isCopyable = true) (·.isCopyable = true) where
  list _ := Value.areCopyable_iff
  map _ := Value.areCopyableEntries_iff
  text _ := rfl

namespace Composite
variable (composite : Composite Key Fine)
include composite

theorem of_mem_subvalues (fine : Fine v) : ∀ w ∈ subvalues key v, Fine w := by
  intro w inside
  unfold subvalues at inside
  split at inside
  next => exact List.mem_singleton.mp inside ▸ fine
  next => exact (composite.list _).mp fine w inside
  next =>
    obtain ⟨e, among, rfl⟩ := List.mem_map.mp inside
    exact ((composite.map _).mp fine e among).2
  next => cases inside

theorem of_mem_schemas (fine : Fine v) : ∀ schema ∈ schemas v, Fine (.map schema) := by
  induction v using descend with
  | map entries below =>
    intro schema met
    obtain rfl | ⟨e, member, deeper⟩ := mem_schemas_map.mp met
    · exact fine
    · obtain ⟨w, inside, deeper⟩ := List.mem_flatMap.mp deeper
      exact below e member w inside (composite.of_mem_subvalues ((composite.map _).mp fine e member).2 w inside) schema deeper
  | list items ofItems =>
    intro schema met
    rw [schemas_list] at met
    obtain ⟨v, member, met⟩ := List.mem_flatMap.mp met
    exact ofItems v member ((composite.list _).mp fine v member) schema met
  | leaf v noMap noList =>
    rw [schemas_leaf noMap noList]
    exact List.forall_mem_nil _

theorem rebuiltUnder (fine : Fine v) (each : ∀ w ∈ subvalues key v, Fine (Document.rebuilt plain w)) :
    Fine (rebuiltUnder plain key v) := by
  revert each
  unfold Document.rebuiltUnder subvalues
  generalize KeywordShape.ofKey? key = shape
  intro each
  rcases shape with _ | _ | _ | _
  · exact fine
  · exact each v (List.mem_singleton_self v)
  · cases v with
    | list items => exact (composite.list _).mpr (List.forall_mem_map.mpr each)
    | _ => exact fine
  · cases v with
    | map named =>
      refine (composite.map _).mpr (List.forall_mem_map.mpr fun e member => ⟨?_, each e.2 (List.mem_map_of_mem member)⟩)
      exact ((composite.map _).mp fine e member).1
    | _ => exact fine

theorem rebuilt (keeps : ∀ schema, Fine (.map schema) → Fine (.map (plain schema))) (fine : Fine v) :
    Fine (rebuilt plain v) := by
  induction v using descend with
  | map entries below =>
    rw [rebuilt_map]
    refine keeps _ ((composite.map _).mpr (List.forall_mem_map.mpr fun e member => ?_))
    obtain ⟨text, value⟩ := (composite.map _).mp fine e member
    exact ⟨text, composite.rebuiltUnder value fun w inside => below e member w inside (composite.of_mem_subvalues value w inside)⟩
  | list items ofItems =>
    rw [rebuilt_list]
    exact (composite.list _).mpr (List.forall_mem_map.mpr fun v member => ofItems v member ((composite.list _).mp fine v member))
  | leaf v noMap noList =>
    have same : Document.rebuilt plain v = v := rebuild_leaf noMap noList
    rw [same]
    exact fine

theorem setField (fine : Fine (.map schema)) (value : Fine v) (name : String) : Fine (.map (schema.setField name v)) := by
  have each := (composite.map _).mp fine
  clear fine
  refine (composite.map _).mpr ?_
  induction schema with
  | nil => exact List.forall_mem_singleton.mpr ⟨composite.text name, value⟩
  | cons e rest ih =>
    obtain ⟨k, w⟩ := e
    obtain ⟨first, later⟩ := List.forall_mem_cons.mp each
    rw [Entries.setField]
    split
    · exact List.forall_mem_cons.mpr ⟨⟨first.1, value⟩, later⟩
    · exact List.forall_mem_cons.mpr ⟨first, ih later⟩

theorem put (fine : Fine (.map schema)) (text : Key key) (value : Fine v) : Fine (.map (schema.put key v)) := by
  have each := (composite.map _).mp fine
  clear fine
  refine (composite.map _).mpr ?_
  induction schema with
  | nil => exact List.forall_mem_singleton.mpr ⟨text, value⟩
  | cons e rest ih =>
    obtain ⟨k, w⟩ := e
    obtain ⟨first, later⟩ := List.forall_mem_cons.mp each
    rw [Entries.put]
    split
    · exact List.forall_mem_cons.mpr ⟨⟨first.1, value⟩, later⟩
    · exact List.forall_mem_cons.mpr ⟨first, ih later⟩

theorem mergeBeside {dropped : Entries → String → Bool} (first : Fine (.map target)) (second : Fine (.map beside)) :
    Fine (.map (mergeBeside dropped target beside)) := by
  have each := (composite.map _).mp second
  clear second
  induction beside generalizing target with
  | nil => exact first
  | cons e rest ih =>
    obtain ⟨⟨text, value⟩, later⟩ := List.forall_mem_cons.mp each
    refine ih ?_ later
    dsimp only
    split
    · exact first
    · exact composite.put first text value

theorem update (first : Fine (.map target)) (second : Fine (.map beside)) : Fine (.map (target.update beside)) := by
  have each := (composite.map _).mp second
  clear second
  induction beside generalizing target with
  | nil => exact first
  | cons e rest ih =>
    obtain ⟨⟨text, value⟩, later⟩ := List.forall_mem_cons.mp each
    exact ih (composite.put first text value) later

theorem dropField (fine : Fine (.map schema)) (keyword : String) : Fine (.map (schema.dropField keyword)) :=
  (composite.map _).mpr fun e member => (composite.map _).mp fine e (List.mem_filter.mp member).1

theorem asEntries (fine : Fine v) : Fine (.map (asEntries v)) := by
  unfold Document.asEntries
  split
  next => exact fine
  next =>
    refine (composite.map _).mpr (List.forall_mem_singleton.mpr ⟨composite.text _, (composite.list _).mpr ?_⟩)
    exact List.forall_mem_singleton.mpr fine

theorem root {document : Entries} (fine : Fine (.map document)) : Fine (.map (Parts.ofEntries document).root) :=
  (composite.map _).mpr fun e member => (composite.map _).mp fine e ((parts_within document).root e member)

theorem definition {document : Entries} (fine : Fine (.map document)) {name : String} {body : Value}
    (found : (Parts.ofEntries document).definitions.field? name = some body) : Fine body := by
  obtain ⟨d, member, -, rfl⟩ := Entries.mem_of_field? found
  obtain ⟨e, inside, -, stands⟩ := (parts_within document).definitions d member
  exact composite.of_mem_subvalues ((composite.map _).mp fine e inside).2 d.2 stands

/-- What comes of resolving is of the kind that the value and the definitions are of. -/
theorem resolveTo (defined : ∀ name body, definitions.field? name = some body → Fine body) (fine : Fine v) :
    Fine (resolveTo options definitions depth v) := by
  induction depth generalizing v with
  | zero => exact fine
  | succ depth ih =>
    refine composite.rebuilt (fun schema fine => ?_) fine
    unfold expand
    split
    next => exact fine
    next name body found =>
      exact composite.mergeBeside (composite.asEntries (ih (defined name body (target?_eq_some.mp found).2))) fine

end Composite
end Composite

end RecordSchema.Document
