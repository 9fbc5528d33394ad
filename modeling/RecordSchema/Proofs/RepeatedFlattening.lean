import RecordSchema.Proofs.FlatDocuments
import RecordSchema.Proofs.RegularSchemas

/-! Flattening what is flat already. The definitions that flattening keeps are to be kept again, since no pointer to one
of them is lost on the way; so a second walk changes nothing, and meets the definitions in the order in which they
stand. Main statement: `flatten_idempotent`. -/

namespace RecordSchema.Document
open Entries

variable {definitions schema made found done body : Entries} {kept again : List String} {key name : String} {v w : Value}
  {Known : String → Prop}

section Collection
variable {limit room : Nat} {pending : List String}

/-- What is collected stands behind what was done before. -/
theorem collect_extends (ended : collect (inlineAll definitions kept) definitions limit done pending = .ok found) : ∃ rest, found = done ++ rest := by
  induction limit, done, pending using collect.induct definitions with
  | case1 limit done =>
    rw [collect] at ended
    exact ⟨[], by rw [List.append_nil, Except.ok.inj ended]⟩
  | case2 limit done name pending undefined ih => exact ih (collect_skip (.inl undefined) ▸ ended)
  | case3 limit done name pending body defined known ih => exact ih (collect_skip (.inr known) ▸ ended)
  | case4 done name pending body defined unknown =>
    rw [collect_full defined unknown] at ended
    exact ⟨[], by rw [List.append_nil, Except.ok.inj ended]⟩
  | case5 done name pending body defined unknown limit ih =>
    rw [collect_next defined unknown] at ended
    obtain ⟨w, -, ended⟩ := Except.bind_eq_ok.mp ended
    obtain ⟨rest, rfl⟩ := ih w ended
    exact ⟨(.str name, w) :: rest, List.append_assoc _ _ _⟩

/-- Definitions that are simplified already are collected again as they are, and in the same order. -/
theorem collect_again (settled : ∀ name w, found.field? name = some w → inlineAll found again w = .ok w)
    (within : labels found ⊆ labels definitions) (ended : collect (inlineAll definitions kept) definitions limit done pending = .ok found)
    (enough : found.length ≤ room + done.length) : collect (inlineAll found again) found room done pending = .ok found := by
  induction limit, done, pending using collect.induct definitions generalizing room with
  | case1 limit done =>
    rw [collect] at ended
    rw [collect, Except.ok.inj ended]
  | case2 limit done name pending undefined ih =>
    have absent : found.field? name = none := by
      refine Option.not_isSome_iff_eq_none.mp fun known => ?_
      have defined := mem_labels.mp (within (mem_labels.mpr known))
      rw [hasField, undefined] at defined
      cases defined
    rw [collect_skip (.inl absent)]
    exact ih (collect_skip (.inl undefined) ▸ ended) enough
  | case3 limit done name pending body defined known ih =>
    rw [collect_skip (.inr known)]
    exact ih (collect_skip (.inr known) ▸ ended) enough
  | case4 done name pending body defined unknown =>
    rw [collect_full defined unknown] at ended
    cases ended
    refine collect_done fun other _ => ?_
    cases stands : found.field? other with
    | none => exact .inl rfl
    | some w => exact .inr (hasField_iff.mpr ⟨w, stands⟩)
  | case5 done name pending body defined unknown limit ih =>
    rw [collect_next defined unknown] at ended
    obtain ⟨w, -, ended⟩ := Except.bind_eq_ok.mp ended
    obtain ⟨rest, same⟩ := collect_extends ended
    have stands : found.field? name = some w := by
      have absent : ∀ e ∈ done, e.1.str? ≠ some name := fun e member named => unknown (field?_isSome_of_mem member named)
      rw [same, List.append_assoc, field?_append_of_absent absent]
      exact if_pos rfl
    have longer : found.length = done.length + 1 + rest.length := by
      rw [same, List.length_append, List.length_append, List.length_singleton]
    obtain ⟨room, rfl⟩ := Nat.exists_eq_succ_of_ne_zero (show room ≠ 0 by omega)
    rw [collect_next stands unknown, settled name w stands, Except.ok_bind]
    refine ih w ended ?_
    rw [List.length_append, List.length_singleton]
    omega

end Collection

section Unchanged

/-- What is flat is left as it is, if the definitions that it points to are kept. -/
theorem inlineAll_unchanged (plural : ∀ schema ∈ schemas v, Plural schema)
    (keeps : ∀ name ∈ pointers v, IsDefined definitions name → name ∈ kept) : inlineAll definitions kept v = .ok v := by
  have same {making : Value → Except Fault Value} : ∀ schema ∈ schemas v, inline definitions kept making schema = pure schema := by
    intro schema met
    have collapsed := collapseAll_plural (plural schema met)
    unfold inline
    split
    next => exact congrArg Except.ok collapsed
    next name body target =>
      obtain ⟨points, found⟩ := target?_eq_some.mp target
      have member := keeps name (mem_pointers.mpr ⟨schema, met, points⟩) (hasField_iff.mpr ⟨body, found⟩)
      rw [if_pos (List.contains_iff_mem.mpr member)]
      exact congrArg Except.ok collapsed
  unfold inlineAll
  cases definitions.length with
  | zero => exact rebuild_unchanged same
  | succ depth => exact rebuild_unchanged same

variable (definitions kept) in
/-- Flattening is one walk, whatever it puts in the place of pointers. -/
theorem flattened_eq : ∃ inside, ∀ v, flattened definitions kept v = rebuilt (simplify definitions kept inside) v := by
  unfold flattened
  cases definitions.length with
  | zero => exact ⟨id, fun _ => rfl⟩
  | succ depth => exact ⟨inlined definitions kept depth, fun _ => rfl⟩

/-- Notes on top of a schema leave what stands below it. -/
theorem Below.update {beside : Entries} (below : Below schema w) (ofNotes : beside.Each fun keyword _ => keyword ∈ notes) :
    Below (schema.update beside) w := by
  induction beside generalizing schema with
  | nil => exact below
  | cons e rest ih =>
    obtain ⟨⟨keyword, named, note⟩, others⟩ := List.forall_mem_cons.mp ofNotes
    obtain ⟨d, member, inside⟩ := below
    have apart : d.1.str? ≠ e.1.str? := by
      intro same
      rw [subvalues_eq_nil (same.trans named) (note_shape note)] at inside
      cases inside
    exact ih ⟨d, mem_put_of_ne member apart, inside⟩ others

/-- The only member of a choice comes up with all its pointers. -/
theorem pointers_collapse (tidy : Tidy key Known (.map schema)) (keyed : Keyed schema) :
    pointers (.map schema) ⊆ pointers (.map (collapse schema "anyOf")) := by
  unfold collapse
  split
  next member found =>
    have beside := tidy.beside_choice found
    have ofNotes := notes_beside beside
    intro name pointed
    have inner : name ∈ pointers (.map member) := by
      obtain own | ⟨u, ⟨e, among, inside⟩, deeper⟩ := mem_pointers_map.mp pointed
      · rw [pointer?, field?_of_absent (beside.absent fun _ => by decide)] at own
        cases own
      · obtain ⟨keyword, named, rfl | note⟩ := beside e among
        · have under := Option.some.inj ((field?_of_mem keyed.distinct among named).symm.trans found)
          rw [under, subvalues_of_str? named] at inside
          cases List.mem_singleton.mp inside
          exact deeper
        · rw [subvalues_eq_nil named (note_shape note)] at inside
          cases inside
    obtain own | ⟨u, below, deeper⟩ := mem_pointers_map.mp inner
    · refine mem_pointers_map.mpr (.inl ?_)
      rw [pointer?, ((Noted.refl member).update ofNotes).alike "$ref" (by decide)]
      exact own
    · exact mem_pointers_map.mpr (.inr ⟨u, below.update ofNotes, deeper⟩)
  next => exact fun _ pointed => pointed

theorem simplify_plain {inside : Value → Value} (free : schema.Each fun keyword _ => keyword ∉ reserved) :
    simplify definitions kept inside schema = schema := by
  have absent {keyword : String} (apart : keyword ∈ reserved) : ∀ e ∈ schema, e.1.str? ≠ some keyword :=
    free.absent fun _ other => other apart
  have none : target? definitions schema = none := by
    refine target?_eq_none fun name points => ?_
    rw [pointer?, field?_of_absent (absent (by decide))] at points
    cases points
  have among : combinators ⊆ reserved := by decide
  unfold simplify
  rw [none]
  exact collapseAll_plural fun e member keyword combines named => absurd named (absent (among combines) e member)

/-- A definition of an object is flattened to one. -/
theorem isObject_flattened (tidy : Tidy key Known v) (object : isObject v = true) : isObject (flattened definitions kept v) = true := by
  obtain ⟨inside, walk⟩ := flattened_eq definitions kept
  cases v with
  | map schema =>
    have typed : (Entries.field? schema "type").bind Value.str? = some "object" := of_decide_eq_true object
    cases tidy with
    | pointer _ _ _ beside =>
      rw [field?_of_absent (beside.absent fun _ => by decide)] at typed
      cases typed
    | choice _ beside _ =>
      rw [field?_of_absent (beside.absent fun _ => by decide)] at typed
      cases typed
    | plain free _ =>
      have unshaped : rebuiltUnder (simplify definitions kept inside) (.str "type") = id := rfl
      rw [walk, rebuilt_map, simplify_plain (each_rebuilt free _)]
      refine decide_eq_true ?_
      rw [field?_rebuilt, unshaped, Option.map_id]
      exact typed
  | _ => cases object

variable (listed : key ∈ Pointer.definitionsKeys)
include listed

/-- A schema that is simplified keeps its pointers to definitions that are kept. -/
theorem pointers_simplify {inside : Value → Value} (tidy : Tidy key (IsDefined definitions) (.map schema)) (keyed : Keyed schema)
    (member : name ∈ kept) (pointed : name ∈ pointers (.map schema)) : name ∈ pointers (.map (simplify definitions kept inside schema)) := by
  have collapsed : name ∈ pointers (.map (collapseAll schema)) := collapseAll_eq tidy ▸ pointers_collapse tidy keyed pointed
  unfold simplify
  split
  next => exact collapsed
  next other body target =>
    split
    next => exact collapsed
    next free =>
      -- a schema with a pointer of its own has no other
      obtain ⟨points, -⟩ := target?_eq_some.mp target
      obtain ⟨-, -, beside⟩ := tidy.pointer? listed points
      obtain own | ⟨u, below, -⟩ := mem_pointers_map.mp pointed
      · cases own.symm.trans points
        exact absurd (List.contains_iff_mem.mpr member) free
      · exact absurd below (not_below (fun _ _ => pointer_shape) beside u)

variable (orderly : Orderly key definitions) (shallow : ∀ v, Shallow definitions kept definitions.length v)
include orderly shallow

/-- So does a whole value. -/
theorem pointers_flattened (tidy : Tidy key (IsDefined definitions) v) (keyed : ∀ schema ∈ schemas v, Keyed schema)
    (member : name ∈ kept) (pointed : name ∈ pointers v) : name ∈ pointers (flattened definitions kept v) := by
  obtain ⟨inside, walk⟩ := flattened_eq definitions kept
  induction v using descend with
  | map schema below =>
    have tidied : Tidy key (IsDefined definitions) (.map (rebuiltEntries (simplify definitions kept inside) schema)) :=
      tidy.rebuilt fun u within => walk u ▸ (flattened_replaces listed orderly shallow (tidy.inner within)).tidy
    rw [walk, rebuilt_map]
    refine pointers_simplify listed tidied ((keyed schema (mem_schemas_map.mpr (.inl rfl))).rebuilt _) member ?_
    obtain own | ⟨u, ⟨e, among, sub⟩, deeper⟩ := mem_pointers_map.mp pointed
    · exact mem_pointers_map.mpr (.inl ((pointer?_rebuilt _ schema).trans own))
    · have within : Below schema u := ⟨e, among, sub⟩
      have there := below e among u sub (tidy.inner within) (fun made met => keyed made (within.schemas_subset met)) deeper
      rw [walk] at there
      refine mem_pointers_map.mpr (.inr ⟨_, ⟨_, List.mem_map_of_mem among, ?_⟩, there⟩)
      rw [subvalues_rebuilt]
      exact List.mem_map_of_mem sub
  | list items _ => exact absurd tidy Tidy.not_list
  | leaf v noMap noList =>
    rw [pointers, schemas_leaf noMap noList] at pointed
    cases pointed

end Unchanged

section Cycles
variable {wanted : List String} {other : String} (listed : key ∈ Pointer.definitionsKeys) (orderly : Orderly key definitions)
  (shallow : ∀ v, Shallow definitions kept definitions.length v)
  (keyed : ∀ name body, definitions.field? name = some body → ∀ schema ∈ schemas body, Keyed schema)
  (collected : Collected definitions kept wanted [] found)
include listed orderly shallow keyed collected

/-- What is collected still refers to the definitions that are kept. -/
theorem refers_again (member : name ∈ labels found) (refers : RefersTo definitions name other) (keeps : other ∈ kept) :
    other ∈ labels found ∧ RefersTo found name other := by
  obtain ⟨body, defined, pointed, known⟩ := refers.pointsTo
  obtain ⟨own, same, stands⟩ := collected.field? member
  cases same.symm.trans defined
  obtain ⟨schema, rfl, tidy⟩ := orderly name body defined
  have left := pointers_flattened listed orderly shallow tidy (keyed name _ defined) keeps pointed
  have mentioned := ((flattened_replaces listed orderly shallow tidy).tidy.pointers listed other left).2
  obtain ⟨e, among, -, value⟩ := mem_of_field? stands
  have there := (collected.closed e among other (value ▸ mentioned) known).resolve_left List.not_mem_nil
  refine ⟨there, ?_⟩
  unfold RefersTo successors
  rw [stands]
  exact List.mem_filter.mpr ⟨mentioned, mem_labels.mp there⟩

variable (keepsCycles : ∀ name ∈ recursive definitions, name ∈ kept)
include keepsCycles

/-- A way that leads back is still there, by induction along it: all definitions on it lead back to themselves. -/
theorem leads_again (member : name ∈ labels found) (leads : Relation.TransGen (RefersTo definitions) name other)
    (back : Relation.ReflTransGen (RefersTo definitions) other name) :
    other ∈ labels found ∧ Relation.TransGen (RefersTo found) name other := by
  have step {first last : String} (member : first ∈ labels found) (refers : RefersTo definitions first last)
      (back : Relation.ReflTransGen (RefersTo definitions) last first) : last ∈ labels found ∧ RefersTo found first last :=
    refers_again listed orderly shallow keyed collected member refers (keepsCycles last (mem_recursive.mpr (.tail' back refers)))
  induction leads with
  | single refers => exact (step member refers back).imp_right .single
  | tail before refers ih =>
    obtain ⟨among, leads⟩ := ih (.head refers back)
    exact (step among refers (back.trans before.to_reflTransGen)).imp_right leads.tail

theorem recursive_again (member : name ∈ labels found) (recurs : name ∈ recursive definitions) : name ∈ recursive found :=
  mem_recursive.mpr (leads_again listed orderly shallow keyed collected keepsCycles member (mem_recursive.mp recurs) .refl).2

end Cycles

section Copies
variable {Key Fine : Value → Prop} (composite : Composite Key Fine)
include composite

theorem Composite.collapse (fine : Fine (.map schema)) (keyword : String) : Fine (.map (collapse schema keyword)) := by
  unfold Document.collapse
  split
  next member found =>
    obtain ⟨e, among, -, under⟩ := mem_of_field? found
    have lone : Fine (.list [.map member]) := under ▸ ((composite.map _).mp fine e among).2
    exact composite.update ((composite.list _).mp lone _ (List.mem_singleton_self _)) (composite.dropField fine keyword)
  next => exact fine

theorem Composite.collapseAll (fine : Fine (.map schema)) : Fine (.map (collapseAll schema)) :=
  composite.collapse (composite.collapse (composite.collapse fine _) _) _

/-- What comes of inlining is of the kind that the value and the definitions are of. -/
theorem Composite.inlined (defined : ∀ name body, definitions.field? name = some body → Fine body) (fine : Fine v) (n : Nat) :
    Fine (inlined definitions kept n v) := by
  have simplified {inside : Value → Value} (inner : ∀ name body, definitions.field? name = some body → Fine (inside body))
      (schema : Entries) (fine : Fine (.map schema)) : Fine (.map (simplify definitions kept inside schema)) := by
    unfold simplify
    split
    next => exact composite.collapseAll fine
    next name body target =>
      split
      next => exact composite.collapseAll fine
      next =>
        have own := composite.asEntries (inner name body (target?_eq_some.mp target).2)
        exact composite.collapseAll (composite.mergeBeside own fine)
  induction n generalizing v with
  | zero => exact composite.rebuilt (simplified defined) fine
  | succ n ih => exact composite.rebuilt (simplified fun name body found => ih (defined name body found)) fine

theorem Composite.withDefinitions (top : Fine (.map body)) (all : Fine (.map definitions)) :
    Fine (.map (withDefinitions key body definitions)) := by
  unfold Document.withDefinitions
  split
  · exact top
  · exact composite.setField top all key

end Copies

section Documents
variable {catalogs : Catalogs} {document : Entries} {options : FlatteningOptions}

theorem Described.regulated (described : Described schema) : Regulated (.map schema) := by
  cases described with
  | ofType key t => exact regulated_typeContent t
  | ofSchema simple => exact regulated_schemaContent simple.bare

theorem Tidy.of_mem_schemas (tidy : Tidy key Known v) : ∀ schema ∈ schemas v, Tidy key Known (.map schema) := by
  induction v using descend with
  | map entries below =>
    intro schema met
    obtain rfl | ⟨e, member, deeper⟩ := mem_schemas_map.mp met
    · exact tidy
    · obtain ⟨w, inside, deeper⟩ := List.mem_flatMap.mp deeper
      exact below e member w inside (tidy.inner ⟨e, member, inside⟩) schema deeper
  | list items _ => exact absurd tidy Tidy.not_list
  | leaf v noMap noList =>
    rw [schemas_leaf noMap noList]
    exact List.forall_mem_nil _

/-- The schemas of documents are sound, as none of them holds definitions. -/
theorem Tidy.sound {first : Option String} (tidy : Tidy key Known v) (regulated : Regulated v)
    (listed : ∀ name, first = some name → name ∈ Pointer.definitionsKeys) : ∀ schema ∈ schemas v, Sound first schema := by
  intro schema met
  have regular := regulated.2 schema met
  have absent {name : String} (known : name ∈ Pointer.definitionsKeys) : ∀ e ∈ schema, e.1.str? ≠ some name :=
    (tidy.of_mem_schemas schema met).absent (List.mem_cons_of_mem _ (List.mem_cons_of_mem _ known))
  refine ⟨regular.keyed, fun e member => ⟨fun w inside => ?_, Bool.eq_false_iff.mpr fun holds => ?_, fun name used => ?_⟩⟩
  · obtain below | ⟨items, below, -⟩ := subvalue_of_searched inside
    · exact regular.unlisted w ⟨e, member, below⟩
    · cases regular.unlisted _ ⟨e, member, below⟩
  · obtain ⟨name, known, named⟩ := key_of_holdsDefinitions holds
    exact absent known e member named
  · exact absent (listed name used) e member

section Sound
variable (parts : SoundParts document)
include parts

/-- What comes of flattening is left as it is, as long as the definitions that are left are kept if they were before. -/
theorem SoundParts.inlineAll_flattened (sound : ∀ schema ∈ schemas v, Sound (Parts.ofEntries document).key schema) :
    let input := (Parts.ofEntries document).definitions
    let kept := keptNames options input
    labels found ⊆ labels input → (∀ name ∈ labels found, name ∈ kept → name ∈ again) →
      inlineAll found again (flattened input kept v) = .ok (flattened input kept v) := by
  have flat := parts.flat options sound
  intro input kept within keeps
  refine inlineAll_unchanged (fun schema met => (flat schema met).plural) fun name pointed known => ?_
  have member := mem_labels.mpr known
  obtain ⟨schema, met, points⟩ := mem_pointers.mp pointed
  exact keeps name member ((flat schema met).settled name points (mem_labels.mp (within member)))

/-- Flattening comes to an end after one go, if no definition that was kept ceases to be. What can be copied still can. -/
theorem SoundParts.flattenEntries_again (keeps : ∀ wanted found, Collected (Parts.ofEntries document).definitions
      (keptNames options (Parts.ofEntries document).definitions) wanted [] found →
    ∀ name ∈ labels found, name ∈ keptNames options (Parts.ofEntries document).definitions → name ∈ keptNames options found) :
    ∃ flat, flattenEntries options document = .ok (.map flat) ∧ flattenEntries options flat = .ok (.map flat) ∧
      ((Value.map document).isCopyable = true → (Value.map flat).isCopyable = true) := by
  obtain ⟨key, made, found, -, same, collects, collected, -, flattens, flat⟩ := parts.flattenEntries_collects options
  have again := keeps _ found collected
  refine ⟨withDefinitions key made found, flattens, flattenEntries_eq options key ?_ ?_ ?_, fun copyable => ?_⟩
  · rw [flat, ← same]
    exact parts.inlineAll_flattened parts.root collected.labels_subset again
  · rw [flat]
    refine collect_again (fun name w stands => ?_) collected.labels_subset collects (Nat.le_refl _)
    obtain ⟨e, member, named, rfl⟩ := mem_of_field? stands
    obtain ⟨label, definition, defined, rfl⟩ := collected.each e member
    exact parts.inlineAll_flattened (parts.defined label definition defined).2 collected.labels_subset again
  · rw [flat]
    cases found with
    | nil => exact .inr rfl
    | cons _ _ => exact .inl rfl
  · have fine {v : Value} (own : v.isCopyable = true) : (flattened (Parts.ofEntries document).definitions
        (keptNames options (Parts.ofEntries document).definitions) v).isCopyable = true :=
      isCopyable_composite.inlined (fun _ _ => isCopyable_composite.definition copyable) own _
    refine isCopyable_composite.withDefinitions (same ▸ fine (isCopyable_composite.root copyable)) ?_
    refine (isCopyable_composite.map _).mpr fun e member => ?_
    obtain ⟨label, definition, stands, rfl⟩ := collected.each e member
    exact ⟨rfl, fine (isCopyable_composite.definition copyable stands)⟩

end Sound

section Composed
variable (composed : Composed key body definitions) (each : AllDescribed definitions)
include composed each

theorem Composed.soundParts (root : Described body) : SoundParts (withDefinitions key body definitions) := by
  have listed : ∀ name, (if definitions.isEmpty then none else some key) = some name → name ∈ Pointer.definitionsKeys := by
    intro name first
    obtain ⟨-, first⟩ := Option.ite_none_left_eq_some.mp first
    exact Option.some.inj first ▸ composed.listed
  constructor
  · rw [composed.parts]
    exact composed.body.sound root.regulated listed
  · rw [composed.parts]
    intro name definition found
    obtain ⟨schema, rfl, described⟩ := each name definition found
    obtain ⟨-, -, tidy⟩ := composed.orderly name _ found
    exact ⟨rfl, tidy.sound described.regulated listed⟩

/-- The definitions that flattening keeps are to be kept again, if they are left. -/
theorem Composed.kept_again {wanted : List String} (collected : Collected definitions (keptNames options definitions) wanted [] found)
    (member : name ∈ labels found) (keeps : name ∈ keptNames options definitions) : name ∈ keptNames options found := by
  obtain recurs | ⟨preserve, sub, defined, object⟩ := (mem_keptNames (nodup_labels composed.distinct)).mp keeps
  · refine (mem_keptNames collected.distinct).mpr (.inl ?_)
    refine recursive_again composed.listed composed.orderly (composed.shallow options) (fun name definition defined => ?_) collected
      (fun _ => List.mem_append_left _) member recurs
    obtain ⟨schema, rfl, described⟩ := each name definition defined
    exact fun made met => (described.regulated.2 made met).keyed
  · obtain ⟨own, same, stands⟩ := collected.field? member
    cases same.symm.trans defined
    obtain ⟨-, -, tidy⟩ := composed.orderly name _ defined
    exact (mem_keptNames collected.distinct).mpr (.inr ⟨preserve, _, stands, isObject_flattened tidy object⟩)

end Composed

/-- A document that is generated is flattened to one that flattening leaves as it is, with all keys and definitions in
their order. -/
theorem flatten_idempotent (generated : Generated catalogs document) (options : FlatteningOptions) :
    ∃ flat, flattenEntries options document = .ok (.map flat) ∧ flattenEntries options flat = .ok (.map flat) ∧
      ((Value.map document).isCopyable = true →
        flatten options (.map document) = .ok (.map flat) ∧ flatten options (.map flat) = .ok (.map flat)) := by
  obtain ⟨key, body, definitions, rfl, composed, root, each⟩ := generated.composed
  have keeps : ∀ wanted found, Collected definitions (keptNames options definitions) wanted [] found →
      ∀ name ∈ labels found, name ∈ keptNames options definitions → name ∈ keptNames options found :=
    fun _ _ collected _ => composed.kept_again each collected
  obtain ⟨flat, first, second, copies⟩ := (composed.soundParts each root).flattenEntries_again (by rw [composed.parts]; exact keeps)
  exact ⟨flat, first, second, fun copyable =>
    ⟨(flatten_of_copyable options copyable).trans first, (flatten_of_copyable options (copies copyable)).trans second⟩⟩

section Library
open FlattenedDocuments

/-- Books and authors, which lead to each other, are found to do so once more. -/
theorem library_idempotent :
    (∃ document flat, generate library {} loan = .ok document ∧ Generated library document ∧
      flatten {} (.map document) = .ok (.map flat) ∧ flatten {} (.map flat) = .ok (.map flat)) ∧
    ∃ document flat, generateType library (some 0) "$defs" (.array (.ref "Book" none) []) = .ok document ∧ Generated library document ∧
      flatten { preserveComplexReferences := true } (.map document) = .ok (.map flat) ∧
      flatten { preserveComplexReferences := true } (.map flat) = .ok (.map flat) := by
  constructor
  · cases generated : generate library {} loan with
    | error e => cases generated
    | ok document =>
      have copies : (generate library {} loan).toOption.all (Value.isCopyable <| .map ·) = true := by decide +kernel
      rw [generated] at copies
      obtain ⟨flat, -, -, twice⟩ := flatten_idempotent (loan_generated generated) {}
      exact ⟨document, flat, rfl, loan_generated generated, twice copies⟩
  · cases generated : generateType library (some 0) "$defs" (.array (.ref "Book" none) []) with
    | error e => cases generated
    | ok document =>
      have copies : (generateType library (some 0) "$defs" (.array (.ref "Book" none) [])).toOption.all
          (Value.isCopyable <| .map ·) = true := by decide +kernel
      rw [generated] at copies
      obtain ⟨flat, -, -, twice⟩ := flatten_idempotent (books_generated generated) { preserveComplexReferences := true }
      exact ⟨document, flat, rfl, books_generated generated, twice copies⟩

end Library

end Documents
end RecordSchema.Document
