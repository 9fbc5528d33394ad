import RecordSchema.Proofs.FlatteningEnds
import RecordSchema.Proofs.StrippedDocuments

/-! Where the definitions stand that references select. A document can have them under two keys; of two that have one
name the later key's is put in, and what is kept of them stands under the first key. So a reference selects what its
own pointer names only where no later key has that name, and it still does so when it is kept if its key is the first.
Main statement: `reference_selects_own`. -/

namespace RecordSchema

namespace Pointer

/-- The key and the name in a pointer to a definition. All that follows the key is the name. -/
def place? (pointer : String) : Option (String × String) :=
  definitionsKeys.findSome? fun key =>
    (afterStart? (start key).toList pointer.toList).map fun rest => (key, String.ofList (unescape rest))

theorem newline_mem_unescape {text : List Char} (inside : '\n' ∈ text) : '\n' ∈ unescape text := by
  fun_induction unescape text with
  | case1 => exact inside
  | case2 rest ih => simp_all
  | case3 rest ih => simp_all
  | case4 c rest _ _ ih => exact (List.mem_cons.mp inside).elim (fun here => here ▸ List.mem_cons_self) fun later => List.mem_cons_of_mem _ (ih later)

theorem key_of_place {pointer key name : String} (place : place? pointer = some (key, name)) : key ∈ definitionsKeys := by
  obtain ⟨k, listed, found⟩ := List.exists_of_findSome?_eq_some place
  obtain ⟨rest, -, same⟩ := Option.map_eq_some_iff.mp found
  exact (Prod.mk.inj same).1 ▸ listed

/-- A name that can be read is what a pointer is taken to mean, under whatever key. -/
theorem name?_of_place {pointer key name : String} (place : place? pointer = some (key, name)) (readable : Readable name) :
    name? pointer = some name := by
  obtain ⟨filled, oneLine⟩ := readable
  have read {rest : List Char} (same : String.ofList (unescape rest) = name) : line? rest = some rest := by
    have whole : rest.takeWhile (· ≠ '\n') = rest := by
      refine List.takeWhile_eq_self_iff.mpr fun c member => decide_eq_true fun newline => oneLine ?_
      rw [← same, String.toList_ofList]
      exact newline_mem_unescape (newline ▸ member)
    have letters : rest ≠ [] := by
      rintro rfl
      exact filled same.symm
    unfold line?
    rw [whole]
    simp [letters]
  have meant {rest : List Char} (same : String.ofList (unescape rest) = name) :
      ((line? rest).bind fun line => some (String.ofList (unescape line))) = some name := by
    rw [read same, Option.bind_some, same]
  unfold place? definitionsKeys at place
  unfold name? definitionsKeys
  rw [List.findSome?_cons] at place ⊢
  cases first : afterStart? (start "definitions").toList pointer.toList with
  | some rest =>
    rw [first] at place
    obtain ⟨-, same⟩ := Prod.mk.inj (Option.some.inj place)
    exact meant same
  | none =>
    rw [first, Option.map_none, List.findSome?_singleton] at place
    obtain ⟨rest, second, same⟩ := Option.map_eq_some_iff.mp place
    simp only [List.findSome?_singleton, second]
    exact meant (Prod.mk.inj same).2

end Pointer

namespace Document
open Entries

section Places

/-- The definition of a name under a key of a document. -/
def definitionAt? (document : Entries) (key name : String) : Option Value :=
  (definitionsUnder document key).bind (·.field? name)

/-- The keys of a document that have definitions, in order. -/
def definitionsKeysOf (document : Entries) : List String := (document.filter holdsDefinitions).filterMap (·.1.str?)

/-- No key stands twice in a document, nor in a map under one of its keys. -/
def DistinctKeys (document : Entries) : Prop :=
  (labels document).Nodup ∧ ∀ e ∈ document, (labels (e.2.ownEntries?.getD [])).Nodup

instance (document : Entries) : Decidable (DistinctKeys document) := inferInstanceAs (Decidable (_ ∧ ∀ e ∈ document, _))

variable {document schema entries others : Entries} {key name : String} {body : Value}

theorem DistinctKeys.keyed (distinct : DistinctKeys document) (json : (Value.map document).isJson = true) {found : Entries}
    (under : definitionsUnder document key = some found) : Keyed found := by
  obtain ⟨v, stands, own⟩ := Option.bind_eq_some_iff.mp under
  obtain ⟨e, member, -, rfl⟩ := mem_of_field? stands
  have whole : e.2 = .map found := by
    cases map : e.2 with
    | map entries => rw [map] at own; cases own; rfl
    | _ => rw [map] at own; cases own
  have each := distinct.2 e member
  rw [whole] at each
  exact ⟨fun d among => (Value.isJson_of_mem_map (whole ▸ (Value.isJson_of_mem_map json e member).2) d among).1, each⟩

theorem parts_key_eq (document : Entries) : (Parts.ofEntries document).key = (definitionsKeysOf document).head? := by
  rw [parts_eq, definitionsKeysOf]
  dsimp only
  rw [← List.head?_filter]
  cases all : document.filter holdsDefinitions with
  | nil => rfl
  | cons e rest =>
    have held : e ∈ document.filter holdsDefinitions := all ▸ List.mem_cons_self
    obtain ⟨key, -, named⟩ := key_of_holdsDefinitions (List.mem_filter.mp held).2
    simp [named]

/-- Of the definitions of one name, that under the last key is put in. -/
theorem definitions_field?_latest (json : (Value.map document).isJson = true) (distinct : DistinctKeys document) (name : String) :
    (Parts.ofEntries document).definitions.field? name = (definitionsKeysOf document).reverse.findSome? (definitionAt? document · name) := by
  have merged {held : Entries} (inside : ∀ e ∈ held, e ∈ document ∧ holdsDefinitions e = true) (done : Entries) :
      (held.foldl (fun found e => Entries.update found (e.2.ownEntries?.getD [])) done).field? name =
        ((held.filterMap (·.1.str?)).reverse.findSome? (definitionAt? document · name)).or (done.field? name) := by
    induction held generalizing done with
    | nil => rfl
    | cons e rest ih =>
      obtain ⟨⟨member, holds⟩, later⟩ := List.forall_mem_cons.mp inside
      obtain ⟨-, map⟩ := Bool.and_eq_true_iff.mp holds
      obtain ⟨key, -, named⟩ := key_of_holdsDefinitions holds
      obtain ⟨found, own⟩ := Option.isSome_iff_exists.mp map
      have under : definitionsUnder document key = some found := by
        rw [definitionsUnder, field?_of_mem distinct.1 member named]
        exact own
      have here : definitionAt? document key name = found.field? name := by rw [definitionAt?, under]; rfl
      rw [List.foldl_cons, ih later, own, Option.getD_some, (distinct.keyed json under).field?_update]
      simp [named, List.findSome?_append, here, Option.or_assoc]
  rw [parts_eq]
  have each : ∀ e ∈ document.filter holdsDefinitions, e ∈ document ∧ holdsDefinitions e = true := fun e member => List.mem_filter.mp member
  have all := merged each []
  rw [all]
  exact Option.or_none

/-- A key that has a definition is one of those that have some. -/
theorem mem_definitionsKeysOf (listed : key ∈ Pointer.definitionsKeys) (own : definitionAt? document key name = some body) :
    key ∈ definitionsKeysOf document := by
  obtain ⟨found, under, -⟩ := Option.bind_eq_some_iff.mp own
  obtain ⟨v, stands, map⟩ := Option.bind_eq_some_iff.mp under
  obtain ⟨e, member, named, rfl⟩ := mem_of_field? stands
  have known : isDefinitionsKey e.1 = true := isDefinitionsKey_of_listed named listed
  have holds : holdsDefinitions e = true := Bool.and_eq_true_iff.mpr ⟨known, Option.isSome_iff_exists.mpr ⟨found, map⟩⟩
  exact List.mem_filterMap.mpr ⟨e, List.mem_filter.mpr ⟨member, holds⟩, named⟩

/-- A schema refers to a definition by the key and the name that it has in a document, and no later key of the
document has the name. -/
structure SelectsOwn (document schema : Entries) (key name : String) (body : Value) : Prop where
  refers : ∃ pointer, schema.field? "$ref" = some (.str pointer) ∧ Pointer.place? pointer = some (key, name)
  readable : Pointer.Readable name
  own : definitionAt? document key name = some body
  latest : ∀ later ∈ definitionsKeysOf document, [key, later].Sublist (definitionsKeysOf document) → definitionAt? document later name = none

theorem SelectsOwn.listed (selects : SelectsOwn document schema key name body) : key ∈ Pointer.definitionsKeys := by
  obtain ⟨pointer, -, place⟩ := selects.refers
  exact Pointer.key_of_place place

theorem SelectsOwn.target (selects : SelectsOwn document schema key name body) (json : (Value.map document).isJson = true)
    (distinct : DistinctKeys document) :
    target? (Parts.ofEntries document).definitions schema = some (name, body) := by
  obtain ⟨pointer, refers, place⟩ := selects.refers
  refine target?_eq_some.mpr ⟨?_, ?_⟩
  · rw [pointer?, refers]
    exact Pointer.name?_of_place place selects.readable
  · obtain ⟨before, after, split⟩ := List.append_of_mem (mem_definitionsKeysOf selects.listed selects.own)
    have later : after.reverse.findSome? (definitionAt? document · name) = none := by
      refine List.findSome?_eq_none_iff.mpr fun other member => ?_
      have after := List.mem_reverse.mp member
      refine selects.latest other (split ▸ List.mem_append_right _ (List.mem_cons_of_mem _ after)) ?_
      rw [split]
      exact List.Sublist.trans (List.Sublist.cons_cons key (List.singleton_sublist.mpr after)) (List.sublist_append_right _ _)
    rw [definitions_field?_latest json distinct, split]
    simp [List.findSome?_append, later, selects.own]

end Places

section Selection
variable {document schema : Entries} {key name : String} {body : Value}

/-- What a schema refers to once definitions stand in it, it referred to before, or they do. -/
theorem references_attached {entries definitions : Entries} (listed : key ∈ Pointer.definitionsKeys)
    (refers : name ∈ references (.map (entries.setField key (.map definitions)))) :
    name ∈ references (.map entries) ∨ ∃ e ∈ definitions, name ∈ references e.2 := by
  have apart : "$ref" ≠ key := by
    rintro rfl
    revert listed
    decide
  obtain points | ⟨e, member, w, inside, deeper⟩ := mem_references_map.mp refers
  · rw [pointer?, field?_setField_of_ne _ _ apart] at points
    exact .inl (mem_references_map.mpr (.inl points))
  · obtain before | ⟨named, same⟩ := mem_setField member
    · exact .inl (mem_references_map.mpr (.inr ⟨e, before, w, inside, deeper⟩))
    · have known : isDefinitionsKey e.1 = true := isDefinitionsKey_of_listed named listed
      rw [same, searched_definitions known, subvalues_definitions known] at inside
      obtain ⟨d, among, rfl⟩ := List.mem_map.mp inside
      exact .inr ⟨d, among, deeper⟩

/-- A definition that a flat document still refers to stands in it under the first key, flattened. -/
theorem flattenEntries_keeps {options : FlatteningOptions} {flat : Value} (ended : flattenEntries options document = .ok flat)
    (first : (Parts.ofEntries document).key = some key) (defined : (Parts.ofEntries document).definitions.field? name = some body)
    (refers : name ∈ references flat) : ∃ made w, flat = .map made ∧ definitionAt? made key name = some w ∧
      inlineAll (Parts.ofEntries document).definitions (keptNames options (Parts.ofEntries document).definitions) body = .ok w := by
  have listed : key ∈ Pointer.definitionsKeys := List.contains_iff_mem.mp (parts_key first)
  revert ended first defined
  unfold flattenEntries
  generalize Parts.ofEntries document = parts
  dsimp only
  generalize keptNames options parts.definitions = kept
  intro ended first defined
  obtain ⟨root, simplified, ended⟩ := Except.bind_eq_ok.mp ended
  obtain ⟨found, collects, ended⟩ := Except.bind_eq_ok.mp ended
  have known : IsDefined parts.definitions name := hasField_iff.mpr ⟨body, defined⟩
  have ends : ¬ Loops parts.definitions kept (.map parts.root) := by
    intro loops
    rw [inlineAll_endless loops] at simplified
    cases simplified
  have same : root = flattened parts.definitions kept (.map parts.root) := Except.ok.inj (simplified.symm.trans (inlineAll_eq ends))
  obtain ⟨entries, map⟩ : ∃ entries, flattened parts.definitions kept (.map parts.root) = .map entries := inlined_map _ _
  rw [map] at same
  subst same
  have start := Collected.start parts.definitions kept (references (.map entries))
  obtain ⟨all, collected, complete, finished⟩ | ⟨fails, -⟩ :=
    collects_or_loops (Nat.le_refl _) start (fun _ _ => trivial) (fun _ _ _ _ _ _ _ => trivial) (List.forall_mem_nil _)
  · obtain rfl : all = found := Except.ok.inj (collected.symm.trans collects)
    rw [first] at ended
    dsimp only at ended
    -- the name is among what was collected, wherever it is still referred to
    have among : name ∈ labels all := by
      split at ended
      next empty =>
        cases ended
        exact (complete.wanted name refers known).resolve_left List.not_mem_nil
      next =>
        cases ended
        obtain before | ⟨e, member, deeper⟩ := references_attached listed refers
        · exact (complete.wanted name before known).resolve_left List.not_mem_nil
        · exact (complete.closed e member name deeper known).resolve_left List.not_mem_nil
    obtain ⟨stands, own, kept⟩ := complete.field? among
    cases own.symm.trans defined
    have filled : ¬ all.isEmpty = true := by
      intro empty
      rw [List.isEmpty_iff.mp empty] at among
      exact List.not_mem_nil among
    rw [if_neg filled] at ended
    cases ended
    refine ⟨_, _, rfl, ?_, inlineAll_eq ((finished name among).2 body defined)⟩
    rw [definitionAt?, definitionsUnder, field?_setField_self]
    exact kept
  · cases fails.symm.trans collects

/-- A reference selects the definition that its own pointer names, unless a later key has another of the name. It is
what resolving and flattening put in; and where the reference is kept, what becomes of the definition stands at its
place if its key is the first of the document. -/
theorem reference_selects_own (json : (Value.map document).isJson = true) (distinct : DistinctKeys document)
    (selects : SelectsOwn document schema key name body) :
    (∀ options, resolve options (.map document) =
        .ok (resolveTo options (Parts.ofEntries document).definitions options.maxDepth (.map (Parts.ofEntries document).root))) ∧
      (∀ options depth, resolveTo options (Parts.ofEntries document).definitions (depth + 1) (.map schema) =
        .map (mergeBeside options.isDropped (asEntries (resolveTo options (Parts.ofEntries document).definitions depth body))
          (rebuiltEntries (expand options (Parts.ofEntries document).definitions
            (resolveTo options (Parts.ofEntries document).definitions depth)) schema))) ∧
      (∀ kept depth, name ∉ kept → inlineTo (Parts.ofEntries document).definitions kept (depth + 1) (.map schema) = do
        let beside ← List.mapM (fun e => (e.1, ·) <$> rebuildUnder (inline (Parts.ofEntries document).definitions kept
          (inlineTo (Parts.ofEntries document).definitions kept depth)) e.1 e.2) schema
        let target ← inlineTo (Parts.ofEntries document).definitions kept depth body
        return .map (collapseAll (mergeBeside (fun _ keyword => keyword = "$ref") (asEntries target) beside))) ∧
      ∀ options flat, flatten options (.map document) = .ok flat → (definitionsKeysOf document).head? = some key →
        name ∈ references flat → ∃ made w, flat = .map made ∧ definitionAt? made key name = some w ∧
          inlineAll (Parts.ofEntries document).definitions (keptNames options (Parts.ofEntries document).definitions) body = .ok w := by
  have target := selects.target json distinct
  have copyable := Value.isCopyable_of_isJson json
  refine ⟨fun options => ?_, fun options depth => ?_, fun kept depth free => ?_, fun options flat ended first refers => ?_⟩
  · rw [resolve_of_copyable options copyable, resolveEntries]
  · show rebuilt (expand options _ (resolveTo options _ depth)) (.map schema) = _
    rw [rebuilt_map, expand, target?_rebuilt, target]
  · show rebuild true (inline _ kept (inlineTo _ kept depth)) (.map schema) = _
    rw [rebuild_map]
    cases done : List.mapM (fun e => (e.1, ·) <$> rebuildUnder (inline _ kept (inlineTo _ kept depth)) e.1 e.2) schema with
    | error fault => rfl
    | ok beside =>
      have again : target? (Parts.ofEntries document).definitions beside = some (name, body) :=
        target?_eq_some.mpr ⟨(pointer?_of_rebuilt done).trans (target?_eq_some.mp target).1, (target?_eq_some.mp target).2⟩
      rw [Except.ok_bind, Except.ok_bind, inline, again]
      dsimp only
      rw [if_neg fun member => free (List.contains_iff_mem.mp member)]
      simp
  · rw [flatten_of_copyable options copyable] at ended
    refine flattenEntries_keeps ended ?_ (target?_eq_some.mp target).2 refers
    rw [parts_key_eq, first]

/-- A family tree. People are defined under the first of two keys, and lead back to themselves. -/
def family : Entries :=
  [entry "properties" (.map [
     entry "root" (.map [entry "$ref" (.str "#/$defs/Person")]),
     entry "motto" (.map [entry "$ref" (.str "#/definitions/Motto")])]),
   entry "$defs" (.map [
     entry "Person" (.map [entry "properties" (.map [entry "parent" (.map [entry "$ref" (.str "#/$defs/Person")])])])]),
   entry "definitions" (.map [entry "Motto" (.map [entry "type" (.str "string")])])]

theorem family_selects_own :
    (Value.map family).isJson = true ∧ DistinctKeys family ∧
      (∃ body, SelectsOwn family [entry "$ref" (.str "#/$defs/Person")] "$defs" "Person" body ∧
        ∀ flat, flatten {} (.map family) = .ok flat → "Person" ∈ references flat →
          ∃ made w, flat = .map made ∧ definitionAt? made "$defs" "Person" = some w ∧
            inlineAll (Parts.ofEntries family).definitions (keptNames {} (Parts.ofEntries family).definitions) body = .ok w) ∧
      ∃ body, SelectsOwn family [entry "$ref" (.str "#/definitions/Motto")] "definitions" "Motto" body ∧
        resolveTo {} (Parts.ofEntries family).definitions 1 (.map [entry "$ref" (.str "#/definitions/Motto")]) =
          .map [entry "type" (.str "string")] := by
  have json : (Value.map family).isJson = true := by decide +kernel
  have distinct : DistinctKeys family := by decide +kernel
  have person : SelectsOwn family [entry "$ref" (.str "#/$defs/Person")] "$defs" "Person" _ :=
    ⟨⟨_, rfl, by decide +kernel⟩, by decide +kernel, rfl, by decide +kernel⟩
  have motto : SelectsOwn family [entry "$ref" (.str "#/definitions/Motto")] "definitions" "Motto" _ :=
    ⟨⟨_, rfl, by decide +kernel⟩, by decide +kernel, rfl, by decide +kernel⟩
  obtain ⟨-, -, -, kept⟩ := reference_selects_own json distinct person
  obtain ⟨-, resolved, -⟩ := reference_selects_own json distinct motto
  exact ⟨json, distinct, ⟨_, person, fun flat ended => kept {} flat ended (by decide +kernel)⟩, _, motto, resolved {} 0⟩

/-- A home that is an object by its own pointer, and a text by the other definition of the same name. -/
def crossed : Entries :=
  [entry "type" (.str "object"),
   entry "properties" (.map [entry "home" (.map [entry "$ref" (.str "#/$defs/Address")])]),
   entry "$defs" (.map [entry "Address" (.map [entry "type" (.str "object")])]),
   entry "definitions" (.map [entry "Address" (.map [entry "type" (.str "string")])])]

/-- The nodes of a tree. -/
def node : Value := .map [entry "properties" (.map [entry "next" (.map [entry "$ref" (.str "#/$defs/Node")])])]

/-- A tree whose nodes are defined under the second of two keys. -/
def transplanted : Entries :=
  [entry "properties" (.map [entry "root" (.map [entry "$ref" (.str "#/$defs/Node")])]),
   entry "definitions" (.map [entry "Label" (.map [entry "type" (.str "string")])]),
   entry "$defs" (.map [entry "Node" node])]

theorem transplanted_flattened :
    flatten {} (.map transplanted) = .ok (.map [
      entry "properties" (.map [entry "root" (.map [entry "$ref" (.str "#/$defs/Node")])]),
      entry "definitions" (.map [entry "Node" node])]) := by
  have kept : keptNames {} (Parts.ofEntries transplanted).definitions = ["Node"] := by decide +kernel
  have done : collect (inlineAll (Parts.ofEntries transplanted).definitions ["Node"]) (Parts.ofEntries transplanted).definitions 1 [entry "Node" node] ["Node"] = .ok [entry "Node" node] := by
    rw [collect]
    show collect _ _ _ _ [] = _
    rw [collect]
  have collected : collect (inlineAll (Parts.ofEntries transplanted).definitions ["Node"]) (Parts.ofEntries transplanted).definitions 2 [] ["Node"] = .ok [entry "Node" node] := by
    rw [collect]
    exact done
  rw [flatten_of_copyable _ (by decide +kernel), flattenEntries, kept]
  show (do
    let definitions ← collect (inlineAll (Parts.ofEntries transplanted).definitions ["Node"]) (Parts.ofEntries transplanted).definitions 2 [] ["Node"]
    if definitions.isEmpty then pure _ else pure (Value.map (Entries.setField _ "definitions" (.map definitions)))) = _
  rw [collected]
  rfl

/-- A reference selects the definition of a later key, and one that is kept is left without its definition. -/
theorem crossed_selects_other :
    ((Value.map crossed).isJson = true ∧ DistinctKeys crossed ∧
      definitionAt? crossed "$defs" "Address" = some (.map [entry "type" (.str "object")]) ∧
      resolve {} (.map crossed) = .ok (.map [
        entry "type" (.str "object"), entry "properties" (.map [entry "home" (.map [entry "type" (.str "string")])])])) ∧
    (Value.map transplanted).isJson = true ∧ DistinctKeys transplanted ∧ definitionAt? transplanted "$defs" "Node" = some node ∧
      ∃ flat, flatten {} (.map transplanted) = .ok (.map flat) ∧ "Node" ∈ references (.map flat) ∧ definitionAt? flat "$defs" "Node" = none :=
  ⟨⟨by decide +kernel, by decide +kernel, rfl, rfl⟩, by decide +kernel, by decide +kernel, rfl,
    _, transplanted_flattened, by decide +kernel, rfl⟩

end Selection
end Document
end RecordSchema
