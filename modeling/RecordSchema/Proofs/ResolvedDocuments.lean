import RecordSchema.Proofs.DeeperResolution

/-! Documents that are resolved in two goes: what comes of the first go is JSON again and has no definitions, so that
they can be put back under their key. Main statement: `resolve_add`. -/

namespace RecordSchema.Document
open Entries

section Documents
variable {options : ResolutionOptions} {document definitions : Entries} {key : String}

theorem resolveTo_maxDepth (options : ResolutionOptions) (limit : Nat) (definitions : Entries) (depth : Nat) :
    resolveTo { options with maxDepth := limit } definitions depth = resolveTo options definitions depth := by
  induction depth with
  | zero => rfl
  | succ depth ih =>
    funext v
    rw [resolveTo, resolveTo, ih]
    rfl

/-- The parts of a document whose definitions stand under one key. -/
theorem parts_of_one (one : document.filter holdsDefinitions = [(.str key, .map definitions)]) :
    Parts.ofEntries document = ⟨some key, Entries.update [] definitions, document.filter (!holdsDefinitions ·)⟩ := by
  obtain ⟨before, after, rfl, plain, held, none⟩ := List.filter_eq_cons_iff.mp one
  have plainBefore : ∀ e ∈ before, holdsDefinitions e = false := fun e member => Bool.eq_false_iff.mpr (plain e member)
  have plainAfter : ∀ e ∈ after, holdsDefinitions e = false :=
    fun e member => Bool.eq_false_iff.mpr (List.filter_eq_nil_iff.mp none e member)
  have kept {rest : Entries} (plain : ∀ e ∈ rest, holdsDefinitions e = false) : rest.filter (!holdsDefinitions ·) = rest :=
    List.filter_eq_self.mpr fun e member => by rw [plain e member]; rfl
  have known : isDefinitionsKey (.str key) = true := (Bool.and_eq_true_iff.mp held).1
  rw [Parts.ofEntries, List.foldl_append, Parts.foldl_add_of_plain plainBefore, List.foldl_cons, Parts.foldl_add_of_plain plainAfter,
    Parts.add, known, List.filter_append, kept plainBefore, List.filter_cons, held, Bool.not_true, if_neg Bool.false_ne_true,
    kept plainAfter]
  rfl

theorem holdsDefinitions_rebuilt (plain : Entries → Entries) (k v : Value) :
    holdsDefinitions (k, rebuiltUnder plain k v) = holdsDefinitions (k, v) := by
  unfold holdsDefinitions
  cases known : isDefinitionsKey k with
  | false => rfl
  | true =>
    unfold rebuiltUnder
    rw [definitions_shape known]
    cases v <;> rfl

/-- Nothing stands under a key in a schema, and no definitions under any. -/
def Bare (key : String) (schema : Entries) : Prop := ∀ e ∈ schema, e.1.str? ≠ some key ∧ holdsDefinitions e = false

theorem holdsDefinitions_alike {e f : Value × Value} (text : e.1.str? = f.1.str?) (same : e.2 = f.2) :
    holdsDefinitions e = holdsDefinitions f := by
  rw [holdsDefinitions, holdsDefinitions, isDefinitionsKey, isDefinitionsKey, text, same]

/-- No definitions come into a document by resolving. -/
theorem resolveTo_bare (listed : key ∈ Pointer.definitionsKeys) {schema : Entries} (root : Bare key schema)
    (defined : ∀ name body, definitions.field? name = some body → ∀ schema, body = .map schema → Bare key schema) {depth : Nat}
    {made : Entries} (same : resolveTo options definitions depth (.map schema) = .map made) : Bare key made := by
  refine resolveTo_outermost (fun plain schema bare => ?_) (fun target beside first second => ?_) (fun v noMap => ?_) defined
    (fun other whole => Value.map.inj whole ▸ root) same
  · refine List.forall_mem_map.mpr fun e member => ?_
    rw [holdsDefinitions_rebuilt]
    exact bare e member
  · intro e member
    obtain before | ⟨b, inside, text, value⟩ := mem_mergeBeside member
    · exact first e before
    · rw [text, holdsDefinitions_alike text value]
      exact second b inside
  · have whole : asEntries v = [(.str "allOf", .list [v])] := by
      unfold asEntries
      split
      next schema => exact absurd rfl (noMap schema)
      next => rfl
    rw [whole]
    refine List.forall_mem_singleton.mpr ⟨fun text => ?_, rfl⟩
    cases text
    revert listed
    decide

theorem eq_of_label {entries : Entries} (distinct : (labels entries).Nodup) {e f : Value × Value} (first : e ∈ entries)
    (second : f ∈ entries) {name : String} (left : e.1.str? = some name) (right : f.1.str? = some name) : e = f := by
  induction entries with
  | nil => cases first
  | cons head rest ih =>
    have once {g : Value × Value} (named : head.1.str? = some name) (later : g ∈ rest) (text : g.1.str? = some name) : False := by
      have listed : labels (head :: rest) = name :: labels rest := by rw [labels, List.filterMap_cons, named, labels]
      rw [listed] at distinct
      exact (List.nodup_cons.mp distinct).1 (List.mem_filterMap.mpr ⟨g, later, text⟩)
    obtain rfl | early := List.mem_cons.mp first
    · obtain rfl | late := List.mem_cons.mp second
      · rfl
      · exact (once left late right).elim
    · obtain rfl | late := List.mem_cons.mp second
      · exact (once right early left).elim
      · exact ih (distinct.sublist ((List.sublist_cons_self _ _).filterMap _)) early late

theorem bare_root (distinct : (labels document).Nodup) (one : document.filter holdsDefinitions = [(.str key, .map definitions)]) :
    Bare key (document.filter (!holdsDefinitions ·)) := by
  intro e member
  obtain ⟨among, plain⟩ := List.mem_filter.mp member
  obtain ⟨stands, held⟩ : (.str key, .map definitions) ∈ document ∧ holdsDefinitions (.str key, .map definitions) = true :=
    List.mem_filter.mp (one ▸ List.mem_singleton_self _)
  have plain : holdsDefinitions e = false := Bool.not_eq_true' _ ▸ plain
  refine ⟨fun text => ?_, plain⟩
  rw [eq_of_label distinct among stands text rfl, held] at plain
  cases plain

/-- Definitions that are put under the key are all that a bare schema holds of them. -/
theorem Bare.reattach {schema : Entries} (bare : Bare key schema) (known : isDefinitionsKey (.str key) = true) (definitions : Entries) :
    (schema.setField key (.map definitions)).filter holdsDefinitions = [(.str key, .map definitions)] ∧
      (schema.setField key (.map definitions)).filter (!holdsDefinitions ·) = schema := by
  have held : holdsDefinitions (.str key, .map definitions) = true := Bool.and_eq_true_iff.mpr ⟨known, rfl⟩
  have none : schema.filter holdsDefinitions = [] :=
    List.filter_eq_nil_iff.mpr fun e member => Bool.eq_false_iff.mp (bare e member).2
  have all : schema.filter (!holdsDefinitions ·) = schema :=
    List.filter_eq_self.mpr fun e member => by rw [(bare e member).2]; rfl
  rw [setField_of_absent _ (field?_of_absent fun e member => (bare e member).1), List.filter_append, List.filter_append, none, all]
  simp [held]

theorem resolveTo_map (options : ResolutionOptions) (definitions : Entries) (depth : Nat) (schema : Entries) :
    ∃ made : Entries, resolveTo options definitions depth (.map schema) = .map made := by
  cases depth with
  | zero => exact ⟨schema, rfl⟩
  | succ depth => exact ⟨_, rebuilt_map _ schema⟩

theorem resolve_of_isJson (options : ResolutionOptions) (json : (Value.map document).isJson = true) (limit : Nat) :
    resolve { options with maxDepth := limit } (.map document) =
      .ok (resolveTo options (Parts.ofEntries document).definitions limit (.map (Parts.ofEntries document).root)) := by
  rw [resolve_of_copyable _ (Value.isCopyable_of_isJson json), resolveEntries, resolveTo_maxDepth]

section Parts
variable {name : String} {body : Value} (found : (Parts.ofEntries document).definitions.field? name = some body)
include found

theorem isJson_definition (json : (Value.map document).isJson = true) : body.isJson = true := isJson_composite.definition json found

theorem bare_definition (one : document.filter holdsDefinitions = [(.str key, .map definitions)])
    (bare : ∀ d ∈ definitions, ∀ body, d.2 = .map body → ∀ e ∈ body, isDefinitionsKey e.1 = false)
    (known : isDefinitionsKey (.str key) = true) {schema : Entries} (whole : body = .map schema) : Bare key schema := by
  intro e member
  rw [parts_of_one one] at found
  obtain none | ⟨d, inside, -, same⟩ := Entries.field?_update found
  · cases none
  · have free := bare d inside schema (same.trans whole) e member
    refine ⟨fun text => ?_, by rw [holdsDefinitions, free, Bool.false_and]⟩
    rw [isDefinitionsKey, text] at free
    exact Bool.false_ne_true (free.symm.trans known)

end Parts

theorem allKeyed_parts (json : (Value.map document).isJson = true)
    (distinct : ∀ schema ∈ schemas (.map document), (labels schema).Nodup) :
    AllKeyed (Parts.ofEntries document).definitions (.map (Parts.ofEntries document).root) := by
  have within := parts_within document
  have keyed : ∀ schema ∈ schemas (.map document), Keyed schema := by
    intro schema met
    exact ⟨fun e member => (Value.isJson_of_mem_map (isJson_composite.of_mem_schemas json schema met) e member).1, distinct schema met⟩
  refine ⟨fun schema met => ?_, fun name body found schema met => keyed schema (within.mem_schemas found met)⟩
  obtain rfl | ⟨e, member, deeper⟩ := mem_schemas_map.mp met
  · have whole : Keyed document := keyed document (mem_schemas_map.mpr (.inl rfl))
    rw [parts_eq]
    exact ⟨fun e member => whole.text e (List.mem_filter.mp member).1,
      whole.distinct.sublist (List.filter_sublist.filterMap _)⟩
  · exact keyed schema (mem_schemas_map.mpr (.inr ⟨e, within.root e member, deeper⟩))

/-- A document that is resolved so deep, and deeper with its definitions put back, is the document resolved as deep
at once. What is left pointing to a definition is met after all steps that were allowed at first. -/
theorem resolve_add (options : ResolutionOptions) (json : (Value.map document).isJson = true)
    (distinct : ∀ schema ∈ schemas (.map document), (labels schema).Nodup)
    (one : document.filter holdsDefinitions = [(.str key, .map definitions)])
    (bare : ∀ d ∈ definitions, ∀ body, d.2 = .map body → ∀ e ∈ body, isDefinitionsKey e.1 = false) (m n : Nat) :
    ∃ (cut : Entries) (deep : Value), resolve { options with maxDepth := m } (.map document) = .ok (.map cut) ∧
      resolve { options with maxDepth := n } (.map (cut.setField key (.map definitions))) = .ok deep ∧
      resolve { options with maxDepth := m + n } (.map document) = .ok deep ∧
      ∀ name ∈ pointers (.map cut), (Parts.ofEntries document).definitions.hasField name = true →
        PointedAfter (Parts.ofEntries document).definitions m (.map (Parts.ofEntries document).root) name := by
  have held : (.str key, .map definitions) ∈ document ∧ holdsDefinitions (.str key, .map definitions) = true :=
    List.mem_filter.mp (one ▸ List.mem_singleton_self _)
  have known : isDefinitionsKey (.str key) = true := (Bool.and_eq_true_iff.mp held.2).1
  have root : Bare key (Parts.ofEntries document).root := by
    rw [parts_of_one one]
    exact bare_root (distinct document (mem_schemas_map.mpr (.inl rfl))) one
  have rootJson : (Value.map (Parts.ofEntries document).root).isJson = true :=
    Value.isJson_map fun e member => Value.isJson_of_mem_map json e ((parts_within document).root e member)
  obtain ⟨cut, made⟩ := resolveTo_map options (Parts.ofEntries document).definitions m (Parts.ofEntries document).root
  have free : Bare key cut := resolveTo_bare (List.contains_iff_mem.mp known) root
    (fun name body found schema whole => bare_definition found one bare known whole) made
  have cutJson : (Value.map cut).isJson = true := made ▸ isJson_composite.resolveTo (fun name body found => isJson_definition found json) rootJson
  have again := isJson_composite.setField cutJson (Value.isJson_of_mem_map json _ held.1).2 key
  obtain ⟨single, rest⟩ := free.reattach known definitions
  refine ⟨cut, resolveTo options (Parts.ofEntries document).definitions (m + n) (.map (Parts.ofEntries document).root),
    ?_, ?_, resolve_of_isJson options json (m + n), fun name pointed defined => ?_⟩
  · rw [resolve_of_isJson options json, made]
  · rw [resolve_of_isJson options again, parts_of_one single, rest, ← resolveTo_add (allKeyed_parts json distinct) m n, made,
      parts_of_one one]
  · exact pointers_resolveTo (fun _ => rfl) name (made ▸ pointed) defined

/-- Parts, which are made of pieces, and pieces, which are parts. -/
def piecesAndParts : Entries :=
  [entry "Piece" (.map [entry "$ref" (.str "#/definitions/Part"), entry "description" (.str "A piece")]),
   entry "Part" (.map [
     entry "title" (.str "Part"), entry "description" (.str "A part"),
     entry "properties" (.map [entry "inner" (.map [entry "$ref" (.str "#/definitions/Piece"), entry "title" (.str "Inner")])])])]

def assembly : Entries :=
  [entry "title" (.str "Assembly"),
   entry "items" (.map [entry "$ref" (.str "#/definitions/Piece"), entry "title" (.str "Item")]),
   entry "definitions" (.map piecesAndParts)]

theorem assembly_resolved :
    (Value.map assembly).isJson = true ∧ (∀ schema ∈ schemas (.map assembly), (labels schema).Nodup) ∧
      assembly.filter holdsDefinitions = [(.str "definitions", .map piecesAndParts)] ∧
      (∀ d ∈ piecesAndParts, ∀ body, d.2 = .map body → ∀ e ∈ body, isDefinitionsKey e.1 = false) ∧
      ∃ (cut : Entries) (deep : Value), resolve { maxDepth := 1, preserveTitles := false } (.map assembly) = .ok (.map cut) ∧
        resolve { maxDepth := 3, preserveTitles := false } (.map (cut.setField "definitions" (.map piecesAndParts))) = .ok deep ∧
        resolve { maxDepth := 4, preserveTitles := false } (.map assembly) = .ok deep ∧
        ∀ name ∈ pointers (.map cut), (Parts.ofEntries assembly).definitions.hasField name = true →
          PointedAfter (Parts.ofEntries assembly).definitions 1 (.map (Parts.ofEntries assembly).root) name := by
  have json : (Value.map assembly).isJson = true := by decide +kernel
  have distinct : ∀ schema ∈ schemas (.map assembly), (labels schema).Nodup := by decide +kernel
  have one : assembly.filter holdsDefinitions = [(.str "definitions", .map piecesAndParts)] := rfl
  have each : ∀ d ∈ piecesAndParts, (d.2.ownEntries?.getD []).all (fun e => !isDefinitionsKey e.1) = true := by decide +kernel
  have bare : ∀ d ∈ piecesAndParts, ∀ body, d.2 = .map body → ∀ e ∈ body, isDefinitionsKey e.1 = false := by
    intro d member body same e inside
    have free := each d member
    rw [same] at free
    exact Bool.not_eq_true' _ ▸ List.all_eq_true.mp free e inside
  exact ⟨json, distinct, one, bare, resolve_add { preserveTitles := false } json distinct one bare 1 3⟩

end Documents
end RecordSchema.Document
