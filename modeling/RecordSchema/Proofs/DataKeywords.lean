import RecordSchema.Proofs.ResolvedDocuments

/-! Keywords that hold data. What stands under them is copied along and never read: changing it before a document is
resolved or flattened is changing it afterwards. Main statement: `data_unread`. -/

namespace RecordSchema

namespace Entries

/-- Changes the values of a map, each as its key says. -/
def eachValue (change : Value → Value → Value) (entries : Entries) : Entries :=
  List.map (fun e => (e.1, change e.1 e.2)) entries

/-- Only the text of a key counts. -/
def ReadsText (change : Value → Value → Value) : Prop := ∀ k l : Value, k.str? = l.str? → change k = change l

section EachValue
variable {change : Value → Value → Value} {entries others : Entries} {key v : Value} {name : String}

@[simp] theorem eachValue_cons (rest : Entries) : eachValue change ((key, v) :: rest) = (key, change key v) :: eachValue change rest := rfl

theorem eachValue_append : eachValue change (entries ++ others) = eachValue change entries ++ eachValue change others := List.map_append

theorem keys_eachValue (entries : Entries) : keys (eachValue change entries) = keys entries := by
  rw [keys, keys, eachValue, List.map_map]
  rfl

theorem eachValue_dropField : eachValue change (entries.dropField name) = (eachValue change entries).dropField name := by
  induction entries with
  | nil => rfl
  | cons e rest ih =>
    obtain ⟨key, w⟩ := e
    by_cases here : key.str? = some name <;> simp_all [dropField]

variable (reads : ReadsText change)
include reads

theorem field?_eachValue (entries : Entries) (name : String) :
    (eachValue change entries).field? name = (entries.field? name).map (change (.str name)) := by
  induction entries with
  | nil => rfl
  | cons e rest ih =>
    obtain ⟨key, v⟩ := e
    by_cases here : key.str? = some name
    · simp [field?, here, reads key (.str name) here]
    · simp [field?, here, ih]

theorem hasField_eachValue (entries : Entries) (name : String) : (eachValue change entries).hasField name = entries.hasField name := by
  rw [hasField, hasField, field?_eachValue reads, Option.isSome_map]

theorem eachValue_setField : eachValue change (entries.setField name v) = (eachValue change entries).setField name (change (.str name) v) := by
  induction entries with
  | nil => rfl
  | cons e rest ih =>
    obtain ⟨key, w⟩ := e
    by_cases here : key.str? = some name
    · simp [setField, here, reads key (.str name) here]
    · simp [setField, here, ih]

/-- The key that is replaced has the same text, so its value is changed in the same way. -/
theorem eachValue_put : eachValue change (entries.put key v) = (eachValue change entries).put key (change key v) := by
  induction entries with
  | nil => rfl
  | cons e rest ih =>
    obtain ⟨k, w⟩ := e
    by_cases here : k.same key = true
    · simp [put, here, reads k key (str?_eq_of_same here)]
    · simp [put, here, ih]

theorem eachValue_update : eachValue change (entries.update others) = (eachValue change entries).update (eachValue change others) := by
  induction others generalizing entries with
  | nil => rfl
  | cons e rest ih =>
    obtain ⟨key, v⟩ := e
    show eachValue change (Entries.update (entries.put key v) rest) =
      Entries.update ((eachValue change entries).put key (change key v)) (eachValue change rest)
    rw [ih, eachValue_put reads]

end EachValue
end Entries

namespace Document
open Entries

section Changing
variable (f : Value → Value)

/-- The keywords that hold data. -/
def dataKeywords : List String := ["enum", "const", "default", "examples"]

/-- Whether data stands under a key. -/
def isData (key : Value) : Bool := key.str?.any dataKeywords.contains

/-- Changes the data in one schema. -/
def changeData (schema : Entries) : Entries := schema.eachValue fun key v => if isData key then f v else v

/-- Changes the data in a document, wherever a schema can stand. -/
def withData : Value → Value := rebuilt (changeData f)

/-- Changes the data in definitions. -/
def withDataEach (definitions : Entries) : Entries := definitions.eachValue fun _ => withData f

/-- What changing data makes of the value under a key. -/
def dataUnder (key v : Value) : Value := if isData key then f v else rebuiltUnder (changeData f) key v

/-- What changing data makes of a schema. -/
def withDataIn (schema : Entries) : Entries := schema.eachValue (dataUnder f)

end Changing

section Walks
variable {f : Value → Value} {schema target beside definitions : Entries} {key v : Value} {keyword : String}

theorem ofKey?_of_isData (data : isData key = true) : KeywordShape.ofKey? key = none := by
  have shapes : ∀ keyword ∈ dataKeywords, KeywordShape.ofKeyword? keyword = none := by decide
  obtain ⟨keyword, named, listed⟩ := (Option.any_eq_true _ _).mp data
  rw [KeywordShape.ofKey?, named]
  exact shapes keyword (List.contains_iff_mem.mp listed)

theorem dataUnder_of_data (data : isData key = true) : dataUnder f key v = f v := if_pos data

theorem dataUnder_of_free (free : ¬ isData key = true) : dataUnder f key v = rebuiltUnder (changeData f) key v := if_neg free

theorem dataUnder_readsText (f : Value → Value) : ReadsText (dataUnder f) := by
  intro k l same
  have data : isData k = isData l := by rw [isData, isData, same]
  have shape : KeywordShape.ofKey? k = KeywordShape.ofKey? l := by rw [KeywordShape.ofKey?, KeywordShape.ofKey?, same]
  funext v
  unfold dataUnder rebuiltUnder
  rw [data, shape]

theorem withData_readsText (f : Value → Value) : ReadsText fun _ => withData f := fun _ _ _ => rfl

theorem withData_map (f : Value → Value) (schema : Entries) : withData f (.map schema) = .map (withDataIn f schema) := by
  rw [withData, rebuilt_map, changeData, rebuiltEntries, withDataIn, eachValue, eachValue, List.map_map]
  refine congrArg Value.map (List.map_congr_left fun e _ => congrArg (Prod.mk e.1) ?_)
  by_cases data : isData e.1 = true
  · simp [dataUnder_of_data data, data, rebuiltUnder_of_unshaped (ofKey?_of_isData data)]
  · simp [dataUnder_of_free data, data]

theorem withData_list (f : Value → Value) (items : List Value) : withData f (.list items) = .list (items.map (withData f)) :=
  rebuilt_list _ items

theorem withData_leaf (f : Value → Value) (noMap : ∀ entries, v ≠ .map entries) (noList : ∀ items, v ≠ .list items) : withData f v = v :=
  rebuild_leaf noMap noList

/-- A keyword that holds neither data nor schemas keeps its value. -/
theorem field?_withDataIn (free : isData (.str keyword) = false) (shape : KeywordShape.ofKey? (.str keyword) = none) (schema : Entries) :
    (withDataIn f schema).field? keyword = schema.field? keyword := by
  have same : dataUnder f (.str keyword) = id := by
    funext v
    rw [dataUnder_of_free (Bool.eq_false_iff.mp free), rebuiltUnder_of_unshaped shape, id]
  rw [withDataIn, field?_eachValue (dataUnder_readsText f), same, Option.map_id, id]

theorem pointer?_withDataIn (schema : Entries) : pointer? (withDataIn f schema) = pointer? schema := by
  rw [pointer?, pointer?, field?_withDataIn (by decide) (by decide)]

theorem target?_withDataIn (schema : Entries) :
    target? (withDataEach f definitions) (withDataIn f schema) = (target? definitions schema).map (Prod.map id (withData f)) := by
  have unfolded (definitions schema : Entries) : target? definitions schema =
      (pointer? schema).bind fun name => (definitions.field? name).bind fun body => some (name, body) := rfl
  rw [unfolded, unfolded, pointer?_withDataIn]
  cases pointer? schema with
  | none => rfl
  | some name =>
    show ((withDataEach f definitions).field? name).bind _ = ((definitions.field? name).bind _).map _
    rw [withDataEach, field?_eachValue (withData_readsText f)]
    cases definitions.field? name <;> rfl

/-- No search for references reads data. -/
theorem references_withData (f : Value → Value) (v : Value) : references (withData f v) = references v ∧
    ∀ items, v = .list items → ∀ i ∈ items, references (withData f i) = references i := by
  induction v using descend with
  | map schema below =>
    refine ⟨?_, fun _ same => nomatch same⟩
    have under : ∀ e ∈ schema, (searched e.1 (dataUnder f e.1 e.2)).flatMap references = (searched e.1 e.2).flatMap references := by
      intro e member
      obtain ⟨key, v⟩ := e
      by_cases data : isData key = true
      · simp [searched, subvalues, ofKey?_of_isData data]
      · have inner : ∀ w ∈ searched key v, references (withData f w) = references w := by
          intro w inside
          obtain inside | ⟨items, inside, item⟩ := subvalue_of_searched inside
          · exact (below (key, v) member w inside).1
          · exact (below (key, v) member _ inside).2 items rfl w item
        rw [dataUnder_of_free data, searched_rebuilt, List.flatMap_map]
        exact List.flatMap_congr inner
    rw [withData_map, references_map, references_map, pointer?_withDataIn, withDataIn, eachValue, List.flatMap_map]
    exact congrArg _ (List.flatMap_congr under)
  | list items ofItems =>
    refine ⟨by rw [withData_list]; rfl, fun items' same i member => ?_⟩
    cases same
    exact (ofItems i member).1
  | leaf v noMap noList =>
    exact ⟨by rw [withData_leaf f noMap noList], fun items same => absurd same (noList items)⟩

section Monadic
variable {m : Type → Type} [Monad m] [LawfulMonad m] {change changed : Entries → m Entries}

theorem mapM_turned {α β : Type} {items : List α} {turn : α → α} {turned : β → β} {step step' : α → m β}
    (each : ∀ a ∈ items, step (turn a) = turned <$> step' a) : (items.map turn).mapM step = List.map turned <$> items.mapM step' := by
  induction items with
  | nil => simp
  | cons a rest ih =>
    obtain ⟨first, others⟩ := List.forall_mem_cons.mp each
    simp [first, ih others]

theorem rebuildUnder_dataUnder (each : ∀ w ∈ subvalues key v, rebuild true changed (withData f w) = withData f <$> rebuild true change w) :
    rebuildUnder changed key (dataUnder f key v) = dataUnder f key <$> rebuildUnder change key v := by
  by_cases data : isData key = true
  · simp [rebuildUnder, ofKey?_of_isData data]
  · have same : dataUnder f key = rebuiltUnder (changeData f) key := funext fun v => dataUnder_of_free data
    rw [same]
    revert each
    unfold rebuildUnder rebuiltUnder subvalues
    generalize KeywordShape.ofKey? key = shape
    intro each
    rcases shape with _ | _ | _ | _
    · simp
    · exact each v (List.mem_singleton_self v)
    · cases v with
      | list items =>
        have items : (items.map (withData f)).mapM (rebuild true changed) = List.map (withData f) <$> items.mapM (rebuild true change) :=
          mapM_turned each
        simpa [withData] using congrArg (Value.list <$> ·) items
      | _ => simp
    · cases v with
      | map entries =>
        have named : (entries.map fun e => (e.1, withData f e.2)).mapM (fun e => (e.1, ·) <$> rebuild true changed e.2) =
            List.map (fun e => (e.1, withData f e.2)) <$> entries.mapM fun e => (e.1, ·) <$> rebuild true change e.2 := by
          refine mapM_turned fun e member => ?_
          simp [each e.2 (List.mem_map_of_mem member)]
        simpa [withData] using congrArg (Value.map <$> ·) named
      | _ => simp

/-- A walk on changed data is a walk before the change, if this is so for the change of a single schema. -/
theorem rebuild_withData (commutes : ∀ schema, changed (withDataIn f schema) = withDataIn f <$> change schema) (v : Value) :
    rebuild true changed (withData f v) = withData f <$> rebuild true change v := by
  induction v using descend with
  | map schema below =>
    have entries : List.mapM (fun e => (e.1, ·) <$> rebuildUnder changed e.1 e.2) (withDataIn f schema) =
        withDataIn f <$> List.mapM (fun e => (e.1, ·) <$> rebuildUnder change e.1 e.2) schema := by
      refine mapM_turned fun e member => ?_
      simp [rebuildUnder_dataUnder (below e member)]
    rw [withData_map, rebuild_map, rebuild_map, entries]
    simp [commutes, withData_map]
  | list items ofItems =>
    rw [withData_list, rebuild_list, rebuild_list, mapM_turned ofItems]
    simp [withData_list]
  | leaf v noMap noList =>
    rw [withData_leaf f noMap noList, rebuild_leaf noMap noList, rebuild_leaf noMap noList, map_pure, withData_leaf f noMap noList]

end Monadic

end Walks

section Schemas
variable {f : Value → Value} {schema target beside definitions : Entries} {dropped : Entries → String → Bool} {key v : Value}

theorem dataUnder_of_many (free : ¬ isData key = true) (shape : KeywordShape.ofKey? key = some .many) (v : Value) :
    dataUnder f key v = match v with
      | .list items => .list (items.map (withData f))
      | v => v := by
  rw [dataUnder_of_free free]
  unfold rebuiltUnder
  rw [shape]
  cases v <;> rfl

theorem dataUnder_definitions (known : isDefinitionsKey key = true) (v : Value) :
    dataUnder f key v = match v with
      | .map definitions => .map (withDataEach f definitions)
      | v => v := by
  have shape : KeywordShape.ofKey? key = some .named := definitions_shape known
  have free : ¬ isData key = true := fun data => nomatch (ofKey?_of_isData data).symm.trans shape
  rw [dataUnder_of_free free]
  unfold rebuiltUnder
  rw [shape]
  cases v <;> rfl

theorem asEntries_withData (v : Value) : asEntries (withData f v) = withDataIn f (asEntries v) := by
  have whole {w : Value} (noMap : ∀ schema, w ≠ .map schema) : asEntries w = [(.str "allOf", .list [w])] := by
    unfold asEntries
    split
    next schema => exact absurd rfl (noMap schema)
    next => rfl
  have part : withDataIn f [(.str "allOf", .list [v])] = [(.str "allOf", .list [withData f v])] := by
    show [(_, dataUnder f (.str "allOf") (.list [v]))] = _
    rw [dataUnder_of_many (by decide) (by decide)]
    rfl
  cases v with
  | map schema =>
    rw [withData_map]
    rfl
  | list items =>
    have noMap (items : List Value) (schema : Entries) : Value.list items ≠ .map schema := fun same => nomatch same
    rw [whole (noMap items), part, withData_list, whole (noMap _)]
  | _ => exact part.symm

theorem mergeBeside_withDataIn (reads : ∀ schema keyword, dropped (withDataIn f schema) keyword = dropped schema keyword) :
    mergeBeside dropped (withDataIn f target) (withDataIn f beside) = withDataIn f (mergeBeside dropped target beside) := by
  induction beside generalizing target with
  | nil => rfl
  | cons e rest ih =>
    obtain ⟨key, v⟩ := e
    show mergeBeside dropped (if key.str?.any (dropped (withDataIn f target)) then withDataIn f target
        else Entries.put (withDataIn f target) key (dataUnder f key v)) (withDataIn f rest) =
      withDataIn f (mergeBeside dropped (if key.str?.any (dropped target) then target else Entries.put target key v) rest)
    rw [funext (reads target), ← ih]
    split
    · rfl
    · have put : withDataIn f (Entries.put target key v) = Entries.put (withDataIn f target) key (dataUnder f key v) :=
        eachValue_put (dataUnder_readsText f)
      rw [put]

theorem hasField_withDataIn (schema : Entries) (name : String) : (withDataIn f schema).hasField name = schema.hasField name :=
  hasField_eachValue (dataUnder_readsText f) schema name

/-- A combinator has an only member that is a schema before its data is changed if it has one afterwards. -/
theorem collapse_withDataIn {keyword : String} (combines : keyword ∈ combinators) (schema : Entries) :
    collapse (withDataIn f schema) keyword = withDataIn f (collapse schema keyword) := by
  have free : ∀ keyword ∈ combinators, ¬ isData (.str keyword) = true := by decide
  have found : (withDataIn f schema).field? keyword = (schema.field? keyword).map (dataUnder f (.str keyword)) :=
    field?_eachValue (dataUnder_readsText f) schema keyword
  rw [funext (dataUnder_of_many (free keyword combines) (combinator_shape combines rfl))] at found
  unfold collapse
  rw [found]
  rcases schema.field? keyword with _ | v
  · rfl
  · cases v with
    | list items =>
      obtain _ | ⟨w, _ | ⟨_, _⟩⟩ := items
      · rfl
      · cases w with
        | map member =>
          have updated : withDataIn f (Entries.update member (schema.dropField keyword)) =
              Entries.update (withDataIn f member) ((withDataIn f schema).dropField keyword) := by
            rw [withDataIn, eachValue_update (dataUnder_readsText f), eachValue_dropField]
            rfl
          simp [withData_map, updated]
        | list items => simp [withData_list]
        | _ => rfl
      · simp
    | _ => rfl

theorem collapseAll_withDataIn (schema : Entries) : collapseAll (withDataIn f schema) = withDataIn f (collapseAll schema) := by
  show collapse (collapse (collapse _ "anyOf") "oneOf") "allOf" = withDataIn f (collapse (collapse (collapse _ "anyOf") "oneOf") "allOf")
  rw [collapse_withDataIn (by decide), collapse_withDataIn (by decide), collapse_withDataIn (by decide)]

variable (f) in
def Parts.withData (parts : Parts) : Parts :=
  { key := parts.key, definitions := withDataEach f parts.definitions, root := withDataIn f parts.root }

theorem holdsDefinitions_dataUnder : holdsDefinitions (key, dataUnder f key v) = holdsDefinitions (key, v) := by
  unfold holdsDefinitions
  by_cases known : isDefinitionsKey key = true
  · rw [dataUnder_definitions known]
    cases v <;> rfl
  · rw [Bool.eq_false_iff.mpr known, Bool.false_and, Bool.false_and]

theorem Parts.withData_add (parts : Parts) : (parts.withData f).add (key, dataUnder f key v) = (parts.add (key, v)).withData f := by
  by_cases held : holdsDefinitions (key, v) = true
  · obtain ⟨known, map⟩ := Bool.and_eq_true_iff.mp held
    dsimp only at known map
    cases v with
    | map found =>
      have updated : withDataEach f (Entries.update parts.definitions found) =
          Entries.update (withDataEach f parts.definitions) (withDataEach f found) := eachValue_update (withData_readsText f)
      simp [dataUnder_definitions known, Parts.add, Parts.withData, known, updated]
    | _ => cases map
  · have plain := Bool.eq_false_iff.mpr held
    have kept (parts : Parts) {e : Value × Value} (plain : holdsDefinitions e = false) : parts.add e = { parts with root := parts.root ++ [e] } :=
      Parts.foldl_add_of_plain (List.forall_mem_singleton.mpr plain) parts
    rw [kept parts plain, kept (parts.withData f) (holdsDefinitions_dataUnder.trans plain)]
    simp [Parts.withData, withDataIn, eachValue_append]
    rfl

theorem parts_withDataIn (document : Entries) : Parts.ofEntries (withDataIn f document) = (Parts.ofEntries document).withData f := by
  suffices fold : ∀ parts : Parts, (withDataIn f document).foldl Parts.add (parts.withData f) = (document.foldl Parts.add parts).withData f from
    fold {}
  induction document with
  | nil => exact fun _ => rfl
  | cons e rest ih =>
    intro parts
    show (withDataIn f rest).foldl Parts.add ((parts.withData f).add (e.1, dataUnder f e.1 e.2)) = _
    rw [Parts.withData_add, ih, List.foldl_cons]

end Schemas

section Documents
variable {f : Value → Value} {document definitions : Entries} {v : Value}

theorem isDropped_withDataIn (options : ResolutionOptions) (schema : Entries) (keyword : String) :
    options.isDropped (withDataIn f schema) keyword = options.isDropped schema keyword := by
  rw [isDropped_eq, isDropped_eq, hasField_withDataIn]

theorem resolveTo_withData (options : ResolutionOptions) (depth : Nat) (v : Value) :
    resolveTo options (withDataEach f definitions) depth (withData f v) = withData f (resolveTo options definitions depth v) := by
  induction depth generalizing v with
  | zero => rfl
  | succ depth ih =>
    refine rebuild_withData (m := Id) (fun schema => ?_) v
    show expand options (withDataEach f definitions) _ (withDataIn f schema) = withDataIn f (expand options definitions _ schema)
    unfold expand
    rw [target?_withDataIn]
    rcases target? definitions schema with _ | ⟨name, body⟩
    · rfl
    · show mergeBeside _ (asEntries (resolveTo _ _ depth (withData f body))) _ = withDataIn f (mergeBeside _ (asEntries _) schema)
      rw [ih, asEntries_withData, mergeBeside_withDataIn (isDropped_withDataIn options)]

theorem inlineTo_withData (kept : List String) (depth : Nat) (v : Value) :
    inlineTo (withDataEach f definitions) kept depth (withData f v) = withData f <$> inlineTo definitions kept depth v := by
  have one {inside changed : Value → Except Fault Value} (each : ∀ body, changed (withData f body) = withData f <$> inside body)
      (schema : Entries) : inline (withDataEach f definitions) kept changed (withDataIn f schema) =
        withDataIn f <$> inline definitions kept inside schema := by
    unfold inline
    rw [target?_withDataIn]
    rcases target? definitions schema with _ | ⟨name, body⟩
    · simp [collapseAll_withDataIn]
    · by_cases free : name ∈ kept
      · simp [free, collapseAll_withDataIn]
      · simp [free, each, asEntries_withData, mergeBeside_withDataIn, collapseAll_withDataIn]
  induction depth generalizing v with
  | zero => exact rebuild_withData (one fun _ => rfl) v
  | succ depth ih => exact rebuild_withData (one ih) v

theorem successors_withDataEach (definitions : Entries) : successors (withDataEach f definitions) = successors definitions := by
  funext name
  have known : (withDataEach f definitions).hasField = definitions.hasField := funext (hasField_eachValue (withData_readsText f) definitions)
  unfold successors
  rw [known, withDataEach, field?_eachValue (withData_readsText f)]
  rcases definitions.field? name with _ | body
  · rfl
  · simp [(references_withData f body).1]

theorem recursive_withDataEach (definitions : Entries) : recursive (withDataEach f definitions) = recursive definitions := by
  have reached (n : Nat) (found : List String) : reachedIn (withDataEach f definitions) n found = reachedIn definitions n found := by
    induction n generalizing found with
    | zero => rfl
    | succ n ih => rw [reachedIn, reachedIn, ih, successors_withDataEach]
  have again : isRecursive (withDataEach f definitions) = isRecursive definitions := by
    funext name
    rw [isRecursive, isRecursive, reachedFrom, reachedFrom, reached, successors_withDataEach, withDataEach, eachValue, List.length_map]
  rw [recursive, recursive, again, withDataEach, keys_eachValue]

theorem isObject_withData (v : Value) : isObject (withData f v) = isObject v := by
  cases v with
  | map schema =>
    rw [withData_map, isObject, isObject, field?_withDataIn (by decide) (by decide)]
  | list items => rw [withData_list]; rfl
  | _ => rfl

theorem keptNames_withDataEach (options : FlatteningOptions) (definitions : Entries) :
    keptNames options (withDataEach f definitions) = keptNames options definitions := by
  rw [keptNames, keptNames, recursive_withDataEach, withDataEach, eachValue, List.filterMap_map]
  simp [isObject_withData]

theorem inlineAll_withData (kept : List String) (v : Value) :
    inlineAll (withDataEach f definitions) kept (withData f v) = withData f <$> inlineAll definitions kept v := by
  rw [inlineAll, inlineAll, inlineTo_withData, withDataEach, eachValue, List.length_map]

theorem collect_withData (kept : List String) (limit : Nat) (done : Entries) (pending : List String) :
    collect (inlineAll (withDataEach f definitions) kept) (withDataEach f definitions) limit (withDataEach f done) pending =
      withDataEach f <$> collect (inlineAll definitions kept) definitions limit done pending := by
  have found (name : String) : (withDataEach f definitions).field? name = (definitions.field? name).map (withData f) :=
    field?_eachValue (withData_readsText f) definitions name
  have listed (done : Entries) (name : String) : (withDataEach f done).hasField name = done.hasField name :=
    hasField_eachValue (withData_readsText f) done name
  induction limit, done, pending using collect.induct definitions with
  | case1 limit done => rw [collect, collect]; rfl
  | case2 limit done name pending undefined ih =>
    rw [collect, collect, found, undefined]
    exact ih
  | case3 limit done name pending body defined known ih =>
    rw [collect, collect, found, defined]
    simp only [Option.map_some, listed, known, if_true]
    exact ih
  | case4 done name pending body defined unknown =>
    rw [collect, collect, found, defined]
    simp [listed, unknown]
  | case5 done name pending body defined unknown limit ih =>
    rw [collect, collect, found, defined]
    simp only [Option.map_some, listed, unknown, inlineAll_withData]
    rcases inlineAll definitions kept body with fault | w
    · rfl
    · have added : withDataEach f (done ++ [(.str name, w)]) = withDataEach f done ++ [(.str name, withData f w)] := List.map_append
      show collect _ _ limit (withDataEach f done ++ [(.str name, withData f w)]) (pending ++ references (withData f w)) = _
      rw [← added, (references_withData f w).1]
      exact ih w

theorem flattenEntries_withDataIn (options : FlatteningOptions) (document : Entries) :
    flattenEntries options (withDataIn f document) = withData f <$> flattenEntries options document := by
  have known : ∀ key, (Parts.ofEntries document).key = some key → isDefinitionsKey (.str key) = true := fun _ => parts_key
  unfold flattenEntries
  rw [parts_withDataIn]
  generalize Parts.ofEntries document = parts at known
  obtain ⟨key, definitions, root⟩ := parts
  dsimp only [Parts.withData] at known ⊢
  have room : (withDataEach f definitions).length = definitions.length := List.length_map _
  rw [keptNames_withDataEach]
  unfold flattenParts
  dsimp only
  rw [← withData_map, inlineAll_withData, room]
  rcases inlineAll definitions _ (.map root) with fault | flat
  · rfl
  · have collected : collect (inlineAll (withDataEach f definitions) (keptNames options definitions)) (withDataEach f definitions)
        definitions.length [] (references flat) =
          withDataEach f <$> collect (inlineAll definitions (keptNames options definitions)) definitions definitions.length []
            (references flat) := collect_withData _ _ [] _
    have turned : withData f <$> (Except.ok flat : Except Fault Value) = .ok (withData f flat) := rfl
    rw [turned, Except.ok_bind, Except.ok_bind, (references_withData f flat).1, collected]
    rcases collect (inlineAll definitions _) definitions definitions.length [] (references flat) with fault | found
    · rfl
    · cases key with
      | none => rfl
      | some key =>
        cases flat with
        | map entries =>
          have attached : withData f (.map (Entries.setField entries key (.map found))) =
              .map (Entries.setField (withDataIn f entries) key (.map (withDataEach f found))) := by
            rw [withData_map, withDataIn, eachValue_setField (dataUnder_readsText f), dataUnder_definitions (known key rfl)]
            rfl
          rcases found with _ | ⟨e, rest⟩
          · rw [withData_map]
            exact congrArg Except.ok (withData_map f entries).symm
          · rw [withData_map]
            exact congrArg Except.ok attached.symm
        | list items => simp [withData_list]
        | _ => rfl

/-- Data is not read. Changing it before a document is resolved or flattened is changing it afterwards, whatever the
options; what is referred to stays as it is, and so does what counts as recursive. -/
theorem data_unread (jsonData : ∀ v, v.isJson = true → (f v).isJson = true) {document : Value} (json : document.isJson = true) :
    (∀ options, resolve options (withData f document) = withData f <$> resolve options document) ∧
      (∀ options, flatten options (withData f document) = withData f <$> flatten options document) ∧
      references (withData f document) = references document ∧
      ∀ definitions : Entries, recursive (withDataEach f definitions) = recursive definitions := by
  have kept : (withData f document).isJson = true := by
    refine isJson_composite.rebuilt (fun schema json => Value.isJson_map (List.forall_mem_map.mpr fun e member => ?_)) json
    obtain ⟨text, value⟩ := Value.isJson_of_mem_map json e member
    refine ⟨text, ?_⟩
    dsimp only
    split
    · exact jsonData e.2 value
    · exact value
  refine ⟨fun options => ?_, fun options => ?_, (references_withData f document).1, recursive_withDataEach⟩
  · cases document with
    | map entries =>
      rw [withData_map] at kept ⊢
      rw [resolve_of_copyable options (Value.isCopyable_of_isJson kept), resolve_of_copyable options (Value.isCopyable_of_isJson json)]
      show Except.ok (resolveTo _ _ _ (.map (Parts.ofEntries (withDataIn f entries)).root)) = .ok (withData f (resolveTo _ _ _ _))
      rw [parts_withDataIn, Parts.withData, ← withData_map, resolveTo_withData]
    | list items =>
      rw [withData_list]
      rfl
    | view => cases json
    | _ => rfl
  · cases document with
    | map entries =>
      rw [withData_map] at kept ⊢
      rw [flatten_of_copyable options (Value.isCopyable_of_isJson kept), flatten_of_copyable options (Value.isCopyable_of_isJson json)]
      exact flattenEntries_withDataIn options entries
    | list items =>
      rw [withData_list]
      rfl
    | view => cases json
    | _ => rfl

/-- Data that looks like a reference to the only definition that nothing refers to. -/
def lookalike (_ : Value) : Value := .map [entry "$ref" (.str "#/definitions/Unused")]

/-- A signal whose colors are told by their codes. -/
def signal : Entries :=
  [entry "properties" (.map [
     entry "color" (.map [entry "$ref" (.str "#/definitions/Color"), entry "default" (.int 1)]),
     entry "default" (.map [entry "const" (.str "off")])]),
   entry "definitions" (.map [
     entry "Color" (.map [entry "enum" (.list [.int 1, .int 2]), entry "examples" (.list [.int 2])]),
     entry "Unused" (.map [entry "type" (.str "null")])])]

theorem signal_data_unread :
    (∀ v, v.isJson = true → (lookalike v).isJson = true) ∧ (Value.map signal).isJson = true ∧
      references (withData lookalike (.map signal)) = ["Color"] ∧
      (∀ options, flatten options (withData lookalike (.map signal)) = withData lookalike <$> flatten options (.map signal)) ∧
      resolve {} (withData lookalike (.map signal)) = .ok (.map [
        entry "properties" (.map [
          entry "color" (.map [entry "enum" (lookalike .null), entry "examples" (lookalike .null), entry "default" (lookalike .null)]),
          entry "default" (.map [entry "const" (lookalike .null)])])]) := by
  have jsonData : ∀ v, v.isJson = true → (lookalike v).isJson = true := by
    intro v _
    show (lookalike .null).isJson = true
    decide +kernel
  have json : (Value.map signal).isJson = true := by decide +kernel
  obtain ⟨resolved, flattened, references, -⟩ := data_unread jsonData json
  exact ⟨jsonData, json, references.trans (by decide +kernel), flattened, (resolved {}).trans rfl⟩

end Documents
end Document
end RecordSchema
