import RecordSchema.Proofs.StrippedDocuments

/-! What resolving leaves of the definitions of a document. They are taken out before anything is resolved; but a
definition that takes the place of the whole document brings along what stands under the same keys in it. Main statement:
`resolve_definitions`. -/

namespace RecordSchema.Document

section Presented
variable {options : ResolutionOptions} {definitions : Entries} {depth : Nat} {v : Value} {key : String}

variable (definitions key) in
/-- What stands under a key in a value; or else in the definition that it points to, and so on, so deep. -/
def presented? : Nat → Value → Option Value
  | 0, v => (asEntries v).field? key
  | depth + 1, v => ((asEntries v).field? key).or do
    let (_, body) ← target? definitions (asEntries v)
    presented? depth body

/-- It is found in the value, or in one of the definitions. -/
theorem presented?_eq_some {found : Value} (presents : presented? definitions key depth v = some found) :
    (asEntries v).field? key = some found ∨
      ∃ name body, definitions.field? name = some body ∧ (asEntries body).field? key = some found := by
  induction depth generalizing v with
  | zero => exact .inl presents
  | succ depth ih =>
    obtain own | ⟨-, inside⟩ := Option.or_eq_some_iff.mp presents
    · exact .inl own
    · obtain ⟨⟨name, body⟩, selected, inside⟩ := Option.bind_eq_some_iff.mp inside
      obtain there | deeper := ih inside
      · exact .inr ⟨name, body, (target?_eq_some.mp selected).2, there⟩
      · exact .inr deeper

/-- Under a key of definitions stands a map after a walk if one stood there before. -/
theorem isMap_rebuilt (listed : key ∈ Pointer.definitionsKeys) (plain : Entries → Entries) (schema : Entries) :
    ((rebuiltEntries plain schema).field? key).map (·.ownEntries?.isSome) = (schema.field? key).map (·.ownEntries?.isSome) := by
  have known : isDefinitionsKey (.str key) = true := isDefinitionsKey_of_listed rfl listed
  rw [field?_rebuilt, Option.map_map]
  refine congrArg (Option.map · _) (funext fun v => ?_)
  have same := holdsDefinitions_rebuilt plain (.str key) v
  rwa [holdsDefinitions, holdsDefinitions, known, Bool.true_and, Bool.true_and] at same

/-- Resolving leaves under a key of definitions what the value presents there: a map or something else. -/
theorem isMap_resolveTo (options : ResolutionOptions) (depth : Nat) (listed : key ∈ Pointer.definitionsKeys) (keyed : AllKeyed definitions v) :
    ((asEntries (resolveTo options definitions depth v)).field? key).map (·.ownEntries?.isSome) =
      (presented? definitions key depth v).map (·.ownEntries?.isSome) := by
  induction depth generalizing v with
  | zero => rfl
  | succ depth ih =>
    rw [resolveTo, presented?, Option.map_or]
    change ((asEntries (rebuilt _ v)).field? key).map _ = _
    rw [← rebuilt_asEntries]
    have own : Keyed (asEntries v) := keyed_asEntries fun schema whole => keyed.own schema (whole ▸ mem_schemas_map.mpr (.inl rfl))
    generalize asEntries v = schema at own
    rw [rebuilt_map]
    change (Entries.field? (expand options definitions _ (rebuiltEntries _ schema)) key).map _ = _
    rw [expand, target?_rebuilt]
    cases selected : target? definitions schema with
    | none => exact (isMap_rebuilt listed _ schema).trans (Option.or_none).symm
    | some target =>
      obtain ⟨name, body⟩ := target
      have inside := ih (keyed.body (target?_eq_some.mp selected).2)
      show (Entries.field? (mergeBeside options.isDropped (asEntries (resolveTo options definitions depth body)) _) key).map _ = _
      have beside (first second : Option Value) : upon options key first second = first.or second := by
        simp only [Pointer.definitionsKeys, List.mem_cons, List.not_mem_nil, or_false] at listed
        obtain rfl | rfl := listed <;> rfl
      rw [(own.rebuilt _).field?_mergeBeside, beside, Option.map_or, isMap_rebuilt listed, inside]
      rfl

end Presented

section Documents
variable {document : Entries}

theorem isMap_iff {stands : Option Value} : stands.map (·.ownEntries?.isSome) = some true ↔ ∃ found, stands = some (.map found) := by
  constructor
  · intro map
    obtain ⟨v, rfl, map⟩ := Option.map_eq_some_iff.mp map
    cases v with
    | map found => exact ⟨found, rfl⟩
    | _ => cases map
  · rintro ⟨found, rfl⟩
    rfl

theorem definitionsUnder_isSome {schema : Entries} {key : String} :
    (definitionsUnder schema key).isSome ↔ ∃ found, schema.field? key = some (.map found) := by
  rw [← isMap_iff, definitionsUnder]
  cases schema.field? key <;> simp

/-- Where no key stands twice, no definitions are found under the keys for them exactly if no entry holds any. -/
theorem holdsDefinitions_eq_false_iff {schema : Entries} (keyed : Keyed schema) :
    (∀ e ∈ schema, holdsDefinitions e = false) ↔ ∀ key ∈ Pointer.definitionsKeys, definitionsUnder schema key = none := by
  constructor
  · intro plain key listed
    refine Option.not_isSome_iff_eq_none.mp fun held => ?_
    obtain ⟨found, stands⟩ := definitionsUnder_isSome.mp held
    obtain ⟨e, member, named, map⟩ := Entries.mem_of_field? stands
    have free := plain e member
    rw [holdsDefinitions, isDefinitionsKey_of_listed named listed, map] at free
    cases free
  · intro none e member
    refine Bool.eq_false_iff.mpr fun holds => ?_
    obtain ⟨key, listed, named⟩ := key_of_holdsDefinitions holds
    have under := none key listed
    rw [definitionsUnder, Entries.field?_of_mem keyed.distinct member named] at under
    have map := (Bool.and_eq_true_iff.mp holds).2
    rw [show e.2.ownEntries? = Option.none from under] at map
    cases map

/-- A document is left as it is by resolving, whatever the options, exactly if it holds no definitions. -/
theorem resolve_unchanged_iff (json : (Value.map document).isJson = true) :
    (∀ options, resolve options (.map document) = .ok (.map document)) ↔ ∀ e ∈ document, holdsDefinitions e = false := by
  constructor
  · intro unchanged
    have rest : (Parts.ofEntries document).root = document :=
      Value.map.inj (Except.ok.inj ((resolve_of_isJson {} json 0).symm.trans (unchanged { maxDepth := 0 })))
    rw [parts_eq] at rest
    exact fun e member => Bool.not_eq_true' _ ▸ List.filter_eq_self.mp rest e member
  · intro plain options
    have whole : Parts.ofEntries document = { root := document } := Parts.foldl_add_of_plain plain {}
    refine (resolve_of_isJson options json options.maxDepth).trans (congrArg Except.ok ?_)
    rw [whole]
    exact resolveTo_of_clear fun _ _ => rfl

/-- What is resolved holds definitions under a key exactly if the document, without its own, presents a map there: if it
points to a definition that has one, or to one that points on to such a definition, so deep as is resolved. Only if it
does not is it left as it is by resolving it again. It never does if no definition has definitions of its own. -/
theorem resolve_definitions (options : ResolutionOptions) (json : (Value.map document).isJson = true)
    (distinct : ∀ schema ∈ schemas (.map document), (labels schema).Nodup) :
    let parts := Parts.ofEntries document
    ∃ made, resolve options (.map document) = .ok (.map made) ∧
      (∀ key ∈ Pointer.definitionsKeys, (definitionsUnder made key).isSome ↔
        ∃ found, presented? parts.definitions key options.maxDepth (.map parts.root) = some (.map found)) ∧
      ((∀ again, resolve again (.map made) = .ok (.map made)) ↔ ∀ key ∈ Pointer.definitionsKeys, definitionsUnder made key = none) ∧
      ((∀ name body, parts.definitions.field? name = some (.map body) →
          ∀ key ∈ Pointer.definitionsKeys, definitionsUnder body key = none) →
        ∀ again, resolve again (.map made) = .ok (.map made)) := by
  intro parts
  have keyed : AllKeyed parts.definitions (.map parts.root) := allKeyed_parts json distinct
  have rootJson : (Value.map parts.root).isJson = true := isJson_composite.root json
  obtain ⟨made, same⟩ := resolveTo_map options parts.definitions options.maxDepth parts.root
  have resolved : resolve options (.map document) = .ok (.map made) :=
    same ▸ resolve_of_isJson options json options.maxDepth
  have own : Keyed made := by
    have keyed : Keyed (asEntries (resolveTo options parts.definitions options.maxDepth (.map parts.root))) := keyed.resolved
    rwa [same] at keyed
  have madeJson : (Value.map made).isJson = true :=
    same ▸ isJson_composite.resolveTo (fun name body found => isJson_definition found json) rootJson
  have held {key : String} (listed : key ∈ Pointer.definitionsKeys) : (definitionsUnder made key).isSome ↔
      ∃ found, presented? parts.definitions key options.maxDepth (.map parts.root) = some (.map found) := by
    have presents := isMap_resolveTo options options.maxDepth listed keyed
    rw [same] at presents
    rw [definitionsUnder_isSome, ← isMap_iff, ← isMap_iff]
    exact iff_of_eq (congrArg (· = some true) presents)
  have stays := (resolve_unchanged_iff madeJson).trans (holdsDefinitions_eq_false_iff own)
  refine ⟨made, resolved, fun key listed => held listed, stays, fun bare => stays.mpr fun key listed => ?_⟩
  refine Option.not_isSome_iff_eq_none.mp fun holds => ?_
  obtain ⟨found, presents⟩ := (held listed).mp holds
  obtain root | ⟨name, body, defined, inside⟩ := presented?_eq_some presents
  · obtain ⟨e, member, named, map⟩ := Entries.mem_of_field? root
    have plain : (!holdsDefinitions e) = true := by
      have within : e ∈ parts.root := member
      rw [show parts = _ from parts_eq document] at within
      exact (List.mem_filter.mp within).2
    rw [holdsDefinitions, isDefinitionsKey_of_listed named listed, map] at plain
    cases plain
  · cases body with
    | map body =>
      have none := bare name body defined key listed
      rw [definitionsUnder, show Entries.field? body key = _ from inside] at none
      cases none
    | _ =>
      obtain ⟨e, member, named, -⟩ := Entries.mem_of_field? inside
      cases List.mem_singleton.mp member
      cases named
      revert listed
      decide

/-- A folder, which has definitions of its own. -/
def folder : Entries :=
  [entry "type" (.str "object"), entry "definitions" (.map [entry "File" (.map [entry "type" (.str "string")])])]

/-- A document that is nothing but a folder. -/
def cabinet : Entries :=
  [entry "$ref" (.str "#/definitions/Folder"), entry "definitions" (.map [entry "Folder" (.map folder)])]

theorem cabinet_presents :
    (Value.map cabinet).isJson = true ∧ (∀ schema ∈ schemas (.map cabinet), (labels schema).Nodup) ∧
      ∃ made, resolve {} (.map cabinet) = .ok (.map made) ∧ (definitionsUnder made "definitions").isSome := by
  have json : (Value.map cabinet).isJson = true := by decide +kernel
  have distinct : ∀ schema ∈ schemas (.map cabinet), (labels schema).Nodup := by decide +kernel
  obtain ⟨made, resolved, held, -⟩ := resolve_definitions {} json distinct
  exact ⟨json, distinct, made, resolved, (held "definitions" (by decide)).mpr ⟨_, rfl⟩⟩

/-- The definitions of the definition are left, and are removed only when the result is resolved again. -/
theorem folder_left :
    resolve {} (.map cabinet) = .ok (.map folder) ∧ (definitionsUnder folder "definitions").isSome = true ∧
      resolve {} (.map folder) = .ok (.map [entry "type" (.str "object")]) := ⟨rfl, rfl, rfl⟩

end Documents
end RecordSchema.Document
