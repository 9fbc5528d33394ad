import RecordSchema.Document.OfSchema
import RecordSchema.Proofs.CopiedWalks
import RecordSchema.Proofs.DefinitionChains

/-! Resolving and flattening put definitions in the place of references, each by a walk of its own. Where no
definition leads back to itself and no combinator has an object for its only member, they come to the same.
Main statement: `resolve_eq_flatten`. -/

namespace RecordSchema

namespace Entries

variable {entries : Entries} {key v : Value} {name : String}

theorem field?_put_of_ne (other : key.str? ≠ some name) : (entries.put key v).field? name = entries.field? name := by
  induction entries with
  | nil => simp [put, field?, other]
  | cons first rest ih =>
    obtain ⟨k, w⟩ := first
    rw [put]
    split
    next same =>
      have apart : k.str? ≠ some name := fun text => other (str?_of_same text same)
      rw [field?, field?, if_neg apart, if_neg apart]
    next => rw [field?, field?, ih]

end Entries

namespace Document

section Schemas
variable {schema target beside : Entries} {dropped : Entries → String → Bool}

/-- Keywords for schemas that are combined. -/
def combinators : List String := ["anyOf", "oneOf", "allOf"]

/-- A list with an object for its only item. -/
def isLoneObject : Value → Bool
  | .list [.map _] => true
  | _ => false

theorem isLoneObject_iff {v : Value} : isLoneObject v = true ↔ ∃ object, v = .list [.map object] := by
  constructor
  · intro lone
    unfold isLoneObject at lone
    split at lone
    next object => exact ⟨object, rfl⟩
    next => cases lone
  · rintro ⟨object, rfl⟩
    rfl

/-- No combinator has an object for its only member. -/
def Plural (schema : Entries) : Prop :=
  ∀ e ∈ schema, ∀ keyword ∈ combinators, e.1.str? = some keyword → ¬ isLoneObject e.2 = true

instance (schema : Entries) : Decidable (Plural schema) :=
  inferInstanceAs (Decidable (∀ e ∈ schema, ∀ keyword ∈ combinators, _ → _))

theorem collapse_plural (plural : Plural schema) {keyword : String} (combines : keyword ∈ combinators) :
    collapse schema keyword = schema := by
  unfold collapse
  split
  next member found =>
    obtain ⟨e, inside, named, single⟩ := Entries.mem_of_field? found
    exact absurd (isLoneObject_iff.mpr ⟨member, single⟩) (plural e inside keyword combines named)
  next => rfl

theorem collapseAll_plural (plural : Plural schema) : collapseAll schema = schema := by
  have each {keyword : String} (combines : keyword ∈ combinators) := collapse_plural plural combines
  show collapse (collapse (collapse schema "anyOf") "oneOf") "allOf" = schema
  rw [each (by decide), each (by decide), each (by decide)]

theorem mem_mergeBeside {e : Value × Value} (member : e ∈ mergeBeside dropped target beside) :
    e ∈ target ∨ ∃ b ∈ beside, e.1.str? = b.1.str? ∧ e.2 = b.2 := by
  induction beside generalizing target with
  | nil => exact .inl member
  | cons first rest ih =>
    obtain ⟨key, v⟩ := first
    obtain before | ⟨b, later, same⟩ := ih member
    · dsimp only at before
      split at before
      · exact .inl before
      · exact (Entries.mem_put before).imp_right fun same => ⟨(key, v), List.mem_cons_self, same⟩
    · exact .inr ⟨b, List.mem_cons_of_mem _ later, same⟩

/-- A keyword that is dropped beside the target is the target's own. -/
theorem field?_mergeBeside {name : String} (drops : ∀ merged, dropped merged name = true) :
    (mergeBeside dropped target beside).field? name = target.field? name := by
  induction beside generalizing target with
  | nil => rfl
  | cons first rest ih =>
    obtain ⟨key, v⟩ := first
    refine ih.trans ?_
    dsimp only
    split
    next => rfl
    next kept =>
      refine Entries.field?_put_of_ne fun text => kept ?_
      rw [text]
      exact drops target

theorem Plural.merge (first : Plural target) (second : Plural beside) : Plural (mergeBeside dropped target beside) := by
  intro e member keyword combines named
  obtain before | ⟨b, inside, text, same⟩ := mem_mergeBeside member
  · exact first e before keyword combines named
  · rw [same]
    exact second b inside keyword combines (text.symm.trans named)

theorem Plural.asEntries {v : Value} (plural : ∀ schema, v = .map schema → Plural schema) : Plural (asEntries v) := by
  unfold Document.asEntries
  split
  next schema => exact plural schema rfl
  next noMap =>
    intro e member keyword _ _ lone
    cases List.mem_singleton.mp member
    obtain ⟨object, single⟩ := isLoneObject_iff.mp lone
    exact noMap object (List.singleton_inj.mp (Value.list.inj single))

theorem combinator_shape {key : Value} {keyword : String} (combines : keyword ∈ combinators) (named : key.str? = some keyword) :
    KeywordShape.ofKey? key = some .many := by
  have shape : KeywordShape.ofKeyword? keyword = some .many := by
    clear named
    revert keyword
    decide
  rw [KeywordShape.ofKey?, named]
  exact shape

theorem map_of_rebuilt {plain : Entries → Entries} {v : Value} {object : Entries}
    (same : rebuilt plain v = .map object) : ∃ schema, v = .map schema := by
  cases v with
  | map schema => exact ⟨schema, rfl⟩
  | list items =>
    rw [rebuilt_list] at same
    cases same
  | _ => cases same

theorem Plural.rebuilt (plural : Plural schema) (plain : Entries → Entries) : Plural (rebuiltEntries plain schema) := by
  intro e member keyword combines named lone
  obtain ⟨⟨key, v⟩, inside, rfl⟩ := List.mem_map.mp member
  obtain ⟨object, single⟩ := isLoneObject_iff.mp lone
  have shape : KeywordShape.ofKey? key = some .many := combinator_shape combines named
  dsimp only [rebuiltUnder] at single
  rw [shape] at single
  cases v with
  | list items =>
    obtain ⟨only, rfl, became⟩ := List.map_eq_singleton_iff.mp (Value.list.inj single)
    obtain ⟨below, rfl⟩ := map_of_rebuilt became
    exact plural _ inside keyword combines named rfl
  | _ => cases single

end Schemas

/-- As an entry, a value holds the schemas that it holds by itself. -/
theorem mem_schemas_asEntries {v : Value} {made : Entries} (met : made ∈ schemas (.map (asEntries v))) :
    made ∈ schemas v ∨ pointer? made = none := by
  unfold asEntries at met
  split at met
  next => exact .inl met
  next =>
    obtain rfl | ⟨e, member, deeper⟩ := mem_schemas_map.mp met
    · exact .inr rfl
    · cases List.mem_singleton.mp member
      obtain ⟨w, inside, deeper⟩ := List.mem_flatMap.mp deeper
      cases List.mem_singleton.mp inside
      exact .inl deeper

section Definitions
variable {definitions : Entries} {options : ResolutionOptions} {depth : Nat} {v : Value}

/-- The options keep what stands beside a reference. -/
structure Preserving (options : ResolutionOptions) : Prop where
  titles : options.preserveTitles = true
  descriptions : options.preserveDescriptions = true

theorem Preserving.isDropped (preserving : Preserving options) (merged : Entries) (keyword : String) :
    options.isDropped merged keyword = decide (keyword = "$ref") := by
  unfold ResolutionOptions.isDropped
  split
  · rfl
  · rw [preserving.titles]
    rfl
  · rw [preserving.descriptions]
    rfl
  next other _ _ => exact (decide_eq_false other).symm

theorem resolveTo_of_clear (clear : ∀ name ∈ pointers v, definitions.field? name = none) :
    resolveTo options definitions depth v = v := by
  cases depth with
  | zero => rfl
  | succ depth =>
    refine rebuild_unchanged fun schema met => ?_
    have lost : target? definitions schema = none :=
      target?_eq_none fun name points => clear name (mem_pointers.mpr ⟨schema, met, points⟩)
    rw [expand, lost]
    rfl

/-- What holds of a schema and of the definitions, however the schemas below them are changed and whatever is put
on top of them, holds of what comes of resolving. -/
theorem resolveTo_outermost {Fine : Entries → Prop} (rebuilt : ∀ plain schema, Fine schema → Fine (rebuiltEntries plain schema))
    (merged : ∀ target beside, Fine target → Fine beside → Fine (mergeBeside options.isDropped target beside))
    (wrapped : ∀ v, (∀ schema, v ≠ .map schema) → Fine (asEntries v))
    (defined : ∀ name body, definitions.field? name = some body → ∀ schema, body = .map schema → Fine schema)
    (fine : ∀ schema, v = .map schema → Fine schema) {made : Entries}
    (same : resolveTo options definitions depth v = .map made) : Fine made := by
  induction depth generalizing v made with
  | zero => exact fine made same
  | succ depth ih =>
    change Document.rebuilt (expand options definitions (resolveTo options definitions depth)) v = _ at same
    obtain ⟨schema, rfl⟩ := map_of_rebuilt same
    rw [rebuilt_map] at same
    obtain rfl := Value.map.inj same
    have here := rebuilt (expand options definitions (resolveTo options definitions depth)) schema (fine schema rfl)
    unfold expand
    split
    next => exact here
    next name body found =>
      refine merged _ _ ?_ here
      cases resolved : resolveTo options definitions depth body with
      | map target => exact ih (defined name body (target?_eq_some.mp found).2) resolved
      | _ => exact wrapped _ fun _ impossible => nomatch impossible

/-- What comes of resolving has no combinator with an object for its only member either. -/
theorem resolveTo_plural (plural : ∀ schema ∈ schemas v, Plural schema)
    (defined : ∀ name body, definitions.field? name = some body → ∀ schema ∈ schemas body, Plural schema)
    {made : Entries} (same : resolveTo options definitions depth v = .map made) : Plural made := by
  have itself {v : Value} (plural : ∀ schema ∈ schemas v, Plural schema) (schema : Entries) (whole : v = .map schema) : Plural schema :=
    plural schema (whole ▸ mem_schemas_map.mpr (.inl rfl))
  refine resolveTo_outermost (fun plain _ plural => plural.rebuilt plain) (fun _ _ => Plural.merge) (fun v noMap => ?_)
    (fun name body found => itself (defined name body found)) (itself plural) same
  exact .asEntries fun schema whole => absurd whole (noMap schema)

/-- Where chains of definitions end, both walks put the same in the place of references. -/
theorem inlineTo_eq_resolveTo (preserving : Preserving options)
    (defined : ∀ name body, definitions.field? name = some body → ∀ schema ∈ schemas body, Plural schema)
    {n limit : Nat} (shallow : Shallow definitions [] n v) (plural : ∀ schema ∈ schemas v, Plural schema)
    (enough : n ≤ limit) (deep : n ≤ depth) :
    inlineTo definitions [] limit v = .ok (resolveTo options definitions depth v) := by
  induction n generalizing v limit depth with
  | zero =>
    -- no definition is pointed to: the one walk stops, the other one changes nothing
    have clear : ∀ name ∈ pointers v, definitions.field? name = none :=
      fun name pointed => shallow name pointed List.not_mem_nil
    have unchanged {inside : Value → Except Fault Value} :
        rebuild true (inline definitions [] inside) v = .ok v := by
      refine rebuild_unchanged fun schema met => ?_
      have lost : target? definitions schema = none :=
        target?_eq_none fun name points => clear name (mem_pointers.mpr ⟨schema, met, points⟩)
      rw [inline, lost]
      exact congrArg Except.ok (collapseAll_plural (plural schema met))
    rw [resolveTo_of_clear clear]
    cases limit <;> exact unchanged
  | succ n ih =>
    obtain ⟨limit, rfl⟩ := Nat.exists_eq_succ_of_ne_zero (Nat.ne_of_gt (Nat.lt_of_lt_of_le n.succ_pos enough))
    obtain ⟨depth, rfl⟩ := Nat.exists_eq_succ_of_ne_zero (Nat.ne_of_gt (Nat.lt_of_lt_of_le n.succ_pos deep))
    rw [inlineTo, resolveTo]
    refine rebuild_eq_pure fun schema met => ?_
    have rebuilt : Plural (rebuiltEntries (expand options definitions (resolveTo options definitions depth)) schema) :=
      (plural schema met).rebuilt _
    have points := pointer?_rebuilt (expand options definitions (resolveTo options definitions depth)) schema
    generalize rebuiltEntries (expand options definitions (resolveTo options definitions depth)) schema = done at rebuilt points
    cases target : target? definitions done with
    | none =>
      rw [inline, expand, target]
      exact congrArg Except.ok (collapseAll_plural rebuilt)
    | some found =>
      obtain ⟨name, body⟩ := found
      obtain ⟨pointed, found⟩ := target?_eq_some.mp target
      have mentioned : name ∈ pointers v := mem_pointers.mpr ⟨schema, met, points.symm.trans pointed⟩
      have inside : inlineTo definitions [] limit body = .ok (resolveTo options definitions depth body) :=
        ih (shallow name mentioned List.not_mem_nil body found) (defined name body found)
          (Nat.le_of_succ_le_succ enough) (Nat.le_of_succ_le_succ deep)
      -- what is put in has no lone member to collapse, and neither has what stands beside it
      have own : Plural (asEntries (resolveTo options definitions depth body)) :=
        .asEntries fun made same => resolveTo_plural (defined name body found) defined same
      have merged : mergeBeside (fun _ keyword => keyword = "$ref") (asEntries (resolveTo options definitions depth body)) done =
          mergeBeside options.isDropped (asEntries (resolveTo options definitions depth body)) done := by
        congr 1
        funext merged keyword
        exact (preserving.isDropped merged keyword).symm
      rw [inline, expand, target]
      show (do
        let target := asEntries (← inlineTo definitions [] limit body)
        return collapseAll (mergeBeside (fun _ keyword => keyword = "$ref") target done)) = _
      rw [inside]
      show Except.ok (collapseAll (mergeBeside (fun _ keyword => keyword = "$ref") _ done)) = _
      rw [merged]
      exact congrArg Except.ok (collapseAll_plural (own.merge rebuilt))

/-- A definition that is still pointed to is met after as many steps as were allowed. -/
theorem pointers_resolveTo (dropsPointer : ∀ merged, options.isDropped merged "$ref" = true) :
    ∀ name ∈ pointers (resolveTo options definitions depth v), definitions.hasField name = true →
      PointedAfter definitions depth v name := by
  induction depth generalizing v with
  | zero => exact fun name pointed _ => pointed
  | succ depth ih =>
    have fine : ∀ made ∈ schemas (rebuilt (expand options definitions (resolveTo options definitions depth)) v),
        ∀ name, pointer? made = some name → definitions.hasField name = true → PointedAfter definitions (depth + 1) v name := by
      refine rebuild_schemas fun schema met below => ?_
      have points := pointer?_rebuilt (expand options definitions (resolveTo options definitions depth)) schema
      generalize rebuiltEntries (expand options definitions (resolveTo options definitions depth)) schema = done at below points
      intro made inside name pointed known
      cases target : target? definitions done with
      | none =>
        rw [expand, target] at inside
        obtain rfl | ⟨e, member, deeper⟩ := mem_schemas_map.mp inside
        · obtain ⟨body, found⟩ := hasField_iff.mp known
          rw [target?_eq_some.mpr ⟨pointed, found⟩] at target
          cases target
        · exact below e member made deeper name pointed known
      | some found =>
        obtain ⟨via, body⟩ := found
        obtain ⟨refers, found⟩ := target?_eq_some.mp target
        have mentioned : via ∈ pointers v := mem_pointers.mpr ⟨schema, met, points.symm.trans refers⟩
        have ofTarget : ∀ made ∈ schemas (.map (asEntries (resolveTo options definitions depth body))),
            pointer? made = some name → PointedAfter definitions (depth + 1) v name := by
          intro made met points
          obtain own | none := mem_schemas_asEntries met
          · exact ⟨via, mentioned, body, found, ih name (mem_pointers.mpr ⟨made, own, points⟩) known⟩
          · rw [none] at points
            cases points
        rw [expand, target] at inside
        obtain rfl | ⟨e, member, deeper⟩ := mem_schemas_map.mp inside
        · refine ofTarget _ (mem_schemas_map.mpr (.inl rfl)) ?_
          rw [pointer?, ← field?_mergeBeside dropsPointer]
          exact pointed
        · obtain before | ⟨b, beside, text, same⟩ := mem_mergeBeside member
          · exact ofTarget made (mem_schemas_map.mpr (.inr ⟨e, before, deeper⟩)) pointed
          · obtain ⟨keyword, named, stands⟩ := mem_schemasUnder deeper
            rw [same] at stands
            exact below b beside made (stands b.1 (text.symm.trans named)) name pointed known
    intro name pointed known
    obtain ⟨made, met, points⟩ := mem_pointers.mp pointed
    exact fine made met name points known

/-- Once all chains of definitions have ended, nothing points to a definition any more. -/
theorem resolveTo_clear (dropsPointer : ∀ merged, options.isDropped merged "$ref" = true) {n : Nat}
    (shallow : Shallow definitions [] n v) (deep : n ≤ depth) :
    ∀ name ∈ pointers (resolveTo options definitions depth v), definitions.field? name = none := by
  intro name pointed
  cases found : definitions.field? name with
  | none => rfl
  | some body =>
    have left := pointers_resolveTo dropsPointer name pointed (hasField_iff.mpr ⟨body, found⟩)
    rw [shallow.undefined deep left] at found
    cases found

end Definitions

section Documents
variable {document : Entries}

/-- In a document without recursion, in which no combinator has an object for its only member, resolving deep
enough and flattening come to the same, which points to no definition any more. -/
theorem resolve_eq_flatten (json : (Value.map document).isJson = true)
    (acyclic : Acyclic (Parts.ofEntries document).definitions)
    (plural : ∀ schema ∈ schemas (.map document), Plural schema)
    {depth : Nat} (deep : (Parts.ofEntries document).definitions.length ≤ depth) :
    ∃ made, resolve { maxDepth := depth } (.map document) = .ok made ∧ flatten {} (.map document) = .ok made ∧
      ∀ name ∈ pointers made, (Parts.ofEntries document).definitions.hasField name = false := by
  have within := parts_within document
  have copyable := Value.isCopyable_of_isJson json
  generalize parsed : Parts.ofEntries document = parts at acyclic deep within
  have defined : ∀ name body, parts.definitions.field? name = some body → ∀ schema ∈ schemas body, Plural schema :=
    fun name body found schema met => plural schema (within.mem_schemas found met)
  have root : ∀ schema ∈ schemas (.map parts.root), Plural schema := by
    intro schema met
    obtain rfl | ⟨e, member, deeper⟩ := mem_schemas_map.mp met
    · exact fun e member => plural document (mem_schemas_map.mpr (.inl rfl)) e (within.root e member)
    · exact plural schema (mem_schemas_map.mpr (.inr ⟨e, within.root e member, deeper⟩))
  have shallow : Shallow parts.definitions [] parts.definitions.length (.map parts.root) :=
    shallow_of_tame (fun name _ => acyclic name) _
  have preserving : Preserving { maxDepth := depth } := ⟨rfl, rfl⟩
  have inlined := inlineTo_eq_resolveTo preserving defined shallow root (Nat.le_refl _) deep
  have clear : ∀ name ∈ pointers (resolveTo { maxDepth := depth } parts.definitions depth (.map parts.root)),
      parts.definitions.field? name = none := resolveTo_clear (fun _ => rfl) shallow deep
  generalize resolved : resolveTo { maxDepth := depth } parts.definitions depth (.map parts.root) = made at inlined clear
  refine ⟨made, ?_, ?_, fun name pointed => ?_⟩
  · rw [resolve_of_copyable _ copyable, resolveEntries, parsed, resolved]
  · have kept : keptNames {} parts.definitions = [] := by
      rw [keptNames, recursive_of_acyclic acyclic]
      simp
    have collected : collect (inlineAll parts.definitions []) parts.definitions parts.definitions.length [] (references made) = .ok [] :=
      collect_done fun name mentioned => .inl (clear name ((references_subset made).1 mentioned))
    have root : inlineAll parts.definitions [] (.map parts.root) = .ok made := inlined
    rw [flatten_of_copyable {} copyable, flattenEntries, parsed]
    rw [kept, flattenParts, root, Except.ok_bind, collected, Except.ok_bind]
    split <;> rfl
  · rw [Entries.hasField, clear name pointed]
    rfl

/-- People at an address, which is defined with its postal code. -/
def directory : Entries :=
  [entry "type" (.str "object"),
   entry "properties" (.map [
     entry "home" (.map [entry "$ref" (.str "#/definitions/Address"), entry "title" (.str "Home")])]),
   entry "definitions" (.map [
     entry "Address" (.map [
       entry "type" (.str "object"), entry "title" (.str "Address"),
       entry "properties" (.map [entry "code" (.map [entry "$ref" (.str "#/definitions/Code")])])]),
     entry "Code" (.map [entry "type" (.str "string")])])]

theorem directory_acyclic : Acyclic (Parts.ofEntries directory).definitions := by
  have leads : ∀ e ∈ (Parts.ofEntries directory).definitions, pointers e.2 = [] ∨
      e.1.str? = some "Address" ∧ pointers e.2 = ["Code"] := by decide +kernel
  refine .of_rank (fun name => if name = "Address" then 1 else 0) fun a b ⟨body, found, pointed, _⟩ => ?_
  obtain ⟨e, member, named, rfl⟩ := Entries.mem_of_field? found
  obtain none | ⟨address, code⟩ := leads e member
  · rw [none] at pointed
    cases pointed
  · rw [code] at pointed
    cases List.mem_singleton.mp pointed
    cases named.symm.trans address
    decide

theorem directory_inlined :
    (Value.map directory).isJson = true ∧ Acyclic (Parts.ofEntries directory).definitions ∧
      (∀ schema ∈ schemas (.map directory), Plural schema) ∧ (Parts.ofEntries directory).definitions.length ≤ 2 ∧
      ∃ made, resolve { maxDepth := 2 } (.map directory) = .ok made ∧ flatten {} (.map directory) = .ok made ∧
        ∀ name ∈ pointers made, (Parts.ofEntries directory).definitions.hasField name = false := by
  have json : (Value.map directory).isJson = true := by decide +kernel
  have plural : ∀ schema ∈ schemas (.map directory), Plural schema := by decide +kernel
  have few : (Parts.ofEntries directory).definitions.length ≤ 2 := by decide +kernel
  exact ⟨json, directory_acyclic, plural, few, resolve_eq_flatten json directory_acyclic plural few⟩

end Documents

end Document
end RecordSchema
