import RecordSchema.Proofs.CombinatorMeaning
import RecordSchema.Proofs.ResolvedDocuments
import RecordSchema.Proofs.FlatteningEnds

/-! What flattening makes of a document without references. A combinator with an only member gives way to it, and what
stands beside the combinator is put on top of the member. So both still speak if neither takes back what the other
says. Main statement: `flatten_accepts`. -/

namespace RecordSchema.Document
open Entries

section Pairs
variable {member beside schema : Entries} {accepts : Value → Value → Prop} {keyword : String} {under v : Value}

/-- Neither of two schemas takes back what the other says: they agree on every keyword of both, and neither is closed
to a property that only the other lists. -/
structure Apart (member beside : Entries) : Prop where
  shared : ∀ keyword ∉ notes, ∀ under above, member.field? keyword = some under → beside.field? keyword = some above → above = under
  inner : member.hasField "additionalProperties" = true → ∀ name, Lists beside name → Lists member name
  outer : beside.hasField "additionalProperties" = true → ∀ name, Lists member name → Lists beside name

/-- Open schemas are apart if they agree on every keyword of both. -/
theorem Apart.of_open (opens : member.hasField "additionalProperties" = false ∧ beside.hasField "additionalProperties" = false)
    (agree : ∀ keyword ∈ labels member, keyword ∈ labels beside → keyword ∉ notes → member.field? keyword = beside.field? keyword) :
    Apart member beside := by
  refine ⟨fun keyword telling under above own found => ?_, fun closes => ?_, fun closes => ?_⟩
  · have same := agree keyword (mem_labels.mpr (hasField_iff.mpr ⟨under, own⟩)) (mem_labels.mpr (hasField_iff.mpr ⟨above, found⟩)) telling
    rw [own, found] at same
    exact (Option.some.inj same).symm
  · rw [opens.1] at closes
    cases closes
  · rw [opens.2] at closes
    cases closes

theorem meets_note (note : keyword ∈ notes) : Meets accepts schema keyword under v := by
  have free : keyword ∉ subschemaKeywords ∧ keyword ≠ "type" := by
    revert keyword
    decide
  unfold Meets
  split
  case h_8 => exact asserts_remark (List.mem_append_left _ note) under v
  all_goals simp [subschemaKeywords] at free

theorem lists_update (keyed : Keyed beside) (apart : Apart member beside) (name : String) :
    Lists (member.update beside) name ↔ Lists member name ∨ Lists beside name := by
  unfold Lists
  rw [keyed.field?_update]
  cases above : beside.field? "properties" with
  | none => simp
  | some w =>
    cases own : member.field? "properties" with
    | none => simp
    | some u =>
      cases apart.shared "properties" (by decide) u w own above
      simp

/-- A schema on top of another one says what both say, if they are apart. -/
theorem accepts_update (keyed : Keyed beside) (apart : Apart member beside) :
    Accepts (.map (member.update beside)) v ↔ Accepts (.map member) v ∧ Accepts (.map beside) v := by
  have lists := lists_update keyed apart
  have fromMember {keyword : String} {under : Value} (found : member.field? keyword = some under) :
      Meets Accepts (member.update beside) keyword under v ↔ Meets Accepts member keyword under v := by
    refine meets_of_lists fun closes name => ?_
    have inner := apart.inner (hasField_iff.mpr ⟨under, closes ▸ found⟩) name
    exact (lists name).trans ⟨fun either => either.elim id inner, .inl⟩
  have fromBeside {keyword : String} {above : Value} (found : beside.field? keyword = some above) :
      Meets Accepts (member.update beside) keyword above v ↔ Meets Accepts beside keyword above v := by
    refine meets_of_lists fun closes name => ?_
    have outer := apart.outer (hasField_iff.mpr ⟨above, closes ▸ found⟩) name
    exact (lists name).trans ⟨fun either => either.elim outer id, .inr⟩
  rw [accepts_map, accepts_map, accepts_map]
  constructor
  · intro meets
    refine ⟨fun keyword under own => ?_, fun keyword above found => (fromBeside found).mp (meets keyword above ?_)⟩
    · by_cases note : keyword ∈ notes
      · exact meets_note note
      · refine (fromMember own).mp (meets keyword under ?_)
        rw [keyed.field?_update]
        cases found : beside.field? keyword with
        | none => exact own
        | some above => rw [apart.shared keyword note under above own found]; rfl
    · rw [keyed.field?_update, found, Option.some_or]
  · rintro ⟨inner, outer⟩ keyword under found
    rw [keyed.field?_update] at found
    obtain above | ⟨-, own⟩ := Option.or_eq_some_iff.mp found
    · exact (fromBeside above).mpr (outer keyword under above)
    · exact (fromMember own).mpr (inner keyword under own)

/-- A combinator with an only member says what this says. -/
theorem meets_lone (combines : keyword ∈ combinators) {sub : Value} : Meets accepts schema keyword (.list [sub]) v ↔ accepts sub v := by
  simp only [combinators, List.mem_cons, List.not_mem_nil, or_false] at combines
  obtain rfl | rfl | rfl := combines
  · simp [Meets]
  · by_cases accepted : accepts sub v <;> simp [Meets, accepted]
  · simp [Meets]

theorem accepts_dropField (other : keyword ≠ "properties") (found : schema.field? keyword = some under) :
    Accepts (.map schema) v ↔ Meets Accepts schema keyword under v ∧ Accepts (.map (schema.dropField keyword)) v := by
  have lists (name : String) : Lists (schema.dropField keyword) name ↔ Lists schema name := by
    rw [Lists, Lists, field?_dropField_of_ne schema other.symm]
  rw [accepts_map, accepts_map]
  constructor
  · refine fun meets => ⟨meets keyword under found, fun k w stands => ?_⟩
    by_cases same : k = keyword
    · rw [same, field?_dropField_self] at stands
      cases stands
    · rw [field?_dropField_of_ne schema same] at stands
      exact (meets_of_lists fun _ => lists).mpr (meets k w stands)
  · rintro ⟨here, meets⟩ k w stands
    by_cases same : k = keyword
    · subst same
      cases found.symm.trans stands
      exact here
    · rw [← field?_dropField_of_ne schema same] at stands
      exact (meets_of_lists fun _ => lists).mp (meets k w stands)

/-- The only member of a combinator is apart from what stands beside the combinator. -/
def LoneApart (schema : Entries) (keyword : String) : Prop :=
  ∀ member, schema.field? keyword = some (.list [.map member]) → Apart member (schema.dropField keyword)

theorem LoneApart.of_absent (absent : schema.hasField keyword = false) : LoneApart schema keyword := by
  intro member found
  rw [hasField, found] at absent
  cases absent

theorem accepts_collapse (keyed : Keyed schema) (combines : keyword ∈ combinators) (apart : LoneApart schema keyword) :
    Accepts (.map (collapse schema keyword)) v ↔ Accepts (.map schema) v := by
  have other : keyword ≠ "properties" := by
    rintro rfl
    revert combines
    decide
  unfold collapse
  split
  next member found =>
    rw [accepts_update (keyed.dropField keyword) (apart member found), accepts_dropField other found, meets_lone combines]
  next => rfl

/-- Combinators that collapse one after another, each with an only member that is apart by then. -/
def LonesApart : List String → Entries → Prop
  | [], _ => True
  | keyword :: rest, schema => LoneApart schema keyword ∧ LonesApart rest (collapse schema keyword)

/-- No key comes to stand twice. -/
theorem keyed_collapse (combines : keyword ∈ combinators) (keyed : ∀ s ∈ schemas (.map schema), Keyed s) :
    ∀ s ∈ schemas (.map (collapse schema keyword)), Keyed s := by
  unfold collapse
  split
  next member found =>
    have below : Below schema (.map member) := by
      refine .of_field? found ?_
      unfold subvalues
      rw [combinator_shape combines rfl]
      exact List.mem_singleton_self _
    intro s met
    obtain rfl | ⟨e, inside, deeper⟩ := mem_schemas_map.mp met
    · have own : Keyed member := keyed member (below.schemas_subset (mem_schemas_map.mpr (.inl rfl)))
      exact own.update ((keyed schema (mem_schemas_map.mpr (.inl rfl))).dropField keyword).text
    · obtain before | ⟨o, among, text, same⟩ := mem_update inside
      · exact keyed s (below.schemas_subset (mem_schemas_map.mpr (.inr ⟨e, before, deeper⟩)))
      · obtain ⟨name, named, elsewhere⟩ := mem_schemasUnder deeper
        refine keyed s (mem_schemas_map.mpr (.inr ⟨o, (List.mem_filter.mp among).1, ?_⟩))
        rw [← same]
        exact elsewhere o.1 (text ▸ named)
  next => exact keyed

theorem accepts_collapses {keywords : List String} (combine : ∀ keyword ∈ keywords, keyword ∈ combinators)
    (keyed : ∀ s ∈ schemas (.map schema), Keyed s) (apart : LonesApart keywords schema) :
    Accepts (.map (keywords.foldl collapse schema)) v ↔ Accepts (.map schema) v := by
  induction keywords generalizing schema with
  | nil => rfl
  | cons keyword rest ih =>
    obtain ⟨here, later⟩ := List.forall_mem_cons.mp combine
    rw [List.foldl_cons, ih later (keyed_collapse here keyed) apart.2]
    exact accepts_collapse (keyed schema (mem_schemas_map.mpr (.inl rfl))) here apart.1

theorem keyed_collapses {keywords : List String} (combine : ∀ keyword ∈ keywords, keyword ∈ combinators)
    (keyed : ∀ s ∈ schemas (.map schema), Keyed s) : ∀ s ∈ schemas (.map (keywords.foldl collapse schema)), Keyed s := by
  induction keywords generalizing schema with
  | nil => exact keyed
  | cons keyword rest ih =>
    obtain ⟨here, later⟩ := List.forall_mem_cons.mp combine
    exact ih later (keyed_collapse here keyed)

end Pairs

section Documents
variable {document : Entries} {v : Value}

/-- A schema without references that flattening can simplify: every keyword is known and stands once, and whatever
collapses in it, once the schemas below it are simplified, is apart from what stands beside it. -/
structure Collapsible (schema : Entries) : Prop where
  keyed : Keyed schema
  known : ∀ keyword ∈ labels schema, keyword ∈ vocabulary
  apart : LonesApart combinators (rebuiltEntries collapseAll schema)

theorem keyed_flat (each : ∀ schema ∈ schemas v, Keyed schema) : ∀ schema ∈ schemas (rebuilt collapseAll v), Keyed schema := by
  refine rebuild_schemas fun schema met below =>
    keyed_collapses (show ∀ keyword ∈ combinators, keyword ∈ combinators from fun _ member => member) fun s inside => ?_
  obtain rfl | ⟨e, member, deeper⟩ := mem_schemas_map.mp inside
  · exact (each schema met).rebuilt collapseAll
  · exact below e member s deeper

/-- By induction on the schema: the schemas below are simplified first, and then at most three combinators collapse. -/
theorem accepts_flat (each : ∀ schema ∈ schemas v, Collapsible schema) :
    (∀ u, Accepts (rebuilt collapseAll v) u ↔ Accepts v u) ∧
      ∀ items, v = .list items → ∀ i ∈ items, ∀ u, Accepts (rebuilt collapseAll i) u ↔ Accepts i u := by
  induction v using descend with
  | map schema below =>
    refine ⟨fun u => ?_, fun _ same => nomatch same⟩
    have here := each schema (mem_schemas_map.mpr (.inl rfl))
    have inner {e : Value × Value} (member : e ∈ schema) {w : Value} (inside : w ∈ subvalues e.1 e.2) : ∀ s ∈ schemas w, Collapsible s :=
      fun s met => each s (mem_schemas_map.mpr (.inr ⟨e, member, List.mem_flatMap.mpr ⟨w, inside, met⟩⟩))
    have keyed : ∀ s ∈ schemas (.map (rebuiltEntries collapseAll schema)), Keyed s := by
      intro s met
      obtain rfl | ⟨made, member, deeper⟩ := mem_schemas_map.mp met
      · exact here.keyed.rebuilt collapseAll
      · obtain ⟨e, among, rfl⟩ := List.mem_map.mp member
        rw [schemasUnder, subvalues_rebuilt] at deeper
        obtain ⟨_, found, met⟩ := List.mem_flatMap.mp deeper
        obtain ⟨w, inside, rfl⟩ := List.mem_map.mp found
        exact keyed_flat (fun s met => (inner among inside s met).keyed) s met
    have simplified : ∀ w, Beneath schema w → ∀ u, Accepts (rebuilt collapseAll w) u ↔ Accepts w u := by
      rintro w ⟨e, member, found⟩
      obtain inside | ⟨items, inside, item⟩ := subvalue_of_searched found
      · exact (below e member w inside (inner member inside)).1
      · exact (below e member _ inside (inner member inside)).2 items rfl w item
    have known : ∀ keyword under, schema.field? keyword = some under → keyword ∈ vocabulary := by
      intro keyword under found
      exact here.known keyword (mem_labels.mpr (hasField_iff.mpr ⟨under, found⟩))
    rw [rebuilt_map]
    show Accepts (.map (combinators.foldl collapse (rebuiltEntries collapseAll schema))) u ↔ _
    rw [accepts_collapses (fun _ member => member) keyed here.apart, accepts_rebuilt known simplified]
  | list items ofItems =>
    rw [schemas_list] at each
    refine ⟨fun u => by simp [rebuilt_list, not_accepts_list], fun others same i member => ?_⟩
    cases same
    exact (ofItems i member fun s met => each s (List.mem_flatMap.mpr ⟨i, member, met⟩)).1
  | leaf v noMap noList =>
    have same : rebuilt collapseAll v = v := rebuild_leaf noMap noList
    exact ⟨fun u => by rw [same], fun items same => absurd same (noList items)⟩

/-- A document without references is flattened schema by schema. -/
theorem flattenEntries_bare (options : FlatteningOptions) (bare : ∀ e ∈ document, holdsDefinitions e = false) :
    flattenEntries options document = .ok (rebuilt collapseAll (.map document)) := by
  have parts : Parts.ofEntries document = { root := document } := Parts.foldl_add_of_plain bare {}
  have simplified (kept : List String) : inlineAll [] kept (.map document) = .ok (rebuilt collapseAll (.map document)) := by
    have shallow : Shallow [] kept 0 (.map document) := fun _ _ _ => rfl
    have same : simplify [] kept id = collapseAll := by
      funext schema
      rw [simplify, target?_eq_none fun _ _ => rfl]
    show inlineTo [] kept 0 (.map document) = _
    rw [inlineTo_eq shallow, inlined, same]
  rw [flattenEntries, parts, flattenParts, simplified, Except.ok_bind, collect_done fun _ _ => .inl rfl]
  rfl

/-- A document without references accepts flat what it accepts as it is, wherever all that collapses is apart from
what stands beside it. -/
theorem flatten_accepts (options : FlatteningOptions) (json : (Value.map document).isJson = true)
    (distinct : ∀ schema ∈ schemas (.map document), (labels schema).Nodup)
    (known : ∀ schema ∈ schemas (.map document), ∀ keyword ∈ labels schema, keyword ∈ vocabulary)
    (apart : ∀ schema ∈ schemas (.map document), LonesApart combinators (rebuiltEntries collapseAll schema)) :
    ∃ flat, flatten options (.map document) = .ok flat ∧ ∀ v, Accepts flat v ↔ Accepts (.map document) v := by
  have bare : ∀ e ∈ document, holdsDefinitions e = false := by
    intro e member
    obtain ⟨name, key⟩ := (Value.isJson_of_mem_map json e member).1
    have listed : name ∈ vocabulary :=
      known document (mem_schemas_map.mpr (.inl rfl)) name (List.mem_filterMap.mpr ⟨e, member, congrArg Value.str? key⟩)
    have apart : ∀ keyword ∈ vocabulary, isDefinitionsKey (.str keyword) = false := by decide
    rw [holdsDefinitions, key, apart name listed, Bool.false_and]
  have each : ∀ schema ∈ schemas (.map document), Collapsible schema := by
    intro schema met
    have text := Value.isJson_of_mem_map (isJson_composite.of_mem_schemas json schema met)
    exact ⟨⟨fun e member => (text e member).1, distinct schema met⟩, known schema met, apart schema met⟩
  refine ⟨rebuilt collapseAll (.map document), ?_, (accepts_flat each).1⟩
  rw [flatten_of_copyable options (Value.isCopyable_of_isJson json), flattenEntries_bare options bare]

/-- The only choice for a code. -/
def codeText : Entries := [entry "type" (.str "string"), entry "minLength" (.int 2), entry "title" (.str "Text")]

def code : Entries := [entry "title" (.str "Code"), entry "maxLength" (.int 8), entry "oneOf" (.list [.map codeText])]

def badgePart : Entries := [entry "type" (.str "object"), entry "properties" (.map [entry "code" (.map code)])]

/-- A badge with a code. A combinator collapses at the top, and another one below it. -/
def badge : Entries := [entry "type" (.str "object"), entry "allOf" (.list [.map badgePart])]

theorem badge_accepts :
    (Value.map badge).isJson = true ∧ (∀ schema ∈ schemas (.map badge), (labels schema).Nodup) ∧
      (∀ schema ∈ schemas (.map badge), ∀ keyword ∈ labels schema, keyword ∈ vocabulary) ∧
      (∀ schema ∈ schemas (.map badge), LonesApart combinators (rebuiltEntries collapseAll schema)) ∧
      ∃ flat, flatten {} (.map badge) = .ok flat ∧ ∀ v, Accepts flat v ↔ Accepts (.map badge) v := by
  have json : (Value.map badge).isJson = true := by decide +kernel
  have distinct : ∀ schema ∈ schemas (.map badge), (labels schema).Nodup := by decide +kernel
  have known : ∀ schema ∈ schemas (.map badge), ∀ keyword ∈ labels schema, keyword ∈ vocabulary := by decide +kernel
  have apart : ∀ schema ∈ schemas (.map badge), LonesApart combinators (rebuiltEntries collapseAll schema) := by
    have all : schemas (.map badge) = [badge, badgePart, code, codeText] := rfl
    rw [all]
    refine List.forall_mem_cons.mpr ⟨?_, List.forall_mem_cons.mpr ⟨?_, List.forall_mem_cons.mpr ⟨?_, List.forall_mem_singleton.mpr ?_⟩⟩⟩
    · refine ⟨.of_absent (by decide +kernel), .of_absent (by decide +kernel), fun member found => ?_, trivial⟩
      have lone : Entries.field? (rebuiltEntries collapseAll badge) "allOf" =
          some (.list [.map [entry "type" (.str "object"), entry "properties" (.map [entry "code" (.map (collapseAll code))])]]) := rfl
      cases lone.symm.trans found
      refine .of_open ⟨by decide +kernel, by decide +kernel⟩ fun keyword own beside telling => ?_
      cases List.mem_singleton.mp beside
      rfl
    · exact ⟨.of_absent (by decide +kernel), .of_absent (by decide +kernel), .of_absent (by decide +kernel), trivial⟩
    · refine ⟨.of_absent (by decide +kernel), fun member found => ?_, .of_absent (by decide +kernel), trivial⟩
      have lone : Entries.field? (rebuiltEntries collapseAll code) "oneOf" = some (.list [.map codeText]) := rfl
      cases lone.symm.trans found
      refine .of_open ⟨by decide +kernel, by decide +kernel⟩ fun keyword own beside telling => ?_
      -- the title that both have is no more than a note
      have none : ∀ keyword ∈ labels codeText, keyword ∈ ["title", "maxLength"] → keyword ∈ notes := by decide +kernel
      exact absurd (none keyword own beside) telling
    · exact ⟨.of_absent (by decide +kernel), .of_absent (by decide +kernel), .of_absent (by decide +kernel), trivial⟩
  exact ⟨json, distinct, known, apart, flatten_accepts {} json distinct known apart⟩

/-- A text that is to have five characters by one bound and two by the other. -/
def bounded : Entries :=
  [entry "anyOf" (.list [.map [entry "type" (.str "string"), entry "minLength" (.int 5)]]), entry "minLength" (.int 2)]

/-- The stricter bound is gone, and with it a text is accepted that was refused. -/
theorem bounded_loosened :
    (Value.map bounded).isJson = true ∧ (∀ schema ∈ schemas (.map bounded), (labels schema).Nodup) ∧
      (∀ schema ∈ schemas (.map bounded), ∀ keyword ∈ labels schema, keyword ∈ vocabulary) ∧
      ∃ flat, flatten {} (.map bounded) = .ok flat ∧ Accepts flat (.str "abc") ∧ ¬ Accepts (.map bounded) (.str "abc") := by
  have flat : flatten {} (.map bounded) = .ok (.map [entry "type" (.str "string"), entry "minLength" (.int 2)]) := by
    rw [flatten_of_copyable {} (by decide +kernel), flattenEntries_bare {} (by decide +kernel)]
    rfl
  refine ⟨by decide +kernel, by decide +kernel, by decide +kernel, _, flat, accepts_map.mpr ?_, fun accepted => ?_⟩
  · intro keyword under found
    obtain ⟨e, member, named, rfl⟩ := mem_of_field? found
    obtain rfl | member := List.mem_cons.mp member
    · cases named
      exact ⟨"string", List.mem_singleton_self _, List.mem_singleton_self _⟩
    · cases List.mem_singleton.mp member
      cases named
      refine ⟨_, rfl, fun length same => ?_⟩
      cases same
      decide +kernel
  · have choice := accepts_map.mp accepted "anyOf" _ rfl
    obtain ⟨five, same, keeps⟩ := accepts_map.mp ((meets_lone (by decide)).mp choice) "minLength" _ rfl
    cases same
    exact absurd (keeps _ rfl) (by decide +kernel)

end Documents
end RecordSchema.Document
