import RecordSchema.Proofs.FlattenedDocuments
import RecordSchema.Proofs.FlatteningEnds
import RecordSchema.Proofs.StrippedDocuments

/-! What flattening leaves. The schemas below a schema are flat before it is changed itself, so whatever comes up from
them, by a definition or by the only member of a combinator, is flat already: it has no combinator with an only member,
and it points to no definition that is not kept. Main statement: `flat_inlined`. -/

namespace RecordSchema.Document
open Entries

section Schemas
variable {definitions schema target beside : Entries} {kept : List String} {key : Option String} {v : Value}

theorem searched_alike {e f : Value × Value} (text : e.1.str? = f.1.str?) (same : e.2 = f.2) : searched e.1 e.2 = searched f.1 f.2 := by
  unfold searched subvalues KeywordShape.ofKey?
  rw [text, same]

theorem schemasUnder_alike {e f : Value × Value} (text : e.1.str? = f.1.str?) (same : e.2 = f.2) :
    schemasUnder e.1 e.2 = schemasUnder f.1 f.2 := by
  unfold schemasUnder subvalues KeywordShape.ofKey?
  rw [text, same]

variable (key) in
/-- An entry that leaves a schema in its place: there is no list where one schema should stand, and neither are there
definitions under it nor is it where those of the document stand. -/
structure Proper (e : Value × Value) : Prop where
  unlisted : ∀ w ∈ searched e.1 e.2, w.list? = none
  free : holdsDefinitions e = false
  apart : ∀ name, key = some name → e.1.str? ≠ some name

theorem Proper.alike {e f : Value × Value} (proper : Proper key f) (text : e.1.str? = f.1.str?) (same : e.2 = f.2) : Proper key e := by
  refine ⟨?_, ?_, ?_⟩
  · rw [searched_alike text same]
    exact proper.unlisted
  · rw [holdsDefinitions_alike text same]
    exact proper.free
  · rw [text]
    exact proper.apart

variable (key) in
/-- A schema of proper entries, no two of them under one key. -/
structure Sound (schema : Entries) : Prop where
  keyed : Keyed schema
  proper : ∀ e ∈ schema, Proper key e

theorem Sound.rebuilt (sound : Sound key schema) (plain : Entries → Entries) : Sound key (rebuiltEntries plain schema) := by
  refine ⟨sound.keyed.rebuilt plain, List.forall_mem_map.mpr fun e member => ?_⟩
  have proper := sound.proper e member
  refine ⟨?_, (holdsDefinitions_rebuilt plain e.1 e.2).trans proper.free, proper.apart⟩
  rw [searched_rebuilt]
  exact List.forall_mem_map.mpr fun w inside => list?_rebuilt (proper.unlisted w inside) plain

theorem Sound.dropField (sound : Sound key schema) (keyword : String) : Sound key (schema.dropField keyword) :=
  ⟨sound.keyed.dropField keyword, fun e member => sound.proper e (List.mem_filter.mp member).1⟩

theorem Sound.update (first : Sound key target) (second : Sound key beside) : Sound key (target.update beside) := by
  refine ⟨first.keyed.update second.keyed.text, fun e member => ?_⟩
  obtain before | ⟨b, inside, text, same⟩ := mem_update member
  · exact first.proper e before
  · exact (second.proper b inside).alike text same

/-- Putting all that stands beside a pointer on top of its target is what resolving does by default. -/
theorem mergeBeside_eq (target beside : Entries) : mergeBeside (fun _ keyword => keyword = "$ref") target beside =
    mergeBeside (ResolutionOptions.isDropped { preserveTitles := true, preserveDescriptions := true }) target beside := by
  congr 1
  funext merged keyword
  exact (Preserving.isDropped ⟨rfl, rfl⟩ merged keyword).symm

theorem Sound.mergeBeside (first : Sound key target) (second : Sound key beside) :
    Sound key (mergeBeside (fun _ keyword => keyword = "$ref") target beside) := by
  refine ⟨?_, fun e member => ?_⟩
  · rw [mergeBeside_eq]
    exact first.keyed.mergeBeside second.keyed
  · obtain before | ⟨b, inside, text, same⟩ := mem_mergeBeside member
    · exact first.proper e before
    · exact (second.proper b inside).alike text same

variable (definitions kept) in
/-- A schema that points to no definition that is not kept. -/
def Settled (schema : Entries) : Prop := ∀ name, pointer? schema = some name → definitions.hasField name = true → name ∈ kept

variable (definitions kept key) in
/-- A schema as flattening leaves it. -/
structure Flat (schema : Entries) : Prop extends Sound key schema where
  settled : Settled definitions kept schema
  plural : Plural schema

variable (definitions kept key) in
/-- A schema above flat ones, in which combinators are about to collapse. Those that are `done` have no only member. -/
structure Collapsing (done : List String) (schema : Entries) : Prop extends Sound key schema where
  settled : Settled definitions kept schema
  below : ∀ e ∈ schema, ∀ made ∈ schemasUnder e.1 e.2, Flat definitions kept key made
  done : ∀ keyword ∈ done, ∀ v, schema.field? keyword = some v → ¬ isLoneObject v = true

variable {done : List String} {keyword : String}

theorem Flat.not_lone (flat : Flat definitions kept key schema) (combines : keyword ∈ combinators) (found : schema.field? keyword = some v) :
    ¬ isLoneObject v = true := by
  obtain ⟨e, member, named, rfl⟩ := mem_of_field? found
  exact flat.plural e member keyword combines named

/-- The member that takes the place of a combinator has no combinator with an only member itself. -/
theorem Collapsing.collapse (collapsing : Collapsing definitions kept key done schema) (combines : keyword ∈ combinators)
    (among : ∀ other ∈ done, other ∈ combinators) : Collapsing definitions kept key (keyword :: done) (collapse schema keyword) := by
  unfold Document.collapse
  split
  next member found =>
    obtain ⟨e, stands, named, under⟩ := mem_of_field? found
    have below : ∀ made ∈ schemas (.map member), Flat definitions kept key made := by
      refine fun made met => collapsing.below e stands made (List.mem_flatMap.mpr ⟨.map member, ?_, met⟩)
      rw [under, subvalues_of_str? named]
      unfold subvalues
      rw [combinator_shape combines rfl]
      exact List.mem_singleton_self _
    have flat := below member (mem_schemas_map.mpr (.inl rfl))
    have rest := collapsing.toSound.dropField keyword
    refine ⟨flat.toSound.update rest, fun name points => ?_, fun d inside made met => ?_, List.forall_mem_cons.mpr ⟨?_, ?_⟩⟩
    · have apart : "$ref" ≠ keyword := by
        rintro rfl
        revert combines
        decide
      rw [pointer?, rest.keyed.field?_update, field?_dropField_of_ne schema apart] at points
      obtain ⟨pointer, either, text⟩ := Option.bind_eq_some_iff.mp points
      obtain own | ⟨-, inner⟩ := Option.or_eq_some_iff.mp either
      · exact collapsing.settled name (Option.bind_eq_some_iff.mpr ⟨pointer, own, text⟩)
      · exact flat.settled name (Option.bind_eq_some_iff.mpr ⟨pointer, inner, text⟩)
    · obtain before | ⟨b, beside, text, same⟩ := mem_update inside
      · exact below made (mem_schemas_map.mpr (.inr ⟨d, before, met⟩))
      · rw [schemasUnder_alike text same] at met
        exact collapsing.below b (List.mem_filter.mp beside).1 made met
    · intro v stands
      rw [rest.keyed.field?_update, field?_dropField_self, Option.none_or] at stands
      exact flat.not_lone combines stands
    · intro other finished v stands
      rw [rest.keyed.field?_update] at stands
      obtain own | ⟨-, inner⟩ := Option.or_eq_some_iff.mp stands
      · refine collapsing.done other finished v ?_
        by_cases same : other = keyword
        · subst same
          rw [field?_dropField_self] at own
          cases own
        · rwa [field?_dropField_of_ne schema same] at own
      · exact flat.not_lone (among other finished) inner
  next plural =>
    refine ⟨collapsing.toSound, collapsing.settled, collapsing.below, List.forall_mem_cons.mpr ⟨fun v found lone => ?_, collapsing.done⟩⟩
    obtain ⟨member, rfl⟩ := isLoneObject_iff.mp lone
    exact plural member found

theorem Collapsing.collapses {keywords : List String} (combine : ∀ keyword ∈ keywords, keyword ∈ combinators)
    (among : ∀ other ∈ done, other ∈ combinators) (collapsing : Collapsing definitions kept key done schema) :
    Collapsing definitions kept key (keywords.reverse ++ done) (keywords.foldl Document.collapse schema) := by
  induction keywords generalizing done schema with
  | nil => exact collapsing
  | cons keyword rest ih =>
    obtain ⟨here, later⟩ := List.forall_mem_cons.mp combine
    rw [List.foldl_cons, List.reverse_cons, List.append_assoc]
    exact ih later (List.forall_mem_cons.mpr ⟨here, among⟩) (collapsing.collapse here among)

/-- When all combinators have collapsed, the schema is flat itself. -/
theorem Collapsing.flat (collapsing : Collapsing definitions kept key [] schema) :
    ∀ made ∈ schemas (.map (collapseAll schema)), Flat definitions kept key made := by
  have all : Collapsing definitions kept key (combinators.reverse ++ []) (collapseAll schema) :=
    collapsing.collapses (fun _ member => member) (List.forall_mem_nil _)
  intro made met
  obtain rfl | ⟨e, member, deeper⟩ := mem_schemas_map.mp met
  · refine ⟨all.toSound, all.settled, fun e member keyword combines named => ?_⟩
    exact all.done keyword (by simpa using combines) e.2 (field?_of_mem all.keyed.distinct member named)
  · exact all.below e member made deeper

section Inlining
variable (listed : ∀ name, key = some name → name ∈ Pointer.definitionsKeys)
include listed

/-- As an entry of its own, a value that is no schema is left as flat as it is. -/
theorem flat_asEntries (noList : v.list? = none) (flat : ∀ made ∈ schemas v, Flat definitions kept key made) :
    ∀ made ∈ schemas (.map (asEntries v)), Flat definitions kept key made := by
  cases v with
  | map schema => exact flat
  | list items => cases noList
  | _ =>
    refine fun made met => List.mem_singleton.mp met ▸ ⟨⟨keyed_asEntries nofun, List.forall_mem_singleton.mpr ?_⟩, nofun, .asEntries nofun⟩
    refine ⟨List.forall_mem_singleton.mpr rfl, rfl, fun name used text => ?_⟩
    cases text
    exact absurd (listed _ used) (by decide)

theorem flat_simplify {inside : Value → Value} (sound : Sound key schema)
    (below : ∀ e ∈ schema, ∀ made ∈ schemasUnder e.1 e.2, Flat definitions kept key made)
    (flat : ∀ name body, target? definitions schema = some (name, body) → name ∉ kept →
      (inside body).list? = none ∧ ∀ made ∈ schemas (inside body), Flat definitions kept key made) :
    ∀ made ∈ schemas (.map (simplify definitions kept inside schema)), Flat definitions kept key made := by
  have asItIs (settled : Settled definitions kept schema) : ∀ made ∈ schemas (.map (collapseAll schema)), Flat definitions kept key made :=
    Collapsing.flat ⟨sound, settled, below, List.forall_mem_nil _⟩
  unfold simplify
  split
  next none =>
    refine asItIs fun name points known => ?_
    obtain ⟨body, found⟩ := hasField_iff.mp known
    rw [target?_eq_some.mpr ⟨points, found⟩] at none
    cases none
  next name body selected =>
    split
    next member =>
      refine asItIs fun other points known => ?_
      obtain rfl : other = name := Option.some.inj (points.symm.trans (target?_eq_some.mp selected).1)
      exact List.contains_iff_mem.mp member
    next free =>
      obtain ⟨noList, inner⟩ := flat name body selected fun member => free (List.contains_iff_mem.mpr member)
      have inner := flat_asEntries listed noList inner
      generalize asEntries (inside body) = target at inner
      have own := inner target (mem_schemas_map.mpr (.inl rfl))
      refine Collapsing.flat ⟨own.toSound.mergeBeside sound, fun other points => ?_, fun e member made met => ?_, List.forall_mem_nil _⟩
      · rw [pointer?, field?_mergeBeside fun _ => rfl] at points
        exact own.settled other points
      · obtain before | ⟨b, beside, text, same⟩ := mem_mergeBeside member
        · exact inner made (mem_schemas_map.mpr (.inr ⟨e, before, met⟩))
        · exact below b beside made (schemasUnder_alike text same ▸ met)

/-- What comes of inlining is flat, to whatever depth definitions are put into each other. -/
theorem flat_inlined {n : Nat} (sound : ∀ schema ∈ schemas v, Sound key schema)
    (defined : ∀ name body, definitions.field? name = some body → body.list? = none ∧ ∀ schema ∈ schemas body, Sound key schema)
    (shallow : Shallow definitions kept n v) : ∀ made ∈ schemas (inlined definitions kept n v), Flat definitions kept key made := by
  induction n generalizing v with
  | zero =>
    refine rebuild_schemas fun schema met below => flat_simplify listed ((sound schema met).rebuilt _) below fun name body selected free => ?_
    obtain ⟨pointed, found⟩ := target_pointed met selected
    cases (shallow name pointed free).symm.trans found
  | succ n ih =>
    refine rebuild_schemas fun schema met below => flat_simplify listed ((sound schema met).rebuilt _) below fun name body selected free => ?_
    obtain ⟨pointed, found⟩ := target_pointed met selected
    obtain ⟨noList, own⟩ := defined name body found
    refine ⟨?_, ih own (shallow name pointed free body found)⟩
    cases n <;> exact list?_rebuilt noList _

end Inlining
end Schemas
end RecordSchema.Document
