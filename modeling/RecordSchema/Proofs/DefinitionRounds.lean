import RecordSchema.Proofs.DocumentDefinitions
import RecordSchema.Proofs.RewordedDocuments

/-! Rounds of writing. Each round writes one definition under a name that had none, whatever the name leads to, and no
name is written that is not counted. So after as many rounds as there are names nothing is missing, and a higher limit
comes to the same. Main statement: `writeUpTo_settled`. -/

namespace RecordSchema

namespace Drafting

variable {α β : Type}

/-- Two makings come to the same from a draft on if their first parts do, and the rest does from whatever these make. -/
theorem run_bind_congr {first firstToo : Drafting α} {next nextToo : α → Drafting β} {draft : Draft}
    (same : first.run draft = firstToo.run draft)
    (rest : ∀ a middle, Makes first draft a middle → (next a).run middle = (nextToo a).run middle) :
    (first >>= next).run draft = (firstToo >>= nextToo).run draft := by
  have split (making : Drafting α) (next : α → Drafting β) :
      (making >>= next).run draft = ExceptT.bindCont next (making.run draft).1 (making.run draft).2 := rfl
  rw [split, split, ← same]
  rcases made : first.run draft with ⟨outcome, middle⟩
  cases outcome with
  | error reason => rfl
  | ok a => exact rest a middle made

end Drafting

namespace Document
open Drafting Draft

variable (catalogs : Catalogs) (options : DocumentOptions)

/-- The definition of what is recorded. -/
def definitionOf : Option Target → Drafting Entries
  | none => throw (.fault .missingPart)
  | some (.schema s) => ofSchema catalogs options s
  | some (.lookalike _ _ _ (.error fault) _) => throw (.fault fault)
  | some (.lookalike _ _ _ (.ok s) gaps) => do
    let definition ← ofSchema catalogs options s
    if options.strict.isNone then
      if let some fault := gaps.strict then throw (.fault fault)
    return definition

/-- One round: what is recorded under a name is described, and that is written. -/
def writeOne (entry : Option Name × Option Target) : Drafting Unit := do
  modify fun draft => draft.begin (labelOf entry.1)
  let definition ← definitionOf catalogs options entry.2
  modify fun draft => draft.write (labelOf entry.1) (.map definition)

/-- Writing goes on round by round while something is missing. -/
theorem writeUpTo_succ (limit : Nat) :
    writeUpTo catalogs options (limit + 1) = get >>= fun draft =>
      match draft.missing with
      | [] => pure ()
      | entry :: _ => writeOne catalogs options entry >>= fun _ => writeUpTo catalogs options limit := by
  rw [writeUpTo]
  refine bind_congr fun draft => ?_
  cases draft.missing with
  | nil => rfl
  | cons entry rest =>
    obtain ⟨name, target⟩ := entry
    simp only [writeOne, bind_assoc]
    refine bind_congr fun _ => ?_
    cases target with
    | none => rfl
    | some found =>
      cases found with
      | schema s => rfl
      | lookalike serial thing forData forDocument gaps =>
        cases forDocument with
        | error fault => rfl
        | ok s =>
          simp only [definitionOf, bind_assoc]
          refine bind_congr fun definition => ?_
          cases options.strict.isNone <;> cases gaps.strict <;> rfl

variable {catalogs options}

theorem definitionOf_makes {target : Option Target} {before after : Draft} {keywords : Entries}
    (made : Makes (definitionOf catalogs options target) before keywords after) :
    ∃ found s, target = some found ∧ found.described? = some s ∧ Makes (ofSchema catalogs options s) before keywords after := by
  cases target with
  | none => exact absurd made not_makes_throw
  | some found =>
    cases found with
    | schema s => exact ⟨_, s, rfl, rfl, made⟩
    | lookalike serial thing forData forDocument gaps =>
      cases forDocument with
      | error fault => exact absurd made not_makes_throw
      | ok s =>
        obtain ⟨definition, middle, described, rest⟩ := makes_bind.mp made
        have same : keywords = definition ∧ after = middle := by
          split at rest
          · split at rest
            · obtain ⟨_, _, thrown, -⟩ := makes_bind.mp rest
              exact absurd thrown not_makes_throw
            · exact makes_pure.mp rest
          · exact makes_pure.mp rest
        obtain ⟨rfl, rfl⟩ := same
        exact ⟨_, s, rfl, rfl, described⟩

/-- What a round has described, and where it has been written. -/
theorem writeOne_makes {entry : Option Name × Option Target} {before after : Draft}
    (made : Makes (writeOne catalogs options entry) before ⟨⟩ after) :
    ∃ found s keywords middle, entry.2 = some found ∧ found.described? = some s ∧
      Makes (ofSchema catalogs options s) (before.begin (labelOf entry.1)) keywords middle ∧
      after = middle.write (labelOf entry.1) (.map keywords) := by
  obtain ⟨⟨⟩, _, begins, rest⟩ := makes_bind.mp made
  obtain rfl := makes_modify.mp begins
  obtain ⟨keywords, middle, defined, writes⟩ := makes_bind.mp rest
  obtain rfl := makes_modify.mp writes
  obtain ⟨found, s, target, told, described⟩ := definitionOf_makes defined
  exact ⟨found, s, keywords, middle, target, told, described, rfl⟩

theorem namesInTarget_of_described {found : Target} {s : Schema} (described : found.described? = some s) :
    namesInTarget (some found) = namesInSchema s := by
  cases found with
  | schema t =>
    cases described
    exact namesInTarget_schema _
  | lookalike _ _ _ forDocument _ =>
    cases forDocument with
    | error fault => cases described
    | ok t =>
      cases described
      rw [namesInTarget]

/-- What holds of a draft between two rounds: all names in it are counted, also those in what is recorded. -/
structure Counted (names : List String) (draft : Draft) : Prop where
  unambiguous : draft.Unambiguous
  targets : ∀ label found, draft.recorded? label = some found →
    ∃ name, label = some name ∧ name ∈ names ∧ namesInTarget found ⊆ names
  distinct : (draft.written.map Prod.fst).Nodup
  written : ∀ e ∈ draft.written, ∃ name ∈ names, e.1 = some name

namespace Counted

variable {names : List String} {draft after : Draft}

/-- While something is missing, fewer definitions are written than there are names. -/
theorem written_lt (counted : Counted names draft) {entry : Option Name × Option Target} (missing : entry ∈ draft.missing) :
    draft.written.length < names.length := by
  refine written_lt_of_missing counted.distinct ?_ counted.written missing
  intro entry listed
  obtain ⟨name, same, inside, -⟩ := counted.targets _ _ (counted.unambiguous.recorded? listed)
  exact ⟨name, inside, same⟩

theorem missing_eq_nil (counted : Counted names draft) (enough : names.length ≤ draft.written.length) :
    draft.missing = [] := by
  apply List.eq_nil_iff_forall_not_mem.mpr
  intro entry missing
  have fewer := counted.written_lt missing
  omega

/-- A round writes one definition, and all names stay counted. -/
theorem round (held : namesInCatalogs catalogs ⊆ names) (counted : Counted names draft)
    {entry : Option Name × Option Target} (missing : entry ∈ draft.missing)
    (made : Makes (writeOne catalogs options entry) draft ⟨⟩ after) :
    Counted names after ∧ after.written.length = draft.written.length + 1 := by
  obtain ⟨listed, unwritten⟩ := not_written_of_missing missing
  obtain ⟨found, s, keywords, middle, target, told, described, rfl⟩ := writeOne_makes made
  have growth := ofSchema_grows described
  obtain ⟨label, labelled, counts, within⟩ := counted.targets _ _ (counted.unambiguous.recorded? listed)
  rw [target, namesInTarget_of_described told] at within
  have before : middle.written = draft.written := growth.written
  have distinct := counted.distinct
  rw [← before] at unwritten distinct
  refine ⟨⟨growth.unambiguous counted.unambiguous, ?_, write_distinct unwritten distinct _, ?_⟩, ?_⟩
  · intro other known recorded
    obtain old | ⟨fresh, t, rfl, rfl, leads⟩ := growth.fresh other known recorded
    · exact counted.targets other known old
    · exact ⟨fresh, rfl, namesInTarget_of_leads within held leads⟩
  · rw [written_write unwritten, before]
    refine List.forall_mem_append.mpr ⟨counted.written, ?_⟩
    exact List.forall_mem_singleton.mpr ⟨label, counts, labelled⟩
  · rw [written_write unwritten, before, List.length_append, List.length_singleton]

/-- The names that a document counts, once its schema has been described. -/
theorem first {s : Schema} {key : String} {keywords : Entries}
    (described : Makes (ofSchema catalogs options s) { definitionsKey := key } keywords draft) :
    Counted (namesWithin catalogs draft) draft := by
  have growth := ofSchema_grows described
  refine ⟨growth.unambiguous List.nodup_nil, ?_, ?_, ?_⟩
  · intro label found recorded
    obtain impossible | ⟨name, t, rfl, rfl, -⟩ := growth.fresh label found recorded
    · cases impossible
    · obtain ⟨n, listed, same⟩ := recorded?_eq_some recorded
      have counts : name ∈ draft.targets.map fun entry => (labelOf entry.1).getD "" :=
        List.mem_map.mpr ⟨_, listed, congrArg (Option.getD · "") same⟩
      refine ⟨name, rfl, List.mem_append_left _ (List.mem_append_left _ counts), ?_⟩
      intro x inside
      exact List.mem_append_left _ (List.mem_append_right _ (List.mem_flatMap.mpr ⟨_, listed, inside⟩))
  · rw [growth.written]
    exact List.nodup_nil
  · rw [growth.written]
    exact List.forall_mem_nil _

/-- By induction on the rounds: none is left over once there have been as many as there are names. -/
theorem writeUpTo_settled (held : namesInCatalogs catalogs ⊆ names) (counted : Counted names draft) {limit : Nat}
    (enough : names.length ≤ draft.written.length + limit) (extra : Nat) :
    (writeUpTo catalogs options (limit + extra)).run draft = (writeUpTo catalogs options limit).run draft := by
  induction limit generalizing draft with
  | zero =>
    have done := counted.missing_eq_nil enough
    cases extra with
    | zero => rfl
    | succ extra =>
      rw [← Nat.add_assoc, writeUpTo_succ]
      show (match draft.missing with
        | [] => pure ()
        | entry :: _ => writeOne catalogs options entry >>= fun _ => writeUpTo catalogs options (0 + extra)).run draft = _
      rw [done]
      rfl
  | succ limit ih =>
    rw [Nat.add_right_comm, writeUpTo_succ, writeUpTo_succ]
    apply run_bind_congr rfl
    intro _ _ got
    obtain ⟨rfl, rfl⟩ := makes_get.mp got
    cases missing : Draft.missing _ with
    | nil => rfl
    | cons entry rest =>
      apply run_bind_congr rfl
      intro _ middle made
      obtain ⟨next, more⟩ := counted.round held (missing ▸ List.mem_cons_self) made
      apply ih next
      omega

end Counted

end Document
end RecordSchema
