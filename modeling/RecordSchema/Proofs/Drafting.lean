import RecordSchema.Document.Draft

/-! Making documents step by step. A draft that grows keeps what is recorded in it, and a reference
becomes a pointer to what is recorded under its name. Main statement: `refer_makes`. -/

namespace RecordSchema

namespace Drafting

variable {α β : Type} {before after : Draft}

/-- Something is made, and the draft is another one afterwards. -/
def Makes (making : Drafting α) (before : Draft) (made : α) (after : Draft) : Prop :=
  making.run before = (.ok made, after)

theorem makes_pure {a b : α} : Makes (pure a) before b after ↔ b = a ∧ after = before :=
  ⟨fun same => by cases same; exact ⟨rfl, rfl⟩, fun ⟨value, draft⟩ => by rw [value, draft]; rfl⟩

theorem makes_bind {first : Drafting α} {next : α → Drafting β} {b : β} :
    Makes (first >>= next) before b after ↔ ∃ a middle, Makes first before a middle ∧ Makes (next a) middle b after := by
  have split : (first >>= next).run before = ExceptT.bindCont next (first.run before).1 (first.run before).2 := rfl
  unfold Makes
  rw [split]
  rcases first.run before with ⟨outcome, middle⟩
  cases outcome with
  | ok a =>
    refine ⟨fun made => ⟨a, middle, rfl, made⟩, fun ⟨_, _, same, made⟩ => ?_⟩
    cases same
    exact made
  | error reason => exact ⟨fun made => (nomatch made), fun ⟨_, _, same, _⟩ => (nomatch same)⟩

theorem not_makes_throw {reason : Failing DocumentError} {a : α} : ¬ Makes (throw reason) before a after :=
  fun impossible => nomatch impossible

theorem makes_get {draft : Draft} : Makes get before draft after ↔ draft = before ∧ after = before :=
  ⟨fun same => by cases same; exact ⟨rfl, rfl⟩, fun ⟨value, draft⟩ => by rw [value, draft]; rfl⟩

theorem makes_set {draft : Draft} : Makes (set draft) before ⟨⟩ after ↔ after = draft :=
  ⟨fun same => by cases same; rfl, fun same => by rw [same]; rfl⟩

theorem makes_modify {change : Draft → Draft} : Makes (modify change) before ⟨⟩ after ↔ after = change before :=
  ⟨fun same => by cases same; rfl, fun same => by rw [same]; rfl⟩

/-- Making something ends with an error. -/
def Fails (making : Drafting α) (before : Draft) (e : Failing DocumentError) : Prop := (making.run before).1 = .error e

theorem fails_bind {first : Drafting α} {next : α → Drafting β} {e : Failing DocumentError} :
    Fails (first >>= next) before e ↔
      Fails first before e ∨ ∃ a middle, Makes first before a middle ∧ Fails (next a) middle e := by
  have split : (first >>= next).run before = ExceptT.bindCont next (first.run before).1 (first.run before).2 := rfl
  unfold Fails Makes
  rw [split]
  rcases first.run before with ⟨outcome, middle⟩
  cases outcome with
  | ok a =>
    refine ⟨fun failed => .inr ⟨a, middle, rfl, failed⟩, fun failed => ?_⟩
    obtain impossible | ⟨_, _, same, failed⟩ := failed
    · cases impossible
    · cases same
      exact failed
  | error reason =>
    refine ⟨fun failed => .inl (congrArg Except.error (Except.error.inj failed)), fun failed => ?_⟩
    obtain failed | ⟨_, _, impossible, _⟩ := failed
    · exact congrArg Except.error (Except.error.inj failed)
    · cases impossible

theorem not_fails_pure {a : α} {e : Failing DocumentError} : ¬ Fails (pure a) before e := fun impossible => nomatch impossible

theorem fails_throw {reason e : Failing DocumentError} : Fails (throw reason : Drafting α) before e ↔ e = reason :=
  ⟨fun failed => (Except.error.inj failed).symm, fun same => by rw [same]; rfl⟩

theorem not_fails_get {e : Failing DocumentError} : ¬ Fails get before e := fun impossible => nomatch impossible

theorem not_fails_set {draft : Draft} {e : Failing DocumentError} : ¬ Fails (set draft) before e := fun impossible => nomatch impossible

theorem not_fails_modify {change : Draft → Draft} {e : Failing DocumentError} : ¬ Fails (modify change) before e :=
  fun impossible => nomatch impossible

end Drafting

namespace Draft
open Drafting

/-- What is recorded under a name stays recorded. -/
structure Kept (before after : Draft) : Prop where
  key : after.definitionsKey = before.definitionsKey
  recorded : ∀ label t, before.recorded? label = some (some t) → after.recorded? label = some (some t)

theorem Kept.refl (draft : Draft) : Kept draft draft := ⟨rfl, fun _ _ recorded => recorded⟩

theorem Kept.trans {before middle after : Draft} (first : Kept before middle) (last : Kept middle after) :
    Kept before after :=
  ⟨last.key.trans first.key, fun label t recorded => last.recorded label t (first.recorded label t recorded)⟩

/-- No name is listed twice. -/
def Unambiguous (draft : Draft) : Prop := (draft.targets.map fun entry => labelOf entry.1).Nodup

theorem Unambiguous.recorded? {draft : Draft} (distinct : draft.Unambiguous) {entry : Option Name × Option Target}
    (listed : entry ∈ draft.targets) : draft.recorded? (labelOf entry.1) = some entry.2 := by
  unfold Draft.recorded?
  unfold Unambiguous at distinct
  generalize draft.targets = targets at distinct listed
  induction targets with
  | nil => cases listed
  | cons first rest ih =>
    obtain ⟨unlisted, distinct⟩ := List.nodup_cons.mp distinct
    obtain rfl | later := List.mem_cons.mp listed
    · exact congrArg (Option.map Prod.snd) (List.find?_cons_of_pos (decide_eq_true rfl))
    · have other : labelOf first.1 ≠ labelOf entry.1 := fun same =>
        unlisted (List.mem_map.mpr ⟨entry, later, same.symm⟩)
      refine (congrArg (Option.map Prod.snd) (List.find?_cons_of_neg ?_)).trans (ih distinct later)
      simpa using other

/-- A draft grows by targets under names, each of them new in the sense given. Nothing is written yet. -/
structure Grows (New : String → Target → Prop) (before after : Draft) : Prop extends Kept before after where
  written : after.written = before.written
  underway : after.underway = before.underway
  unambiguous : before.Unambiguous → after.Unambiguous
  fresh : ∀ label found, after.recorded? label = some found →
    before.recorded? label = some found ∨ ∃ name t, label = some name ∧ found = some t ∧ New name t

theorem recorded?_eq_some {draft : Draft} {label : Option String} {found : Option Target}
    (recorded : draft.recorded? label = some found) : ∃ name, (name, found) ∈ draft.targets ∧ labelOf name = label := by
  obtain ⟨⟨name, target⟩, listed, same⟩ := Option.map_eq_some_iff.mp recorded
  cases same
  exact ⟨name, List.mem_of_find?_eq_some listed, by simpa using List.find?_some listed⟩

/-- An entry, with the target if it stands under the name. -/
def retarget (name : Option Name) (target : Option Target) (entry : Option Name × Option Target) :
    Option Name × Option Target :=
  if labelOf entry.1 = labelOf name then (entry.1, target) else entry

theorem retarget_fst (name : Option Name) (target : Option Target) (entry : Option Name × Option Target) :
    (retarget name target entry).1 = entry.1 := by
  unfold retarget
  split <;> rfl

theorem recorded?_map_retarget (draft : Draft) (name : Option Name) (target : Option Target) (label : Option String) :
    ({ draft with targets := draft.targets.map (retarget name target) } : Draft).recorded? label =
      ((draft.targets.find? fun entry => labelOf entry.1 = label).map (retarget name target)).map Prod.snd := by
  -- the entries keep their names, so the same one is found before and after
  have found : (draft.targets.map (retarget name target)).find? (fun entry => labelOf entry.1 = label) =
      (draft.targets.find? fun entry => labelOf entry.1 = label).map (retarget name target) := by
    rw [List.find?_map]
    congr 2
    funext entry
    simp only [Function.comp_apply, retarget_fst]
  exact congrArg (Option.map Prod.snd) found

theorem recorded?_put (draft : Draft) (name : Option Name) (target : Option Target) (label : Option String) :
    (draft.put name target).recorded? label =
      if labelOf name = label then some target else draft.recorded? label := by
  unfold put
  split
  next referred =>
    refine (recorded?_map_retarget draft name target label).trans ?_
    rw [Option.map_map]
    split
    next same =>
      obtain ⟨_, recorded⟩ := Option.isSome_iff_exists.mp referred
      obtain ⟨entry, listed, -⟩ := Option.map_eq_some_iff.mp recorded
      have found : draft.targets.find? (fun entry => labelOf entry.1 = label) = some entry := by rw [← same]; exact listed
      have named : labelOf entry.1 = label := by simpa using List.find?_some found
      rw [found, Option.map_some, Function.comp_apply, retarget, if_pos (named.trans same.symm)]
    next other =>
      refine Option.map_congr fun entry listed => ?_
      have named : labelOf entry.1 = label := by simpa using List.find?_some listed
      have apart : labelOf entry.1 ≠ labelOf name := fun same => other (same.symm.trans named)
      rw [Function.comp_apply, retarget, if_neg apart]
  next unknown =>
    unfold recorded?
    rw [List.find?_append]
    split
    next same =>
      subst same
      have none := Option.not_isSome_iff_eq_none.mp unknown
      rw [Option.map_eq_none_iff.mp none]
      simp
    next other => simp [other]

theorem Grows.refl {New : String → Target → Prop} (draft : Draft) : Grows New draft draft :=
  ⟨.refl draft, rfl, rfl, id, fun _ _ recorded => .inl recorded⟩

theorem Grows.trans {New : String → Target → Prop} {before middle after : Draft} (first : Grows New before middle)
    (last : Grows New middle after) : Grows New before after where
  toKept := first.toKept.trans last.toKept
  written := last.written.trans first.written
  underway := last.underway.trans first.underway
  unambiguous listed := last.unambiguous (first.unambiguous listed)
  fresh label found recorded := (last.fresh label found recorded).elim (first.fresh label found) .inr

theorem Grows.weaken {New Other : String → Target → Prop} {before after : Draft} (growth : Grows New before after)
    (implies : ∀ name t, New name t → Other name t) : Grows Other before after where
  toKept := growth.toKept
  written := growth.written
  underway := growth.underway
  unambiguous := growth.unambiguous
  fresh label found recorded :=
    (growth.fresh label found recorded).imp_right fun ⟨name, t, known, same, new⟩ => ⟨name, t, known, same, implies name t new⟩

theorem put_unambiguous {draft : Draft} {name : Option Name} {target : Option Target} (distinct : draft.Unambiguous) :
    (draft.put name target).Unambiguous := by
  unfold put
  split
  next =>
    have labels : (draft.targets.map (retarget name target)).map (fun entry => labelOf entry.1) =
        draft.targets.map fun entry => labelOf entry.1 := by
      rw [List.map_map]
      exact List.map_congr_left fun entry _ => congrArg labelOf (retarget_fst name target entry)
    exact (congrArg List.Nodup labels).mpr distinct
  next unknown =>
    unfold Unambiguous
    rw [List.map_append]
    refine List.nodup_append.mpr ⟨distinct, List.pairwise_singleton _ _, fun label before other new => ?_⟩
    obtain ⟨entry, listed, rfl⟩ := List.mem_map.mp before
    cases List.mem_singleton.mp new
    intro same
    have known : draft.recorded? (labelOf name) = some entry.2 := by rw [← distinct.recorded? listed, same]
    exact unknown (by rw [isReferredTo, known]; rfl)

theorem put_grows {draft : Draft} {name : Name} {found : Target}
    (free : (draft.recorded? (some name.label)).join = none) :
    Grows (fun label t => label = name.label ∧ t = found) draft (draft.put (some name) (some found)) where
  key := by unfold put; split <;> rfl
  written := by unfold put; split <;> rfl
  underway := by unfold put; split <;> rfl
  unambiguous := put_unambiguous
  recorded label t recorded := by
    have other : some name.label ≠ label := by
      rintro rfl
      rw [recorded] at free
      cases free
    rw [recorded?_put, labelOf, Option.map_some, if_neg other, recorded]
  fresh label target recorded := by
    rw [recorded?_put, labelOf, Option.map_some] at recorded
    split at recorded
    next same =>
      cases recorded
      exact .inr ⟨name.label, found, same.symm, rfl, rfl, rfl⟩
    next => exact .inl recorded

theorem pointerTo_makes {label text : String} {before after : Draft} (made : Makes (pointerTo (some label)) before text after) :
    text = after.pointer label ∧ after = before := by
  obtain ⟨draft, middle, got, rest⟩ := makes_bind.mp made
  obtain ⟨rfl, rfl⟩ := makes_get.mp got
  obtain ⟨same, rfl⟩ := makes_pure.mp rest
  exact ⟨same, rfl⟩

/-- A reference becomes the pointer of its name, under which a target with the same number is recorded. -/
theorem refer_makes {name : Name} {found : Target} {before after : Draft} {text : String}
    (made : Makes (refer (some name) (some found)) before text after) :
    Grows (fun label t => label = name.label ∧ t = found) before after ∧ text = after.pointer name.label ∧
      ∃ known, after.recorded? (some name.label) = some (some known) ∧ known.serial = found.serial := by
  obtain ⟨draft, middle, got, rest⟩ := makes_bind.mp made
  obtain ⟨rfl, rfl⟩ := makes_get.mp got
  cases recorded : (middle.recorded? (labelOf (some name))).join with
  | none =>
    simp only [recorded] at rest
    obtain ⟨⟨⟩, noted, set, pointed⟩ := makes_bind.mp rest
    cases makes_set.mp set
    obtain ⟨pointer, rfl⟩ := pointerTo_makes pointed
    refine ⟨put_grows recorded, pointer, found, ?_, rfl⟩
    rw [recorded?_put]
    exact if_pos rfl
  | some known =>
    simp only [recorded] at rest
    split at rest
    next =>
      obtain ⟨_, _, thrown, -⟩ := makes_bind.mp rest
      exact absurd thrown not_makes_throw
    next same =>
      obtain ⟨pointer, rfl⟩ := pointerTo_makes rest
      exact ⟨.refl after, pointer, known, Option.join_eq_some_iff.mp recorded, (Option.some.inj (Decidable.not_not.mp same)).symm⟩

end Draft
end RecordSchema
