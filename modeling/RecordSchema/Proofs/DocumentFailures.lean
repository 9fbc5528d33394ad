import RecordSchema.Proofs.BuiltSchema
import RecordSchema.Proofs.DocumentContent
import RecordSchema.Proofs.DocumentDefinitions

/-! Why no document is made. The making of one ends early only because of a reference that is shown: it leads
nowhere, or to another schema than one that goes by its name already. Main statements: `complete_fails`, and
`ofSchema_unresolved` for what is reported as lost. -/

namespace RecordSchema

theorem Constraint.keywords_returns {cs : List Constraint} (bounded : ∀ c ∈ cs, c.Bounded) : (keywords cs).Returns := by
  have each (done : Entries) : (keywords.go done cs).Returns := by
    induction cs generalizing done with
    | nil => exact Except.returns_ok done
    | cons c rest ih =>
      obtain ⟨first, others⟩ := List.forall_mem_cons.mp bounded
      rw [keywords.go]
      split
      next => exact ih others _
      next kind none =>
        obtain ⟨items, bound⟩ := first.choices kind
        rw [bound] at none
        cases none
      next => exact ih others _
  exact each []

namespace Draft

/-- What is recorded under names is known. -/
def Within (Known : String → Target → Prop) (draft : Draft) : Prop :=
  ∀ name t, draft.recorded? (some name) = some (some t) → Known name t

theorem Grows.within {New Known : String → Target → Prop} {before after : Draft} (growth : Grows New before after)
    (within : before.Within Known) (known : ∀ name t, New name t → Known name t) : after.Within Known := by
  intro name t recorded
  obtain old | ⟨_, _, same, target, new⟩ := growth.fresh _ _ recorded
  · exact within name t old
  · cases same
    cases target
    exact known _ _ new

end Draft

namespace Document
open Drafting Draft

variable {catalogs : Catalogs} {options : DocumentOptions} {scope : Scope} {references : List (Name × Option Target)}
  {Known : String → Target → Prop} {before : Draft} {e : Failing DocumentError}

variable (catalogs scope references Known) in
/-- An error that tells of one of the references: it leads nowhere, or to another target than one that is known
under its name. -/
inductive Blames : Failing DocumentError → Prop where
  | unresolved {r : Name × Option Target} (member : r ∈ references) (lost : scope.lookup? catalogs r.1 r.2 = none) :
      Blames (.reason (.unresolved r.1.shown))
  | ambiguous {r : Name × Option Target} {found known : Target} (member : r ∈ references)
      (resolved : scope.lookup? catalogs r.1 r.2 = some found) (recorded : Known r.1.label known)
      (other : known.serial ≠ found.serial) : Blames (.reason (.ambiguous r.1.shown))

/-- Only a name that is recorded for another target keeps a target from being recorded. -/
theorem refer_fails {name : Name} {found : Target} (within : before.Within Known)
    (failed : Fails (refer (some name) (some found)) before e) :
    ∃ known, Known name.label known ∧ known.serial ≠ found.serial ∧ e = .reason (.ambiguous name.shown) := by
  have pointed {draft : Draft} : ¬ Fails (pointerTo (labelOf (some name))) draft e := fun failed => by
    obtain impossible | ⟨_, _, -, impossible⟩ := fails_bind.mp failed
    · exact not_fails_get impossible
    · exact not_fails_pure impossible
  obtain impossible | ⟨draft, middle, got, rest⟩ := fails_bind.mp failed
  · exact absurd impossible not_fails_get
  obtain ⟨rfl, rfl⟩ := makes_get.mp got
  cases recorded : (middle.recorded? (labelOf (some name))).join with
  | none =>
    simp only [recorded] at rest
    obtain impossible | ⟨_, _, -, impossible⟩ := fails_bind.mp rest
    · exact absurd impossible not_fails_set
    · exact absurd impossible pointed
  | some known =>
    simp only [recorded] at rest
    split at rest
    next other =>
      refine ⟨known, within _ _ (Option.join_eq_some_iff.mp recorded), fun same => other (congrArg some same.symm), ?_⟩
      obtain thrown | ⟨_, _, impossible, -⟩ := fails_bind.mp rest
      · exact fails_throw.mp thrown
      · exact absurd impossible not_makes_throw
    next => exact absurd rest pointed

variable (catalogs scope references Known) in
/-- An error with a cause: one of the references, or else something that cannot be told in a document. -/
def Caused (tellable : Prop) (e : Failing DocumentError) : Prop :=
  Blames catalogs scope references Known e ∨ (∃ fault, e = .fault fault) ∧ ¬ tellable

theorem Caused.weaken {part whole : Prop} (caused : Caused catalogs scope references Known part e) (implies : whole → part) :
    Caused catalogs scope references Known whole e :=
  caused.imp_right fun ⟨fault, untellable⟩ => ⟨fault, fun tellable => untellable (implies tellable)⟩

theorem addKeywords_fails {schema : Entries} {cs : List Constraint} (failed : Fails (addKeywords schema cs) before e) :
    (∃ fault, e = .fault fault) ∧ ¬ ∀ c ∈ cs, c.Bounded := by
  unfold addKeywords at failed
  split at failed
  next => exact absurd failed not_fails_pure
  next fault stuck =>
    refine ⟨⟨fault, fails_throw.mp failed⟩, fun bounded => ?_⟩
    obtain ⟨keywords, told⟩ := Constraint.keywords_returns bounded
    rw [stuck] at told
    cases told

theorem propertyNames_fails {names : SchemaType} (failed : Fails (propertyNames names) before e) :
    (∃ fault, e = .fault fault) ∧ ¬ names.Bounded := by
  unfold propertyNames at failed
  split at failed
  next c rest =>
    obtain failed | ⟨_, _, -, impossible⟩ := fails_bind.mp failed
    · exact addKeywords_fails failed
    · exact absurd impossible not_fails_pure
  next => exact absurd failed not_fails_pure

mutual

/-- A type is described, unless one of its references is to blame or one of its constraints cannot be told. -/
theorem ofType_fails (covered : ∀ name found, Leads catalogs scope references name found → Known name found) :
    ∀ (t : SchemaType) {before : Draft}, t.shownReferences ⊆ references → before.Within Known →
      Fails (ofType catalogs scope t) before e → Caused catalogs scope references Known t.Bounded e
  | .primitive kind cs, _, _, _, failed => by
    rw [ofType] at failed
    exact .inr (addKeywords_fails failed)
  | .array element cs, _, shown, within, failed => by
    rw [ofType] at failed
    obtain failed | ⟨items, middle, -, failed⟩ := fails_bind.mp failed
    · exact (ofType_fails covered element shown within failed).weaken fun bounded => (List.forall_mem_append.mp bounded).2
    · exact Caused.weaken (.inr (addKeywords_fails failed)) fun bounded => (List.forall_mem_append.mp bounded).1
  | .map names value cs, _, shown, within, failed => by
    have parts (bounded : (SchemaType.map names value cs).Bounded) :
        (∀ c ∈ cs, c.Bounded) ∧ names.Bounded ∧ value.Bounded :=
      (List.forall_mem_append.mp bounded).imp_right List.forall_mem_append.mp
    rw [ofType] at failed
    obtain failed | ⟨values, middle, -, failed⟩ := fails_bind.mp failed
    · exact (ofType_fails covered value shown within failed).weaken fun bounded => (parts bounded).2.2
    obtain failed | ⟨named, _, -, failed⟩ := fails_bind.mp failed
    · exact Caused.weaken (.inr (propertyNames_fails failed)) fun bounded => (parts bounded).2.1
    · exact Caused.weaken (.inr (addKeywords_fails failed)) fun bounded => (parts bounded).1
  | .union variants cs, _, shown, within, failed => by
    rw [ofType] at failed
    obtain failed | ⟨_, _, -, impossible⟩ := fails_bind.mp failed
    · exact (ofVariants_fails covered variants shown within failed).weaken fun bounded => (List.forall_mem_append.mp bounded).2
    · exact absurd impossible not_fails_pure
  | .ref name target, _, shown, within, failed => by
    have member : (name, target) ∈ references := shown (List.mem_singleton_self _)
    rw [ofType] at failed
    split at failed
    next lost =>
      obtain rfl := fails_throw.mp failed
      exact .inl (.unresolved member lost)
    next found resolved =>
      obtain failed | ⟨_, _, -, impossible⟩ := fails_bind.mp failed
      · obtain ⟨known, recorded, other, rfl⟩ := refer_fails within failed
        exact .inl (.ambiguous member resolved recorded other)
      · exact absurd impossible not_fails_pure

theorem ofVariants_fails (covered : ∀ name found, Leads catalogs scope references name found → Known name found) :
    ∀ (types : List SchemaType) {before : Draft}, SchemaType.shownReferencesOf types ⊆ references → before.Within Known →
      Fails (ofVariants catalogs scope types) before e →
      Caused catalogs scope references Known (∀ c ∈ SchemaType.constraintsOf types, c.Bounded) e
  | [], _, _, _, failed => by
    rw [ofVariants] at failed
    exact absurd failed not_fails_pure
  | t :: rest, _, shown, within, failed => by
    obtain ⟨shownFirst, shownOthers⟩ := List.append_subset.mp shown
    rw [ofVariants] at failed
    obtain failed | ⟨_, middle, described, failed⟩ := fails_bind.mp failed
    · exact (ofType_fails covered t shownFirst within failed).weaken fun bounded => (List.forall_mem_append.mp bounded).1
    have further : middle.Within Known :=
      (ofType_grows t described).within within fun name found leads => covered name found (leads.mono shownFirst)
    obtain failed | ⟨_, _, -, impossible⟩ := fails_bind.mp failed
    · exact (ofVariants_fails covered rest shownOthers further failed).weaken fun bounded => (List.forall_mem_append.mp bounded).2
    · exact absurd impossible not_fails_pure

end

theorem owned_fails {v : Value} (failed : Fails (owned v) before e) : (∃ fault, e = .fault fault) ∧ ¬ v.isCopyable = true := by
  unfold owned Value.copy at failed
  split at failed
  next => exact absurd failed not_fails_pure
  next fault stuck =>
    refine ⟨⟨fault, fails_throw.mp failed⟩, fun copyable => ?_⟩
    rw [if_pos copyable] at stuck
    cases stuck

theorem withExtra_fails {schema extra : Entries} (failed : Fails (withExtra schema extra) before e) :
    (∃ fault, e = .fault fault) ∧ ¬ ∀ entry ∈ extra, entry.2.isCopyable = true := by
  induction extra generalizing schema before with
  | nil => exact absurd failed not_fails_pure
  | cons first rest ih =>
    obtain ⟨key, v⟩ := first
    obtain failed | ⟨_, _, -, failed⟩ := fails_bind.mp failed
    · exact (owned_fails failed).imp_right fun uncopyable copyable => uncopyable (List.forall_mem_cons.mp copyable).1
    · exact (ih failed).imp_right fun uncopyable copyable => uncopyable (List.forall_mem_cons.mp copyable).2

variable (options) in
/-- A built schema that refers to schemas only, as far as documents show it, and whose default values and further
keywords can be copied. -/
structure Describable (s : Schema) : Prop where
  built : s.IsBuilt
  carries : ∀ name target, (name, some target) ∈ s.shownReferences options → ∃ t, target = .schema t
  defaults : ∀ f ∈ s.shownFields options, ∀ v, f.default = some v → v.isCopyable = true
  extras : ∀ f ∈ s.shownFields options, ∀ e ∈ f.extra, e.2.isCopyable = true

/-- What a field declares can be told: its constraints, its default value and its further keywords. -/
structure Tellable (f : Field) : Prop where
  bounded : f.type.Bounded
  default : ∀ v, f.default = some v → v.isCopyable = true
  extra : ∀ entry ∈ f.extra, entry.2.isCopyable = true

theorem ofField_fails {s : Schema} {f : Field}
    (covered : ∀ name found, Leads catalogs scope references name found → Known name found)
    (shown : f.type.shownReferences ⊆ references) (within : before.Within Known)
    (failed : Fails (ofField catalogs scope s f) before e) : Caused catalogs scope references Known (Tellable f) e := by
  obtain failed | ⟨own, middle, -, rest⟩ := fails_bind.mp failed
  · exact (ofType_fails covered f.type shown within failed).weaken Tellable.bounded
  cases supplied : f.default with
  | none =>
    simp only [supplied, pure_bind] at rest
    exact Caused.weaken (.inr (withExtra_fails rest)) Tellable.extra
  | some v =>
    simp only [supplied, pure_bind] at rest
    obtain rest | ⟨_, _, -, rest⟩ := fails_bind.mp rest
    · exact Caused.weaken (.inr (owned_fails rest)) fun tellable => tellable.default v supplied
    · exact Caused.weaken (.inr (withExtra_fails rest)) Tellable.extra

theorem properties_fails {s : Schema} {fields : List Field}
    (covered : ∀ name found, Leads catalogs scope references name found → Known name found)
    (shown : ∀ f ∈ fields, f.type.shownReferences ⊆ references) (within : before.Within Known)
    (failed : Fails (properties catalogs scope s fields) before e) :
    Caused catalogs scope references Known (∀ f ∈ fields, Tellable f) e := by
  induction fields generalizing before with
  | nil =>
    rw [properties] at failed
    exact absurd failed not_fails_pure
  | cons f rest ih =>
    obtain ⟨first, others⟩ := List.forall_mem_cons.mp shown
    rw [properties] at failed
    obtain failed | ⟨_, middle, made, failed⟩ := fails_bind.mp failed
    · exact (ofField_fails covered first within failed).weaken fun tellable => (List.forall_mem_cons.mp tellable).1
    obtain ⟨own, typed, -⟩ := ofField_makes made
    have further : middle.Within Known :=
      (ofType_grows f.type typed).within within fun name found leads => covered name found (leads.mono first)
    obtain failed | ⟨_, _, -, impossible⟩ := fails_bind.mp failed
    · exact (ih others further failed).weaken fun tellable => (List.forall_mem_cons.mp tellable).2
    · exact absurd impossible not_fails_pure

/-- The description of a schema fails for a reference that it shows, or because a field of it cannot be told. -/
theorem ofSchema_caused {s : Schema} (covered : ∀ name found, LeadsFrom catalogs options s name found → Known name found)
    (within : before.Within Known) (failed : Fails (ofSchema catalogs options s) before e) :
    Caused catalogs (scopeOf options s) (s.shownReferences options) Known (∀ f ∈ s.shownFields options, Tellable f) e := by
  obtain failed | ⟨_, _, -, impossible⟩ := fails_bind.mp failed
  · exact properties_fails covered (fun f shown r mentioned => List.mem_flatMap.mpr ⟨f, shown, mentioned⟩) within failed
  · exact absurd impossible not_fails_pure

theorem ofSchema_fails {s : Schema} (describable : Describable options s)
    (covered : ∀ name found, LeadsFrom catalogs options s name found → Known name found) (within : before.Within Known)
    (failed : Fails (ofSchema catalogs options s) before e) :
    Blames catalogs (scopeOf options s) (s.shownReferences options) Known e := by
  refine (ofSchema_caused covered within failed).resolve_right fun ⟨_, untellable⟩ => untellable fun f shown => ?_
  have sound := describable.built.sound f (List.mem_filter.mp shown).1
  exact ⟨sound.bounded, describable.defaults f shown, describable.extras f shown⟩

/-- A reference is reported as lost only if it is. -/
theorem ofSchema_unresolved {s : Schema} {shown : String}
    (failed : Fails (ofSchema catalogs options s) before (.reason (.unresolved shown))) :
    ∃ r ∈ s.shownReferences options, (scopeOf options s).lookup? catalogs r.1 r.2 = none := by
  have within : before.Within fun _ _ => True := fun _ _ _ => trivial
  obtain blamed | ⟨⟨_, impossible⟩, -⟩ := ofSchema_caused (fun _ _ _ => trivial) within failed
  · cases blamed with
    | unresolved member lost => exact ⟨_, member, lost⟩
  · cases impossible

variable {Inside : String → Schema → Prop} {names : List String}

/-- Schemas of a kind as targets. -/
def Targets (Inside : String → Schema → Prop) (name : String) (found : Target) : Prop := ∃ t, found = .schema t ∧ Inside name t

theorem Ordered.within {draft : Draft} (ordered : Ordered catalogs options Inside names draft) :
    draft.Within (Targets Inside) := by
  intro name found recorded
  obtain ⟨_, t, same, target, -, inside⟩ := ordered.targets _ _ recorded
  cases same
  exact ⟨t, Option.some.inj target, inside⟩

/-- The writing of definitions ends early only in the description of a schema that is referred to. -/
theorem writeUpTo_fails {limit : Nat} {draft : Draft} (closed : Closed catalogs options Inside names)
    (ordered : Ordered catalogs options Inside names draft) (failed : Fails (writeUpTo catalogs options limit) draft e) :
    ∃ name t middle, Inside name t ∧ Draft.Within (Targets Inside) middle ∧ Fails (ofSchema catalogs options t) middle e := by
  induction limit generalizing draft with
  | zero => exact absurd failed not_fails_pure
  | succ limit ih =>
    rw [writeUpTo] at failed
    obtain impossible | ⟨_, now, got, taken⟩ := fails_bind.mp failed
    · exact absurd impossible not_fails_get
    obtain ⟨same, unchanged⟩ := makes_get.mp got
    rw [same, unchanged] at taken
    cases missing : draft.missing with
    | nil =>
      simp only [missing] at taken
      exact absurd taken not_fails_pure
    | cons entry rest =>
      have first : entry ∈ draft.missing := missing ▸ List.mem_cons_self
      obtain ⟨name, t, -, schema, -, inside⟩ := ordered.listed (not_written_of_missing first).1
      obtain ⟨label, target⟩ := entry
      cases schema
      simp only [missing] at taken
      obtain impossible | ⟨_, _, begins, round⟩ := fails_bind.mp taken
      · exact absurd impossible not_fails_modify
      obtain rfl := makes_modify.mp begins
      obtain failed | ⟨keywords, middle, described, writing⟩ := fails_bind.mp round
      · exact ⟨name, t, draft.begin (labelOf label), inside, ordered.within, failed⟩
      obtain ⟨next, -, -⟩ := ordered.round closed first inside rfl described
      obtain impossible | ⟨_, _, writes, remaining⟩ := fails_bind.mp writing
      · exact absurd impossible not_fails_modify
      obtain rfl := makes_modify.mp writes
      exact ih next remaining

variable {Reached : String → Schema → Prop}

/-- What is made is completed, unless the making fails itself or the description of a schema that is referred to. -/
theorem complete_fails_in (onward : Onward catalogs options Reached) {First : String → Target → Prop}
    (into : ∀ name found, First name found → ∃ t, found = .schema t ∧ Reached name t) {making : Drafting Entries}
    (grows : ∀ before made after, Makes making before made after → Grows First before after)
    (failed : complete catalogs options options.definitionsKey making = .error e) :
    Fails making { definitionsKey := options.definitionsKey } e ∨
      ∃ name t middle, Reached name t ∧ Draft.Within (Targets Reached) middle ∧ Fails (ofSchema catalogs options t) middle e := by
  obtain failed | ⟨body, first, described, failed⟩ := fails_bind.mp failed
  · exact .inl failed
  obtain failed | ⟨_, _, -, failed⟩ := fails_bind.mp failed
  · obtain impossible | ⟨_, now, got, failed⟩ := fails_bind.mp failed
    · exact absurd impossible not_fails_get
    obtain ⟨same, unchanged⟩ := makes_get.mp got
    rw [same, unchanged] at failed
    obtain ⟨name, t, middle, ⟨reached, -⟩, within, describing⟩ :=
      writeUpTo_fails (onward.closed first) (ordered_of_grows into (grows _ _ _ described)) failed
    refine .inr ⟨name, t, middle, reached, fun label found recorded => ?_, describing⟩
    obtain ⟨u, same, inside, -⟩ := within label found recorded
    exact ⟨u, same, inside⟩
  · obtain impossible | ⟨_, _, -, impossible⟩ := fails_bind.mp failed
    · exact absurd impossible not_fails_get
    · exact absurd impossible not_fails_pure

/-- What is made is completed, unless the making fails itself or a reference is to blame. -/
theorem complete_fails (onward : Onward catalogs options Reached)
    (describable : ∀ name t, Reached name t → Describable options t) {First : String → Target → Prop}
    (into : ∀ name found, First name found → ∃ t, found = .schema t ∧ Reached name t) {making : Drafting Entries}
    (grows : ∀ before made after, Makes making before made after → Grows First before after)
    (failed : complete catalogs options options.definitionsKey making = .error e) :
    Fails making { definitionsKey := options.definitionsKey } e ∨
      ∃ name t, Reached name t ∧ Blames catalogs (scopeOf options t) (t.shownReferences options) (Targets Reached) e := by
  refine (complete_fails_in onward into grows failed).imp_right fun ⟨name, t, middle, reached, within, describing⟩ => ?_
  exact ⟨name, t, reached, ofSchema_fails (describable name t reached) (onward name t reached) within describing⟩

end Document
end RecordSchema
