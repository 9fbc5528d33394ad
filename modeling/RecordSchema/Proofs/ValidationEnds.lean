import RecordSchema.Proofs.DocumentKeywords
import RecordSchema.Proofs.HookCalls
import RecordSchema.Proofs.Verdicts

/-! How validation ends, whatever hooks do. What is wrong with data and what hooks fail with comes back as violations,
unless the message for it is no text or has none; a result with keys that are no text does not come back either. Main
statement: `validate_ends`. -/

namespace RecordSchema

namespace Value

theorem writtenText_returns {v : Value} (text : v.hasText = true) : v.writtenText.Returns := by
  rw [writtenText, if_pos text]
  exact Except.returns_ok _

theorem decoded?_of_str? {v : Value} {text : String} (named : v.str? = some text) : v.decoded? = some text := by
  cases v with
  | bytes _ => cases named
  | _ => exact named

end Value

namespace Hook

/-- What the hook fails with can be written, be it a reason or an exception. -/
structure IsLegible (hook : Hook) : Prop where
  reasons : ∀ data reason, (hook.run data).2 = .failure reason → reason.hasText = true
  exceptions : ∀ data name text, (hook.run data).2 = .raised name text → text.Returns

/-- What the hook comes to can be taken in for one field: its reasons have an end, and all keys in its values can be
written. -/
structure IsComputing (hook : Hook) : Prop extends hook.IsLegible where
  ends : ∀ data reason, (hook.run data).2 = .failure reason → reason.hasEnd = true
  steps : ∀ data value, (hook.run data).2 = .success value → value.hasSteps = true

variable {hook : Hook} {data : Value}

/-- A failed call has the reason of the hook, or tells what the hook did instead of giving one. -/
theorem reason_of_invoke {left reason : Value} {fault : Bool} (failed : hook.invoke data = .ok (left, .failure reason fault)) :
    (hook.run data).2 = .failure reason ∨ ∃ message, reason = .str message := by
  unfold invoke at failed
  split at failed
  next => cases failed
  next told =>
    cases failed
    exact .inl (by rw [told])
  next =>
    cases failed
    exact .inr ⟨_, rfl⟩
  next =>
    obtain ⟨text, -, same⟩ := Except.bind_eq_ok.mp failed
    cases same
    exact .inr ⟨_, rfl⟩

theorem IsLegible.invoke_returns (legible : hook.IsLegible) (data : Value) : (hook.invoke data).Returns := by
  unfold invoke
  split
  case h_4 name text told =>
    exact (legible.exceptions data name text (by rw [told])).bind fun _ _ => Except.returns_ok _
  all_goals exact Except.returns_ok _

theorem IsLegible.reason_hasText (legible : hook.IsLegible) {left reason : Value} {fault : Bool}
    (failed : hook.invoke data = .ok (left, .failure reason fault)) : reason.hasText = true := by
  obtain told | ⟨message, rfl⟩ := reason_of_invoke failed
  · exact legible.reasons data reason told
  · rfl

theorem IsComputing.reason_hasEnd (computing : hook.IsComputing) {left reason : Value} {fault : Bool}
    (failed : hook.invoke data = .ok (left, .failure reason fault)) : reason.hasEnd = true := by
  obtain told | ⟨message, rfl⟩ := reason_of_invoke failed
  · exact computing.ends data reason told
  · rfl

end Hook

namespace Hooks

theorem violationOf_returns {reason : Value} (text : reason.hasText = true) (placed : PlacedHook) (path : Path) :
    (violationOf placed path reason).Returns := by
  unfold violationOf
  split
  · exact Except.returns_ok _
  · exact (Value.writtenText_returns text).bind fun _ _ => Except.returns_ok _

theorem reasons_haveText {reason : Value} (text : reason.hasText = true) : ∀ r ∈ reasons reason, r.hasText = true := by
  have whole : reason.unfolded.hasText = true := Value.all_unfolded Value.stable_hasOwnText text
  unfold reasons
  split
  · exact List.forall_mem_singleton.mpr rfl
  next same =>
    rw [same] at whole
    exact Value.all_of_mem_list whole
  · exact List.forall_mem_singleton.mpr text

theorem wordingsWithin_returns {rounds : Nat} {items : List Value} (each : ∀ v ∈ items, (wordingWithin rounds v).Returns) :
    (wordingsWithin rounds items).Returns := by
  induction items with
  | nil =>
    rw [wordingsWithin]
    exact Except.returns_ok _
  | cons v rest ih =>
    obtain ⟨first, later⟩ := List.forall_mem_cons.mp each
    rw [wordingsWithin]
    exact first.bind fun _ _ => (ih later).bind fun _ _ => Except.returns_ok _

theorem wordingWithin_returns (rounds : Nat) {v : Value} (text : v.hasText = true) (ends : v.hasEnd = true) :
    (wordingWithin rounds v).Returns := by
  induction size : sizeOf v using Nat.strongRecOn generalizing v with
  | _ n ih =>
    subst size
    rw [wordingWithin]
    split
    next => exact Except.returns_ok _
    next items same =>
      rw [Value.unfolded_of_hasEnd ends] at same
      subst same
      split
      next out =>
        rw [Value.roundsAfter_of_hasEnd ends] at out
        cases out
      next left spent =>
        obtain rfl := Option.some.inj (spent.symm.trans (Value.roundsAfter_of_hasEnd ends rounds))
        refine (wordingsWithin_returns fun v member => ?_).bind fun _ _ => Except.returns_ok _
        refine ih _ ?_ (Value.all_of_mem_list text v member) (Value.all_of_mem_list ends v member) rfl
        have inside := List.sizeOf_lt_of_mem member
        simp only [Value.list.sizeOf_spec]
        omega
    next => exact Value.writtenText_returns text

theorem runCrossField_returns {path : Path} {hooks : List PlacedHook} (legible : ∀ placed ∈ hooks, placed.hook.IsLegible)
    (fields : Entries) : (runCrossField path hooks fields).Returns := by
  rw [runCrossField_eq_callAll]
  refine callAll_returns (fun placed member fields => ⟨(legible placed member).invoke_returns _, ?_⟩) fields
  rintro ⟨left, value | ⟨reason, fault⟩⟩ called
  · simp only [readCrossField]
    cases value.mapping? <;> exact Except.returns_ok _
  · have text := reasons_haveText ((legible placed member).reason_hasText called)
    refine (Except.Returns.mapM fun r inside => ?_).bind fun _ _ => Except.returns_ok _
    exact violationOf_returns (text r inside) placed path

/-- A value that has steps can be compared with the type of its field, where shapes are checked. -/
theorem derivedMismatch?_returns {shape : SchemaType → Value → Path → Except Fault Checked} {s : Schema} {value : Value}
    (shaped : ∀ f ∈ s.fields, ∀ place, (shape f.type value place).Returns) (name : String) (place : Path) :
    (derivedMismatch? shape s name value place).Returns := by
  unfold derivedMismatch?
  split
  · exact Except.returns_ok _
  next f found =>
    refine (shaped f (List.mem_of_find?_eq_some found) place).bind fun c _ => ?_
    split <;> exact Except.returns_ok _

theorem runDerived_returns {shape : SchemaType → Value → Path → Except Fault Checked} {s : Schema} {path : Path}
    {hooks : List PlacedHook} (computing : ∀ placed ∈ hooks, placed.hook.IsComputing)
    (shaped : ∀ f ∈ s.fields, ∀ value place, value.hasSteps = true → (shape f.type value place).Returns) (fields : Entries) :
    (runDerived shape s path hooks fields).Returns := by
  rw [runDerived_eq_callAll]
  refine callAll_returns (fun placed member fields => ⟨(computing placed member).invoke_returns _, ?_⟩) fields
  have able := computing placed member
  rintro ⟨left, value | ⟨reason, fault⟩⟩ called
  · have succeeded : (placed.hook.run (.map fields)).2 = .success value := by rw [Hook.invoke_eq_success.mp called]
    have steps := able.steps _ value succeeded
    refine (derivedMismatch?_returns (fun f member place => shaped f member value place steps) _ _).bind fun met _ => ?_
    cases met <;> exact Except.returns_ok _
  · exact (wordingWithin_returns _ (able.reason_hasText called) (able.reason_hasEnd called)).bind fun _ _ => Except.returns_ok _

end Hooks

namespace Proofs.ValidationEnds
open Validation Acceptance Completion Verdicts

/-- All keys hold text. -/
def TextKeys (fields : Entries) : Prop := ∀ e ∈ fields, e.1.decoded?.isSome = true

/-- No hook of a schema brings in keys that are no text: the cross-field hooks in what they answer with, the derived
ones in what they leave of their argument. -/
structure KeepsTextKeys (s : Schema) : Prop where
  crossField : ∀ placed ∈ s.crossFieldHooks, ∀ fields value entries, TextKeys fields →
    (placed.hook.run (.map fields)).2 = .success value → value.mapping? = some entries → TextKeys entries
  derived : ∀ placed ∈ s.derivedHooks, ∀ fields entries, TextKeys fields →
    (placed.hook.run (.map fields)).1.mapping? = some entries → TextKeys entries

/-- A built schema that can tell all that is wrong: nothing in its fields stops a run, the messages of its constraints
and what its hooks fail with can be written, and what they compute can be taken in. -/
structure Candid (s : Schema) : Prop where
  built : s.IsBuilt
  carries : s.CarriesSchemas
  smooth : Smooth s
  tellable : ∀ f ∈ s.fields, ∀ c ∈ f.type.allConstraints, c.IsTellable
  crossField : ∀ placed ∈ s.crossFieldHooks, placed.hook.IsLegible
  derived : ∀ placed ∈ s.derivedHooks, placed.hook.IsComputing

variable {catalogs : Catalogs} {s : Schema} {fields : Entries}

theorem Candid.hookStages_returns (candid : Candid s) (path : Path) (catalog : Option CatalogId) (fields : Entries) :
    (hookStages catalogs s {} path catalog fields).Returns := by
  refine (Hooks.runCrossField_returns candid.crossField fields).bind fun crossed _ => ?_
  cases crossed with
  | error violations => exact Except.returns_ok _
  | ok crossed =>
    refine Hooks.runDerived_returns candid.derived (fun f _ value place steps => ?_) crossed
    exact check_shape_returns f.type steps place

/-- Runs of candid schemas return, unless the data stops them itself. -/
theorem run_ends (candid : ∀ t catalog, Reaches catalogs s t catalog → Candid t) (rounds : Nat) (v : Value) (path : Path) :
    (run catalogs rounds s {} v path none).FailsOnly v.Stops := by
  have surveyed : Surveyed catalogs (Reaches catalogs s) :=
    surveyed_of_built fun t catalog reached => ⟨(candid t catalog reached).built, (candid t catalog reached).carries⟩
  have settled : Settled catalogs (Reaches catalogs s) :=
    settled_of_built surveyed (fun t catalog reached => (candid t catalog reached).built)
      (fun t catalog reached => (candid t catalog reached).tellable) (fun t catalog reached => (candid t catalog reached).smooth)
      fun t catalog reached path around fields => (candid t catalog reached).hookStages_returns path around fields
  exact run_failsOnly settled rounds .self v path

section Keys

theorem textKeys_put {entries : Entries} (keys : TextKeys entries) (name : Name) (v : Value) :
    TextKeys (entries.put name.toValue v) := by
  intro e member
  obtain before | ⟨text, -⟩ := Entries.mem_put member
  · exact keys e before
  · rw [Value.decoded?_of_str? (text.trans (Value.str?_toValue name))]
    rfl

theorem runCrossField_textKeys {path : Path} {hooks : List PlacedHook}
    (keeps : ∀ placed ∈ hooks, ∀ fields value entries, TextKeys fields → (placed.hook.run (.map fields)).2 = .success value →
      value.mapping? = some entries → TextKeys entries) (keys : TextKeys fields) {crossed : Entries}
    (returned : Hooks.runCrossField path hooks fields = .ok (.ok crossed)) : TextKeys crossed := by
  induction hooks generalizing fields with
  | nil =>
    cases returned
    exact keys
  | cons placed rest ih =>
    obtain ⟨first, later⟩ := List.forall_mem_cons.mp keeps
    obtain ⟨left, value, entries, succeeded, answered, returned⟩ := Hooks.runCrossField_cons_eq_ok.mp returned
    exact ih later (first fields value entries keys (by rw [succeeded]) answered) returned

theorem runDerived_textKeys {shape : SchemaType → Value → Path → Except Fault Checked} {path : Path} {hooks : List PlacedHook}
    (keeps : ∀ placed ∈ hooks, ∀ fields entries, TextKeys fields →
      (placed.hook.run (.map fields)).1.mapping? = some entries → TextKeys entries) (keys : TextKeys fields) {computed : Entries}
    (returned : Hooks.runDerived shape s path hooks fields = .ok (.ok computed)) : TextKeys computed := by
  induction hooks generalizing fields with
  | nil =>
    cases returned
    exact keys
  | cons placed rest ih =>
    obtain ⟨first, later⟩ := List.forall_mem_cons.mp keeps
    obtain ⟨left, value, succeeded, -, returned⟩ := Hooks.runDerived_cons_eq_ok.mp returned
    refine ih later (textKeys_put ?_ _ value) returned
    cases remaining : left.mapping? with
    | none => exact keys
    | some entries =>
      have same : (placed.hook.run (.map fields)).1 = left := by rw [succeeded]
      exact first fields entries keys (same ▸ remaining)

theorem run_textKeys (keeps : KeepsTextKeys s) {rounds : Nat} {v : Value} {path : Path} {catalog : Option CatalogId}
    (returned : run catalogs rounds s {} v path catalog = .ok (.ok fields)) : TextKeys fields := by
  obtain ⟨found, crossed, fieldsFound, crossing, computing⟩ := stages_of_run returned
  have start : TextKeys found := by
    intro e member
    obtain ⟨f, -, same⟩ := fieldStages_keys fieldsFound e member
    rw [same, decoded?_toValue]
    rfl
  exact runDerived_textKeys keeps.derived (runCrossField_textKeys keeps.crossField start crossing) computing

end Keys

/-- The data that was accepted does not fit the container. -/
def MissesContainer (s : Schema) (result : Except (Failing ContainerError) Verdict) : Prop :=
  ∃ layout causes, s.container = some layout ∧ result = .error (.reason ⟨layout.name, causes⟩)

/-- Accepted data comes back, or it does not fit the container, or it has keys that are no text. -/
theorem accept_ends (s : Schema) (fields : Entries) :
    (∃ verdict, accept s fields = .ok verdict) ∨ MissesContainer s (accept s fields) ∨
      ¬ TextKeys fields ∧ ∃ causes, accept s fields = .error (.fault (.unfit causes)) := by
  have foreign : ∀ causes, withTextKeys fields = .error causes → ¬ TextKeys fields := by
    intro causes keyed keys
    rw [withTextKeys_of_texts keys] at keyed
    cases keyed
  cases laid : s.container with
  | none =>
    cases keyed : withTextKeys fields with
    | ok data => exact .inl ⟨_, accept_of_bare laid keyed⟩
    | error causes =>
      refine .inr (.inr ⟨foreign causes keyed, causes, ?_⟩)
      simp only [accept, laid, keyed]
      rfl
  | some layout =>
    cases packed : layout.pack fields with
    | error causes =>
      refine .inr (.inl ⟨layout, causes, laid, ?_⟩)
      simp only [accept, laid, packed]
      rfl
    | ok container =>
      cases keyed : withTextKeys fields with
      | ok data => exact .inl ⟨_, accept_of_packed laid packed keyed⟩
      | error causes =>
        refine .inr (.inr ⟨foreign causes keyed, causes, ?_⟩)
        simp only [accept, laid, packed, keyed]
        rfl

/-- With candid schemas validation comes to a verdict on every value, except that what is accepted may not fit the
container, or may have keys that are no text, and that data may have no end, or keys that cannot be written. Hooks that
keep keys text leave no room for the second of these. -/
theorem validate_ends (candid : ∀ t catalog, Reaches catalogs s t catalog → Candid t) (d : Value) :
    ((∃ verdict, validate catalogs s d = .ok verdict) ∨ MissesContainer s (validate catalogs s d) ∨
      (∃ fields causes, run catalogs Value.deepest s {} d.unfolded [] none = .ok (.ok fields) ∧ ¬ TextKeys fields ∧
        validate catalogs s d = .error (.fault (.unfit causes))) ∨
      ∃ fault, d.Stops fault ∧ validate catalogs s d = .error (.fault fault)) ∧
    (KeepsTextKeys s → (∃ verdict, validate catalogs s d = .ok verdict) ∨ MissesContainer s (validate catalogs s d) ∨
      ∃ fault, d.Stops fault ∧ validate catalogs s d = .error (.fault fault)) := by
  obtain ⟨outcome, returned⟩ | ⟨fault, stops, failed⟩ := (run_ends candid Value.deepest d.unfolded []).returns_or
  · cases outcome with
    | error violations =>
      have given := validate_of_violations returned
      exact ⟨.inl ⟨_, given⟩, fun _ => .inl ⟨_, given⟩⟩
    | ok fields =>
      rw [validate_of_fields returned]
      obtain verdict | misses | ⟨foreign, causes, fails⟩ := accept_ends s fields
      · exact ⟨.inl verdict, fun _ => .inl verdict⟩
      · exact ⟨.inr (.inl misses), fun _ => .inr (.inl misses)⟩
      · exact ⟨.inr (.inr (.inl ⟨fields, causes, returned, foreign, fails⟩)), fun keeps => absurd (run_textKeys keeps returned) foreign⟩
  · have stopped := And.intro stops.of_unfolded (validate_of_fault failed)
    exact ⟨.inr (.inr (.inr ⟨fault, stopped⟩)), fun _ => .inr (.inr ⟨fault, stopped⟩)⟩

/-- A hook on whole bookings that fails with an exception. -/
def raising : Hook := ⟨fun v => (v, .raising "KeyError" "'rooms'"), 1, "function", some "bookings", some "vacant", some "vacant"⟩

/-- A hook that computes a label. -/
def labelling : Hook := ⟨fun v => (v, .success (.str "booked")), 2, "function", some "bookings", some "label", some "label"⟩

def booking : Schema where
  serial := 1
  name := "Booking"
  fields := [
    { name := "nights", type := .primitive .integer [⟨.atLeast, .int 1, .str "stay a night"⟩], required := true, default := none,
      description := .null, examples := [], derived := false, extra := [] },
    { name := "label", type := .primitive .string [], required := false, default := none, description := .null,
      examples := [], derived := true, extra := [] }]
  crossFieldHooks := [raising.placed "Booking" .crossField 1 none]
  derivedHooks := [labelling.placed "Booking" .derived 1 (some "label")]
  title := none
  description := none
  strict := false
  container := none
  catalog := none

theorem booking_built : booking.IsBuilt := by
  have assembly : Schema.Assembly {} {} 1
      (.list [.tuple [.str "nights", .type (.primitive .integer [⟨.atLeast, .int 1, .str "stay a night"⟩])]])
      { name := "Booking", crossFieldHooks := [.hook raising],
        derivedFields := [.tuple [.str "label", .type (.primitive .string []), .hook labelling]] } booking :=
    ⟨_, booking.regularFields, booking.crossFieldHooks, booking.derivedFields.zip booking.derivedHooks, rfl,
      by with_unfolding_all rfl, by with_unfolding_all rfl, by with_unfolding_all rfl, rfl⟩
  exact ⟨_, _, _, _, _, assembly.build_eq rfl rfl rfl⟩

theorem booking_candid (t : Schema) (catalog : Option CatalogId) (reached : Reaches {} booking t catalog) : Candid t := by
  have references : booking.references = [] := rfl
  have itself : t = booking := by
    induction reached with
    | self => rfl
    | next _ member _ ih =>
      subst ih
      rw [references] at member
      cases member
  subst itself
  refine ⟨booking_built, fun name target member => ?_, fun f member => ⟨?_, ?_⟩, ?_, ?_, ?_⟩
  · rw [references] at member
    cases member
  · have none : ∀ f ∈ booking.fields, f.default = none := by simp [booking]
    intro v default
    cases (none f member).symm.trans default
  · have only : ∀ f ∈ booking.fields, ∀ c ∈ f.type.allConstraints, c.kind = .atLeast ∧ c.message = .str "stay a night" := by
      simp [booking, SchemaType.allConstraints]
    intro c inside
    obtain ⟨kind, message⟩ := only f member c inside
    refine ⟨fun pattern => (nomatch kind.symm.trans pattern), fun unworded => ?_⟩
    rw [message] at unworded
    cases unworded
  · have told : ∀ f ∈ booking.fields, ∀ c ∈ f.type.allConstraints, c.message = .str "stay a night" := by
      simp [booking, SchemaType.allConstraints]
    intro f member c inside
    rw [Constraint.IsTellable, told f member c inside]
    exact fun _ => rfl
  · refine List.forall_mem_singleton.mpr ⟨fun _ _ failed => (nomatch failed), fun _ _ _ raised => ?_⟩
    cases raised
    exact Except.returns_ok _
  · refine List.forall_mem_singleton.mpr ⟨⟨fun _ _ failed => (nomatch failed), fun _ _ _ raised => nomatch raised⟩,
      fun _ _ failed => (nomatch failed), fun _ _ succeeded => ?_⟩
    cases succeeded
    rfl

theorem booking_keepsTextKeys : KeepsTextKeys booking where
  crossField := List.forall_mem_singleton.mpr fun _ _ _ _ succeeded => nomatch succeeded
  derived := List.forall_mem_singleton.mpr fun _ _ keys left => Option.some.inj left ▸ keys

/-- The exception of a hook becomes a violation. -/
theorem booking_ends :
    (∀ t catalog, Reaches {} booking t catalog → Candid t) ∧ KeepsTextKeys booking ∧
      ∃ verdict, validate {} booking (.map [(.str "nights", .int 2)]) = .ok verdict := by
  refine ⟨booking_candid, booking_keepsTextKeys, ?_⟩
  obtain verdict | ⟨layout, _, laid, _⟩ | ⟨_, stops, _⟩ :=
    (validate_ends booking_candid (.map [(.str "nights", .int 2)])).2 booking_keepsTextKeys
  · exact verdict
  · cases laid
  · exact absurd stops (Value.not_stops rfl (by decide))

/-- A hook that answers with entries under numbers. -/
def numbering : Hook :=
  ⟨fun v => (v, .success (.map [(.int 1, .int 2)])), 3, "function", some "tallies", some "numbered", some "numbered"⟩

/-- Tallies: a count, and a hook that puts it under a number. -/
def tally : Schema where
  serial := 1
  name := "Tally"
  fields := [
    { name := "count", type := .primitive .integer [], required := true, default := none, description := .null,
      examples := [], derived := false, extra := [] }]
  crossFieldHooks := [numbering.placed "Tally" .crossField 1 none]
  derivedHooks := []
  title := none
  description := none
  strict := false
  container := none
  catalog := none

theorem tally_built : tally.IsBuilt := by
  have assembly : Schema.Assembly {} {} 1 (.list [.tuple [.str "count", .type (.primitive .integer [])]])
      { name := "Tally", crossFieldHooks := [.hook numbering] } tally :=
    ⟨_, tally.fields, tally.crossFieldHooks, [], rfl, by with_unfolding_all rfl, by with_unfolding_all rfl, rfl, rfl⟩
  exact ⟨_, _, _, _, _, assembly.build_eq rfl rfl rfl⟩

/-- What a hook answers with can end validation with a fault, where there is no container. -/
theorem numbered_keys_unfit :
    tally.IsBuilt ∧ tally.container = none ∧ validate {} tally (.map [(.str "count", .int 1)]) =
      .error (.fault (.unfit [⟨.stringType, [.name "data", .index 1, .name "[key]"]⟩])) := by
  have count : check {} (.full Value.deepest) ⟨some tally, none⟩ (.primitive .integer []) (.int 1) [.name "count"] =
      .ok (.clean (.int 1)) := check_primitive_eq_ok.mpr (.inr ⟨rfl, [], rfl, rfl⟩)
  have returned : run {} Value.deepest tally {} (.map [(.str "count", .int 1)]) [] none = .ok (.ok [(.int 1, .int 2)]) :=
    run_of_report rfl (fieldReport_of_present rfl count fieldReport_nil) rfl rfl
  exact ⟨tally_built, rfl, (validate_of_fields returned).trans rfl⟩

end Proofs.ValidationEnds
end RecordSchema
