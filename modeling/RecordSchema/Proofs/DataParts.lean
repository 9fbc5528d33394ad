import RecordSchema.Proofs.Outcome
import RecordSchema.Value.Equality
import RecordSchema.Value.Extent
import RecordSchema.Value.Rounds

/-! What holds of all parts of data. Where data holds itself, unfolding puts nothing into it that was not there before.
Two things about data can stop a check of it, whatever it is checked for: that it has no end, and that one of its keys
cannot be written. Main statements: `all_mono`, `all_unfolded`, `Stops.mono`. -/

namespace RecordSchema.Value

section Weaker
variable {holds other : Value → Bool}

mutual

/-- What holds of all parts of a value holds of them in every weaker form. -/
theorem all_mono (weaker : ∀ v, holds v = true → other v = true) : ∀ v : Value, v.all holds = true → v.all other = true := by
  intro v each
  cases v with
  | list items | tuple items | set items =>
    rw [all, Bool.and_eq_true] at each ⊢
    exact ⟨weaker _ each.1, allItems_mono weaker items each.2⟩
  | map entries | view entries =>
    rw [all, Bool.and_eq_true] at each ⊢
    exact ⟨weaker _ each.1, allEntries_mono weaker entries each.2⟩
  | record kind parts =>
    rw [all, Bool.and_eq_true] at each ⊢
    exact ⟨weaker _ each.1, allParts_mono weaker kind parts each.2⟩
  | ring _ body =>
    rw [all, Bool.and_eq_true] at each ⊢
    exact ⟨weaker _ each.1, all_mono weaker body each.2⟩
  | _ =>
    simp only [all, Bool.and_true] at each ⊢
    exact weaker _ each

theorem allItems_mono (weaker : ∀ v, holds v = true → other v = true) :
    ∀ items, allItems holds items = true → allItems other items = true
  | [], _ => rfl
  | v :: rest, each => by
    rw [allItems, Bool.and_eq_true] at each ⊢
    exact ⟨all_mono weaker v each.1, allItems_mono weaker rest each.2⟩

theorem allEntries_mono (weaker : ∀ v, holds v = true → other v = true) :
    ∀ entries, allEntries holds entries = true → allEntries other entries = true
  | [], _ => rfl
  | (k, v) :: rest, each => by
    rw [allEntries, Bool.and_eq_true, Bool.and_eq_true] at each ⊢
    exact ⟨⟨all_mono weaker k each.1.1, all_mono weaker v each.1.2⟩, allEntries_mono weaker rest each.2⟩

theorem allParts_mono (weaker : ∀ v, holds v = true → other v = true) :
    ∀ kind parts, allParts holds kind parts = true → allParts other kind parts = true
  | _, [], _ => rfl
  | kind, (name, v) :: rest, each => by
    rw [allParts, Bool.and_eq_true, Bool.or_eq_true] at each ⊢
    exact ⟨each.1.imp_right (all_mono weaker v), allParts_mono weaker kind rest each.2⟩

end

end Weaker

theorem all_of_mem_list {holds : Value → Bool} {items : List Value} (each : (Value.list items).all holds = true) :
    ∀ item ∈ items, item.all holds = true := by
  rw [all, Bool.and_eq_true] at each
  obtain ⟨-, inside⟩ := each
  induction items with
  | nil => simp
  | cons v rest ih =>
    rw [allItems, Bool.and_eq_true] at inside
    exact List.forall_mem_cons.mpr ⟨inside.1, ih inside.2⟩

theorem all_of_mem_entries {holds : Value → Bool} {entries : Entries} (each : allEntries holds entries = true) :
    ∀ e ∈ entries, e.1.all holds = true ∧ e.2.all holds = true := by
  induction entries with
  | nil => simp
  | cons e rest ih =>
    rw [allEntries, Bool.and_eq_true, Bool.and_eq_true] at each
    exact List.forall_mem_cons.mpr ⟨each.1, ih each.2⟩

theorem all_of_mem_map {holds : Value → Bool} {entries : Entries} (each : (Value.map entries).all holds = true) :
    ∀ e ∈ entries, e.2.all holds = true := by
  rw [all, Bool.and_eq_true] at each
  exact fun e member => (all_of_mem_entries each.2 e member).2

/-- A property of single values that does not look at what they hold, so that it stays where a ring is put in. -/
structure Stable (holds : Value → Bool) : Prop where
  ring : ∀ label body, holds (.ring label body) = true
  replaced : ∀ label whole v, (∀ l body, v ≠ .ring l body) → (∀ l, v ≠ .back l) →
    holds v = true → holds (replace label whole v) = true

section Unfolding
variable {holds : Value → Bool} {label : Nat} {whole v : Value} {items : List Value} {entries : Entries}

theorem all_ringed (stable : Stable holds) {body : Value} (held : body.all holds = true) : (ringed label body).all holds = true := by
  unfold ringed
  split
  · exact Bool.and_eq_true_iff.mpr ⟨stable.ring label body, held⟩
  · exact held

mutual

theorem all_replace (stable : Stable holds) (put : whole.all holds = true) :
    ∀ v : Value, v.all holds = true → (replace label whole v).all holds = true
  | .back l, held => by
    rw [replace]
    split
    · exact put
    · exact held
  | .ring l body, held => all_ringed stable (all_replace stable put body (Bool.and_eq_true_iff.mp held).2)
  | .list items, held | .tuple items, held =>
    have ⟨own, inner⟩ := Bool.and_eq_true_iff.mp held
    Bool.and_eq_true_iff.mpr ⟨stable.replaced label whole _ nofun nofun own, all_replaceItems stable put items inner⟩
  | .map entries, held | .view entries, held =>
    have ⟨own, inner⟩ := Bool.and_eq_true_iff.mp held
    Bool.and_eq_true_iff.mpr ⟨stable.replaced label whole _ nofun nofun own, all_replaceEntries stable put entries inner⟩
  | .record kind parts, held =>
    have ⟨own, inner⟩ := Bool.and_eq_true_iff.mp held
    Bool.and_eq_true_iff.mpr ⟨stable.replaced label whole _ nofun nofun own, all_replaceParts stable put kind parts inner⟩
  | .set _, held | .null, held | .nan _, held | .bool _, held | .int _, held | .float _, held | .str _, held | .bytes _, held
  | .member _, held | .hostType _, held | .violation _, held | .foreign _, held => held

theorem all_replaceItems (stable : Stable holds) (put : whole.all holds = true) :
    ∀ items : List Value, allItems holds items = true → allItems holds (replaceItems label whole items) = true
  | [], _ => rfl
  | v :: rest, held =>
    have ⟨first, others⟩ := Bool.and_eq_true_iff.mp held
    Bool.and_eq_true_iff.mpr ⟨all_replace stable put v first, all_replaceItems stable put rest others⟩

theorem all_replaceEntries (stable : Stable holds) (put : whole.all holds = true) :
    ∀ entries : List (Value × Value), allEntries holds entries = true → allEntries holds (replaceEntries label whole entries) = true
  | [], _ => rfl
  | (k, v) :: rest, held => by
    obtain ⟨first, others⟩ := Bool.and_eq_true_iff.mp held
    obtain ⟨key, value⟩ := Bool.and_eq_true_iff.mp first
    rw [replaceEntries, allEntries, key, all_replace stable put v value, all_replaceEntries stable put rest others]
    rfl

theorem all_replaceParts (stable : Stable holds) (put : whole.all holds = true) (kind : RecordKind) :
    ∀ parts : List (String × Value), allParts holds kind parts = true → allParts holds kind (replaceParts label whole parts) = true
  | [], _ => rfl
  | (name, v) :: rest, held => by
    obtain ⟨first, others⟩ := Bool.and_eq_true_iff.mp held
    rw [replaceParts, allParts, all_replaceParts stable put kind rest others, Bool.and_true]
    obtain hidden | value := Bool.or_eq_true_iff.mp first
    · rw [hidden, Bool.true_or]
    · rw [all_replace stable put v value, Bool.or_true]

end

theorem all_unfolded (stable : Stable holds) (held : v.all holds = true) : v.unfolded.all holds = true := by
  cases v with
  | ring label body => exact all_replace stable held body (Bool.and_eq_true_iff.mp held).2
  | _ => exact held

theorem allItems_of_items? (stable : Stable holds) (held : v.all holds = true) (found : v.items? = some items) :
    allItems holds items = true := by
  have all := all_unfolded stable held
  rw [items?] at found
  generalize v.unfolded = w at all found
  cases w with
  | list _ | tuple _ =>
    cases found
    exact (Bool.and_eq_true_iff.mp all).2
  | _ => cases found

theorem allEntries_of_mapping? (stable : Stable holds) (held : v.all holds = true) (found : v.mapping? = some entries) :
    (holds (.map entries) = true ∨ holds (.view entries) = true) ∧ allEntries holds entries = true := by
  have all := all_unfolded stable held
  rw [mapping?] at found
  generalize v.unfolded = w at all found
  cases w with
  | map _ =>
    cases found
    exact (Bool.and_eq_true_iff.mp all).imp_left .inl
  | view _ =>
    cases found
    exact (Bool.and_eq_true_iff.mp all).imp_left .inr
  | _ => cases found

end Unfolding

/-- What is a map as it stands is not unfolded. -/
theorem mapping?_of_entries {v : Value} {entries : Entries} (found : v.entries? = some entries) : v.mapping? = some entries := by
  cases v with
  | map _ | view _ => exact found
  | _ => cases found

/-- Whether the keys of a value itself can be steps. -/
def hasOwnSteps (v : Value) : Bool := v.entries?.all fun entries => entries.keys.all hasStep

/-- Whether all keys inside of a value can be steps. -/
def hasSteps (v : Value) : Bool := v.all hasOwnSteps

theorem keys_replaceEntries (label : Nat) (whole : Value) (entries : Entries) :
    Entries.keys (replaceEntries label whole entries) = entries.keys := by
  induction entries with
  | nil => rfl
  | cons e rest ih => exact congrArg (e.1 :: ·) ih

theorem stable_hasOwnSteps : Stable hasOwnSteps where
  ring _ _ := rfl
  replaced label whole v noRing noBack held := by
    cases v with
    | ring l body => exact absurd rfl (noRing l body)
    | back l => exact absurd rfl (noBack l)
    | map entries | view entries =>
      show (Entries.keys (replaceEntries label whole entries)).all hasStep = true
      rw [keys_replaceEntries]
      exact held
    | _ => rfl

theorem stable_hasOwnText : Stable hasOwnText where
  ring _ _ := rfl
  replaced label whole v noRing noBack held := by
    cases v with
    | ring l body => exact absurd rfl (noRing l body)
    | back l => exact absurd rfl (noBack l)
    | int _ | violation _ => exact held
    | _ => rfl

section Steps
variable {v w k : Value} {items : List Value} {entries : Entries}

theorem hasSteps_of_items? (found : v.items? = some items) (steps : v.hasSteps = true) : (list items).hasSteps = true :=
  allItems_of_items? stable_hasOwnSteps steps found

theorem hasSteps_of_mapping? (found : v.mapping? = some entries) (steps : v.hasSteps = true) : (map entries).hasSteps = true := by
  obtain ⟨own, inner⟩ := allEntries_of_mapping? stable_hasOwnSteps steps found
  exact Bool.and_eq_true_iff.mpr ⟨own.elim id id, inner⟩

/-- The keys of a map, and the parts of its first entry and of the others. -/
theorem hasSteps_entry (steps : (map ((k, v) :: entries)).hasSteps = true) :
    k.hasStep = true ∧ k.hasSteps = true ∧ v.hasSteps = true ∧ (map entries).hasSteps = true := by
  obtain ⟨keys, inner⟩ := Bool.and_eq_true_iff.mp steps
  obtain ⟨key, otherKeys⟩ := Bool.and_eq_true_iff.mp keys
  obtain ⟨first, others⟩ := Bool.and_eq_true_iff.mp inner
  obtain ⟨ofKey, ofValue⟩ := Bool.and_eq_true_iff.mp first
  exact ⟨key, ofKey, ofValue, Bool.and_eq_true_iff.mpr ⟨otherKeys, others⟩⟩

end Steps

/-- The fault that a value can stop its check with, whatever it is checked for. -/
def Stops (v : Value) (fault : Fault) : Prop :=
  fault = .endless ∧ v.hasEnd = false ∨ fault = .badValue ∧ v.hasSteps = false

theorem not_stops {v : Value} {fault : Fault} (ends : v.hasEnd = true) (steps : v.hasSteps = true) : ¬ v.Stops fault := by
  rintro (⟨-, endless⟩ | ⟨-, lost⟩)
  · rw [ends] at endless
    cases endless
  · rw [steps] at lost
    cases lost

namespace Stops
variable {v w k : Value} {fault : Fault} {items rest : List Value} {entries remaining : Entries}

theorem mono (ends : w.hasEnd = true → v.hasEnd = true) (steps : w.hasSteps = true → v.hasSteps = true) (stops : v.Stops fault) :
    w.Stops fault := by
  obtain ⟨rfl, endless⟩ | ⟨rfl, lost⟩ := stops
  · exact .inl ⟨rfl, Bool.eq_false_iff.mpr fun bounded => Bool.eq_false_iff.mp endless (ends bounded)⟩
  · exact .inr ⟨rfl, Bool.eq_false_iff.mpr fun written => Bool.eq_false_iff.mp lost (steps written)⟩

theorem of_unfolded (stops : v.unfolded.Stops fault) : v.Stops fault := by
  refine stops.mono (fun ends => ?_) (all_unfolded stable_hasOwnSteps)
  rwa [unfolded_of_hasEnd ends]

theorem of_items (found : v.items? = some items) (stops : (list items).Stops fault) : v.Stops fault :=
  stops.mono (fun ends => (items?_smaller found ends).1) (hasSteps_of_items? found)

theorem of_mapping (found : v.mapping? = some entries) (stops : (map entries).Stops fault) : v.Stops fault :=
  stops.mono (fun ends => (mapping?_smaller found ends).1) (hasSteps_of_mapping? found)

theorem head (stops : v.Stops fault) : (list (v :: rest)).Stops fault :=
  stops.mono (fun ends => (hasEnd_cons ends).1) fun steps => (Bool.and_eq_true_iff.mp steps).1

theorem tail (stops : (list rest).Stops fault) : (list (v :: rest)).Stops fault :=
  stops.mono (fun ends => (hasEnd_cons ends).2) fun steps => (Bool.and_eq_true_iff.mp steps).2

theorem unwritten (lost : k.hasStep = false) : (map ((k, v) :: remaining)).Stops .badValue := by
  refine .inr ⟨rfl, Bool.eq_false_iff.mpr fun steps => ?_⟩
  rw [(hasSteps_entry steps).1] at lost
  cases lost

theorem key (stops : k.Stops fault) : (map ((k, v) :: remaining)).Stops fault :=
  stops.mono (fun ends => (hasEnd_entry ends).1) fun steps => (hasSteps_entry steps).2.1

theorem value (stops : v.Stops fault) : (map ((k, v) :: remaining)).Stops fault :=
  stops.mono (fun ends => (hasEnd_entry ends).2.1) fun steps => (hasSteps_entry steps).2.2.1

theorem others (stops : (map remaining).Stops fault) : (map ((k, v) :: remaining)).Stops fault :=
  stops.mono (fun ends => (hasEnd_entry ends).2.2) fun steps => (hasSteps_entry steps).2.2.2

theorem field {name : String} (found : entries.field? name = some v) (stops : v.Stops fault) : (map entries).Stops fault := by
  induction entries with
  | nil => cases found
  | cons entry rest ih =>
    rw [Entries.field?] at found
    split at found
    · cases found
      exact stops.value
    · exact (ih found).others

end Stops

/-- The keys of a map are written one after another. -/
theorem requireSteps_failsOnly (entries : Entries) : (entries.keys.forM requireStep).FailsOnly (map entries).Stops := by
  induction entries with
  | nil => exact Except.failsOnly_ok _ _
  | cons entry rest ih =>
    obtain ⟨k, v⟩ := entry
    have first : (requireStep k).FailsOnly (map ((k, v) :: rest)).Stops := by
      unfold requireStep
      split
      · exact Except.failsOnly_ok _ _
      next lost => exact Except.failsOnly_error (.unwritten (Bool.eq_false_iff.mpr lost))
    exact first.bind fun _ _ => ih.mono fun _ => .others

end RecordSchema.Value
