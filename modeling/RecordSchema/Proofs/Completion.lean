import RecordSchema.Proofs.Acceptance
import RecordSchema.Proofs.BuiltTypes
import RecordSchema.Proofs.DataParts

/-! When validation comes to an end with a verdict. Constraints of built types can be checked on every
value, up to searches for patterns that have no answer; then only a message that cannot be written, a
default that cannot be copied, or the data itself is left to stop a run. Main statement: `run_failsOnly`. -/

namespace RecordSchema

namespace Constraint

/-- The constraint is decided for every value. -/
def Answers (c : Constraint) : Prop := ∀ v, (c.check v).Returns

/-- The bound of the constraint can be written, unless its own message takes the place of the usual one. -/
def IsPrintable (c : Constraint) : Prop := c.message.isTrue = false → c.bound.hasText = true

/-- The message of the constraint, if it has one of its own, is text. -/
def IsTold (c : Constraint) : Prop := c.message = .null ∨ c.message.str?.isSome

/-- The message of the constraint holds text, unless it is empty and does not count. -/
def IsTellable (c : Constraint) : Prop := c.message.isTrue = true → c.message.decoded?.isSome = true

theorem IsTold.tellable {c : Constraint} (told : c.IsTold) : c.IsTellable := by
  intro own
  obtain null | text := told
  · rw [null] at own
    cases own
  · generalize c.message = message at text
    cases message with
    | str s => rfl
    | member m => rfl
    | _ => cases text

theorem checkSize_returns {size : Option Nat} {bound : Value} (counts : bound.quantity?.isSome)
    (holds : Quantity → Quantity → Bool) : (checkSize size bound holds).Returns := by
  obtain ⟨q, quantity⟩ := Option.isSome_iff_exists.mp counts
  unfold checkSize
  rw [quantity]
  cases size <;> exact Except.returns_ok _

theorem isAmong_failsOnly (v : Value) (items : List Value) : (isAmong v items).FailsOnly v.Stops := by
  induction items with
  | nil => exact Except.failsOnly_ok _ _
  | cons choice rest ih =>
    unfold isAmong
    split
    · exact Except.failsOnly_ok _ _
    · exact ih
    next untold => exact Except.failsOnly_error (.inl ⟨rfl, isChoice?_eq_none untold⟩)

/-- A bound that was accepted for a type stops the check of no value, but for searches. -/
theorem Bounded.failsOnly {c : Constraint} (bounded : c.Bounded) (noSearch : c.kind ≠ .pattern) (v : Value) :
    (c.check v).FailsOnly v.Stops := by
  unfold check
  cases kind : c.kind with
  | pattern => exact absurd kind noSearch
  | above | below | atLeast | atMost => exact Except.failsOnly_ok _ _
  | choices =>
    obtain ⟨items, bound⟩ := bounded.choices kind
    rw [bound]
    exact isAmong_failsOnly v items
  | minLength | maxLength | minItems | maxItems | minEntries | maxEntries =>
    obtain ⟨n, bound⟩ := bounded.size (by rw [kind]; rfl)
    rw [bound]
    exact (checkSize_returns rfl _).failsOnly

theorem Bounded.defaultMessage_returns {c : Constraint} (bounded : c.Bounded) (text : c.bound.hasText = true) :
    c.defaultMessage.Returns := by
  unfold defaultMessage
  cases kind : c.kind with
  | choices =>
    obtain ⟨items, bound⟩ := bounded.choices kind
    rw [bound] at text ⊢
    have listed : (Value.list items).writtenLiteral = .ok (Value.list items).literal := if_pos text
    show ((Value.list items).writtenLiteral >>= _).Returns
    rw [listed]
    exact Except.returns_ok _
  | pattern => simp only [Value.writtenLiteral, text, if_true]; exact Except.returns_ok _
  | _ => simp only [Value.writtenText, text, if_true]; exact Except.returns_ok _

theorem violationText_returns {c : Constraint} (bounded : c.Bounded) (tellable : c.IsTellable) (printable : c.IsPrintable) :
    c.violationText.Returns := by
  unfold violationText violationMessage
  split
  next own =>
    obtain ⟨message, decoded⟩ := Option.isSome_iff_exists.mp (tellable own)
    have read : c.message.readText = .ok message := by simp [Value.readText, decoded]
    rw [Except.ok_bind, read]
    exact Except.returns_ok _
  next none =>
    obtain ⟨message, told⟩ := bounded.defaultMessage_returns (printable (Bool.eq_false_iff.mpr none))
    rw [told]
    exact Except.returns_ok message

end Constraint

namespace Proofs.Completion
open Validation Acceptance

/-- Constraints that stop no check of a value which the value does not stop itself, and can be told. -/
def Decided (cs : List Constraint) : Prop := ∀ c ∈ cs, (∀ v, (c.check v).FailsOnly v.Stops) ∧ c.violationText.Returns

/-- Enclosed schemas in which nothing keeps a run from coming to an end. -/
structure Settled (catalogs : Catalogs) (Inside : Schema → Option CatalogId → Prop) : Prop
    extends Enclosed catalogs Inside where
  hooks : ∀ s catalog, Inside s catalog → ∀ path around fields, (hookStages catalogs s {} path around fields).Returns
  constraints : ∀ s catalog, Inside s catalog → ∀ f ∈ s.fields, Decided f.type.allConstraints
  defaults : ∀ s catalog, Inside s catalog → ∀ f ∈ s.fields, ∀ v, f.default = some v → v.isCopyable = true

variable {catalogs : Catalogs} {Inside : Schema → Option CatalogId → Prop}

theorem constraintViolations_failsOnly {cs : List Constraint} (decided : Decided cs) (v : Value) (path : Path) :
    (constraintViolations cs v path).FailsOnly v.Stops := by
  have failures : (Constraint.failures cs v).FailsOnly v.Stops ∧
      ∀ failed, Constraint.failures cs v = .ok failed → ∀ c ∈ failed, c ∈ cs := by
    induction cs with
    | nil => exact ⟨Except.failsOnly_ok _ [], fun failed same => by cases same; exact fun _ member => nomatch member⟩
    | cons c rest ih =>
      have checked := (decided c List.mem_cons_self).1 v
      obtain ⟨remaining, inside⟩ := ih fun d member => decided d (List.mem_cons_of_mem _ member)
      rw [Constraint.failures]
      refine ⟨checked.bind fun _ _ => remaining.bind fun _ _ => Except.failsOnly_ok _ _, fun failed same d member => ?_⟩
      obtain ⟨satisfied, -, same⟩ := Except.bind_eq_ok.mp same
      obtain ⟨others, remained, same⟩ := Except.bind_eq_ok.mp same
      cases same
      have within (later : d ∈ others) := List.mem_cons_of_mem c (inside others remained d later)
      cases satisfied with
      | true => exact within member
      | false =>
        obtain rfl | later := List.mem_cons.mp member
        · exact List.mem_cons_self
        · exact within later
  refine failures.1.bind fun failed checked => Except.FailsOnly.mapM fun c member => ?_
  exact (decided c (failures.2 failed checked c member)).2.failsOnly.bind fun _ _ => Except.failsOnly_ok _ _

theorem ownViolations_failsOnly {cs : List Constraint} (decided : Decided cs) (mode : Mode) (v : Value) (path : Path) :
    (ownViolations mode cs v path).FailsOnly v.Stops := by
  cases mode with
  | shape => exact Except.failsOnly_ok _ _
  | full rounds => exact constraintViolations_failsOnly decided v path

theorem entryPlace_failsOnly (path : Path) (k v : Value) (rest : Entries) :
    (entryPlace path k).FailsOnly (Value.map ((k, v) :: rest)).Stops := by
  rw [entryPlace_eq]
  split
  · exact Except.failsOnly_ok _ _
  next lost => exact Except.failsOnly_error (.unwritten (Bool.eq_false_iff.mpr lost))

variable (catalogs Inside) in
/-- Each function of a run ends with nothing but the faults of the data that it is given. -/
def motives : Motives where
  ofValue mode scope t v path := InScope catalogs Inside scope t → Decided t.allConstraints →
    (check catalogs mode scope t v path).FailsOnly v.Stops
  ofRun rounds s gaps v path catalog := gaps = {} → Inside s catalog → (run catalogs rounds s gaps v path catalog).FailsOnly v.Stops
  ofFields rounds scope path entries fields :=
    (∀ f ∈ fields, InScope catalogs Inside scope f.type ∧ Decided f.type.allConstraints ∧
      ∀ v, f.default = some v → v.isCopyable = true) →
    (fieldReport catalogs rounds scope path entries fields).FailsOnly (Value.map entries).Stops
  ofVariants mode scope variants v path := (∀ t ∈ variants, InScope catalogs Inside scope t ∧ Decided t.allConstraints) →
    (checkVariants catalogs mode scope variants v path).FailsOnly v.Stops
  ofEntries mode scope key value path entries :=
    InScope catalogs Inside scope key → Decided key.allConstraints →
    InScope catalogs Inside scope value → Decided value.allConstraints →
    (checkEntries catalogs mode scope key value path entries).FailsOnly (Value.map entries).Stops
  ofItems mode scope t path index items := InScope catalogs Inside scope t → Decided t.allConstraints →
    (checkItems catalogs mode scope t path index items).FailsOnly (Value.list items).Stops

private theorem field_failsOnly (rounds : Nat) (scope : Scope) (path : Path) (entries : Entries) (f : Field) (rest : List Field)
    (ofValue : ∀ v, entries.field? f.name.label = some v →
      (motives catalogs Inside).ofValue (.full rounds) scope f.type v (path ++ [.name f.name.label]))
    (ofRest : (motives catalogs Inside).ofFields rounds scope path entries rest) :
    (motives catalogs Inside).ofFields rounds scope path entries (f :: rest) := by
  intro given
  obtain ⟨inScope, decided, copyable⟩ := given f List.mem_cons_self
  have others := ofRest fun g member => given g (List.mem_cons_of_mem _ member)
  cases found : entries.field? f.name.label with
  | some v =>
    rw [fieldReport_present found]
    refine ((ofValue v found inScope decided).mono fun _ => .field found).bind fun _ _ => ?_
    exact others.bind fun _ _ => Except.failsOnly_ok _ _
  | none =>
    rw [fieldReport_absent found]
    have copied : (f.default.mapM Value.copy).Returns := by
      cases default : f.default with
      | none => exact Except.returns_ok none
      | some v =>
        have same : v.copy = .ok v := if_pos (copyable v default)
        exact ⟨some v, by show (some <$> v.copy) = _; rw [same]; rfl⟩
    exact copied.failsOnly.bind fun _ _ => others.bind fun _ _ => Except.failsOnly_ok _ _

private theorem run_failsOnly_of_fields (settled : Settled catalogs Inside) (rounds : Nat) (s : Schema) (gaps : Gaps) (v : Value)
    (path : Path) (catalog : Option CatalogId)
    (ofFields : ∀ entries left, v.mapping? = some entries → v.roundsAfter rounds = some left →
      (motives catalogs Inside).ofFields left ⟨some s, s.catalog.or catalog⟩ path entries s.regularFields) :
    (motives catalogs Inside).ofRun rounds s gaps v path catalog := by
  rintro rfl inside
  have regular (f : Field) (member : f ∈ s.regularFields) :
      InScope catalogs Inside ⟨some s, s.catalog.or catalog⟩ f.type ∧ Decided f.type.allConstraints ∧
        ∀ v, f.default = some v → v.isCopyable = true := by
    have declared := (List.mem_filter.mp member).1
    exact ⟨settled.inScope inside declared, settled.constraints s catalog inside f declared,
      settled.defaults s catalog inside f declared⟩
  have stages : (fieldStages catalogs rounds s {} v path catalog).FailsOnly v.Stops := by
    unfold fieldStages
    split
    · exact Except.failsOnly_ok _ _
    next entries _ out =>
      refine Except.failsOnly_error (.inl ⟨rfl, Bool.eq_false_iff.mpr fun ends => ?_⟩)
      rw [Value.roundsAfter_of_hasEnd ends] at out
      cases out
    next entries left mapping spent =>
      refine ((ofFields entries left mapping spent regular).mono fun _ => .of_mapping mapping).bind fun _ _ => ?_
      rw [unexpectedWith_nothing]
      split
      · exact (((Value.requireSteps_failsOnly entries).mono fun _ => .of_mapping mapping).bind fun _ _ =>
          Except.failsOnly_ok _ _).bind fun _ _ => Except.failsOnly_ok _ _
      · exact Except.failsOnly_ok _ _
  rw [run_eq_stages]
  refine stages.bind fun found _ => ?_
  cases found with
  | error violations => exact Except.failsOnly_ok _ _
  | ok fields => exact (settled.hooks s catalog inside path catalog fields).failsOnly

private theorem step (settled : Settled catalogs Inside) : Cases catalogs (motives catalogs Inside) where
  primitive mode scope kind cs v path := by
    intro _ decided
    rw [check]
    split
    · exact (ownViolations_failsOnly decided mode v path).bind fun _ _ => Except.failsOnly_ok _ _
    · exact Except.failsOnly_ok _ _
  array mode scope element cs v path ofItems := by
    intro inScope decided
    obtain ⟨own, inner⟩ := List.forall_mem_append.mp decided
    rw [check]
    split
    · exact Except.failsOnly_ok _ _
    next items some =>
      exact (ownViolations_failsOnly own mode v path).bind fun _ _ =>
        ((ofItems items some inScope inner).mono fun _ => .of_items some).bind fun _ _ => Except.failsOnly_ok _ _
  map mode scope key value cs v path ofEntries := by
    intro inScope decided
    obtain ⟨own, inner⟩ := List.forall_mem_append.mp decided
    obtain ⟨ofKey, ofValue⟩ := List.forall_mem_append.mp inner
    rw [check]
    split
    · exact Except.failsOnly_ok _ _
    next entries some =>
      refine ((ownViolations_failsOnly own mode _ path).mono fun _ => .of_mapping some).bind fun _ _ => ?_
      have each := ofEntries entries some (fun r member => inScope r (List.mem_append_left _ member)) ofKey
        (fun r member => inScope r (List.mem_append_right _ member)) ofValue
      exact (each.mono fun _ => .of_mapping some).bind fun _ _ => Except.failsOnly_ok _ _
  union mode scope variants cs v path ofVariants := by
    intro inScope decided
    obtain ⟨-, inner⟩ := List.forall_mem_append.mp decided
    rw [check]
    refine (ofVariants fun t member =>
      ⟨fun r inside => inScope r (SchemaType.mem_referencesOf.mpr ⟨t, member, inside⟩),
        fun c inside => inner c (SchemaType.mem_constraintsOf member inside)⟩).bind fun first _ => ?_
    cases first <;> exact Except.failsOnly_ok _ _
  ref mode scope name target v path ofRun := by
    intro inScope _
    cases resolved : scope.lookup? catalogs name target with
    | none =>
      rw [check_ref_unresolved resolved]
      exact Except.failsOnly_ok _ _
    | some found =>
      obtain ⟨s, rfl, inside⟩ := inScope (name, target) (List.mem_singleton_self _) found resolved
      cases mapping : v.mapping? with
      | none =>
        rw [check_ref_mismatch resolved mapping]
        exact Except.failsOnly_ok _ _
      | some entries =>
        cases mode with
        | shape =>
          rw [check_ref_shape resolved mapping]
          exact Except.failsOnly_ok _ _
        | full rounds =>
          have isMapping : v.isMapping = true := by rw [Value.isMapping, mapping]; rfl
          rw [check_ref_found resolved mapping]
          exact (ofRun rounds _ s {} rfl isMapping resolved rfl rfl inside).map Checked.ofRun
  run rounds s gaps v path catalog inner := run_failsOnly_of_fields settled rounds s gaps v path catalog
    fun entries left mapping spent => (inner entries left mapping spent).1
  noField rounds scope path entries := by
    intro _
    rw [fieldReport]
    exact Except.failsOnly_ok _ _
  field := field_failsOnly
  noVariant mode scope v path := by
    intro _
    rw [checkVariants]
    exact Except.failsOnly_ok _ _
  variant mode scope t rest v path ofValue ofRest := by
    intro given
    obtain ⟨inScope, decided⟩ := given t List.mem_cons_self
    rw [checkVariants]
    refine (ofValue inScope decided).bind fun c _ => ?_
    split
    · exact Except.failsOnly_ok _ _
    · exact ofRest fun u member => given u (List.mem_cons_of_mem _ member)
  noEntry mode scope key value path := by
    intro _ _ _ _
    rw [checkEntries]
    exact Except.failsOnly_ok _ _
  entry mode scope key value path k v rest ofKey ofValue ofRest := by
    intro inKey decidedKey inValue decidedValue
    rw [checkEntries]
    refine (entryPlace_failsOnly path k v rest).bind fun place placed => ?_
    obtain rfl : place = path ++ [k.keyStep] := by
      rw [entryPlace_eq] at placed
      split at placed
      · exact (Except.ok.inj placed).symm
      · cases placed
    refine ((ofKey inKey decidedKey).mono fun _ => .key).bind fun _ _ => ?_
    refine ((ofValue inValue decidedValue).mono fun _ => .value).bind fun _ _ => ?_
    exact ((ofRest inKey decidedKey inValue decidedValue).mono fun _ => .others).bind fun _ _ => Except.failsOnly_ok _ _
  noItem mode scope t path index := by
    intro _ _
    rw [checkItems]
    exact Except.failsOnly_ok _ _
  item mode scope t path index v rest ofValue ofRest := by
    intro inScope decided
    rw [checkItems]
    exact ((ofValue inScope decided).mono fun _ => .head).bind fun _ _ =>
      ((ofRest inScope decided).mono fun _ => .tail).bind fun _ _ => Except.failsOnly_ok _ _

/-- Runs of settled schemas return, unless the data stops them itself. -/
theorem run_failsOnly (settled : Settled catalogs Inside) (rounds : Nat) {s : Schema} {catalog : Option CatalogId}
    (inside : Inside s catalog) (v : Value) (path : Path) : (run catalogs rounds s {} v path catalog).FailsOnly v.Stops :=
  (step settled).all.2 rounds s {} v path catalog rfl inside

section Shapes
variable {scope : Scope} {element key value : SchemaType}

theorem checkItems_shape_returns {items : List Value}
    (each : ∀ v ∈ items, ∀ place, (check catalogs .shape scope element v place).Returns) (path : Path) (index : Nat) :
    (checkItems catalogs .shape scope element path index items).Returns := by
  induction items generalizing index with
  | nil =>
    rw [checkItems]
    exact Except.returns_ok _
  | cons v rest ih =>
    obtain ⟨first, later⟩ := List.forall_mem_cons.mp each
    rw [checkItems]
    exact (first _).bind fun _ _ => (ih later _).bind fun _ _ => Except.returns_ok _

theorem checkEntries_shape_returns {entries : Entries} (steps : (Value.map entries).hasSteps = true)
    (ofKey : ∀ v : Value, v.hasSteps = true → ∀ place, (check catalogs .shape scope key v place).Returns)
    (ofValue : ∀ v : Value, v.hasSteps = true → ∀ place, (check catalogs .shape scope value v place).Returns) (path : Path) :
    (checkEntries catalogs .shape scope key value path entries).Returns := by
  induction entries with
  | nil =>
    rw [checkEntries]
    exact Except.returns_ok _
  | cons e rest ih =>
    obtain ⟨k, v⟩ := e
    obtain ⟨written, keySteps, valueSteps, others⟩ := Value.hasSteps_entry steps
    rw [checkEntries, entryPlace_eq, if_pos written, Except.ok_bind]
    exact (ofKey k keySteps _).bind fun _ _ => (ofValue v valueSteps _).bind fun _ _ => (ih others).bind fun _ _ =>
      Except.returns_ok _

mutual

/-- The shape of data can always be told, if its keys can be written. By induction on the type: no schema is run. -/
theorem check_shape_returns : ∀ (t : SchemaType) {v : Value}, v.hasSteps = true → ∀ path,
    (check catalogs .shape scope t v path).Returns
  | .primitive kind cs, v, _, path => by
    rw [check]
    split <;> exact Except.returns_ok _
  | .array element cs, v, steps, path => by
    cases found : v.items? with
    | none =>
      rw [check_array_mismatch found]
      exact Except.returns_ok _
    | some items =>
      rw [check_array_found found]
      have inside := Value.all_of_mem_list (Value.hasSteps_of_items? found steps)
      refine (Except.returns_ok []).bind fun _ _ => Except.Returns.bind ?_ fun _ _ => Except.returns_ok _
      exact checkItems_shape_returns (fun v member => check_shape_returns element (inside v member)) path 0
  | .map key value cs, v, steps, path => by
    cases found : v.mapping? with
    | none =>
      rw [check_map_mismatch found]
      exact Except.returns_ok _
    | some entries =>
      rw [check_map_found found]
      refine (Except.returns_ok []).bind fun _ _ => Except.Returns.bind ?_ fun _ _ => Except.returns_ok _
      exact checkEntries_shape_returns (Value.hasSteps_of_mapping? found steps)
        (fun _ => check_shape_returns key) (fun _ => check_shape_returns value) path
  | .union variants cs, v, steps, path => by
    rw [check_union]
    exact (checkVariants_shape_returns variants steps path).map _
  | .ref name target, v, _, path => by
    cases resolved : scope.lookup? catalogs name target with
    | none =>
      rw [check_ref_unresolved resolved]
      exact Except.returns_ok _
    | some found =>
      cases mapping : v.mapping? with
      | none =>
        rw [check_ref_mismatch resolved mapping]
        exact Except.returns_ok _
      | some entries =>
        rw [check_ref_shape resolved mapping]
        exact Except.returns_ok _

theorem checkVariants_shape_returns : ∀ (variants : List SchemaType) {v : Value}, v.hasSteps = true → ∀ path,
    (checkVariants catalogs .shape scope variants v path).Returns
  | [], _, _, _ => by
    rw [checkVariants]
    exact Except.returns_ok _
  | t :: rest, v, steps, path => by
    rw [checkVariants]
    refine (check_shape_returns t steps path).bind fun c _ => ?_
    split
    · exact Except.returns_ok _
    · exact checkVariants_shape_returns rest steps path

end

end Shapes

end Proofs.Completion
end RecordSchema
