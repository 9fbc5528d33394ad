import RecordSchema.Proofs.BuiltTypes
import RecordSchema.Proofs.PlainData
import RecordSchema.Proofs.StageDiscipline

/-! Checks of shapes beside checks in full. The shape of a value is what its type asks for without constraints, so that a
type can be stripped of them for it. A union can choose another variant for the shape than in full, and a reference asks
only for a mapping; but what passes in full has the shape. Main statements: `shape_unconstrained`,
`plain_data_unaltered`. -/

namespace RecordSchema

namespace SchemaType

mutual

/-- The type without its constraints, at every level. What a reference names is not part of the type. -/
def unconstrained : SchemaType → SchemaType
  | .primitive kind _ => .primitive kind []
  | .array element _ => .array (unconstrained element) []
  | .map key value _ => .map (unconstrained key) (unconstrained value) []
  | .union variants _ => .union (unconstrainedEach variants) []
  | .ref name target => .ref name target

def unconstrainedEach : List SchemaType → List SchemaType
  | [] => []
  | t :: rest => unconstrained t :: unconstrainedEach rest

end

mutual

theorem describe_unconstrained : ∀ t : SchemaType, t.unconstrained.describe = t.describe
  | .primitive _ _ | .ref _ _ => rfl
  | .array element _ => by rw [unconstrained, describe, describe, describe_unconstrained element]
  | .map key value _ => by
    rw [unconstrained, describe, describe, describe_unconstrained key, describe_unconstrained value]
  | .union variants _ => by rw [unconstrained, describe, describe, describeAll_unconstrained variants]

theorem describeAll_unconstrained : ∀ types : List SchemaType, describeAll (unconstrainedEach types) = describeAll types
  | [] => rfl
  | t :: rest => by
    rw [unconstrainedEach, describeAll, describeAll, describe_unconstrained t, describeAll_unconstrained rest]

end

mutual

theorem references_unconstrained : ∀ t : SchemaType, t.unconstrained.references = t.references
  | .primitive _ _ | .ref _ _ => rfl
  | .array element _ => references_unconstrained element
  | .map key value _ => by
    show key.unconstrained.references ++ value.unconstrained.references = key.references ++ value.references
    rw [references_unconstrained key, references_unconstrained value]
  | .union variants _ => referencesOf_unconstrained variants

theorem referencesOf_unconstrained : ∀ types : List SchemaType,
    referencesOf (unconstrainedEach types) = referencesOf types
  | [] => rfl
  | t :: rest => by
    show t.unconstrained.references ++ referencesOf (unconstrainedEach rest) = t.references ++ referencesOf rest
    rw [references_unconstrained t, referencesOf_unconstrained rest]

end

mutual

theorem allConstraints_unconstrained : ∀ t : SchemaType, t.unconstrained.allConstraints = []
  | .primitive _ _ | .ref _ _ => rfl
  | .array element _ => allConstraints_unconstrained element
  | .map key value _ => by
    rw [unconstrained, allConstraints, allConstraints_unconstrained key, allConstraints_unconstrained value]
    rfl
  | .union variants _ => constraintsOf_unconstrained variants

theorem constraintsOf_unconstrained : ∀ types : List SchemaType, constraintsOf (unconstrainedEach types) = []
  | [] => rfl
  | t :: rest => by
    rw [unconstrainedEach, constraintsOf, allConstraints_unconstrained t, constraintsOf_unconstrained rest]
    rfl

end

end SchemaType

namespace Proofs.ShapeChecks
open Validation

variable {catalogs : Catalogs}

theorem ownViolations_shape (cs : List Constraint) (v : Value) (path : Path) : ownViolations .shape cs v path = .ok [] := rfl

theorem ownViolations_none (mode : Mode) (v : Value) (path : Path) : ownViolations mode [] v path = .ok [] := by
  cases mode <;> rfl

section Erasure

/-- Checks of the shape, and checks in full where no reference leads anywhere. -/
def Bare (mode : Mode) (references : List (Name × Option Target)) : Prop := mode = .shape ∨ references = []

theorem Bare.of_append {mode : Mode} {left right : List (Name × Option Target)} (bare : Bare mode (left ++ right)) :
    Bare mode left ∧ Bare mode right := by
  obtain shape | none := bare
  · exact ⟨.inl shape, .inl shape⟩
  · obtain ⟨ofLeft, ofRight⟩ := List.append_eq_nil_iff.mp none
    exact ⟨.inr ofLeft, .inr ofRight⟩

variable (catalogs) in
/-- What each function does with the shape is done by types without constraints, too. Nothing is said of runs, since there
are none for a shape. -/
def erased : Motives where
  ofValue mode scope t v path := mode = .shape → ∀ other, Bare other t.references →
    check catalogs other scope t.unconstrained v path = check catalogs .shape scope t v path
  ofRun _ _ _ _ _ _ := True
  ofFields _ _ _ _ _ := True
  ofVariants mode scope variants v path := mode = .shape → ∀ other, Bare other (SchemaType.referencesOf variants) →
    checkVariants catalogs other scope (SchemaType.unconstrainedEach variants) v path = checkVariants catalogs .shape scope variants v path
  ofEntries mode scope key value path entries := mode = .shape → ∀ other, Bare other (key.references ++ value.references) →
    checkEntries catalogs other scope key.unconstrained value.unconstrained path entries =
      checkEntries catalogs .shape scope key value path entries
  ofItems mode scope t path index items := mode = .shape → ∀ other, Bare other t.references →
    checkItems catalogs other scope t.unconstrained path index items = checkItems catalogs .shape scope t path index items

private theorem erase : Cases catalogs (erased catalogs) where
  primitive mode scope kind cs v path := by
    intro _ other _
    rw [SchemaType.unconstrained, check, check, ownViolations_none, ownViolations_shape]
  array mode scope element cs v path ofItems := by
    intro shape other bare
    have described := SchemaType.describe_unconstrained (.array element cs)
    rw [SchemaType.unconstrained] at described ⊢
    cases found : v.items? with
    | none => rw [check_array_mismatch found, check_array_mismatch found, described]
    | some items =>
      rw [check_array_found found, check_array_found found, ofItems items found shape other bare, ownViolations_none,
        ownViolations_shape]
  map mode scope key value cs v path ofEntries := by
    intro shape other bare
    have described := SchemaType.describe_unconstrained (.map key value cs)
    rw [SchemaType.unconstrained] at described ⊢
    cases found : v.mapping? with
    | none => rw [check_map_mismatch found, check_map_mismatch found, described]
    | some entries =>
      rw [check_map_found found, check_map_found found, ofEntries entries found shape other bare, ownViolations_none,
        ownViolations_shape]
  union mode scope variants cs v path ofVariants := by
    intro shape other bare
    have described := SchemaType.describe_unconstrained (.union variants cs)
    rw [SchemaType.unconstrained] at described ⊢
    rw [check_union, check_union, ofVariants shape other bare, described]
  ref mode scope name target v path _ := by
    intro _ other bare
    obtain rfl | none := bare
    · rfl
    · cases none
  run _ _ _ _ _ _ _ := trivial
  noField _ _ _ _ := trivial
  field _ _ _ _ _ _ _ _ := trivial
  noVariant mode scope v path := by
    intro _ other _
    rw [SchemaType.unconstrainedEach, checkVariants, checkVariants]
  variant mode scope t rest v path ofValue ofRest := by
    intro shape other bare
    obtain ⟨first, later⟩ := bare.of_append
    rw [SchemaType.unconstrainedEach, checkVariants, checkVariants, ofValue shape other first, ofRest shape other later]
  noEntry mode scope key value path := by
    intro _ other _
    rw [checkEntries, checkEntries]
  entry mode scope key value path k v rest ofKey ofValue ofRest := by
    intro shape other bare
    obtain ⟨bareKey, bareValue⟩ := bare.of_append
    rw [checkEntries, checkEntries, entryPlace_eq]
    cases k.hasStep with
    | false => rfl
    | true =>
      simp only [if_true, Except.ok_bind]
      rw [ofKey shape other bareKey, ofValue shape other bareValue, ofRest shape other bare]
  noItem mode scope t path index := by
    intro _ other _
    rw [checkItems, checkItems]
  item mode scope t path index v rest ofValue ofRest := by
    intro shape other bare
    rw [checkItems, checkItems, ofValue shape other bare, ofRest shape other bare]

/-- The shape of a value is checked by the type without its constraints; without references also in full. -/
theorem check_unconstrained {scope : Scope} {t : SchemaType} {mode : Mode} (bare : Bare mode t.references) (v : Value) (path : Path) :
    check catalogs mode scope t.unconstrained v path = check catalogs .shape scope t v path :=
  erase.all.1 .shape scope t v path rfl mode bare

end Erasure

section Acceptance

variable (catalogs) in
/-- Where each function comes to a result in full, it does so by the shape, and finds nothing wrong if nothing was wrong in
full. Nothing is said of runs: a shape only takes from them that there was a map. -/
def accepting : Motives where
  ofValue mode scope t v path := ∀ rounds, mode = .full rounds → ∀ c, check catalogs mode scope t v path = .ok c →
    ∃ d, check catalogs .shape scope t v path = .ok d ∧ (c.violations = [] → d.violations = [])
  ofRun _ _ _ _ _ _ := True
  ofFields _ _ _ _ _ := True
  ofVariants mode scope variants v path := ∀ rounds, mode = .full rounds →
    ∀ first, checkVariants catalogs mode scope variants v path = .ok first →
      ∃ shaped, checkVariants catalogs .shape scope variants v path = .ok shaped ∧
        (∀ d, shaped = some d → d.violations = []) ∧ (first.isSome = true → shaped.isSome = true)
  ofEntries mode scope key value path entries := ∀ rounds, mode = .full rounds →
    ∀ checked, checkEntries catalogs mode scope key value path entries = .ok checked →
      ∃ shaped, checkEntries catalogs .shape scope key value path entries = .ok shaped ∧ (checked.2 = [] → shaped.2 = [])
  ofItems mode scope t path index items := ∀ rounds, mode = .full rounds →
    ∀ checked, checkItems catalogs mode scope t path index items = .ok checked →
      ∃ shaped, checkItems catalogs .shape scope t path index items = .ok shaped ∧ (checked.2 = [] → shaped.2 = [])

private theorem ref_accepts (mode : Mode) (scope : Scope) (name : Name) (target : Option Target) (v : Value) (path : Path) :
    (accepting catalogs).ofValue mode scope (.ref name target) v path := by
  rintro rounds rfl c checked
  obtain missed | ⟨found, entries, s, gaps, outcome, resolved, mapping, -, -, rfl⟩ := check_ref_eq_ok.mp checked
  · exact ⟨c, check_ref_shape_eq_ok.mpr (.inl missed), id⟩
  · have leads : (scope.lookup? catalogs name target).isSome = true := by rw [resolved]; rfl
    exact ⟨_, check_ref_shape_eq_ok.mpr (.inr ⟨entries, leads, mapping, rfl⟩), fun _ => rfl⟩

/-- A variant that passes in full has the shape, but an earlier one may have it, too. -/
private theorem variant_accepts (mode : Mode) (scope : Scope) (t : SchemaType) (rest : List SchemaType) (v : Value) (path : Path)
    (ofValue : (accepting catalogs).ofValue mode scope t v path) (ofRest : (accepting catalogs).ofVariants mode scope rest v path) :
    (accepting catalogs).ofVariants mode scope (t :: rest) v path := by
  intro rounds full first chosen
  obtain ⟨c, checked, chosen⟩ := checkVariants_cons_eq_ok.mp chosen
  obtain ⟨d, shaped, clean⟩ := ofValue rounds full c checked
  cases fits : d.violations with
  | nil =>
    refine ⟨some d, checkVariants_cons_eq_ok.mpr ⟨d, shaped, .inl ⟨fits, rfl⟩⟩, fun _ same => ?_, fun _ => rfl⟩
    cases same
    exact fits
  | cons x others =>
    have unfit : d.violations ≠ [] := by
      rw [fits]
      exact List.cons_ne_nil _ _
    obtain ⟨passed, -⟩ | ⟨-, later⟩ := chosen
    · exact absurd (clean passed) unfit
    · obtain ⟨shapedLater, found, cleanLater, some⟩ := ofRest rounds full first later
      exact ⟨shapedLater, checkVariants_cons_eq_ok.mpr ⟨d, shaped, .inr ⟨unfit, found⟩⟩, cleanLater, some⟩

private theorem accept : Cases catalogs (accepting catalogs) where
  primitive mode scope kind cs v path := by
    intro rounds full c checked
    obtain ⟨other, rfl⟩ | ⟨admitted, own, -, rfl⟩ := check_primitive_eq_ok.mp checked
    · exact ⟨_, check_primitive_eq_ok.mpr (.inl ⟨other, rfl⟩), id⟩
    · exact ⟨⟨v, []⟩, check_primitive_eq_ok.mpr (.inr ⟨admitted, [], rfl, rfl⟩), fun _ => rfl⟩
  array mode scope element cs v path ofItems := by
    intro rounds full c checked
    obtain ⟨none, rfl⟩ | ⟨items, own, inner, found, -, each, rfl⟩ := check_array_eq_ok.mp checked
    · exact ⟨_, check_array_eq_ok.mpr (.inl ⟨none, rfl⟩), id⟩
    · obtain ⟨shaped, again, clean⟩ := ofItems items found rounds full inner each
      refine ⟨_, check_array_of_items found rfl again rfl, fun silent => ?_⟩
      exact clean (List.append_eq_nil_iff.mp silent).2
  map mode scope key value cs v path ofEntries := by
    intro rounds full c checked
    obtain ⟨none, rfl⟩ | ⟨entries, own, inner, found, -, each, rfl⟩ := check_map_eq_ok.mp checked
    · exact ⟨_, check_map_eq_ok.mpr (.inl ⟨none, rfl⟩), id⟩
    · obtain ⟨shaped, again, clean⟩ := ofEntries entries found rounds full inner each
      refine ⟨_, check_map_eq_ok.mpr (.inr ⟨entries, [], shaped, found, rfl, again, rfl⟩), fun silent => ?_⟩
      exact clean (List.append_eq_nil_iff.mp silent).2
  union mode scope variants cs v path ofVariants := by
    intro rounds full c checked
    rw [check_union] at checked ⊢
    obtain ⟨first, chosen, rfl⟩ := Except.map_eq_ok.mp checked
    obtain ⟨shaped, found, clean, some⟩ := ofVariants rounds full first chosen
    refine ⟨_, Except.map_eq_ok.mpr ⟨shaped, found, rfl⟩, fun silent => ?_⟩
    cases first with
    | none => cases silent
    | some first =>
      obtain ⟨d, rfl⟩ := Option.isSome_iff_exists.mp (some rfl)
      exact clean d rfl
  ref mode scope name target v path _ := ref_accepts mode scope name target v path
  run _ _ _ _ _ _ _ := trivial
  noField _ _ _ _ := trivial
  field _ _ _ _ _ _ _ _ := trivial
  noVariant mode scope v path := by
    intro rounds full first chosen
    rw [checkVariants] at chosen
    cases chosen
    refine ⟨none, by rw [checkVariants]; rfl, fun d impossible => ?_, id⟩
    cases impossible
  variant := variant_accepts
  noEntry mode scope key value path := by
    intro rounds full checked _
    exact ⟨([], []), checkEntries_nil, fun _ => rfl⟩
  entry mode scope key value path k v rest ofKey ofValue ofRest := by
    intro rounds full checked each
    obtain ⟨written, c, d, others, checkedKey, checkedValue, remaining, rfl⟩ := checkEntries_cons_eq_ok.mp each
    obtain ⟨shapedKey, againKey, cleanKey⟩ := ofKey rounds full c checkedKey
    obtain ⟨shapedValue, againValue, cleanValue⟩ := ofValue rounds full d checkedValue
    obtain ⟨shaped, again, clean⟩ := ofRest rounds full others remaining
    refine ⟨_, checkEntries_cons_eq_ok.mpr ⟨written, shapedKey, shapedValue, shaped, againKey, againValue, again, rfl⟩, fun silent => ?_⟩
    obtain ⟨here, later⟩ := List.append_eq_nil_iff.mp silent
    obtain ⟨ofKey, ofValue⟩ := List.append_eq_nil_iff.mp here
    show shapedKey.violations ++ shapedValue.violations ++ shaped.2 = []
    rw [cleanKey ofKey, cleanValue ofValue, clean later]
    rfl
  noItem mode scope t path index := by
    intro rounds full checked _
    exact ⟨([], []), checkItems_nil, fun _ => rfl⟩
  item mode scope t path index v rest ofValue ofRest := by
    intro rounds full checked each
    obtain ⟨c, others, first, remaining, rfl⟩ := checkItems_cons_eq_ok.mp each
    obtain ⟨d, shapedFirst, cleanFirst⟩ := ofValue rounds full c first
    obtain ⟨shaped, again, clean⟩ := ofRest rounds full others remaining
    refine ⟨_, checkItems_of_cons shapedFirst again, fun silent => ?_⟩
    obtain ⟨here, later⟩ := List.append_eq_nil_iff.mp silent
    show d.violations ++ shaped.2 = []
    rw [cleanFirst here, clean later]
    rfl

/-- Where the check in full comes to a result, that of the shape does, too, and it accepts whatever the other one accepts. -/
theorem check_accepts {rounds : Nat} {scope : Scope} {t : SchemaType} {v : Value} {path : Path} {c : Checked}
    (checked : check catalogs (.full rounds) scope t v path = .ok c) :
    ∃ d, check catalogs .shape scope t v path = .ok d ∧ (c.violations = [] → d.violations = []) :=
  accept.all.1 (.full rounds) scope t v path rounds rfl c checked

end Acceptance

end Proofs.ShapeChecks

section Levels
open Validation

/-- Levels of a measure: high ones, or anything. -/
def levels : SchemaType :=
  .array (.union [.primitive .integer [⟨.atLeast, .int 10, .null⟩], .primitive .any []] []) [⟨.minItems, .int 1, .null⟩]

/-- The first level is too low, so that in full it passes as anything. -/
def lowLevels : Value := .list [.int 3, .int 12]

theorem lowLevels_pass (rounds : Nat) : check ⟨[]⟩ (.full rounds) ⟨none, none⟩ levels lowLevels [] = .ok (.clean lowLevels) := by
  have written : (Value.int 10).hasText = true := by decide +kernel
  have told : (⟨.atLeast, .int 10, .null⟩ : Constraint).violationText = .ok "must be greater than or equal to 10" := by
    rw [Constraint.violationText, Constraint.violationMessage, if_neg (show ¬ Value.null.isTrue = true from Bool.false_ne_true),
      Constraint.defaultMessage]
    simp only [Value.writtenText, written, if_true]
    rfl
  have tooLow : check ⟨[]⟩ (.full rounds) ⟨none, none⟩ (.primitive .integer [⟨.atLeast, .int 10, .null⟩]) (.int 3) [.index 0] =
      .ok ⟨.int 3, [⟨[.index 0], .constraintViolated, "must be greater than or equal to 10", some "gteq", none⟩]⟩ := by
    refine check_primitive_eq_ok.mpr (.inr ⟨rfl, _, ?_, rfl⟩)
    have unmet : (⟨.atLeast, .int 10, .null⟩ : Constraint).check (.int 3) = .ok false := rfl
    rw [ownViolations_unmet unmet, told]
    rfl
  have anything : check ⟨[]⟩ (.full rounds) ⟨none, none⟩ (.primitive .any []) (.int 3) [.index 0] = .ok (.clean (.int 3)) :=
    check_primitive_eq_ok.mpr (.inr ⟨rfl, _, rfl, rfl⟩)
  have high : check ⟨[]⟩ (.full rounds) ⟨none, none⟩ (.primitive .integer [⟨.atLeast, .int 10, .null⟩]) (.int 12) [.index 1] =
      .ok (.clean (.int 12)) :=
    check_primitive_eq_ok.mpr (.inr ⟨rfl, _, by with_unfolding_all rfl, rfl⟩)
  let level : SchemaType := .union [.primitive .integer [⟨.atLeast, .int 10, .null⟩], .primitive .any []] []
  have first : check ⟨[]⟩ (.full rounds) ⟨none, none⟩ level (.int 3) [.index 0] = .ok (.clean (.int 3)) := by
    rw [check_union, checkVariants_cons_eq_ok.mpr ⟨_, tooLow, .inr ⟨List.cons_ne_nil _ _,
      checkVariants_cons_eq_ok.mpr ⟨_, anything, .inl ⟨rfl, rfl⟩⟩⟩⟩]
    rfl
  have second : check ⟨[]⟩ (.full rounds) ⟨none, none⟩ level (.int 12) [.index 1] = .ok (.clean (.int 12)) := by
    rw [check_union, checkVariants_cons_eq_ok.mpr ⟨_, high, .inl ⟨rfl, rfl⟩⟩]
    rfl
  have enough : ownViolations (.full rounds) [⟨.minItems, .int 1, .null⟩] lowLevels [] = .ok [] := by with_unfolding_all rfl
  exact check_array_of_items rfl enough (checkItems_of_cons first (checkItems_of_cons second checkItems_nil)) rfl

end Levels

open Proofs.ShapeChecks Validation in
/-- The shape of a value is what its type asks for without constraints. It is the same whether they have been taken away
or not; without references it is what the stripped type asks for in full; and what passes in full has the shape, whatever
the references lead to. This is said of data that holds itself, too, however many rounds are left for it: callers can hand
it to be validated, and hooks can come up with it. -/
theorem shape_unconstrained (catalogs : Catalogs) (scope : Scope) (t : SchemaType) (v : Value) (path : Path) (rounds : Nat) :
    t.unconstrained.allConstraints = [] ∧
    check catalogs .shape scope t.unconstrained v path = check catalogs .shape scope t v path ∧
    (t.references = [] → check catalogs (.full rounds) scope t.unconstrained v path = check catalogs .shape scope t v path) ∧
    (∀ c, check catalogs (.full rounds) scope t v path = .ok c → c.isClean = true →
      ∃ d, check catalogs .shape scope t v path = .ok d ∧ d.isClean = true) := by
  refine ⟨t.allConstraints_unconstrained, check_unconstrained (.inl rfl) v path, fun alone => ?_, fun c passed clean => ?_⟩
  · exact check_unconstrained (.inr alone) v path
  · obtain ⟨d, shaped, silent⟩ := check_accepts passed
    exact ⟨d, shaped, List.isEmpty_iff.mpr (silent (List.isEmpty_iff.mp clean))⟩

open Validation in
theorem shape_unconstrained_lowLevels :
    check ⟨[]⟩ (.full Value.deepest) ⟨none, none⟩ levels lowLevels [] = .ok (.clean lowLevels) ∧ levels.references = [] ∧
      (∃ d, check ⟨[]⟩ .shape ⟨none, none⟩ levels lowLevels [] = .ok d ∧ d.isClean = true) ∧
      check ⟨[]⟩ (.full Value.deepest) ⟨none, none⟩ levels.unconstrained lowLevels [] = check ⟨[]⟩ .shape ⟨none, none⟩ levels lowLevels [] := by
  obtain ⟨-, -, full, accepted⟩ := shape_unconstrained ⟨[]⟩ ⟨none, none⟩ levels lowLevels [] Value.deepest
  exact ⟨lowLevels_pass _, rfl, accepted _ (lowLevels_pass _) rfl, full rfl⟩

open Validation in
/-- Nothing is coerced: without references, plain data that passes comes out as it went in, in full and by its shape,
whichever variants of unions it has passed as. All JSON data is plain. -/
theorem plain_data_unaltered (catalogs : Catalogs) (scope : Scope) (t : SchemaType) (alone : t.references = []) (v : Value)
    (plain : v.isPlain = true) (path : Path) :
    (∀ rounds c, check catalogs (.full rounds) scope t v path = .ok c → c.isClean = true → c.value = v) ∧
    (∀ c, check catalogs .shape scope t v path = .ok c → c.isClean = true → c.value = v) :=
  ⟨fun _ _ passed clean => Proofs.PlainData.check_unaltered alone plain passed (List.isEmpty_iff.mp clean),
    fun _ passed clean => Proofs.PlainData.check_unaltered alone plain passed (List.isEmpty_iff.mp clean)⟩

open Validation in
theorem plain_data_unaltered_lowLevels :
    levels.references = [] ∧ lowLevels.isPlain = true ∧
      check ⟨[]⟩ (.full Value.deepest) ⟨none, none⟩ levels lowLevels [] = .ok (.clean lowLevels) ∧ (Checked.clean lowLevels).value = lowLevels ∧
      ∃ c, check ⟨[]⟩ .shape ⟨none, none⟩ levels lowLevels [] = .ok c ∧ c.isClean = true ∧ c.value = lowLevels := by
  obtain ⟨full, shape⟩ := plain_data_unaltered ⟨[]⟩ ⟨none, none⟩ levels rfl lowLevels rfl []
  obtain ⟨c, shaped, clean⟩ := Proofs.ShapeChecks.check_accepts (lowLevels_pass Value.deepest)
  have fits : c.isClean = true := List.isEmpty_iff.mpr (clean rfl)
  exact ⟨rfl, rfl, lowLevels_pass _, full Value.deepest _ (lowLevels_pass _) rfl, c, shaped, fits, shape c shaped fits⟩

end RecordSchema
