import RecordSchema.Proofs.References
import RecordSchema.Proofs.Stages
import RecordSchema.Proofs.ValidationInduction
import RecordSchema.Validation.Verdict

/-! Validation that leaves open what is done where a reference leads nowhere. Answering as validation does makes it
validation again, and where no reference is lost nothing else that could be answered makes a difference. Main
statement: `run_spared`. -/

namespace RecordSchema

/-- What is done with a value where a reference leads nowhere. -/
abbrev OnLost := Name → Value → Path → Except Fault Checked

/-- What validation does: it reports the reference. -/
def OnLost.reported : OnLost := fun name v path => .ok (.unresolved name v path)

namespace Validation
variable (lost : OnLost) (catalogs : Catalogs)

mutual

/-- Checks a value, in full or its shape alone. -/
def checkWith (mode : Mode) (scope : Scope) (t : SchemaType) (v : Value) (path : Path) : Except Fault Checked :=
  match t with
  | .primitive kind cs =>
    if kind.admits v then do return ⟨v, ← ownViolations mode cs v path⟩
    else return .mismatch kind.label v path
  | .array element cs =>
    match _found : v.items? with
    | none => return .mismatch (SchemaType.array element cs).describe v path
    | some items => do
      let own ← ownViolations mode cs v path
      let (items, violations) ← checkItemsWith mode scope element path 0 items
      return ⟨.list items, own ++ violations⟩
  | .map key value cs =>
    match _found : v.mapping? with
    | none => return .mismatch (SchemaType.map key value cs).describe v path
    | some entries => do
      let own ← ownViolations mode cs (.map entries) path
      let (entries, violations) ← checkEntriesWith mode scope key value path entries
      return ⟨.map entries, own ++ violations⟩
  | .union variants cs => do
    match ← checkVariantsWith mode scope variants v path with
    | some c => return c
    | none => return .mismatch (SchemaType.union variants cs).describe v path
  | .ref name target =>
    match scope.lookup? catalogs name target with
    | none => lost name v path
    | some found =>
      match v.mapping? with
      | none => return .mismatch (SchemaType.ref name target).describe v path
      | some entries =>
        match mode with
        | .shape => return .clean (.map entries)
        | .full rounds => do
          let (s, gaps) ← found.forRun
          return .ofRun (← runWith rounds s gaps v path scope.catalog)
  termination_by (mode.work v.hasEnd (sizeOf v), 1, sizeOf t, 0)
  decreasing_by
    · exact Mode.work_part (fun ends => (Value.items?_smaller _found ends).imp_right Nat.le_of_lt)
        (.right _ (.left _ _ (by simp only [SchemaType.array.sizeOf_spec]; omega)))
    · exact Mode.work_part (fun ends => (Value.mapping?_smaller _found ends).imp_right Nat.le_of_lt)
        (.right _ (.left _ _ (by simp only [SchemaType.map.sizeOf_spec]; omega)))
    · exact .right _ (.right _ (.left _ _ (by simp only [SchemaType.union.sizeOf_spec]; omega)))
    · exact .right _ (.left _ _ Nat.zero_lt_one)

/-- Checks the items of a sequence one after another. -/
def checkItemsWith (mode : Mode) (scope : Scope) (t : SchemaType) (path : Path) (index : Nat) (items : List Value) :
    Except Fault (List Value × List Violation) :=
  match items with
  | [] => return ([], [])
  | v :: rest => do
    let c ← checkWith mode scope t v (path ++ [.index index])
    let (items, violations) ← checkItemsWith mode scope t path (index + 1) rest
    return (c.value :: items, c.violations ++ violations)
  termination_by (mode.work (Value.list items).hasEnd (sizeOf items), 1, sizeOf t, items.length)
  decreasing_by
    · exact Mode.work_part (fun ends => ⟨(Value.hasEnd_cons ends).1, by simp; omega⟩) (.right _ (.right _ (by simp)))
    · exact Mode.work_part (fun ends => ⟨(Value.hasEnd_cons ends).2, by simp⟩) (.right _ (.right _ (by simp)))

/-- Checks the entries of a map one after another, of each the key before the value. -/
def checkEntriesWith (mode : Mode) (scope : Scope) (key value : SchemaType) (path : Path) (entries : Entries) :
    Except Fault (Entries × List Violation) :=
  match entries with
  | [] => return ([], [])
  | (k, v) :: rest => do
    let place ← entryPlace path k
    let ofKey ← checkWith mode scope key k place
    let ofValue ← checkWith mode scope value v place
    let (entries, violations) ← checkEntriesWith mode scope key value path rest
    return ((k, ofValue.value) :: entries, ofKey.violations ++ ofValue.violations ++ violations)
  termination_by (mode.work (Value.map entries).hasEnd (sizeOf entries), 1, sizeOf key + sizeOf value, entries.length)
  decreasing_by
    · refine Mode.work_part (fun ends => ⟨(Value.hasEnd_entry ends).1, by simp; omega⟩) (.right _ ?_)
      exact .left _ _ (Nat.lt_add_of_pos_right (sizeOf_type_pos value))
    · refine Mode.work_part (fun ends => ⟨(Value.hasEnd_entry ends).2.1, by simp; omega⟩) (.right _ ?_)
      exact .left _ _ (Nat.lt_add_of_pos_left (sizeOf_type_pos key))
    · exact Mode.work_part (fun ends => ⟨(Value.hasEnd_entry ends).2.2, by simp⟩) (.right _ (.right _ (by simp)))

/-- The first variant with nothing wrong. -/
def checkVariantsWith (mode : Mode) (scope : Scope) (variants : List SchemaType) (v : Value) (path : Path) :
    Except Fault (Option Checked) :=
  match variants with
  | [] => return none
  | t :: rest => do
    let c ← checkWith mode scope t v path
    if c.isClean then return some c else checkVariantsWith mode scope rest v path
  termination_by (mode.work v.hasEnd (sizeOf v), 1, sizeOf variants, 0)
  decreasing_by all_goals exact .right _ (.right _ (.left _ _ (by simp only [List.cons.sizeOf_spec]; omega)))

/-- Checks the declared fields. -/
def fieldReportWith (rounds : Nat) (scope : Scope) (path : Path) (entries : Entries) (fields : List Field) :
    Except Fault FieldReport :=
  match fields with
  | [] => return {}
  | f :: rest =>
    match _found : entries.field? f.name.label with
    | some v => do
      let c ← checkWith (.full rounds) scope f.type v (path ++ [.name f.name.label])
      let report ← fieldReportWith rounds scope path entries rest
      return report.withPresent f c
    | none => do
      let default ← f.default.mapM Value.copy
      let report ← fieldReportWith rounds scope path entries rest
      return report.withAbsent f path default
  termination_by ((Mode.full rounds).work (Value.map entries).hasEnd (sizeOf entries), 2, sizeOf fields, 0)
  decreasing_by
    · exact Mode.work_part (fun ends => ⟨(field?_smaller _found).2 ends, Nat.le_of_lt (field?_smaller _found).1⟩)
        (.left _ _ (by omega))
    all_goals exact .right _ (.right _ (.left _ _ (by simp only [List.cons.sizeOf_spec]; omega)))

/-- Runs all stages of a schema on a value. -/
def runWith (rounds : Nat) (s : Schema) (gaps : Gaps) (v : Value) (path : Path) (catalog : Option CatalogId) :
    Except Fault (Except (List Violation) Entries) :=
  match _found : v.mapping?, _left : v.roundsAfter rounds with
  | none, _ => return .error (Checked.mismatch "object" v path).violations
  | some _, none => throw .endless
  | some entries, some left => do
    let scope : Scope := ⟨some s, s.catalog.or catalog⟩
    let report ← fieldReportWith left scope path entries s.regularFields
    let unexpected ← unexpectedWith gaps s path entries
    if (report.violations unexpected).isEmpty then
      require gaps.hooks
      runHooks (fun t w place => checkWith .shape scope t w place) s path report.output
    else return .error (report.violations unexpected)
  termination_by ((Mode.full rounds).work v.hasEnd (sizeOf v), 0, 0, 0)
  decreasing_by
    · exact .left _ _ (Value.work_round _left fun ends => Value.mapping?_smaller _found ends)
    · exact .left _ _ (Mode.work_shape rounds _ _ _ (sizeOf_value_pos v))

end

/-- Validates data against a schema. -/
def validateWith (s : Schema) (data : Value) : Except (Failing ContainerError) Verdict := do
  match ← Failing.ofFault (runWith lost catalogs Value.deepest s {} data.unfolded [] none) with
  | .ok fields => accept s fields
  | .error violations => return .rejected violations

end Validation

namespace Validation
variable {lost : OnLost} {catalogs : Catalogs} {mode : Mode} {scope : Scope} {v : Value} {path : Path}

theorem checkWith_array_mismatch {element : SchemaType} {cs : List Constraint} (noSequence : v.items? = none) :
    checkWith lost catalogs mode scope (.array element cs) v path = .ok (.mismatch (SchemaType.array element cs).describe v path) := by
  rw [checkWith]
  split
  next => rfl
  next _ found => rw [noSequence] at found; cases found

theorem checkWith_array_found {element : SchemaType} {cs : List Constraint} {items : List Value}
    (found : v.items? = some items) : checkWith lost catalogs mode scope (.array element cs) v path = do
      let own ← ownViolations mode cs v path
      let checked ← checkItemsWith lost catalogs mode scope element path 0 items
      return ⟨.list checked.1, own ++ checked.2⟩ := by
  rw [checkWith]
  split
  next none => rw [found] at none; cases none
  next _ again =>
    rw [found] at again
    cases again
    rfl

theorem checkWith_map_mismatch {key value : SchemaType} {cs : List Constraint} (noMapping : v.mapping? = none) :
    checkWith lost catalogs mode scope (.map key value cs) v path = .ok (.mismatch (SchemaType.map key value cs).describe v path) := by
  rw [checkWith]
  split
  next => rfl
  next _ found => rw [noMapping] at found; cases found

theorem checkWith_map_found {key value : SchemaType} {cs : List Constraint} {entries : Entries}
    (found : v.mapping? = some entries) : checkWith lost catalogs mode scope (.map key value cs) v path = do
      let own ← ownViolations mode cs (.map entries) path
      let checked ← checkEntriesWith lost catalogs mode scope key value path entries
      return ⟨.map checked.1, own ++ checked.2⟩ := by
  rw [checkWith]
  split
  next none => rw [found] at none; cases none
  next _ again =>
    rw [found] at again
    cases again
    rfl

theorem checkWith_union (variants : List SchemaType) (cs : List Constraint) :
    checkWith lost catalogs mode scope (.union variants cs) v path =
      (·.getD (.mismatch (SchemaType.union variants cs).describe v path)) <$>
        checkVariantsWith lost catalogs mode scope variants v path := by
  rw [checkWith, map_eq_pure_bind]
  refine bind_congr fun first => ?_
  cases first <;> rfl

end Validation

namespace Proofs.LostReferences
open Validation

variable (lost : OnLost) (catalogs : Catalogs) (Inside : Schema → Option CatalogId → Prop)

/-- A reference at which nothing is left open: if it leads nowhere it is reported, and if it leads to a schema this is
one of a kind. -/
structure Spared (scope : Scope) (r : Name × Option Target) : Prop where
  here : scope.lookup? catalogs r.1 r.2 = none → ∀ v path, lost r.1 v path = OnLost.reported r.1 v path
  onward : ∀ found s gaps, scope.lookup? catalogs r.1 r.2 = some found → found.forRun = .ok (s, gaps) → Inside s scope.catalog

def SparedIn (scope : Scope) (t : SchemaType) : Prop := ∀ r ∈ t.references, Spared lost catalogs Inside scope r

/-- The references of schemas of a kind are all spared. -/
def Sparing : Prop :=
  ∀ s catalog, Inside s catalog → ∀ f ∈ s.fields, SparedIn lost catalogs Inside ⟨some s, s.catalog.or catalog⟩ f.type

variable {lost catalogs Inside} {scope : Scope}

namespace SparedIn

theorem key {key value : SchemaType} {cs : List Constraint} (spared : SparedIn lost catalogs Inside scope (.map key value cs)) :
    SparedIn lost catalogs Inside scope key := fun r member => spared r (List.mem_append_left _ member)

theorem value {key value : SchemaType} {cs : List Constraint} (spared : SparedIn lost catalogs Inside scope (.map key value cs)) :
    SparedIn lost catalogs Inside scope value := fun r member => spared r (List.mem_append_right _ member)

theorem variant {variants : List SchemaType} {cs : List Constraint}
    (spared : SparedIn lost catalogs Inside scope (.union variants cs)) {t : SchemaType} (member : t ∈ variants) :
    SparedIn lost catalogs Inside scope t := fun r inside => spared r (SchemaType.mem_referencesOf.mpr ⟨t, member, inside⟩)

end SparedIn

variable (lost catalogs Inside) in
/-- Each function comes to what it comes to in validation. -/
def motives : Motives where
  ofValue mode scope t v path := SparedIn lost catalogs Inside scope t →
    checkWith lost catalogs mode scope t v path = check catalogs mode scope t v path
  ofRun rounds s gaps v path catalog := Inside s catalog →
    runWith lost catalogs rounds s gaps v path catalog = run catalogs rounds s gaps v path catalog
  ofFields rounds scope path entries fields := (∀ f ∈ fields, SparedIn lost catalogs Inside scope f.type) →
    fieldReportWith lost catalogs rounds scope path entries fields = fieldReport catalogs rounds scope path entries fields
  ofVariants mode scope variants v path := (∀ t ∈ variants, SparedIn lost catalogs Inside scope t) →
    checkVariantsWith lost catalogs mode scope variants v path = checkVariants catalogs mode scope variants v path
  ofEntries mode scope key value path entries :=
    SparedIn lost catalogs Inside scope key → SparedIn lost catalogs Inside scope value →
    checkEntriesWith lost catalogs mode scope key value path entries = checkEntries catalogs mode scope key value path entries
  ofItems mode scope t path index items := SparedIn lost catalogs Inside scope t →
    checkItemsWith lost catalogs mode scope t path index items = checkItems catalogs mode scope t path index items

/-- The hooks of a schema see the same where shapes of its fields are checked alike. -/
theorem runHooks_congr {s : Schema} {shape₁ shape₂ : SchemaType → Value → Path → Except Fault Checked}
    (same : ∀ f ∈ s.fields, ∀ v place, shape₁ f.type v place = shape₂ f.type v place) (path : Path) (fields : Entries) :
    runHooks shape₁ s path fields = runHooks shape₂ s path fields := by
  have mismatch : Hooks.derivedMismatch? shape₁ s = Hooks.derivedMismatch? shape₂ s := by
    funext name value place
    simp only [Hooks.derivedMismatch?]
    cases found : s.field? name with
    | none => rfl
    | some f => simp only [same f (List.mem_of_find?_eq_some found)]
  have derived (hooks : List PlacedHook) (fields : Entries) :
      Hooks.runDerived shape₁ s path hooks fields = Hooks.runDerived shape₂ s path hooks fields := by
    induction hooks generalizing fields with
    | nil => rfl
    | cons placed rest ih => simp only [Hooks.runDerived, mismatch, ih]
  rw [runHooks, runHooks]
  refine bind_congr fun crossed => ?_
  cases crossed with
  | error violations => rfl
  | ok fields => exact derived s.derivedHooks fields

private theorem run_of_fields (sparing : Sparing lost catalogs Inside) (rounds : Nat) (s : Schema) (gaps : Gaps) (v : Value)
    (path : Path) (catalog : Option CatalogId)
    (inner : ∀ entries left, v.mapping? = some entries → v.roundsAfter rounds = some left →
      (motives lost catalogs Inside).ofFields left ⟨some s, s.catalog.or catalog⟩ path entries s.regularFields ∧
        ∀ t w place, (motives lost catalogs Inside).ofValue .shape ⟨some s, s.catalog.or catalog⟩ t w place) :
    (motives lost catalogs Inside).ofRun rounds s gaps v path catalog := by
  intro inside
  have spared := sparing s catalog inside
  rw [runWith, run_eq_stages, fieldStages]
  split
  next none => simp only [none]; rfl
  next entries mapping out => simp only [mapping, out]; rfl
  next entries left mapping spent =>
    obtain ⟨ofFields, ofShapes⟩ := inner entries left mapping spent
    have hooked := runHooks_congr fun f member v place => ofShapes f.type v place (spared f member)
    simp only [mapping, spent, ofFields fun f member => spared f (List.mem_filter.mp member).1, hooked, bind_assoc]
    refine bind_congr fun report => bind_congr fun unexpected => ?_
    rw [pure_bind]
    split <;> rfl

private theorem step (sparing : Sparing lost catalogs Inside) : Cases catalogs (motives lost catalogs Inside) where
  primitive mode scope kind cs v path := by
    intro _
    rw [checkWith, check]
  array mode scope element cs v path ofItems := by
    intro spared
    cases found : v.items? with
    | none => rw [checkWith_array_mismatch found, check_array_mismatch found]
    | some items => rw [checkWith_array_found found, check_array_found found, ofItems items found spared]
  map mode scope key value cs v path ofEntries := by
    intro spared
    cases found : v.mapping? with
    | none => rw [checkWith_map_mismatch found, check_map_mismatch found]
    | some entries => rw [checkWith_map_found found, check_map_found found, ofEntries entries found spared.key spared.value]
  union mode scope variants cs v path ofVariants := by
    intro spared
    rw [checkWith_union, check_union, ofVariants fun t member => spared.variant member]
  ref mode scope name target v path next := by
    intro spared
    obtain ⟨here, onward⟩ := spared _ (List.mem_singleton_self _)
    rw [checkWith]
    cases resolved : scope.lookup? catalogs name target with
    | none =>
      rw [check_ref_unresolved resolved]
      exact here resolved v path
    | some found =>
      cases mapping : v.mapping? with
      | none =>
        rw [check_ref_mismatch resolved mapping]
        rfl
      | some entries =>
        cases mode with
        | shape =>
          rw [check_ref_shape resolved mapping]
          rfl
        | full rounds =>
          have isMapping : v.isMapping = true := by rw [Value.isMapping, mapping]; rfl
          rw [check_ref_found resolved mapping]
          show (found.forRun >>= _) = _
          cases read : found.forRun with
          | error fault => rfl
          | ok ran =>
            obtain ⟨s, gaps⟩ := ran
            simp only [Except.ok_bind, next rounds found s gaps rfl isMapping resolved read (onward found s gaps resolved read),
              map_eq_pure_bind]
  run := run_of_fields sparing
  noField rounds scope path entries := by
    intro _
    rw [fieldReportWith, fieldReport]
  field rounds scope path entries f rest ofValue ofRest := by
    intro spared
    obtain ⟨first, others⟩ := List.forall_mem_cons.mp spared
    rw [fieldReportWith]
    split
    next v found => rw [fieldReport_present found, ofValue v found first, ofRest others]
    next absent => rw [fieldReport_absent absent, ofRest others]
  noVariant mode scope v path := by
    intro _
    rw [checkVariantsWith, checkVariants]
  variant mode scope t rest v path ofValue ofRest := by
    intro spared
    obtain ⟨first, others⟩ := List.forall_mem_cons.mp spared
    rw [checkVariantsWith, checkVariants, ofValue first, ofRest others]
  noEntry mode scope key value path := by
    intro _ _
    rw [checkEntriesWith, checkEntries]
  entry mode scope key value path k v rest ofKey ofValue ofRest := by
    intro sparedKey sparedValue
    rw [checkEntriesWith, checkEntries, ofRest sparedKey sparedValue, entryPlace]
    cases k.requireStep with
    | error fault => rfl
    | ok _ =>
      show (do let _ ← checkWith _ _ _ _ _ _ (path ++ [k.keyStep]); _) = _
      simp only [Except.ok_bind, pure_bind, ofKey sparedKey, ofValue sparedValue]
  noItem mode scope t path index := by
    intro _
    rw [checkItemsWith, checkItems]
  item mode scope t path index v rest ofValue ofRest := by
    intro spared
    rw [checkItemsWith, checkItems, ofValue spared, ofRest spared]

theorem check_spared (sparing : Sparing lost catalogs Inside) {t : SchemaType} (spared : SparedIn lost catalogs Inside scope t)
    (mode : Mode) (v : Value) (path : Path) :
    checkWith lost catalogs mode scope t v path = check catalogs mode scope t v path :=
  (step sparing).all.1 mode scope t v path spared

/-- A run in which every reference is spared comes to what it comes to in validation. -/
theorem run_spared (sparing : Sparing lost catalogs Inside) {s : Schema} {catalog : Option CatalogId} (inside : Inside s catalog)
    (rounds : Nat) (gaps : Gaps) (v : Value) (path : Path) :
    runWith lost catalogs rounds s gaps v path catalog = run catalogs rounds s gaps v path catalog :=
  (step sparing).all.2 rounds s gaps v path catalog inside

theorem validate_spared (sparing : Sparing lost catalogs Inside) {s : Schema} (inside : Inside s none) (data : Value) :
    validateWith lost catalogs s data = validate catalogs s data := by
  have ran := run_spared sparing inside Value.deepest {} data.unfolded []
  rw [validateWith, validate]
  refine congr (congrArg bind (congrArg Failing.ofFault ran)) (funext fun outcome => ?_)
  cases outcome <;> rfl

/-- Answering as validation does is validation. -/
theorem validateWith_reported (catalogs : Catalogs) (s : Schema) (data : Value) :
    validateWith .reported catalogs s data = validate catalogs s data := by
  have sparing : Sparing .reported catalogs fun _ _ => True := by
    intro t around _ f _ r _
    constructor
    · exact fun _ _ _ => rfl
    · exact fun _ _ _ _ _ => trivial
  exact validate_spared sparing trivial data

end Proofs.LostReferences
end RecordSchema
