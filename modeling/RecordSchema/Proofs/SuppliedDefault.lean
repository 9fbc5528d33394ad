import Mathlib.Control.Traversable.Instances
import Mathlib.Data.List.Permutation
import RecordSchema.Proofs.DataRounds
import RecordSchema.Proofs.PlainData
import RecordSchema.Proofs.RunRelocation
import RecordSchema.Proofs.Verdicts

/-! A field that is left out against its default supplied. A default is checked when the schema is
built, but what comes of the check is dropped: an absent field holds the default as it was declared,
a supplied one what validation makes of it. The rest of the data is found the same. Main statement:
`default_supplied`; the two differ for a default that validation would complete, see `bare_default`. -/

namespace RecordSchema

namespace Entries

variable {entries : Entries} {name : String}

theorem setField_of_present {v : Value} (present : entries.field? name = some v) : entries.setField name v = entries := by
  induction entries with
  | nil => cases present
  | cons entry rest ih =>
    obtain ⟨k, w⟩ := entry
    rw [field?] at present
    split at present
    next here => rw [setField, if_pos here, Option.some.inj present]
    next other => rw [setField, if_neg other, ih present]

end Entries

namespace Proofs.SuppliedDefault
open Validation RunRelocation

section Fields
variable {catalogs : Catalogs} {rounds : Nat} {scope : Scope} {path : Path} {entries : Entries}

/-- The report with something else for one key of what comes out. -/
def holding (label : String) (w : Value) (report : FieldReport) : FieldReport :=
  { report with output := report.output.setField label w }

/-- Other fields do not notice a key. -/
theorem fieldReport_unnoticed {label : String} {fields : List Field} (v : Value)
    (others : ∀ g ∈ fields, g.name.label ≠ label) :
    fieldReport catalogs rounds scope path (entries.setField label v) fields = fieldReport catalogs rounds scope path entries fields := by
  induction fields with
  | nil => rw [fieldReport, fieldReport]
  | cons g rest ih =>
    obtain ⟨other, later⟩ := List.forall_mem_cons.mp others
    have same : (entries.setField label v).field? g.name.label = entries.field? g.name.label :=
      Entries.field?_setField_of_ne entries v other
    have remaining := ih later
    cases found : entries.field? g.name.label with
    | some w => rw [fieldReport_present (same.trans found), fieldReport_present found, remaining]
    | none => rw [fieldReport_absent (same.trans found), fieldReport_absent found, remaining]

theorem withPresent_holding {g : Field} {label : String} (other : g.name.label ≠ label) (w : Value) (c : Checked)
    (report : FieldReport) : (holding label w report).withPresent g c = holding label w (report.withPresent g c) := by
  have key : g.name.toValue.str? ≠ some label := by simpa [Value.str?_toValue] using other
  unfold FieldReport.withPresent
  split
  · simp only [holding, Entries.setField, if_neg key]
  · rfl

theorem withAbsent_holding {g : Field} {label : String} (other : g.name.label ≠ label) (w : Value) (default : Option Value)
    (report : FieldReport) :
    (holding label w report).withAbsent g path default = holding label w (report.withAbsent g path default) := by
  have key : g.name.toValue.str? ≠ some label := by simpa [Value.str?_toValue] using other
  cases default with
  | some v => simp only [FieldReport.withAbsent, holding, Entries.setField, if_neg key]
  | none =>
    simp only [FieldReport.withAbsent]
    split <;> rfl

variable {f : Field} {v w : Value}

/-- Supplying the default of an absent field changes what comes out for this field only. -/
theorem fieldReport_supplied (given : f.default = some v) (copyable : v.isCopyable = true)
    (absent : entries.field? f.name.label = none)
    (checked : check catalogs (.full rounds) scope f.type v (path ++ [.name f.name.label]) = .ok ⟨w, []⟩)
    {fields : List Field} (member : f ∈ fields) (distinct : (fields.map (·.name.label)).Nodup) :
    fieldReport catalogs rounds scope path (entries.setField f.name.label v) fields =
      holding f.name.label w <$> fieldReport catalogs rounds scope path entries fields := by
  induction fields with
  | nil => cases member
  | cons g rest ih =>
    obtain ⟨fresh, distinct⟩ := List.nodup_cons.mp distinct
    obtain rfl | later := List.mem_cons.mp member
    · have others : ∀ g ∈ rest, g.name.label ≠ f.name.label := by
        intro g inside same
        exact fresh (List.mem_map.mpr ⟨g, inside, same⟩)
      have copied : f.default.mapM Value.copy = .ok (some v) := by
        simp only [given, Value.copy, Option.mapM_some, copyable, if_true]
        rfl
      have key : f.name.toValue.str? = some f.name.label := Value.str?_toValue f.name
      rw [fieldReport_present (Entries.field?_setField_self entries _ v), fieldReport_absent absent, checked, copied,
        fieldReport_unnoticed v others]
      cases fieldReport catalogs rounds scope path entries rest with
      | error fault => rfl
      | ok report =>
        show Except.ok (report.withPresent f ⟨w, []⟩) = Except.ok (holding f.name.label w (report.withAbsent f path (some v)))
        simp [FieldReport.withPresent, FieldReport.withAbsent, holding, Checked.isClean, Entries.setField, key]
    · have other : g.name.label ≠ f.name.label := fun same => fresh (List.mem_map.mpr ⟨f, later, same.symm⟩)
      have same : (entries.setField f.name.label v).field? g.name.label = entries.field? g.name.label :=
        Entries.field?_setField_of_ne entries v other
      have remaining := ih later distinct
      cases found : entries.field? g.name.label with
      | some u =>
        rw [fieldReport_present (same.trans found), fieldReport_present found, remaining]
        cases check catalogs (.full rounds) scope g.type u (path ++ [.name g.name.label]) with
        | error fault => rfl
        | ok c =>
          cases fieldReport catalogs rounds scope path entries rest with
          | error fault => rfl
          | ok report => exact congrArg Except.ok (withPresent_holding other w c report)
      | none =>
        rw [fieldReport_absent (same.trans found), fieldReport_absent found, remaining]
        cases g.default.mapM Value.copy with
        | error fault => rfl
        | ok default =>
          cases fieldReport catalogs rounds scope path entries rest with
          | error fault => rfl
          | ok report => exact congrArg Except.ok (withAbsent_holding other w default report)

/-- An absent field comes out with its default as it was declared. -/
theorem fieldReport_omitted (given : f.default = some v) (absent : entries.field? f.name.label = none)
    {fields : List Field} (member : f ∈ fields) (distinct : (fields.map (·.name.label)).Nodup) {report : FieldReport}
    (reported : fieldReport catalogs rounds scope path entries fields = .ok report) :
    report.output.field? f.name.label = some v := by
  induction fields generalizing report with
  | nil => cases member
  | cons g rest ih =>
    obtain ⟨fresh, distinct⟩ := List.nodup_cons.mp distinct
    obtain rfl | later := List.mem_cons.mp member
    · obtain ⟨_, _, _, found, -⟩ | ⟨others, -, -, -, rfl⟩ := fieldReport_cons_eq_ok.mp reported
      · rw [absent] at found
        cases found
      · simp [given, FieldReport.withAbsent, Entries.field?, Value.str?_toValue]
    · have other : g.name.label ≠ f.name.label := fun same => fresh (List.mem_map.mpr ⟨f, later, same.symm⟩)
      have key : g.name.toValue.str? ≠ some f.name.label := by simpa [Value.str?_toValue] using other
      obtain ⟨u, c, others, -, -, remaining, rfl⟩ | ⟨others, -, -, remaining, rfl⟩ := fieldReport_cons_eq_ok.mp reported
      · have held := ih later distinct remaining
        unfold FieldReport.withPresent
        split
        · simpa only [Entries.field?, if_neg key] using held
        · exact held
      · have held := ih later distinct remaining
        cases g.default with
        | some u => simpa only [FieldReport.withAbsent, Entries.field?, if_neg key] using held
        | none =>
          simp only [FieldReport.withAbsent]
          split <;> exact held

end Fields

theorem unexpected_supplied {s : Schema} {f : Field} (member : f ∈ s.regularFields) (path : Path) {entries : Entries}
    (v : Value) (absent : entries.field? f.name.label = none) :
    unexpected s path (entries.setField f.name.label v) = unexpected s path entries := by
  have known : (s.regularFields.any fun g => (Value.str f.name.label).str? = some g.name.label) = true :=
    List.any_eq_true.mpr ⟨f, member, by simp [Value.str?]⟩
  have minded : unexpected? s path (.str f.name.label) = none := by simp only [unexpected?, known, Bool.or_true, if_true]
  rw [Entries.setField_of_absent v absent]
  simp [unexpected, Entries.keys, List.filterMap_append, minded]

/-- The name of a field is a key that can be written. -/
theorem unexpectedWith_supplied {s : Schema} {f : Field} (member : f ∈ s.regularFields) (path : Path) {entries : Entries}
    (v : Value) (absent : entries.field? f.name.label = none) :
    unexpectedWith {} s path (entries.setField f.name.label v) = unexpectedWith {} s path entries := by
  have written : (entries.setField f.name.label v).keys.forM Value.requireStep = entries.keys.forM Value.requireStep := by
    have last : Value.requireStep (.str f.name.label) = .ok () := rfl
    rw [Entries.setField_of_absent v absent, Entries.keys, List.map_append]
    show forM (entries.keys ++ [Value.str f.name.label]) Value.requireStep = forM entries.keys Value.requireStep
    rw [List.forM_append, List.forM_cons, last]
    cases forM entries.keys Value.requireStep <;> rfl
  rw [Acceptance.unexpectedWith_nothing, Acceptance.unexpectedWith_nothing, unexpected_supplied member path v absent, written]

section Stages
variable {catalogs : Catalogs} {s : Schema} {f : Field} {v w d : Value} {entries : Entries}

theorem regular_distinct (built : s.IsBuilt) : (s.regularFields.map (·.name.label)).Nodup :=
  (List.filter_sublist.map _).nodup built.distinct

/-- The stages of the fields give the same but for the field, with the same violations. -/
theorem fieldStages_supplied (built : s.IsBuilt) (member : f ∈ s.regularFields) (given : f.default = some v)
    (copyable : v.isCopyable = true) (mapping : d.unfolded.entries? = some entries)
    (absent : entries.field? f.name.label = none)
    (checked : ∀ rounds, (Value.map (entries.setField f.name.label v)).roundsAfter Value.deepest = some rounds →
      check catalogs (.full rounds) ⟨some s, s.catalog⟩ f.type v [.name f.name.label] = .ok ⟨w, []⟩) :
    fieldStages catalogs Value.deepest s {} (.map (entries.setField f.name.label v)) [] none =
      Except.map (·.setField f.name.label w) <$> fieldStages catalogs Value.deepest s {} d.unfolded [] none := by
  have direct : (Value.map (entries.setField f.name.label v)).mapping? = some (entries.setField f.name.label v) := rfl
  have mapping := Value.mapping?_of_entries mapping
  obtain ⟨m, spent⟩ : ∃ m, d.unfolded.roundsAfter Value.deepest = some m := DataRounds.roundsAfter_some (by decide)
  obtain ⟨n, left⟩ : ∃ n, (Value.map (entries.setField f.name.label v)).roundsAfter Value.deepest = some n :=
    DataRounds.roundsAfter_some (by decide)
  have place : s.catalog.or none = s.catalog := Option.or_none
  -- what is declared beside the field takes the rounds that the data without it leaves
  have others : fieldReport catalogs n ⟨some s, s.catalog⟩ [] entries s.regularFields =
      fieldReport catalogs m ⟨some s, s.catalog⟩ [] entries s.regularFields := by
    refine DataRounds.fieldReport_left mapping direct spent left fun g _ u found => ?_
    have other : g.name.label ≠ f.name.label := fun same => by rw [same, absent] at found; cases found
    exact (Entries.field?_setField_of_ne entries v other).trans found
  have supplied : fieldReport catalogs n ⟨some s, s.catalog⟩ [] (entries.setField f.name.label v) s.regularFields =
      holding f.name.label w <$> fieldReport catalogs m ⟨some s, s.catalog⟩ [] entries s.regularFields := by
    rw [← others]
    exact fieldReport_supplied given copyable absent (checked n left) member (regular_distinct built)
  simp only [fieldStages, direct, left, mapping, spent, place, supplied, unexpectedWith_supplied member [] v absent]
  cases fieldReport catalogs m ⟨some s, s.catalog⟩ [] entries s.regularFields with
  | error fault => rfl
  | ok report =>
    cases unexpectedWith {} s [] entries with
    | error fault => rfl
    | ok unexpected =>
      show Except.ok (if (report.violations unexpected).isEmpty then
          Except.ok (report.output.setField f.name.label w) else Except.error _) =
        Except.ok (Except.map _ (if (report.violations unexpected).isEmpty then
          Except.ok report.output else Except.error _))
      split <;> rfl

theorem fieldStages_omitted (built : s.IsBuilt) (member : f ∈ s.regularFields) (given : f.default = some v)
    (mapping : d.unfolded.entries? = some entries) (absent : entries.field? f.name.label = none) {output : Entries}
    (returned : fieldStages catalogs Value.deepest s {} d.unfolded [] none = .ok (.ok output)) :
    output.field? f.name.label = some v := by
  obtain ⟨found, left, report, unexpected, other, -, reported, -, rfl⟩ := report_of_fieldStages returned
  cases (Value.mapping?_of_entries mapping).symm.trans other
  exact fieldReport_omitted given absent member (regular_distinct built) reported

theorem run_silent (silent : s.crossFieldHooks = [] ∧ s.derivedHooks = []) (v : Value) :
    run catalogs Value.deepest s {} v [] none = fieldStages catalogs Value.deepest s {} v [] none := by
  rw [run_eq_stages]
  cases fieldStages catalogs Value.deepest s {} v [] none with
  | error fault => rfl
  | ok outcome =>
    cases outcome with
    | error violations => rfl
    | ok fields => exact Acceptance.hookStages_silent silent [] none fields

theorem violations_of_returned (built : s.IsBuilt) (silent : s.crossFieldHooks = [] ∧ s.derivedHooks = [])
    {output : Entries} (returned : run catalogs Value.deepest s {} d.unfolded [] none = .ok (.ok output)) :
    Verdict.violations <$> validate catalogs s d = .ok [] := by
  obtain ⟨data, container, accepted⟩ := Verdicts.accept_returns built (Verdicts.run_keys silent returned)
  rw [validate_of_fields returned, accepted]
  rfl

/-- Without hooks, a change to one field that comes out is no change to what is wrong. -/
theorem violations_supplied (built : s.IsBuilt) (silent : s.crossFieldHooks = [] ∧ s.derivedHooks = []) {label : String}
    {d' : Value} (fields : fieldStages catalogs Value.deepest s {} d'.unfolded [] none =
      Except.map (·.setField label w) <$> fieldStages catalogs Value.deepest s {} d.unfolded [] none) :
    Verdict.violations <$> validate catalogs s d' = Verdict.violations <$> validate catalogs s d := by
  have supplied : run catalogs Value.deepest s {} d'.unfolded [] none =
      Except.map (·.setField label w) <$> run catalogs Value.deepest s {} d.unfolded [] none := by
    rw [run_silent silent, run_silent silent, fields]
  cases returned : run catalogs Value.deepest s {} d.unfolded [] none with
  | error fault =>
    rw [returned] at supplied
    rw [validate, validate, supplied, returned]
    rfl
  | ok outcome =>
    rw [returned] at supplied
    cases outcome with
    | error violations =>
      rw [validate_of_violations returned, validate_of_violations supplied]
    | ok output => rw [violations_of_returned built silent returned, violations_of_returned built silent supplied]

end Stages

/-- How validation of a value without a field compares to validation with the default of the field. -/
structure Supplied (catalogs : Catalogs) (s : Schema) (label : String) (v w d : Value) (entries : Entries) : Prop where
  /-- The fields come out the same but for this one, and so does what is wrong with them. -/
  fields : fieldStages catalogs Value.deepest s {} (.map (entries.setField label v)) [] none =
    Except.map (·.setField label w) <$> fieldStages catalogs Value.deepest s {} d.unfolded [] none
  /-- The field that was left out holds the default as it is. -/
  omitted : ∀ output, fieldStages catalogs Value.deepest s {} d.unfolded [] none = .ok (.ok output) → output.field? label = some v
  /-- Without hooks the field makes no difference to what is wrong. -/
  silent : s.crossFieldHooks = [] ∧ s.derivedHooks = [] →
    Verdict.violations <$> validate catalogs s (.map (entries.setField label v)) =
      Verdict.violations <$> validate catalogs s d
  /-- A default that validation leaves as it is makes no difference. -/
  unchanged : w = v → validate catalogs s (.map (entries.setField label v)) = validate catalogs s d

section Build
variable {catalogs : Catalogs} {modules : Modules} {serial : Nat} {definitions : Expr} {options : SchemaOptions}
  {s : Schema}

/-- Nothing changes where both runs resolve references in the same place. -/
theorem same_bisimulation : Bisimulation catalogs catalogs fun _ c₁ c₂ => c₁ = c₂ := by
  intro t c₁ c₂ same f inside r mentioned
  subst same
  exact ⟨rfl, fun _ _ _ _ _ => rfl⟩

/-- The default of a field passes the check of the field, wherever it stands, as long as the catalogs hold what they held
when the schema was built. A default without an end passes with the rounds that were left for it then. -/
theorem default_passes (built : Schema.build catalogs modules serial definitions options = .ok s) {f : Field}
    (member : f ∈ s.regularFields) {v : Value} (given : f.default = some v) {path : Path} :
    ∃ w, ∀ rounds, v.hasEnd = true ∨ rounds = Value.deepest →
      check catalogs (.full rounds) ⟨some s, s.catalog⟩ f.type v path = .ok ⟨w, []⟩ := by
  obtain ⟨base, -, -, passed, same⟩ := Schema.build_eq_ok built
  have bare : s.bare = base.bare := by obtain rfl | ⟨layout, -, rfl⟩ := same <;> rfl
  have regular : s.regularFields = base.regularFields := Schema.congr_of_bare bare Schema.regularFields fun _ => rfl
  have owned : s.catalog = base.catalog := Schema.congr_of_bare bare Schema.catalog fun _ => rfl
  rw [regular] at member
  obtain ⟨w, checked⟩ := Schema.requireDefaults_checked passed f member v given
  have agrees : AgreesIn catalogs catalogs (fun _ c₁ c₂ => c₁ = c₂) ⟨some s, s.catalog⟩ ⟨some base, base.catalog⟩ f.type := by
    rw [owned]
    exact AgreesIn.bare bare fun r mentioned => ⟨rfl, fun _ _ _ _ _ => rfl⟩
  have relocated := check_relocated same_bisimulation agrees (.full Value.deepest) v path []
  rw [List.append_nil,
    show check catalogs (.full Value.deepest) ⟨some base, base.catalog⟩ f.type v [] = .ok ⟨w, []⟩ from checked] at relocated
  refine ⟨w, fun rounds known => ?_⟩
  obtain ends | rfl := known
  · rw [DataRounds.check_rounds ends Value.deepest rounds]
    exact relocated
  · exact relocated

end Build

/-- A default that can be copied passes the check of its field; and as long as it does, leaving the field
out comes to the same as supplying its default, but for what the field itself holds. Where a default has no end, the
rounds count that data leaves for it. -/
theorem default_supplied {catalogs : Catalogs} {modules : Modules} {serial : Nat} {definitions : Expr}
    {options : SchemaOptions} {s : Schema} (built : Schema.build catalogs modules serial definitions options = .ok s)
    {f : Field} (member : f ∈ s.regularFields) {v : Value} (given : f.default = some v) (copyable : v.isCopyable = true) :
    (∃ w, ∀ rounds, v.hasEnd = true ∨ rounds = Value.deepest →
      check catalogs (.full rounds) ⟨some s, s.catalog⟩ f.type v [.name f.name.label] = .ok ⟨w, []⟩) ∧
    ∀ (now : Catalogs) (rounds : Nat) (w : Value),
      check now (.full rounds) ⟨some s, s.catalog⟩ f.type v [.name f.name.label] = .ok ⟨w, []⟩ →
      (f.type.references = [] → v.isJson = true → w = v) ∧
      ∀ (d : Value) (entries : Entries), d.unfolded.entries? = some entries → entries.field? f.name.label = none →
        v.hasEnd = true ∨ (Value.map (entries.setField f.name.label v)).roundsAfter Value.deepest = some rounds →
        Supplied now s f.name.label v w d entries := by
  refine ⟨default_passes built member given, fun now rounds w checked =>
    ⟨fun alone json => PlainData.check_plain alone json checked rfl, fun d entries mapping absent known => ?_⟩⟩
  have isBuilt : s.IsBuilt := ⟨_, _, _, _, _, built⟩
  have passes (left : Nat) (spent : (Value.map (entries.setField f.name.label v)).roundsAfter Value.deepest = some left) :
      check now (.full left) ⟨some s, s.catalog⟩ f.type v [.name f.name.label] = .ok ⟨w, []⟩ := by
    obtain ends | known := known
    · rw [DataRounds.check_rounds ends rounds left]
      exact checked
    · cases known.symm.trans spent
      exact checked
  have fields := fieldStages_supplied isBuilt member given copyable mapping absent passes
  have omitted : ∀ output, fieldStages now Value.deepest s {} d.unfolded [] none = .ok (.ok output) →
      output.field? f.name.label = some v :=
    fun output returned => fieldStages_omitted isBuilt member given mapping absent returned
  refine ⟨fields, omitted, fun silent => violations_supplied isBuilt silent fields, fun same => ?_⟩
  subst same
  have unchanged : Except.map (·.setField f.name.label w) <$> fieldStages now Value.deepest s {} d.unfolded [] none =
      fieldStages now Value.deepest s {} d.unfolded [] none := by
    cases returned : fieldStages now Value.deepest s {} d.unfolded [] none with
    | error fault => rfl
    | ok outcome =>
      cases outcome with
      | error violations => rfl
      | ok output =>
        have kept : output.setField f.name.label w = output := Entries.setField_of_present (omitted output returned)
        exact congrArg (fun output => Except.ok (Except.ok output)) kept
  have direct : (Value.map (entries.setField f.name.label w)).unfolded = .map (entries.setField f.name.label w) := rfl
  rw [validate, validate, direct, run_eq_stages, run_eq_stages, fields, unchanged]

/-- Addresses, in the Netherlands unless they say otherwise. -/
def address : Schema where
  serial := 1
  name := "Address"
  fields := [
    { name := "country", type := .primitive .string [], required := false, default := some (.str "NL"),
      description := .null, examples := [], derived := false, extra := [] }]
  crossFieldHooks := []
  derivedHooks := []
  title := none
  description := none
  strict := false
  container := none
  catalog := none

def sender : Field where
  name := "sender"
  type := .ref "Address" (some (.schema address))
  required := false
  default := some (.map [])
  description := .null
  examples := []
  derived := false
  extra := []

/-- Letters, from an address with nothing to say unless they have another. -/
def letter : Schema where
  serial := 2
  name := "Letter"
  fields := [sender]
  crossFieldHooks := []
  derivedHooks := []
  title := none
  description := none
  strict := false
  container := none
  catalog := none

theorem address_built : address.IsBuilt := by
  have assembly : Schema.Assembly {} {} 1
      (.list [.tuple [.str "country", .type (.primitive .string []), .map [(.str "default", .str "NL")]]])
      { name := "Address" } address :=
    ⟨_, address.fields, [], [], rfl, by with_unfolding_all rfl, rfl, rfl, rfl⟩
  have defaults : address.requireDefaults {} address.regularFields = .ok () := by cbv
  exact ⟨_, _, _, _, _, assembly.build_eq rfl defaults rfl⟩

theorem letter_built :
    Schema.build {} {} 2
      (.list [.tuple [.str "sender", .schema address, .map [(.str "default", .map [])]]])
      { name := "Letter" } = .ok letter := by
  have assembly : Schema.Assembly {} {} 2
      (.list [.tuple [.str "sender", .schema address, .map [(.str "default", .map [])]]])
      { name := "Letter" } letter :=
    ⟨_, letter.fields, [], [], rfl, by with_unfolding_all rfl, rfl, rfl, rfl⟩
  have defaults : letter.requireDefaults {} letter.regularFields = .ok () := by cbv
  exact assembly.build_eq rfl defaults rfl

/-- The sender of a letter: found clean, and completed only where it is supplied. -/
theorem sender_supplied :
    sender ∈ letter.regularFields ∧ sender.default = some (.map []) ∧ (Value.map []).isCopyable = true ∧
      check {} (.full Value.deepest) ⟨some letter, none⟩ sender.type (.map []) [.name "sender"] =
        .ok ⟨.map [(.str "country", .str "NL")], []⟩ ∧
      Supplied {} letter "sender" (.map []) (.map [(.str "country", .str "NL")]) (.map []) [] := by
  have checked : check {} (.full Value.deepest) ⟨some letter, none⟩ sender.type (.map []) [.name "sender"] =
      .ok ⟨.map [(.str "country", .str "NL")], []⟩ := by cbv
  have member : sender ∈ letter.regularFields := List.mem_singleton_self _
  exact ⟨member, rfl, rfl, checked, ((default_supplied letter_built member rfl rfl).2 {} _ _ checked).2 (.map []) [] rfl rfl (.inl rfl)⟩

/-- An empty default of a type whose own fields have defaults: it stays empty where the field is left out,
and is completed where it is supplied. -/
theorem bare_default :
    address.IsBuilt ∧ letter.IsBuilt ∧ sender ∈ letter.regularFields ∧ sender.default = some (.map []) ∧
      validate {} letter (.map []) = .ok (.accepted [(.str "sender", .map [])] none) ∧
      validate {} letter (.map [(.str "sender", .map [])]) =
        .ok (.accepted [(.str "sender", .map [(.str "country", .str "NL")])] none) :=
  ⟨address_built, ⟨_, _, _, _, _, letter_built⟩, List.mem_singleton_self _, rfl, by cbv, by cbv⟩

end Proofs.SuppliedDefault
end RecordSchema
