import RecordSchema.Proofs.BuiltInvariant
import RecordSchema.Proofs.ContainerRoundTrip
import RecordSchema.Proofs.DataRounds
import RecordSchema.Proofs.LenientInput
import RecordSchema.Proofs.ReturnedChecks
import RecordSchema.Proofs.SuppliedDefault

/-! Validation of data that has been validated. What the fields of a schema come out with is accepted by the same fields
and comes out as it is: unknown keys are gone, absent fields hold their defaults, and the fields stand in the order of
the declarations. A variant of a union that refers to a schema could change what comes out, so that an earlier variant
accepts it the second time, and a default is not completed where it is put in; both are left out here. Main statement:
`validate_again`. -/

namespace RecordSchema

/-- The variants of unions, at every level, refer to no schema. -/
def SchemaType.PlainUnions : SchemaType → Prop
  | .primitive _ _ | .ref _ _ => True
  | .array element _ => element.PlainUnions
  | .map key value _ => key.PlainUnions ∧ value.PlainUnions
  | .union variants _ => ∀ t ∈ variants, t.references = []

/-- A built schema without hooks that validates what it has validated to the same. -/
structure Schema.Repeatable (s : Schema) : Prop where
  built : s.IsBuilt
  carries : s.CarriesSchemas
  silent : s.crossFieldHooks = [] ∧ s.derivedHooks = []
  unions : ∀ f ∈ s.fields, f.type.PlainUnions
  defaults : ∀ f ∈ s.fields, ∀ v, f.default = some v → v.isJson = true ∧ f.type.references = []

namespace Constraint

variable {c : Constraint} {v w : Value}

theorem check_of_itemCount (counts : c.kind = .minItems ∨ c.kind = .maxItems) (same : v.itemCount? = w.itemCount?) :
    c.check v = c.check w := by
  obtain kind | kind := counts <;> simp only [check, kind, same]

theorem check_of_entryCount (counts : c.kind = .minEntries ∨ c.kind = .maxEntries) (same : v.entryCount? = w.entryCount?) :
    c.check v = c.check w := by
  obtain kind | kind := counts <;> simp only [check, kind, same]

theorem failures_congr {cs : List Constraint} (same : ∀ c ∈ cs, c.check v = c.check w) : failures cs v = failures cs w := by
  induction cs with
  | nil => rfl
  | cons c rest ih =>
    obtain ⟨first, others⟩ := List.forall_mem_cons.mp same
    rw [failures, failures, first, ih others]

end Constraint

namespace Value

variable {k v : Value} {rest : List Value} {others : Entries}

theorem hasEnd_list_cons (here : v.hasEnd = true) (later : (list rest).hasEnd = true) : (list (v :: rest)).hasEnd = true := by
  simpa [hasEnd, all, allItems] using And.intro here later

theorem hasEnd_map_cons (key : k.hasEnd = true) (here : v.hasEnd = true) (later : (map others).hasEnd = true) :
    (map ((k, v) :: others)).hasEnd = true := by
  simpa [hasEnd, all, allEntries, and_assoc] using And.intro key (And.intro here later)

theorem hasEnd_toValue (name : Name) : name.toValue.hasEnd = true := by
  cases name <;> rfl

/-- What is a name can be a step. -/
theorem hasStep_of_str? {key : Value} {text : String} (named : key.str? = some text) : key.hasStep = true := by
  cases key with
  | str | member => rfl
  | _ => cases named

theorem requireSteps_eq_ok {keys : List Value} (written : ∀ key ∈ keys, key.hasStep = true) : keys.forM requireStep = .ok () := by
  induction keys with
  | nil => rfl
  | cons key rest ih =>
    obtain ⟨here, later⟩ := List.forall_mem_cons.mp written
    show requireStep key >>= (fun _ => rest.forM requireStep) = .ok ()
    rw [ih later, requireStep, if_pos here]
    rfl

end Value

namespace Proofs.Revalidation
open Validation Acceptance RunRelocation

variable {catalogs : Catalogs} {Inside : Schema → Option CatalogId → Prop} {mode : Mode} {rounds : Nat} {scope : Scope} {path : Path}

theorem ownViolations_congr {cs : List Constraint} {v w : Value} (same : ∀ c ∈ cs, c.check v = c.check w) :
    ownViolations mode cs v path = ownViolations mode cs w path := by
  cases mode with
  | shape => rfl
  | full rounds =>
    rw [ownViolations, ownViolations, constraintViolations, constraintViolations, Constraint.failures_congr same]

/-- An array can only be asked for the number of its items. -/
theorem ownViolations_list {element : SchemaType} {cs : List Constraint}
    (own : (SchemaType.array element cs).SoundlyConstrained) {items others : List Value} (length : others.length = items.length) :
    ownViolations mode cs (.list others) path = ownViolations mode cs (.list items) path := by
  refine ownViolations_congr fun c member => Constraint.check_of_itemCount ?_ (congrArg some length)
  have allowed := own.allowed c member
  simpa [SchemaType.allows] using allowed

/-- A map can only be asked for the number of its entries. -/
theorem ownViolations_map {key value : SchemaType} {cs : List Constraint}
    (own : (SchemaType.map key value cs).SoundlyConstrained) {entries others : Entries} (length : others.length = entries.length) :
    ownViolations mode cs (.map others) path = ownViolations mode cs (.map entries) path := by
  refine ownViolations_congr fun c member => Constraint.check_of_entryCount ?_ (congrArg some length)
  have allowed := own.allowed c member
  simpa [SchemaType.allows] using allowed

/-- A type without references is checked alike everywhere. -/
theorem check_alone {t : SchemaType} (alone : t.references = []) {other : Catalogs} {elsewhere : Scope} (v : Value) (path : Path) :
    check catalogs mode scope t v path = check other mode elsewhere t v path := by
  have nowhere : Bisimulation catalogs other fun _ _ _ => False := fun _ _ _ impossible => impossible.elim
  have agrees : AgreesIn catalogs other (fun _ _ _ => False) scope elsewhere t := by
    intro r member
    rw [alone] at member
    cases member
  have relocated := check_relocated nowhere agrees mode v [] path
  rw [List.nil_append] at relocated
  rw [relocated, Checked.under_nil, id_map]

/-- What is asked of a type: its references lead inside, and it is one that gives the same again. -/
structure Steady (catalogs : Catalogs) (Inside : Schema → Option CatalogId → Prop) (scope : Scope) (t : SchemaType) : Prop where
  inScope : InScope catalogs Inside scope t
  unions : t.PlainUnions
  formed : t.FormedWith fun _ _ => True

namespace Steady

variable {t u : SchemaType} {cs : List Constraint}

theorem element (steady : Steady catalogs Inside scope (.array t cs)) : Steady catalogs Inside scope t := by
  cases steady.formed with
  | array own inner => exact ⟨steady.inScope, steady.unions, inner⟩

theorem value (steady : Steady catalogs Inside scope (.map u t cs)) : Steady catalogs Inside scope t := by
  cases steady.formed with
  | map own ofKey ofValue =>
    exact ⟨fun r member => steady.inScope r (List.mem_append_right _ member), steady.unions.2, ofValue⟩

end Steady

/-- What is asked of a field: a steady type, and that its default has an end and passes the check of the field as it is. -/
structure SteadyField (catalogs : Catalogs) (Inside : Schema → Option CatalogId → Prop) (scope : Scope) (f : Field) : Prop where
  type : Steady catalogs Inside scope f.type
  ends : ∀ v, f.default = some v → v.hasEnd = true
  default : ∀ rounds v path, f.default = some v → check catalogs (.full rounds) scope f.type v path = .ok ⟨v, []⟩

/-- Schemas that lead to no other ones, with fields that are steady. -/
structure Settled (catalogs : Catalogs) (Inside : Schema → Option CatalogId → Prop) : Prop where
  silent : ∀ s catalog, Inside s catalog → s.crossFieldHooks = [] ∧ s.derivedHooks = []
  distinct : ∀ s catalog, Inside s catalog → (s.regularFields.map (·.name.label)).Nodup
  fields : ∀ s catalog, Inside s catalog → ∀ f ∈ s.regularFields, SteadyField catalogs Inside ⟨some s, s.catalog.or catalog⟩ f

/-- The default of a built schema comes out of its check as it is. -/
theorem default_kept {s : Schema} (repeatable : s.Repeatable) {f : Field} (member : f ∈ s.regularFields) {v : Value}
    (given : f.default = some v) : check catalogs (.full rounds) scope f.type v path = .ok ⟨v, []⟩ := by
  obtain ⟨json, alone⟩ := repeatable.defaults f (List.mem_filter.mp member).1 v given
  obtain ⟨before, modules, serial, definitions, options, built⟩ := repeatable.built
  obtain ⟨w, passed⟩ : ∃ w, ∀ rounds, v.hasEnd = true ∨ rounds = Value.deepest →
      check before (.full rounds) ⟨some s, s.catalog⟩ f.type v path = .ok ⟨w, []⟩ :=
    SuppliedDefault.default_passes built member given
  have passes := passed rounds (.inl (Value.hasEnd_of_isJson json))
  have kept : w = v := PlainData.check_plain alone json passes rfl
  rw [check_alone alone v path, passes, kept]

theorem settled_of_repeatable {s : Schema} (repeatable : ∀ t catalog, Reaches catalogs s t catalog → t.Repeatable) :
    Settled catalogs (Reaches catalogs s) where
  silent t catalog reached := (repeatable t catalog reached).silent
  distinct t catalog reached := SuppliedDefault.regular_distinct (repeatable t catalog reached).built
  fields t catalog reached f member := by
    have inside := (List.mem_filter.mp member).1
    have surveyed : Surveyed catalogs (Reaches catalogs s) :=
      surveyed_of_built fun t catalog reached => ⟨(repeatable t catalog reached).built, (repeatable t catalog reached).carries⟩
    obtain ⟨before, modules, serial, definitions, options, built⟩ := (repeatable t catalog reached).built
    have formed : f.type.FormedWith fun _ _ => True := ((Schema.build_keeps built).formed f inside).weaken fun _ _ _ => trivial
    exact ⟨⟨surveyed.inScope reached inside, (repeatable t catalog reached).unions f inside, formed⟩,
      fun v given => Value.hasEnd_of_isJson ((repeatable t catalog reached).defaults f inside v given).1,
      fun rounds v path given => default_kept (repeatable t catalog reached) member given⟩

variable (catalogs Inside) in
/-- What each function of a run makes of what it made of JSON data in which it found nothing wrong. That it has an end again
is said along with it: otherwise a second run could take more rounds. -/
def motives : Motives where
  ofValue mode scope t v path := ∀ rounds, mode = .full rounds → Steady catalogs Inside scope t → v.isJson = true →
    ∀ w, check catalogs mode scope t v path = .ok ⟨w, []⟩ → w.hasEnd = true ∧ check catalogs mode scope t w path = .ok ⟨w, []⟩
  ofRun rounds s gaps v path catalog := gaps = {} → Inside s catalog → v.isJson = true →
    ∀ fields, run catalogs rounds s gaps v path catalog = .ok (.ok fields) → (Value.map fields).hasEnd = true ∧
      ∀ again : Entries, (Value.map again).hasEnd = true → AgreeOn s.regularFields again fields →
        (∀ key ∈ again.keys, ∃ f ∈ s.regularFields, key.str? = some f.name.label) →
        run catalogs rounds s gaps (.map again) path catalog = .ok (.ok fields)
  ofFields rounds scope path entries fields := (∀ f ∈ fields, SteadyField catalogs Inside scope f) →
    (fields.map (·.name.label)).Nodup → (Value.map entries).isJson = true →
    ∀ report, fieldReport catalogs rounds scope path entries fields = .ok report → report.missing = [] → report.invalid = [] →
      (Value.map report.output).hasEnd = true ∧
        ∀ again, AgreeOn fields again report.output → fieldReport catalogs rounds scope path again fields = .ok report
  ofVariants _ _ _ _ _ := True
  ofEntries mode scope key value path entries := ∀ rounds, mode = .full rounds → Steady catalogs Inside scope value →
    (Value.map entries).isJson = true → ∀ checked, checkEntries catalogs mode scope key value path entries = .ok (checked, []) →
      (Value.map checked).hasEnd = true ∧ checked.length = entries.length ∧
        checkEntries catalogs mode scope key value path checked = .ok (checked, [])
  ofItems mode scope t path index items := ∀ rounds, mode = .full rounds → Steady catalogs Inside scope t →
    (Value.list items).isJson = true → ∀ checked, checkItems catalogs mode scope t path index items = .ok (checked, []) →
      (Value.list checked).hasEnd = true ∧ checked.length = items.length ∧
        checkItems catalogs mode scope t path index checked = .ok (checked, [])

/-- What comes out as it went in is the same again. -/
private theorem again_of_alone {t : SchemaType} (alone : t.references = []) {v : Value} (json : v.isJson = true) {w : Value}
    (checked : check catalogs mode scope t v path = .ok ⟨w, []⟩) :
    w.hasEnd = true ∧ check catalogs mode scope t w path = .ok ⟨w, []⟩ := by
  have kept : w = v := PlainData.check_plain alone json checked rfl
  rw [kept] at checked ⊢
  exact ⟨Value.hasEnd_of_isJson json, checked⟩

private theorem array_again (mode : Mode) (scope : Scope) (element : SchemaType) (cs : List Constraint) (v : Value) (path : Path)
    (ofItems : ∀ items, v.items? = some items → (motives catalogs Inside).ofItems mode scope element path 0 items) :
    (motives catalogs Inside).ofValue mode scope (.array element cs) v path := by
  intro rounds full steady json w checked
  obtain ⟨-, impossible⟩ | ⟨items, own, ⟨inner, violations⟩, found, constrained, each, same⟩ := check_array_eq_ok.mp checked
  · cases impossible
  · obtain ⟨rfl, clean⟩ := Checked.mk.inj same
    obtain ⟨rfl, rfl⟩ := List.append_eq_nil_iff.mp clean.symm
    cases Value.eq_list_of_isJson json found
    obtain ⟨ends, length, again⟩ := ofItems items found rounds full steady.element json inner each
    have constrained' := (ownViolations_list steady.formed.own length).trans constrained
    exact ⟨ends, check_array_of_items rfl constrained' again rfl⟩

private theorem map_again (mode : Mode) (scope : Scope) (key value : SchemaType) (cs : List Constraint) (v : Value) (path : Path)
    (ofEntries : ∀ entries, v.mapping? = some entries → (motives catalogs Inside).ofEntries mode scope key value path entries) :
    (motives catalogs Inside).ofValue mode scope (.map key value cs) v path := by
  intro rounds full steady json w checked
  obtain ⟨-, impossible⟩ | ⟨entries, own, ⟨inner, violations⟩, found, constrained, each, same⟩ := check_map_eq_ok.mp checked
  · cases impossible
  · obtain ⟨rfl, clean⟩ := Checked.mk.inj same
    obtain ⟨rfl, rfl⟩ := List.append_eq_nil_iff.mp clean.symm
    cases Value.eq_map_of_isJson json found
    obtain ⟨ends, length, again⟩ := ofEntries entries found rounds full steady.value json inner each
    have constrained' := (ownViolations_map steady.formed.own length).trans constrained
    exact ⟨ends, check_map_eq_ok.mpr (.inr ⟨inner, [], (inner, []), rfl, constrained', again, rfl⟩)⟩

/-- Keys of fields that came out name fields. -/
theorem keys_named {s : Schema} {gaps : Gaps} {v : Value} {catalog : Option CatalogId} {fields : Entries}
    (found : fieldStages catalogs rounds s gaps v path catalog = .ok (.ok fields)) :
    ∀ key ∈ fields.keys, ∃ f ∈ s.regularFields, key.str? = some f.name.label := by
  obtain ⟨entries, left, report, unexpected, -, -, reported, -, rfl⟩ := report_of_fieldStages found
  intro key member
  obtain ⟨e, inside, rfl⟩ := List.mem_map.mp member
  obtain ⟨f, declared, same⟩ := Verdicts.fieldReport_keys reported e inside
  exact ⟨f, declared, by rw [same, Value.str?_toValue]⟩

theorem run_of_fieldStages {s : Schema} (silent : s.crossFieldHooks = [] ∧ s.derivedHooks = []) {v : Value} {catalog : Option CatalogId}
    {fields : Entries} : run catalogs rounds s {} v path catalog = .ok (.ok fields) ↔
      fieldStages catalogs rounds s {} v path catalog = .ok (.ok fields) := by
  rw [run_eq_stages]
  constructor
  · intro returned
    obtain ⟨outcome, found, returned⟩ := Except.bind_eq_ok.mp returned
    cases outcome with
    | error violations => cases returned
    | ok others =>
      have quiet : hookStages catalogs s {} path catalog others = .ok (.ok others) :=
        hookStages_silent silent path catalog others
      cases quiet.symm.trans returned
      exact found
  · intro found
    rw [found]
    exact hookStages_silent silent path catalog fields

private theorem ref_again (settled : Settled catalogs Inside) (mode : Mode) (scope : Scope) (name : Name) (target : Option Target)
    (v : Value) (path : Path) (ofRun : ∀ rounds found s gaps, mode = .full rounds → v.isMapping = true →
      scope.lookup? catalogs name target = some found → found.forRun = .ok (s, gaps) →
      (motives catalogs Inside).ofRun rounds s gaps v path scope.catalog) :
    (motives catalogs Inside).ofValue mode scope (.ref name target) v path := by
  rintro rounds rfl steady json w checked
  obtain (⟨-, impossible⟩ | ⟨-, -, impossible⟩) | ⟨found, entries, s, gaps, outcome, resolved, mapping, read, returned, same⟩ :=
    check_ref_eq_ok.mp checked
  · cases impossible
  · cases impossible
  · obtain ⟨t, rfl, inside⟩ := steady.inScope (name, target) List.mem_cons_self found resolved
    cases read
    cases outcome with
    | error violations =>
      cases same
      exact absurd rfl (StageDiscipline.run_violations_ne_nil returned)
    | ok fields =>
      cases same
      have held : v.isMapping = true := by rw [Value.isMapping, mapping]; rfl
      have stages := (run_of_fieldStages (settled.silent s _ inside)).mp returned
      obtain ⟨ends, again⟩ := ofRun rounds _ s {} rfl held resolved rfl rfl inside json fields returned
      have second := again fields ends (fun _ _ => rfl) (keys_named stages)
      exact ⟨ends, check_ref_of_run resolved rfl rfl second rfl⟩

/-- Where all keys name fields nothing is unexpected. -/
theorem unexpected_named {s : Schema} {entries : Entries}
    (named : ∀ key ∈ entries.keys, ∃ f ∈ s.regularFields, key.str? = some f.name.label) :
    unexpectedWith {} s path entries = .ok [] := by
  have written : entries.keys.forM Value.requireStep = .ok () :=
    Value.requireSteps_eq_ok fun key member => (named key member).elim fun _ field => Value.hasStep_of_str? field.2
  rw [unexpectedWith_nothing, (unexpected_eq_nil s path entries).mpr fun _ => named, written]
  split <;> rfl

private theorem run_again (settled : Settled catalogs Inside) (rounds : Nat) (s : Schema) (gaps : Gaps) (v : Value) (path : Path)
    (catalog : Option CatalogId) (ofFields : ∀ entries left, v.mapping? = some entries → v.roundsAfter rounds = some left →
      (motives catalogs Inside).ofFields left ⟨some s, s.catalog.or catalog⟩ path entries s.regularFields) :
    (motives catalogs Inside).ofRun rounds s gaps v path catalog := by
  rintro rfl inside json fields returned
  have silent := settled.silent s catalog inside
  rw [run_of_fieldStages silent] at returned
  obtain ⟨entries, left, report, unexpected, mapping, spent, reported, clean, rfl⟩ := report_of_fieldStages returned
  obtain ⟨known, -⟩ := List.append_eq_nil_iff.mp clean
  obtain ⟨missing, invalid⟩ := List.append_eq_nil_iff.mp known
  have onward := ofFields entries left mapping spent
  cases Value.eq_map_of_isJson json mapping
  -- neither what is given nor what comes out takes a round
  obtain rfl : rounds = left := Option.some.inj ((Value.roundsAfter_of_hasEnd (Value.hasEnd_of_isJson json) rounds).symm.trans spent)
  obtain ⟨ends, same⟩ := onward (settled.fields s catalog inside) (settled.distinct s catalog inside) json report reported missing
    invalid
  refine ⟨ends, fun again endsAgain agree named => (run_of_fieldStages silent).mpr ?_⟩
  have silence : report.violations [] = [] := by rw [FieldReport.violations, missing, invalid]; rfl
  have held : (Value.map again).mapping? = some again := rfl
  rw [fieldStages, held, Value.roundsAfter_of_hasEnd endsAgain]
  simp only [same again agree, unexpected_named named, Except.ok_bind, silence]
  rfl

private theorem field_again (rounds : Nat) (scope : Scope) (path : Path) (entries : Entries) (f : Field) (rest : List Field)
    (ofValue : ∀ v, entries.field? f.name.label = some v →
      (motives catalogs Inside).ofValue (.full rounds) scope f.type v (path ++ [.name f.name.label]))
    (ofRest : (motives catalogs Inside).ofFields rounds scope path entries rest) :
    (motives catalogs Inside).ofFields rounds scope path entries (f :: rest) := by
  intro steady distinct json report reported missing invalid
  obtain ⟨here, later⟩ := List.forall_mem_cons.mp steady
  obtain ⟨fresh, distinct⟩ := List.nodup_cons.mp distinct
  -- the other fields read the same, with and without this one before them
  have others {again output : Entries} {w : Value} (agree : AgreeOn rest again ((f.name.toValue, w) :: output)) :
      AgreeOn rest again output := by
    intro g member
    have apart : ¬ f.name.label = g.name.label := fun same => fresh (List.mem_map.mpr ⟨g, member, same.symm⟩)
    rw [agree g member, Entries.field?, Value.str?_toValue, if_neg (by simpa using apart)]
  have present {again output : Entries} {w : Value}
      (agree : again.field? f.name.label = Entries.field? ((f.name.toValue, w) :: output) f.name.label) :
      again.field? f.name.label = some w := by
    rw [agree, Entries.field?, if_pos (Value.str?_toValue f.name)]
  obtain ⟨v, ⟨w, violations⟩, remaining, found, checked, rested, rfl⟩ | ⟨remaining, found, copied, rested, rfl⟩ :=
    fieldReport_cons_eq_ok.mp reported
  · cases violations with
    | cons x violations => cases invalid
    | nil =>
      obtain ⟨e, member, -, same⟩ := Entries.mem_of_field? found
      subst same
      obtain ⟨ends, second⟩ := ofValue e.2 found rounds rfl here.type (Value.isJson_of_mem_map json e member).2 w checked
      obtain ⟨endsLater, secondLater⟩ := ofRest later distinct json remaining rested missing invalid
      refine ⟨Value.hasEnd_map_cons (Value.hasEnd_toValue f.name) ends endsLater, fun again agree => ?_⟩
      obtain ⟨agreeHere, agreeLater⟩ := List.forall_mem_cons.mp agree
      exact fieldReport_of_present (present agreeHere) second (secondLater again (others agreeLater))
  · cases given : f.default with
    | some w =>
      rw [given] at missing invalid
      have second := here.default rounds w (path ++ [.name f.name.label]) given
      obtain ⟨endsLater, secondLater⟩ := ofRest later distinct json remaining rested missing invalid
      refine ⟨Value.hasEnd_map_cons (Value.hasEnd_toValue f.name) (here.ends w given) endsLater, fun again agree => ?_⟩
      obtain ⟨agreeHere, agreeLater⟩ := List.forall_mem_cons.mp agree
      exact fieldReport_of_present (present agreeHere) second (secondLater again (others agreeLater))
    | none =>
      have optional : ¬ f.required = true := by
        intro required
        rw [given, FieldReport.withAbsent, if_pos required] at missing
        cases missing
      have left : remaining.withAbsent f path none = remaining := if_neg optional
      rw [given, left] at missing invalid
      rw [left]
      have absent : remaining.output.field? f.name.label = none := by
        refine Entries.field?_of_absent fun e member same => ?_
        obtain ⟨g, inside, key⟩ := Verdicts.fieldReport_keys rested e member
        rw [key, Value.str?_toValue] at same
        exact fresh (List.mem_map.mpr ⟨g, inside, Option.some.inj same⟩)
      obtain ⟨endsLater, secondLater⟩ := ofRest later distinct json remaining rested missing invalid
      refine ⟨endsLater, fun again agree => ?_⟩
      obtain ⟨agreeHere, agreeLater⟩ := List.forall_mem_cons.mp agree
      exact fieldReport_cons_eq_ok.mpr
        (.inr ⟨remaining, agreeHere.trans absent, copied, secondLater again agreeLater, by rw [given, left]⟩)

private theorem entry_again (mode : Mode) (scope : Scope) (key value : SchemaType) (path : Path) (k v : Value) (rest : Entries)
    (ofValue : (motives catalogs Inside).ofValue mode scope value v (path ++ [k.keyStep]))
    (ofRest : (motives catalogs Inside).ofEntries mode scope key value path rest) :
    (motives catalogs Inside).ofEntries mode scope key value path ((k, v) :: rest) := by
  intro rounds full steady json checked each
  obtain ⟨written, ofKey, ⟨w, violations⟩, ⟨others, remaining⟩, checkedKey, checkedValue, rested, same⟩ :=
    checkEntries_cons_eq_ok.mp each
  obtain ⟨rfl, silent⟩ := Prod.mk.inj same
  obtain ⟨clean, rfl⟩ := List.append_eq_nil_iff.mp silent.symm
  obtain ⟨cleanKey, rfl⟩ := List.append_eq_nil_iff.mp clean
  have inner := Value.isJson_of_mem_map json
  obtain ⟨endsLater, length, again⟩ := ofRest rounds full steady
    (Value.isJson_map fun e member => inner e (List.mem_cons_of_mem _ member)) others rested
  obtain ⟨ends, here⟩ := ofValue rounds full steady (inner _ List.mem_cons_self).2 w checkedValue
  obtain ⟨keyEnds, -, -⟩ := Value.hasEnd_entry (Value.hasEnd_of_isJson json)
  refine ⟨Value.hasEnd_map_cons keyEnds ends endsLater, congrArg (· + 1) length,
    checkEntries_cons_eq_ok.mpr ⟨written, ofKey, ⟨w, []⟩, (others, []), checkedKey, here, again, ?_⟩⟩
  rw [cleanKey]
  rfl

private theorem item_again (mode : Mode) (scope : Scope) (t : SchemaType) (path : Path) (index : Nat) (v : Value) (rest : List Value)
    (ofValue : (motives catalogs Inside).ofValue mode scope t v (path ++ [.index index]))
    (ofRest : (motives catalogs Inside).ofItems mode scope t path (index + 1) rest) :
    (motives catalogs Inside).ofItems mode scope t path index (v :: rest) := by
  intro rounds full steady json checked each
  obtain ⟨⟨w, violations⟩, ⟨others, remaining⟩, checkedItem, rested, same⟩ := checkItems_cons_eq_ok.mp each
  obtain ⟨rfl, silent⟩ := Prod.mk.inj same
  obtain ⟨rfl, rfl⟩ := List.append_eq_nil_iff.mp silent.symm
  have inner := Value.isJson_of_mem_list json
  obtain ⟨endsLater, length, again⟩ := ofRest rounds full steady
    (Value.isJson_list fun item member => inner item (List.mem_cons_of_mem _ member)) others rested
  obtain ⟨ends, here⟩ := ofValue rounds full steady (inner v List.mem_cons_self) w checkedItem
  exact ⟨Value.hasEnd_list_cons ends endsLater, congrArg (· + 1) length,
    checkItems_of_cons here again⟩

private theorem step (settled : Settled catalogs Inside) : Cases catalogs (motives catalogs Inside) where
  primitive mode scope kind cs v path rounds full _ json w checked := again_of_alone rfl json checked
  array := array_again
  map := map_again
  union mode scope variants cs v path _ rounds full steady json w checked := by
    have alone : (SchemaType.union variants cs).references = [] := by
      refine List.eq_nil_iff_forall_not_mem.mpr fun r mentioned => ?_
      obtain ⟨t, member, inside⟩ := SchemaType.mem_referencesOf.mp mentioned
      rw [steady.unions t member] at inside
      cases inside
    exact again_of_alone alone json checked
  ref := ref_again settled
  run rounds s gaps v path catalog inner :=
    run_again settled rounds s gaps v path catalog fun entries left mapping spent => (inner entries left mapping spent).1
  noField rounds scope path entries := by
    intro _ _ _ report reported _ _
    rw [fieldReport] at reported
    cases reported
    exact ⟨rfl, fun again _ => by rw [fieldReport]; rfl⟩
  field := field_again
  noVariant _ _ _ _ := trivial
  variant _ _ _ _ _ _ _ _ := trivial
  noEntry mode scope key value path := by
    intro rounds full _ _ checked each
    rw [checkEntries] at each
    cases each
    exact ⟨rfl, rfl, checkEntries_nil⟩
  entry mode scope key value path k v rest _ := entry_again mode scope key value path k v rest
  noItem mode scope t path index := by
    intro rounds full _ _ checked each
    rw [checkItems] at each
    cases each
    exact ⟨rfl, rfl, checkItems_nil⟩
  item := item_again

/-- What a run has made of JSON data has an end and comes to the same in another run, as does what reads like it. -/
theorem run_settled (settled : Settled catalogs Inside) {s : Schema} {catalog : Option CatalogId} (inside : Inside s catalog) {v : Value}
    (json : v.isJson = true) {fields : Entries} (returned : run catalogs rounds s {} v path catalog = .ok (.ok fields)) :
    (Value.map fields).hasEnd = true ∧ ∀ again : Entries, (Value.map again).hasEnd = true → AgreeOn s.regularFields again fields →
      (∀ key ∈ again.keys, ∃ f ∈ s.regularFields, key.str? = some f.name.label) →
      run catalogs rounds s {} (.map again) path catalog = .ok (.ok fields) :=
  (step settled).all.2 rounds s {} v path catalog rfl inside json fields returned

end Proofs.Revalidation

namespace Entries

/-- It does not matter whether a name stands as itself or as its text. -/
theorem field?_labelled (parts : List (Name × Value)) (text : String) :
    (labelled parts).field? text = (named parts).field? text := by
  induction parts with
  | nil => rfl
  | cons part rest ih =>
    show (if (Value.str part.1.label).str? = some text then _ else _) = if part.1.toValue.str? = some text then _ else _
    rw [Value.str?_toValue, Value.str?, show field? (rest.map _) text = field? (named rest) text from ih]
    rfl

theorem hasEnd_labelled {parts : List (Name × Value)} (ends : (Value.map (named parts)).hasEnd = true) :
    (Value.map (labelled parts)).hasEnd = true := by
  induction parts with
  | nil => rfl
  | cons part rest ih =>
    obtain ⟨-, here, later⟩ := Value.hasEnd_entry ends
    exact Value.hasEnd_map_cons rfl here (ih later)

theorem keys_labelled (parts : List (Name × Value)) : (labelled parts).keys.map Value.str? = (named parts).keys.map Value.str? := by
  have texts : ∀ name : Name, (Value.str name.label).str? = name.toValue.str? := fun name => (Value.str?_toValue name).symm
  simp [keys, labelled, named, texts]

end Entries

namespace Validation
open Proofs.Revalidation Proofs.SuppliedDefault Proofs.Verdicts

variable {catalogs : Catalogs} {s : Schema}

/-- Where no schema that is reached has hooks, no variant of a union refers to a schema and defaults are JSON of types that
refer to no schema, JSON data that is accepted comes out such that it is accepted once more, and comes out the same. -/
theorem validate_again (repeatable : ∀ t catalog, Reaches catalogs s t catalog → t.Repeatable) {d : Value}
    (json : d.isJson = true) {data : Entries} {container : Option Container}
    (given : validate catalogs s d = .ok (.accepted data container)) :
    validate catalogs s (.map data) = .ok (.accepted data container) := by
  have root := repeatable s none .self
  obtain ⟨outcome, returned, accepted⟩ := Except.bind_eq_ok.mp given
  rw [Value.unfolded_of_isJson json, Failing.ofFault_eq_ok] at returned
  cases outcome with
  | error violations => cases accepted
  | ok fields =>
    -- the fields under their names, and the data under the texts of these names
    have unhooked : ∀ placed ∈ s.derivedHooks, placed.hook.LeavesData := by
      rw [root.silent.2]
      exact List.forall_mem_nil _
    obtain ⟨entries, -, keys⟩ := run_filled root.built root.silent.1 unhooked returned
    have distinct := filledFields_distinct root.built entries
    have keyed : fields.map Prod.fst = ((s.filledFields entries).map (·.name)).map Name.toValue := by
      rw [keys, List.map_map]
      rfl
    obtain ⟨parts, rfl, names⟩ := Entries.exists_named keyed
    have labels : parts.map (·.1.label) = (s.filledFields entries).map (·.name.label) := by
      have same := congrArg (List.map Name.label) names
      rwa [List.map_map, List.map_map] at same
    have keyed : withTextKeys (Entries.named parts) = .ok (Entries.labelled parts) := withTextKeys_named (labels ▸ distinct)
    obtain ⟨_, _, same, keyed'⟩ := data_of_accept accepted
    cases same
    cases keyed.symm.trans keyed'
    have stages := (run_of_fieldStages root.silent).mp returned
    have known : ∀ key ∈ (Entries.labelled parts).keys, ∃ f ∈ s.regularFields, key.str? = some f.name.label := by
      intro key member
      have text : key.str? ∈ (Entries.named parts).keys.map Value.str? :=
        Entries.keys_labelled parts ▸ List.mem_map_of_mem member
      obtain ⟨name, inside, same⟩ := List.mem_map.mp text
      exact same ▸ keys_named stages name inside
    obtain ⟨ends, second⟩ := run_settled (settled_of_repeatable repeatable) .self json returned
    have again := second (Entries.labelled parts) (Entries.hasEnd_labelled ends)
      (fun f _ => Entries.field?_labelled parts f.name.label) known
    exact (validate_of_fields (d := .map (Entries.labelled parts)) again).trans accepted

/-- Parcels inside of parcels, with a sender each. -/
def parcel : Schema where
  serial := 2
  name := "Parcel"
  fields := [
    { name := "sender", type := .ref "Address" (some (.schema address)), required := true, default := none, description := .null,
      examples := [], derived := false, extra := [] },
    { name := "labels", type := .array (.union [.primitive .string [], .primitive .integer []] []) [], required := false,
      default := some (.list []), description := .null, examples := [], derived := false, extra := [] },
    { name := "contents", type := .array (.ref "Parcel" none) [], required := false, default := none, description := .null,
      examples := [], derived := false, extra := [] }]
  crossFieldHooks := []
  derivedHooks := []
  title := none
  description := none
  strict := true
  container := none
  catalog := none

def parcelDefinitions : Expr :=
  .list [.tuple [.str "sender", .schema address],
    .tuple [.str "labels", .type (.array (.union [.primitive .string [], .primitive .integer []] []) []),
      .map [(.str "default", .list [])]],
    .tuple [.str "contents", .type (.array (.ref "Parcel" none) []), .map [(.str "optional", .data (.bool true))]]]

theorem parcel_built : parcel.IsBuilt := by
  have assembly : Schema.Assembly {} {} 2 parcelDefinitions { name := "Parcel", strict := true } parcel :=
    ⟨_, parcel.fields, [], [], rfl, by with_unfolding_all rfl, rfl, rfl, rfl⟩
  have defaults : parcel.requireDefaults {} parcel.regularFields = .ok () := by cbv
  exact ⟨_, _, _, _, _, assembly.build_eq rfl defaults rfl⟩

theorem parcel_repeatable (t : Schema) (catalog : Option CatalogId) (reached : Reaches {} parcel t catalog) : t.Repeatable := by
  have ofParcel : parcel.references = [(.text "Address", some (.schema address)), (.text "Parcel", none)] := rfl
  have ofAddress : address.references = [] := rfl
  have either : t = parcel ∨ t = address := by
    induction reached with
    | self => exact .inl rfl
    | next _ member resolved ih =>
      obtain rfl | rfl := ih
      · rw [ofParcel] at member
        obtain rfl | rfl : _ = (Name.text "Address", some (Target.schema address)) ∨ _ = (Name.text "Parcel", none) := by
          simpa using member
        · cases resolved
          exact .inr rfl
        · cases resolved
          exact .inl rfl
      · rw [ofAddress] at member
        cases member
  obtain rfl | rfl := either
  · refine ⟨parcel_built, fun name target member => ?_, ⟨rfl, rfl⟩, ?_, ?_⟩
    · rw [ofParcel] at member
      obtain ⟨-, same⟩ : name = .text "Address" ∧ target = .schema address := by simpa using member
      exact ⟨address, same⟩
    · simp [parcel, SchemaType.PlainUnions, SchemaType.references]
    · simp [parcel, SchemaType.references, SchemaType.referencesOf]
      rfl
  · refine ⟨address_built, fun name target member => ?_, ⟨rfl, rfl⟩, ?_, ?_⟩
    · rw [ofAddress] at member
      cases member
    · simp [address, SchemaType.PlainUnions]
    · simp [address, SchemaType.references]
      rfl

/-- A parcel in a parcel: unknown keys of addresses are gone and defaults are filled in after the first time. -/
theorem parcel_again :
    let d : Value := .map [
      (.str "contents", .list [.map [(.str "sender", .map [(.str "planet", .str "Earth"), (.str "country", .str "BE")])]]),
      (.str "sender", .map [(.str "planet", .str "Earth")])]
    let data : Entries := [
      (.str "sender", .map [(.str "country", .str "NL")]), (.str "labels", .list []),
      (.str "contents", .list [.map [(.str "sender", .map [(.str "country", .str "BE")]), (.str "labels", .list [])]])]
    (∀ t catalog, Reaches {} parcel t catalog → t.Repeatable) ∧ d.isJson = true ∧
      validate {} parcel d = .ok (.accepted data none) ∧ validate {} parcel (.map data) = .ok (.accepted data none) := by
  intro d data
  have json : d.isJson = true := by decide
  have given : validate {} parcel d = .ok (.accepted data none) := by cbv
  exact ⟨parcel_repeatable, json, given, validate_again parcel_repeatable json given⟩

end Validation
end RecordSchema
