import Mathlib.Data.Option.Basic
import RecordSchema.Proofs.AttributeNames
import RecordSchema.Proofs.DocumentKeywords
import RecordSchema.Proofs.HookCalls
import RecordSchema.Proofs.Verdicts

/-! Accepted data and its container. Where hooks only compute fields, data comes out with the fields that have a value
in the order of their declaration, fits its container and comes back from there. Main statement: `validate_unpack`. -/

namespace RecordSchema

/-- The hook changes nothing in the data that it sees. -/
def Hook.LeavesData (hook : Hook) : Prop := ∀ data, (hook.run data).1 = data

/-- Whether the field has a value where these entries are given, by itself or by its default. -/
def Field.isFilled (entries : Entries) (f : Field) : Bool := (entries.field? f.name.label).isSome || f.default.isSome

/-- The fields that accepted data has: regular ones with a value, and after them all that are derived. -/
def Schema.filledFields (s : Schema) (entries : Entries) : List Field :=
  s.regularFields.filter (·.isFilled entries) ++ s.derivedFields

namespace Entries

/-- Values under the names of fields. -/
def named (parts : List (Name × Value)) : Entries := parts.map fun part => (part.1.toValue, part.2)

/-- Values under the texts of names. -/
def labelled (parts : List (Name × Value)) : Entries := parts.map fun part => (.str part.1.label, part.2)

variable {parts : List (Name × Value)} {names : List Name}

theorem exists_named {entries : Entries} (keys : entries.map Prod.fst = names.map Name.toValue) :
    ∃ parts, entries = named parts ∧ parts.map Prod.fst = names := by
  induction names generalizing entries with
  | nil => exact ⟨[], List.map_eq_nil_iff.mp keys, rfl⟩
  | cons name rest ih =>
    cases entries with
    | nil => cases keys
    | cons e entries =>
      obtain ⟨same, keys⟩ := List.cons.inj keys
      obtain ⟨parts, rfl, rfl⟩ := ih keys
      exact ⟨(name, e.2) :: parts, congrArg (· :: named parts) (Prod.ext same rfl), rfl⟩

theorem field?_named_cons (name : Name) (v : Value) (parts : List (Name × Value)) (text : String) :
    (named ((name, v) :: parts)).field? text = if name.label = text then some v else (named parts).field? text := by
  show (if name.toValue.str? = some text then _ else _) = _
  simp only [Value.str?_toValue, Option.some.injEq]
  rfl

theorem field?_named_of_absent {text : String} (absent : ∀ part ∈ parts, part.1.label ≠ text) :
    (named parts).field? text = none := by
  induction parts with
  | nil => rfl
  | cons part rest ih =>
    obtain ⟨first, later⟩ := List.forall_mem_cons.mp absent
    rw [field?_named_cons, if_neg first, ih later]

/-- Reading the names of parts, and of others among them, gives the parts in order. -/
theorem filterMap_field?_named (part : (parts.map Prod.fst).Sublist names) (distinct : (names.map Name.label).Nodup) :
    names.filterMap (fun name => ((named parts).field? name.label).map fun v => (name.toValue, v)) = named parts := by
  induction names generalizing parts with
  | nil =>
    cases List.map_eq_nil_iff.mp (List.sublist_nil.mp part)
    rfl
  | cons name rest ih =>
    obtain ⟨free, apart⟩ := List.nodup_cons.mp distinct
    rw [List.filterMap_cons]
    obtain later | ⟨others, first, later⟩ := List.sublist_cons_iff.mp part
    · have absent : ∀ part ∈ parts, part.1.label ≠ name.label := fun other member same =>
        free (same ▸ List.mem_map_of_mem (later.subset (List.mem_map_of_mem member)))
      rw [field?_named_of_absent absent]
      exact ih later apart
    · obtain ⟨⟨n, v⟩, parts, rfl, same, rfl⟩ := List.map_eq_cons_iff.mp first
      obtain rfl : n = name := same
      have skips : ∀ other ∈ rest, (named ((n, v) :: parts)).field? other.label = (named parts).field? other.label := by
        intro other member
        have different : n.label ≠ other.label := fun same => free (same ▸ List.mem_map_of_mem member)
        rw [field?_named_cons, if_neg different]
      have others := List.filterMap_congr fun other member => congrArg (Option.map fun v => (other.toValue, v)) (skips other member)
      rw [field?_named_cons, if_pos rfl, others, ih later apart]
      rfl

end Entries

namespace Value

theorem plainEntries_named {parts : List (Name × Value)} (plain : ∀ part ∈ parts, part.2.plain = .ok part.2) :
    plainEntries (Entries.named parts) = .ok (Entries.named parts) := by
  induction parts with
  | nil => exact plainEntries.eq_1
  | cons part rest ih =>
    obtain ⟨name, v⟩ := part
    obtain ⟨first, later⟩ := List.forall_mem_cons.mp plain
    have key : name.toValue.plain = .ok name.toValue := by
      cases name <;> simp [Name.toValue, Value.plain] <;> rfl
    have kept : plainKey name.toValue = .ok name.toValue := by cases name <;> rfl
    change plainEntries ((name.toValue, v) :: Entries.named rest) = _
    rw [plainEntries, key, Except.ok_bind, kept, Except.ok_bind, first, Except.ok_bind, ih later]
    rfl

end Value

namespace ContainerClass

/-- What was put into a container comes out plain. -/
theorem unpack_of_pack {layout : ContainerClass} {parts : List (Name × Value)} {names : List Name} {container : Container}
    (slots : layout.slots.map (·.field) = names) (distinct : (names.map Name.label).Nodup)
    (part : (parts.map Prod.fst).Sublist names) (packed : layout.pack (Entries.named parts) = .ok container) :
    container.unpack = Value.plainEntries (Entries.named parts) := by
  unfold pack at packed
  split at packed
  next =>
    cases packed
    rw [Container.unpack, List.map_filterMap]
    refine congrArg Value.plainEntries (Eq.trans ?_ (Entries.filterMap_field?_named part distinct))
    rw [← slots, List.filterMap_map]
    refine List.filterMap_congr fun slot _ => ?_
    rw [Option.map_map]
    rfl
  next => cases packed

end ContainerClass

namespace Validation
open Proofs.Verdicts

variable {catalogs : Catalogs} {s : Schema} {path : Path} {entries fields computed : Entries}

/-- What comes out of the fields, if none is invalid, are those with a value, in order. -/
theorem fieldReport_filled {rounds : Nat} {scope : Scope} {fs : List Field} {report : FieldReport}
    (reported : fieldReport catalogs rounds scope path entries fs = .ok report) (valid : report.invalid = []) :
    report.output.map Prod.fst = (fs.filter (·.isFilled entries)).map (·.name.toValue) := by
  induction fs generalizing report with
  | nil =>
    rw [fieldReport] at reported
    cases reported
    rfl
  | cons f rest ih =>
    obtain ⟨v, c, remaining, found, -, rested, rfl⟩ | ⟨remaining, found, -, rested, rfl⟩ := fieldReport_cons_eq_ok.mp reported
    · have filled : f.isFilled entries = true := by simp [Field.isFilled, found]
      rw [List.filter_cons_of_pos filled]
      unfold FieldReport.withPresent at valid ⊢
      split at valid
      next clean =>
        rw [if_pos clean]
        exact congrArg _ (ih rested valid)
      next broken =>
        obtain ⟨silent, -⟩ := List.append_eq_nil_iff.mp valid
        exact absurd (by simp [Checked.isClean, silent]) broken
    · have filled : f.isFilled entries = f.default.isSome := by
        rw [Field.isFilled, found, Option.isSome_none, Bool.false_or]
      cases given : f.default with
      | some v =>
        rw [given] at filled valid
        rw [List.filter_cons_of_pos filled]
        exact congrArg _ (ih rested valid)
      | none =>
        rw [given] at filled valid
        rw [List.filter_cons_of_neg (by rw [filled]; exact Bool.false_ne_true)]
        have kept : (remaining.withAbsent f path none).output = remaining.output ∧
            (remaining.withAbsent f path none).invalid = remaining.invalid := by
          simp only [FieldReport.withAbsent]
          split <;> exact ⟨rfl, rfl⟩
        rw [kept.1]
        exact ih rested (kept.2 ▸ valid)

theorem fieldStages_filled {rounds : Nat} {v : Value} {gaps : Gaps} {catalog : Option CatalogId}
    (returned : fieldStages catalogs rounds s gaps v path catalog = .ok (.ok fields)) :
    ∃ entries, v.mapping? = some entries ∧
      fields.map Prod.fst = (s.regularFields.filter (·.isFilled entries)).map (·.name.toValue) := by
  obtain ⟨entries, left, report, unexpected, mapping, -, reported, clean, rfl⟩ := report_of_fieldStages returned
  obtain ⟨known, -⟩ := List.append_eq_nil_iff.mp clean
  exact ⟨entries, mapping, fieldReport_filled reported (List.append_eq_nil_iff.mp known).2⟩

/-- Derived hooks that leave the data as it is add their fields to it, in order. -/
theorem runDerived_keys {shape : SchemaType → Value → Path → Except Fault Checked} {hooks : List PlacedHook} {names : List Name}
    (leaves : ∀ placed ∈ hooks, placed.hook.LeavesData) (targets : hooks.map (·.fieldName) = names.map some)
    (distinct : ((fields.map Prod.fst ++ names.map Name.toValue).map Value.str?).Nodup)
    (returned : Hooks.runDerived shape s path hooks fields = .ok (.ok computed)) :
    computed.map Prod.fst = fields.map Prod.fst ++ names.map Name.toValue := by
  induction hooks generalizing fields names with
  | nil =>
    cases List.map_eq_nil_iff.mp targets.symm
    cases returned
    exact (List.append_nil _).symm
  | cons placed rest ih =>
    obtain ⟨name, names, rfl, target, targets⟩ := List.map_eq_cons_iff.mp targets.symm
    obtain ⟨first, later⟩ := List.forall_mem_cons.mp leaves
    obtain ⟨left, value, called, -, returned⟩ := Hooks.runDerived_cons_eq_ok.mp returned
    obtain rfl : left = .map fields := by rw [← first (.map fields), called]
    -- no key so far is this name, so its value is put behind all others
    have fresh : ∀ e ∈ fields, e.1.str? ≠ name.toValue.str? := by
      intro e member same
      rw [List.map_append] at distinct
      exact (List.nodup_append.mp distinct).2.2 _ (List.mem_map_of_mem (List.mem_map_of_mem member)) _ List.mem_cons_self same
    have extended : (fields ++ [(name.toValue, value)]).map Prod.fst ++ names.map Name.toValue =
        fields.map Prod.fst ++ (name :: names).map Name.toValue := by
      rw [List.map_append, List.append_assoc]
      rfl
    rw [Hooks.target, show placed.fieldName = some name from target.symm] at returned
    change Hooks.runDerived shape s path rest (Entries.put fields name.toValue value) = _ at returned
    rw [Entries.put_of_fresh fresh value] at returned
    exact (ih later targets.symm (extended ▸ distinct) returned).trans extended

theorem filledFields_sublist (built : s.IsBuilt) (entries : Entries) : (s.filledFields entries).Sublist s.fields := by
  rw [built.parts.1]
  exact List.filter_sublist.append (List.Sublist.refl _)

theorem filledFields_distinct (built : s.IsBuilt) (entries : Entries) : ((s.filledFields entries).map (·.name.label)).Nodup :=
  built.distinct.sublist ((filledFields_sublist built entries).map _)

/-- A run without cross-field hooks, the derived ones of which leave the data as it is, comes out with the filled fields. -/
theorem run_filled (built : s.IsBuilt) (unhooked : s.crossFieldHooks = [])
    (leaves : ∀ placed ∈ s.derivedHooks, placed.hook.LeavesData) {rounds : Nat} {v : Value} {catalog : Option CatalogId}
    (returned : run catalogs rounds s {} v path catalog = .ok (.ok fields)) :
    ∃ entries, v.mapping? = some entries ∧ fields.map Prod.fst = (s.filledFields entries).map (·.name.toValue) := by
  obtain ⟨found, crossed, fieldsFound, crossing, computing⟩ := stages_of_run returned
  obtain ⟨entries, mapping, keys⟩ := fieldStages_filled fieldsFound
  rw [unhooked] at crossing
  cases crossing
  have targets : s.derivedHooks.map (·.fieldName) = (s.derivedFields.map (·.name)).map some := by
    rw [built.parts.2, List.map_map]
    rfl
  have whole : found.map Prod.fst ++ (s.derivedFields.map (·.name)).map Name.toValue =
      (s.filledFields entries).map (·.name.toValue) := by
    rw [keys, Schema.filledFields, List.map_append, List.map_map]
    rfl
  have distinct : ((found.map Prod.fst ++ (s.derivedFields.map (·.name)).map Name.toValue).map Value.str?).Nodup := by
    have labels := (List.nodup_map_iff (Option.some_injective _)).mpr (filledFields_distinct built entries)
    rw [whole]
    simpa only [List.map_map, Function.comp_def, Value.str?_toValue] using labels
  exact ⟨entries, mapping, (runDerived_keys leaves targets distinct computing).trans whole⟩

theorem withTextKeys_named {parts : List (Name × Value)} (distinct : (parts.map (·.1.label)).Nodup) :
    withTextKeys (Entries.named parts) = .ok (Entries.labelled parts) := by
  have read : ∀ e ∈ Entries.named parts, e.1.decoded?.isSome = true :=
    List.forall_mem_map.mpr fun part _ => by rw [decoded?_toValue]; rfl
  have labels : (Entries.named parts).filterMap (fun e => e.1.decoded?.map (.str ·, e.2)) = Entries.labelled parts := by
    rw [Entries.named, List.filterMap_map, Entries.labelled, ← List.filterMap_eq_map]
    refine List.filterMap_congr fun part _ => ?_
    simp [decoded?_toValue]
  have apart : ((Entries.labelled parts).map fun e : Value × Value => e.1.str?).Nodup := by
    have texts := (List.nodup_map_iff (Option.some_injective _)).mpr distinct
    rw [List.map_map] at texts
    rwa [Entries.labelled, List.map_map]
  rw [withTextKeys_of_texts read, labels, Entries.ofPairs, Entries.update_of_distinct apart]
  rfl

/-- Whatever the names of its fields, the attributes for a built schema are named, each beside the field it is for; they
are those of its container, if it has one. Where hooks only compute fields, data that is accepted fits the container and
comes out with the filled fields, and plain values come back from the container under the names of the fields. -/
theorem validate_unpack (built : s.IsBuilt) (unhooked : s.crossFieldHooks = [])
    (leaves : ∀ placed ∈ s.derivedHooks, placed.hook.LeavesData) :
    ContainerClass.Names s.attributes (s.fields.map (·.name)) ∧
    ∀ layout, s.container = some layout → layout.slots = s.attributes ∧
      ∀ d fields, run catalogs Value.deepest s {} d.unfolded [] none = .ok (.ok fields) →
        ∃ entries parts container, d.unfolded.mapping? = some entries ∧
          parts.map Prod.fst = (s.filledFields entries).map (·.name) ∧ fields = Entries.named parts ∧
          validate catalogs s d = .ok (.accepted (Entries.labelled parts) (some container)) ∧
          ((∀ part ∈ parts, part.2.plain = .ok part.2) → container.unpack = .ok (Entries.named parts)) := by
  refine ⟨?_, fun layout laid => ⟨built.layout laid, fun d fields returned => ?_⟩⟩
  · have names := ContainerClass.assign_names (s.fields.map fun f => (f.name, f.description))
    rwa [List.map_map] at names
  · obtain ⟨entries, mapping, keys⟩ := run_filled built unhooked leaves returned
    rw [← Function.comp_def Name.toValue, ← List.map_map] at keys
    -- from here on the fields are parts by name, which the container and the data that comes out both list in order
    obtain ⟨parts, rfl, names⟩ := Entries.exists_named keys
    have declared : (parts.map Prod.fst).Sublist (s.fields.map (·.name)) := names ▸ (filledFields_sublist built entries).map _
    have distinct : (s.fields.map (·.name)).map Name.label |>.Nodup := by rw [List.map_map]; exact built.distinct
    have labels : (parts.map (·.1.label)).Nodup := by
      have part := distinct.sublist (declared.map Name.label)
      rwa [List.map_map] at part
    have known : ∀ e ∈ Entries.named parts, ∃ f ∈ s.fields, e.1 = f.name.toValue := by
      refine List.forall_mem_map.mpr fun part member => ?_
      obtain ⟨f, inside, same⟩ := List.mem_map.mp (declared.subset (List.mem_map_of_mem member))
      exact ⟨f, inside, by rw [same]⟩
    obtain ⟨container, packed⟩ := pack_returns (built.slots laid) known
    refine ⟨entries, parts, container, mapping, names, rfl, ?_, fun plain => ?_⟩
    · rw [validate_of_fields returned]
      exact accept_of_packed laid packed (withTextKeys_named labels)
    · rw [ContainerClass.unpack_of_pack (built.slots laid) distinct declared packed, Value.plainEntries_named plain]

/-- A hook that computes a stamp. -/
def stamping : Hook := ⟨fun v => (v, .success (.str "stamped")), 1, "function", some "badges", some "stamp", some "stamp"⟩

/-- Badges: fields that cannot be attributes, or take the label of one that cannot. -/
def badge : Schema where
  serial := 1
  name := "Badge"
  fields := [
    { name := "class", type := .primitive .string [], required := true, default := none, description := .null,
      examples := [], derived := false, extra := [] },
    { name := "field_0", type := .primitive .integer [], required := false, default := some (.int 7), description := .null,
      examples := [], derived := false, extra := [] },
    { name := "model_dump", type := .primitive .string [], required := false, default := none, description := .null,
      examples := [], derived := true, extra := [] }]
  crossFieldHooks := []
  derivedHooks := [stamping.placed "Badge" .derived 1 (some "model_dump")]
  title := none
  description := none
  strict := false
  container := some
    ⟨"Badge", [⟨"field_0", "class", .null⟩, ⟨"field_0_", "field_0", .null⟩, ⟨"field_2", "model_dump", .null⟩]⟩
  catalog := none

theorem badge_built : badge.IsBuilt := by
  have assembly : Schema.Assembly {} {} 1
      (.list [.tuple [.str "class", .type (.primitive .string [])],
        .tuple [.str "field_0", .type (.primitive .integer []), .map [(.str "default", .data (.int 7))]]])
      { name := "Badge", materialize := true,
        derivedFields := [.tuple [.str "model_dump", .type (.primitive .string []), .hook stamping]] }
      { badge with container := none } :=
    ⟨_, badge.regularFields, [], badge.derivedFields.zip badge.derivedHooks, rfl,
      by with_unfolding_all rfl, rfl, by with_unfolding_all rfl, rfl⟩
  have laid : Schema.containerClass "Badge" { badge with container := none } =
      .ok ⟨"Badge", [⟨"field_0", "class", .null⟩, ⟨"field_0_", "field_0", .null⟩, ⟨"field_2", "model_dump", .null⟩]⟩ := by
    have first : ContainerClass.freshName [] (ContainerClass.labelFor "class" 0) = "field_0" := by decide +kernel
    have second : ContainerClass.freshName ["field_0"] (ContainerClass.labelFor "field_0" 1) = "field_0_" := by decide +kernel
    have third : ContainerClass.freshName ["field_0_", "field_0"] (ContainerClass.labelFor "model_dump" 2) = "field_2" := by
      decide +kernel
    have slots : ContainerClass.assign 0 [] [("class", .null), ("field_0", .null), ("model_dump", .null)] =
        [⟨"field_0", "class", .null⟩, ⟨"field_0_", "field_0", .null⟩, ⟨"field_2", "model_dump", .null⟩] := by
      simp only [ContainerClass.assign, Name.label, first, second, third]
    refine ContainerClass.ofFields_eq_ok.mpr ⟨congrArg _ slots.symm, ?_, by decide⟩
    change ∀ slot ∈ ContainerClass.assign 0 [] [("class", .null), ("field_0", .null), ("model_dump", .null)], _
    rw [slots]
    decide
  have seven : checkSingle {} (.primitive .integer []) (.int 7) (some { badge with container := none }) = .ok (.clean (.int 7)) :=
    check_primitive_eq_ok.mpr (.inr ⟨rfl, [], rfl, rfl⟩)
  have defaults : { badge with container := none }.requireDefaults {} { badge with container := none }.regularFields = .ok () := by
    show Failing.ofFault (checkSingle _ _ _ _) >>= _ = _
    rw [seven]
    rfl
  exact ⟨_, _, _, _, _, assembly.build_eq_laid rfl defaults rfl laid⟩

/-- The default and what the hook computes come back from the container with what was given. -/
theorem badge_unpack :
    badge.IsBuilt ∧ badge.container.isSome ∧ badge.crossFieldHooks = [] ∧
      (∀ placed ∈ badge.derivedHooks, placed.hook.LeavesData) ∧
      ∃ container,
        validate {} badge (.map [(.str "class", .str "gold")]) =
          .ok (.accepted [(.str "class", .str "gold"), (.str "field_0", .int 7), (.str "model_dump", .str "stamped")]
            (some container)) ∧
        container.unpack = .ok [(.str "class", .str "gold"), (.str "field_0", .int 7), (.str "model_dump", .str "stamped")] := by
  have leaves : ∀ placed ∈ badge.derivedHooks, placed.hook.LeavesData := List.forall_mem_singleton.mpr fun _ => rfl
  have returned : run {} Value.deepest badge {} (.map [(.str "class", .str "gold")]) [] none =
      .ok (.ok [(.str "class", .str "gold"), (.str "field_0", .int 7), (.str "model_dump", .str "stamped")]) := by
    have gold : check {} (.full Value.deepest) ⟨some badge, none⟩ (.primitive .string []) (.str "gold") [.name "class"] =
        .ok (.clean (.str "gold")) := check_primitive_eq_ok.mpr (.inr ⟨rfl, [], rfl, rfl⟩)
    have stamped : check {} .shape ⟨some badge, none⟩ (.primitive .string []) (.str "stamped") [.name "model_dump"] =
        .ok (.clean (.str "stamped")) := check_primitive_eq_ok.mpr (.inr ⟨rfl, [], rfl, rfl⟩)
    refine run_of_report rfl (fieldReport_of_present rfl gold (fieldReport_of_absent rfl rfl fieldReport_nil)) rfl ?_
    show (check {} .shape ⟨some badge, none⟩ (.primitive .string []) (.str "stamped") [.name "model_dump"] >>= _) >>= _ = _
    rw [stamped]
    rfl
  refine ⟨badge_built, rfl, rfl, leaves, ?_⟩
  obtain ⟨entries, parts, container, mapping, names, same, given, unpacked⟩ :=
    ((validate_unpack badge_built rfl leaves).2 _ rfl).2 (.map [(.str "class", .str "gold")]) _ returned
  cases mapping
  have values := congrArg (List.map Prod.snd) same
  rw [Entries.named, List.map_map] at values
  obtain rfl : parts = [(.text "class", .str "gold"), (.text "field_0", .int 7), (.text "model_dump", .str "stamped")] :=
    List.zip_of_prod names values.symm
  have plain : ∀ part ∈ [(Name.text "class", Value.str "gold"), (.text "field_0", .int 7), (.text "model_dump", .str "stamped")],
      part.2.plain = .ok part.2 := by
    simp only [List.forall_mem_cons, Value.plain]
    exact ⟨rfl, rfl, rfl, List.forall_mem_nil _⟩
  exact ⟨container, given, unpacked plain⟩

end Validation
end RecordSchema
