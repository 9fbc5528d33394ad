import Mathlib.Data.Option.Basic
import RecordSchema.Proofs.LostReferences
import RecordSchema.Proofs.ReferenceClosure
import RecordSchema.Proofs.ReturnedChecks

/-! Catalogs that are given from outside, for references that schemas cannot resolve themselves. They serve the schemas
that have no catalog of their own. One that has a catalog never looks into another one, neither in documents nor when
data is validated, where its catalog also serves the schemas further in. Main statements: `reported_only_if_missed`, and
`town_unnoticed` for a reference that is reported although the catalog that was given has it. -/

namespace RecordSchema

/-- A schema finds a reference nowhere: it carries no target, does not name the schema, and is not in the catalog of the
schema, nor, if there is none, in the one around. -/
structure Schema.Misses (catalogs : Catalogs) (s : Schema) (around : Option CatalogId) (r : Name × Option Target) : Prop where
  bare : r.2 = none
  other : s.name ≠ r.1.label
  own : Scope.inCatalog? catalogs s.catalog r.1.label = none
  around : s.catalog = none → Scope.inCatalog? catalogs around r.1.label = none

namespace Scope

variable {catalogs : Catalogs} {r : Name × Option Target}

theorem lookup?_outside {fallback : Option CatalogId} : lookup? catalogs ⟨none, fallback⟩ r.1 r.2 = none ↔
    r.2 = none ∧ inCatalog? catalogs fallback r.1.label = none := by
  simp [lookup?, named?, Option.or_eq_none_iff]

theorem named?_owned (s : Schema) (catalog : Option CatalogId) (name : String) : named? catalogs ⟨some s, catalog⟩ name =
    if s.name = name then some s else (inCatalog? catalogs s.catalog name).or (inCatalog? catalogs catalog name) := rfl

/-- Among the fields of a schema a reference leads nowhere exactly if the schema misses it. -/
theorem lookup?_eq_none {s : Schema} {around : Option CatalogId} :
    lookup? catalogs ⟨some s, s.catalog.or around⟩ r.1 r.2 = none ↔ s.Misses catalogs around r := by
  rw [lookup?, Option.or_eq_none_iff, Option.map_eq_none_iff, named?_owned]
  constructor
  · rintro ⟨bare, unnamed⟩
    split at unnamed
    · cases unnamed
    next other =>
      obtain ⟨own, effective⟩ := Option.or_eq_none_iff.mp unnamed
      refine ⟨bare, other, own, fun none => ?_⟩
      rwa [none, Option.none_or] at effective
  · rintro ⟨bare, other, own, outside⟩
    refine ⟨bare, ?_⟩
    rw [if_neg other, Option.or_eq_none_iff]
    refine ⟨own, ?_⟩
    cases alone : s.catalog with
    | none => exact outside alone
    | some id => rwa [alone] at own

end Scope

namespace Document
open Drafting Draft

variable {catalogs : Catalogs} {options : DocumentOptions} {s : Schema} {shown : String}

theorem within_everything (draft : Draft) : draft.Within fun _ _ => True := fun _ _ _ => trivial

/-- The description of a schema reports a reference only if the schema misses it. -/
theorem ofSchema_misses {before : Draft} (failed : Fails (ofSchema catalogs options s) before (.reason (.unresolved shown))) :
    ∃ r ∈ s.shownReferences options, r.1.shown = shown ∧ s.Misses catalogs options.catalog r := by
  obtain blamed | ⟨⟨_, impossible⟩, -⟩ := ofSchema_caused (fun _ _ _ => trivial) (within_everything before) failed
  · cases blamed with
    | unresolved member lost => exact ⟨_, member, rfl, Scope.lookup?_eq_none.mp lost⟩
  · cases impossible

theorem ofType_misses {t : SchemaType} {fallback : Option CatalogId} {before : Draft}
    (failed : Fails (ofType catalogs ⟨none, fallback⟩ t) before (.reason (.unresolved shown))) :
    ∃ r ∈ t.shownReferences, r.1.shown = shown ∧ r.2 = none ∧ Scope.inCatalog? catalogs fallback r.1.label = none := by
  obtain blamed | ⟨⟨_, impossible⟩, -⟩ :=
    ofType_fails (fun _ _ _ => trivial) t (List.Subset.refl _) (within_everything before) failed
  · cases blamed with
    | unresolved member lost => exact ⟨_, member, rfl, Scope.lookup?_outside.mp lost⟩
  · cases impossible

variable (catalogs options) in
/-- The schemas that the document of a schema describes. -/
def DescribedIn (s t : Schema) : Prop := t = s ∨ ∃ name, FollowsFrom catalogs options s name t

/-- A document of a schema reports a reference only if one of the schemas that it describes misses it. -/
theorem generate_misses (carry : ∀ t, DescribedIn catalogs options s t → CarrySchemas (t.shownReferences options))
    (failed : generate catalogs options s = .error (.reason (.unresolved shown))) :
    ∃ t, DescribedIn catalogs options s t ∧ ∃ r ∈ t.shownReferences options, r.1.shown = shown ∧ t.Misses catalogs options.catalog r := by
  have onward : Onward catalogs options (FollowsFrom catalogs options s) :=
    follows_onward fun name t followed => carry t (.inr ⟨name, followed⟩)
  obtain failed | ⟨name, t, middle, followed, -, failed⟩ :=
    complete_fails_in onward (carry s (.inl rfl)).into (fun _ _ _ => ofSchema_grows) failed
  · exact ⟨s, .inl rfl, ofSchema_misses failed⟩
  · exact ⟨t, .inr ⟨name, followed⟩, ofSchema_misses failed⟩

/-- So does the document of a type, the references of which are only looked for in the catalog that is given. -/
theorem generateType_misses {t : SchemaType} {fallback : Option CatalogId} {key : String}
    (carry : CarrySchemas t.shownReferences)
    (further : ∀ name u, Follows catalogs { definitionsKey := key, catalog := fallback } ⟨none, fallback⟩ t.shownReferences name u →
      CarrySchemas (u.shownReferences {}))
    (failed : generateType catalogs fallback key t = .error (.reason (.unresolved shown))) :
    (∃ r ∈ t.shownReferences, r.1.shown = shown ∧ r.2 = none ∧ Scope.inCatalog? catalogs fallback r.1.label = none) ∨
    ∃ name u, Follows catalogs { definitionsKey := key, catalog := fallback } ⟨none, fallback⟩ t.shownReferences name u ∧
      ∃ r ∈ u.shownReferences {}, r.1.shown = shown ∧ u.Misses catalogs fallback r := by
  have onward : Onward catalogs { definitionsKey := key, catalog := fallback }
      (Follows catalogs { definitionsKey := key, catalog := fallback } ⟨none, fallback⟩ t.shownReferences) :=
    follows_onward further
  obtain failed | ⟨name, u, middle, followed, -, failed⟩ :=
    complete_fails_in onward carry.into (fun _ _ _ => ofType_grows t) failed
  · exact .inl (ofType_misses failed)
  · exact .inr ⟨name, u, followed, ofSchema_misses failed⟩

end Document

namespace Validation
open Proofs.LostReferences

variable {catalogs : Catalogs} {t : SchemaType} {fallback : Option CatalogId}

variable (catalogs t fallback) in
/-- Schemas that are run when a value is validated by a type with a catalog, each with the catalog that is around it
then. -/
inductive MeetsWith : Schema → Option CatalogId → Prop where
  | first {r : Name × Option Target} {found : Target} {s : Schema} {gaps : Gaps} (member : r ∈ t.references)
      (resolved : Scope.lookup? catalogs ⟨none, fallback⟩ r.1 r.2 = some found) (read : found.forRun = .ok (s, gaps)) :
      MeetsWith s fallback
  | next {u : Schema} {around : Option CatalogId} {r : Name × Option Target} {found : Target} {s : Schema} {gaps : Gaps}
      (met : MeetsWith u around) (member : r ∈ u.references)
      (resolved : Scope.lookup? catalogs ⟨some u, u.catalog.or around⟩ r.1 r.2 = some found)
      (read : found.forRun = .ok (s, gaps)) : MeetsWith s (u.catalog.or around)

/-- The catalog around a schema is the one that was given, or that of a schema further out. -/
theorem MeetsWith.around {s : Schema} {around : Option CatalogId} (met : MeetsWith catalogs t fallback s around) :
    around = fallback ∨ ∃ u outside, MeetsWith catalogs t fallback u outside ∧ u.catalog.isSome = true ∧ around = u.catalog := by
  induction met with
  | first => exact .inl rfl
  | @next u around _ _ _ _ met _ _ _ ih =>
    cases alone : u.catalog with
    | none => simpa only [Option.none_or] using ih
    | some id => exact .inr ⟨u, around, met, by rw [alone]; rfl, by rw [alone]; rfl⟩

/-- Validation of a value does not come to a reference that leads nowhere, unless the catalog that is given does not have
it, or a schema that is met misses it: what is done at any other reference makes no difference. -/
theorem checkSingle_misses {lost : OnLost}
    (here : ∀ r ∈ t.references, r.2 = none → Scope.inCatalog? catalogs fallback r.1.label = none → lost r.1 = OnLost.reported r.1)
    (met : ∀ s around, MeetsWith catalogs t fallback s around → ∀ r ∈ s.references, s.Misses catalogs around r →
      lost r.1 = OnLost.reported r.1) (v : Value) :
    checkWith lost catalogs (.full Value.deepest) ⟨none, fallback⟩ t v [] = checkSingle catalogs t v none fallback := by
  have sparing : Sparing lost catalogs (MeetsWith catalogs t fallback) := by
    intro s around reached f member r mentioned
    have inside : r ∈ s.references := Schema.mem_references.mpr ⟨f, member, mentioned⟩
    constructor
    case here =>
      intro none v path
      rw [met s around reached r inside (Scope.lookup?_eq_none.mp none)]
    case onward => exact fun found u gaps resolved read => .next reached inside resolved read
  have spared : SparedIn lost catalogs (MeetsWith catalogs t fallback) ⟨none, fallback⟩ t := by
    intro r mentioned
    constructor
    case here =>
      intro none v path
      obtain ⟨bare, absent⟩ := Scope.lookup?_outside.mp none
      rw [here r mentioned bare absent]
    case onward => exact fun found u gaps resolved read => .first mentioned resolved read
  rw [check_spared sparing spared (.full Value.deepest) v [], checkSingle, Option.bind_none, Option.or_none]

end Validation

namespace Schema
open Document Validation Proofs.LostReferences

/-- With a catalog given from outside, a reference is reported only if a schema that is described, or met in validation,
misses it, or the type itself does; the catalog serves a schema unless that has one of its own, and in validation unless
a schema further out has one. -/
theorem reported_only_if_missed (catalogs : Catalogs) (fallback : Option CatalogId) :
    (∀ (s : Schema) (options : DocumentOptions) (shown : String), options.catalog = fallback →
      (∀ t, DescribedIn catalogs options s t → CarrySchemas (t.shownReferences options)) →
      generate catalogs options s = .error (.reason (.unresolved shown)) →
      ∃ t, DescribedIn catalogs options s t ∧ ∃ r ∈ t.shownReferences options, r.1.shown = shown ∧ t.Misses catalogs fallback r) ∧
    (∀ (t : SchemaType) (key shown : String), CarrySchemas t.shownReferences →
      (∀ name u, Follows catalogs { definitionsKey := key, catalog := fallback } ⟨none, fallback⟩ t.shownReferences name u →
        CarrySchemas (u.shownReferences {})) →
      generateType catalogs fallback key t = .error (.reason (.unresolved shown)) →
      (∃ r ∈ t.shownReferences, r.1.shown = shown ∧ r.2 = none ∧ Scope.inCatalog? catalogs fallback r.1.label = none) ∨
      ∃ name u, Follows catalogs { definitionsKey := key, catalog := fallback } ⟨none, fallback⟩ t.shownReferences name u ∧
        ∃ r ∈ u.shownReferences {}, r.1.shown = shown ∧ u.Misses catalogs fallback r) ∧
    ∀ (t : SchemaType) (lost : OnLost),
      (∀ r ∈ t.references, r.2 = none → Scope.inCatalog? catalogs fallback r.1.label = none → lost r.1 = OnLost.reported r.1) →
      (∀ s around, MeetsWith catalogs t fallback s around → ∀ r ∈ s.references, s.Misses catalogs around r →
        lost r.1 = OnLost.reported r.1) →
      (∀ v, checkWith lost catalogs (.full Value.deepest) ⟨none, fallback⟩ t v [] = checkSingle catalogs t v none fallback) ∧
      ∀ s around, MeetsWith catalogs t fallback s around → around = fallback ∨
        ∃ u outside, MeetsWith catalogs t fallback u outside ∧ u.catalog.isSome = true ∧ around = u.catalog := by
  refine ⟨?_, fun t key shown carry further failed => generateType_misses carry further failed, fun t lost here met => ?_⟩
  · rintro s options shown rfl carry failed
    exact generate_misses carry failed
  · exact ⟨checkSingle_misses here met, fun s around reached => reached.around⟩

/-- Countries by their codes. -/
def country : Schema where
  serial := 1
  name := "Country"
  fields := [ReferenceClosure.requiredField "code" (.primitive .string [])]
  crossFieldHooks := []
  derivedHooks := []
  title := none
  description := none
  strict := false
  container := none
  catalog := none

/-- Towns, with a catalog of their own in which no country is. -/
def town : Schema := ReferenceClosure.recordOf 2 "Town" [ReferenceClosure.requiredField "country" (.ref "Country" none)]

/-- The catalog of towns, and another one that has countries. -/
def atlas : Catalogs := ⟨[(0, {}), (1, ⟨[("Country", some country)]⟩)]⟩

def townType : SchemaType := .ref "Town" (some (.schema town))

/-- A town in the country with the code `NL`. -/
def townData : Value := .map [(.str "country", .map [(.str "code", .str "NL")])]

/-- A country is referred to that is in the catalog that was given, and that would have the data: it is reported all the
same, wherever that catalog can be given. -/
theorem town_unnoticed :
    town.IsBuilt ∧ country.IsBuilt ∧ town.references = [(.text "Country", none)] ∧
    Scope.inCatalog? atlas (some 1) "Country" = some country ∧
    checkSingle atlas (.ref "Country" none) (.map [(.str "code", .str "NL")]) none (some 1) =
      .ok ⟨.map [(.str "code", .str "NL")], []⟩ ∧
    generate atlas { catalog := some 1 } town = .error (.reason (.unresolved "Country")) ∧
    generateType atlas (some 1) "definitions" townType = .error (.reason (.unresolved "Country")) ∧
    checkSingle atlas townType townData none (some 1) =
      .ok ⟨.null, [{ path := [.name "country"], kind := .typeMismatch,
                     message := "schema reference 'Country' cannot be resolved" }]⟩ := by
  have ofTown : Assembly atlas {} 2 (.list [.tuple [.str "country", .tuple [.str "ref", .str "Country"]]])
      { name := "Town", catalog := some 0 } town := ⟨_, town.fields, [], [], rfl, by with_unfolding_all rfl, rfl, rfl, rfl⟩
  have ofCountry : Assembly {} {} 1 (.list [.tuple [.str "code", .str "string"]]) { name := "Country" } country :=
    ⟨_, country.fields, [], [], rfl, by with_unfolding_all rfl, rfl, rfl, rfl⟩
  refine ⟨⟨_, _, _, _, _, ofTown.build_eq rfl rfl rfl⟩, ⟨_, _, _, _, _, ofCountry.build_eq rfl rfl rfl⟩, rfl, rfl, ?_, ?_, ?_, ?_⟩
  · have code : check atlas (.full Value.deepest) ⟨some country, some 1⟩ (.primitive .string []) (.str "NL") [.name "code"] =
        .ok ⟨.str "NL", []⟩ := by rw [check]; rfl
    have ran : run atlas Value.deepest country {} (.map [(.str "code", .str "NL")]) [] (some 1) =
        .ok (.ok [(.str "code", .str "NL")]) :=
      run_of_report rfl (fieldReport_of_present rfl code fieldReport_nil) rfl rfl
    exact check_ref_of_run rfl rfl rfl ran rfl
  · with_unfolding_all rfl
  · with_unfolding_all rfl
  · have lost : check atlas (.full Value.deepest) ⟨some town, some 0⟩ (.ref "Country" none) (.map [(.str "code", .str "NL")])
        [.name "country"] = .ok (.unresolved "Country" (.map [(.str "code", .str "NL")]) [.name "country"]) :=
      check_ref_unresolved rfl
    have ran : run atlas Value.deepest town {} townData [] (some 1) =
        .ok (.error [{ path := [.name "country"], kind := .typeMismatch,
                       message := "schema reference 'Country' cannot be resolved" }]) :=
      run_of_report rfl (fieldReport_of_present rfl lost fieldReport_nil) rfl rfl
    exact check_ref_of_run rfl rfl rfl ran rfl

theorem townType_references {r : Name × Option Target} (member : r ∈ townType.references) :
    r = (.text "Town", some (.schema town)) :=
  List.mem_singleton.mp (show r ∈ [(Name.text "Town", some (Target.schema town))] from member)

theorem town_references {r : Name × Option Target} (member : r ∈ town.references) : r = (.text "Country", none) :=
  List.mem_singleton.mp (show r ∈ [(Name.text "Country", none)] from member)

theorem townType_met {s : Schema} {around : Option CatalogId} (met : MeetsWith atlas townType (some 1) s around) : s = town := by
  induction met with
  | first member resolved read =>
    cases townType_references member
    cases resolved
    cases read
    rfl
  | next _ member resolved _ ih =>
    subst ih
    cases town_references member
    cases resolved

theorem townType_follows {name : String} {u : Schema}
    (followed : Follows atlas { definitionsKey := "definitions", catalog := some 1 } ⟨none, some 1⟩ townType.shownReferences name u) :
    u = town := by
  induction followed with
  | first leads =>
    obtain ⟨r, member, -, resolved⟩ := leads
    cases townType_references member
    cases resolved
    rfl
  | next _ leads ih =>
    subst ih
    obtain ⟨r, member, -, resolved⟩ := leads
    cases town_references member
    cases resolved

theorem town_described {options : DocumentOptions} {t : Schema} (described : DescribedIn atlas options town t) : t = town := by
  obtain rfl | ⟨name, followed⟩ := described
  · rfl
  have nowhere {name : String} {u : Schema} (leads : LeadsFrom atlas options town name (.schema u)) : u = town := by
    obtain ⟨r, member, -, resolved⟩ := leads
    cases town_references (Schema.shownReferences_subset options town member)
    cases resolved
  induction followed with
  | first leads => exact nowhere leads
  | next _ leads ih =>
    subst ih
    exact nowhere leads

/-- What the document of towns and the check of a town report is missed by towns. -/
theorem town_misses :
    (∃ t, DescribedIn atlas { catalog := some 1 } town t ∧
      ∃ r ∈ t.shownReferences { catalog := some 1 }, r.1.shown = "Country" ∧ t.Misses atlas (some 1) r) ∧
    (∃ name u, Follows atlas { definitionsKey := "definitions", catalog := some 1 } ⟨none, some 1⟩ townType.shownReferences name u ∧
      ∃ r ∈ u.shownReferences {}, r.1.shown = "Country" ∧ u.Misses atlas (some 1) r) ∧
    checkWith (fun name v path => if name.label = "Country" then OnLost.reported name v path else .error .wrongType) atlas
      (.full Value.deepest) ⟨none, some 1⟩ townType townData [] = checkSingle atlas townType townData none (some 1) := by
  have carry : CarrySchemas townType.shownReferences := by
    intro name target member
    cases townType_references member
    exact ⟨town, rfl⟩
  have further name u (followed : Follows atlas { definitionsKey := "definitions", catalog := some 1 } ⟨none, some 1⟩
      townType.shownReferences name u) : CarrySchemas (u.shownReferences {}) := by
    rw [townType_follows followed]
    intro name target member
    cases town_references member
  have failed : generateType atlas (some 1) "definitions" townType = .error (.reason (.unresolved "Country")) := by
    with_unfolding_all rfl
  have carries t (described : DescribedIn atlas { catalog := some 1 } town t) : CarrySchemas (t.shownReferences { catalog := some 1 }) := by
    rw [town_described described]
    intro name target member
    cases town_references member
  obtain ⟨generated, described, validated⟩ := reported_only_if_missed atlas (some 1)
  refine ⟨generated town { catalog := some 1 } "Country" rfl carries (by with_unfolding_all rfl),
    (described townType "definitions" "Country" carry further failed).resolve_left ?_, (validated townType _ ?_ ?_).1 townData⟩
  · rintro ⟨r, member, -, bare, -⟩
    cases townType_references member
    cases bare
  · intro r member bare
    cases townType_references member
    cases bare
  · intro s around met r member _
    rw [townType_met met] at member
    cases town_references member
    rfl

end Schema
end RecordSchema
