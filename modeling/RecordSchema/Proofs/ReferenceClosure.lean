import RecordSchema.Proofs.DocumentFailures

/-! Documents are closed under references. A document can be made exactly if every reference that is followed
leads to a schema, and no two schemas go by one name; then it defines the schemas that are followed, each as
in a document of its own. Main statement: `generate_closed`. -/

namespace RecordSchema

namespace Document
open Drafting Draft

variable {catalogs : Catalogs} {options : DocumentOptions} {scope : Scope} {references : List (Name × Option Target)}

variable (catalogs options scope references) in
/-- Names with the schemas that they are followed to: the first by references that are given, the next ones by those
of schemas that were reached before. -/
inductive Follows : String → Schema → Prop where
  | first {name : String} {t : Schema} (leads : Leads catalogs scope references name (.schema t)) : Follows name t
  | next {label name : String} {u t : Schema} (followed : Follows label u)
      (leads : LeadsFrom catalogs options u name (.schema t)) : Follows name t

variable (catalogs options) in
/-- Names with the schemas that the references of a schema are followed to. -/
def FollowsFrom (s : Schema) : String → Schema → Prop :=
  Follows catalogs options (scopeOf options s) (s.shownReferences options)

theorem Follows.trans {label name : String} {u t : Schema} (followed : Follows catalogs options scope references label u)
    (further : FollowsFrom catalogs options u name t) : Follows catalogs options scope references name t := by
  induction further with
  | first leads => exact .next followed leads
  | next _ leads ih => exact .next ih leads

/-- References carry schemas, if they carry something. -/
def CarrySchemas (references : List (Name × Option Target)) : Prop :=
  ∀ name target, (name, some target) ∈ references → ∃ t, target = .schema t

theorem CarrySchemas.leads (carry : CarrySchemas references) {name : String} {found : Target}
    (leads : Leads catalogs scope references name found) : ∃ t, found = .schema t := by
  obtain ⟨⟨own, target⟩, member, -, resolved⟩ := leads
  unfold Scope.lookup? at resolved
  cases target with
  | some _ =>
    cases resolved
    exact carry own found member
  | none =>
    obtain ⟨t, -, same⟩ := Option.map_eq_some_iff.mp resolved
    exact ⟨t, same.symm⟩

variable (catalogs scope) in
/-- A reference leads somewhere, and a target with the same number is recorded under its name. -/
def Resolved (draft : Draft) (r : Name × Option Target) : Prop :=
  ∃ found known, scope.lookup? catalogs r.1 r.2 = some found ∧
    draft.recorded? (some r.1.label) = some (some known) ∧ known.serial = found.serial

theorem Resolved.keep {before after : Draft} {r : Name × Option Target} (resolved : Resolved catalogs scope before r)
    (kept : Kept before after) : Resolved catalogs scope after r := by
  obtain ⟨found, known, leads, recorded, same⟩ := resolved
  exact ⟨found, known, leads, kept.recorded _ _ recorded, same⟩

mutual

theorem ofType_resolves : ∀ (t : SchemaType) {before after : Draft} {made : Entries},
    Makes (ofType catalogs scope t) before made after → ∀ r ∈ t.shownReferences, Resolved catalogs scope after r
  | .primitive _ _, _, _, _, _ => fun _ member => nomatch member
  | .array element _, _, _, _, ended => by
    obtain ⟨items, described, -⟩ := ofArray_makes ended
    exact ofType_resolves element described
  | .map _ value _, _, _, _, ended => by
    obtain ⟨values, described, -⟩ := ofMap_makes ended
    exact ofType_resolves value described
  | .union variants _, _, _, _, ended => by
    obtain ⟨subs, described, -⟩ := ofUnion_makes ended
    exact ofVariants_resolves variants described
  | .ref name target, _, _, _, ended => by
    obtain ⟨found, leads, text, referred, -⟩ := ofRef_makes ended
    obtain ⟨-, -, known, recorded, same⟩ := refer_makes referred
    exact List.forall_mem_singleton.mpr ⟨found, known, leads, recorded, same⟩

theorem ofVariants_resolves : ∀ (types : List SchemaType) {before after : Draft} {made : List Value},
    Makes (ofVariants catalogs scope types) before made after →
      ∀ r ∈ SchemaType.shownReferencesOf types, Resolved catalogs scope after r
  | [], _, _, _, _ => fun _ member => nomatch member
  | t :: rest, _, _, _, ended => by
    obtain ⟨first, middle, described, others, remaining, -⟩ := ofVariants_cons_makes ended
    have kept := (ofVariants_grows rest remaining).toKept
    exact List.forall_mem_append.mpr ⟨fun r member => (ofType_resolves t described r member).keep kept,
      ofVariants_resolves rest remaining⟩

end

theorem ofSchema_resolves {s : Schema} {before after : Draft} {made : Entries}
    (ended : Makes (ofSchema catalogs options s) before made after) :
    ∀ r ∈ s.shownReferences options, Resolved catalogs (scopeOf options s) after r := by
  obtain ⟨named, described, -⟩ := ofSchema_makes ended
  unfold Schema.shownReferences
  generalize s.shownFields options = fields at described
  clear ended
  induction fields generalizing before named with
  | nil => exact fun _ member => nomatch member
  | cons f rest ih =>
    obtain ⟨own, middle, ofField, others, remaining, -⟩ := properties_cons_makes described
    obtain ⟨typed, ofType, -⟩ := ofField_makes ofField
    have kept := (properties_grows remaining).toKept
    rw [List.flatMap_cons]
    exact List.forall_mem_append.mpr ⟨fun r member => (ofType_resolves f.type ofType r member).keep kept, ih others remaining⟩

variable (catalogs options scope references) in
/-- Definitions of the schemas that are followed to, and of nothing else. -/
structure Tabulates (definitions : Entries) : Prop where
  distinct : (definitions.map (·.1.str?)).Nodup
  listed : ∀ label, label ∈ definitions.map (·.1.str?) ↔
    ∃ name t, label = some name ∧ Follows catalogs options scope references name t
  each : ∀ name t, Follows catalogs options scope references name t →
    definitions.field? name = some (.map (schemaContent options t))

theorem Tabulates.isEmpty_iff {definitions : Entries} (tabulates : Tabulates catalogs options scope references definitions) :
    definitions.isEmpty = true ↔ ¬ ∃ name t, Follows catalogs options scope references name t := by
  rw [List.isEmpty_iff]
  refine ⟨fun none ⟨name, t, followed⟩ => ?_, fun nothing => List.eq_nil_iff_forall_not_mem.mpr fun e member => ?_⟩
  · have defined := tabulates.each name t followed
    rw [none] at defined
    cases defined
  · obtain ⟨name, t, -, followed⟩ := (tabulates.listed _).mp (List.mem_map.mpr ⟨e, member, rfl⟩)
    exact nothing ⟨name, t, followed⟩

variable (catalogs options scope references) in
/-- Schemas that are followed to are the same if they have one number. -/
def Identified : Prop :=
  ∀ label t, Follows catalogs options scope references label t →
    ∀ name u, Follows catalogs options scope references name u → t.serial = u.serial → t = u

section Ordered

variable {draft : Draft} {names : List String} (identified : Identified catalogs options scope references)
  (ordered : Ordered catalogs options (Follows catalogs options scope references) names draft)

include identified ordered

/-- A reference that is resolved is recorded with the very schema that it leads to. -/
theorem Resolved.recorded {within : Scope} {r : Name × Option Target} {t : Schema}
    (resolved : Resolved catalogs within draft r) (leads : within.lookup? catalogs r.1 r.2 = some (.schema t))
    (followed : Follows catalogs options scope references r.1.label t) :
    draft.recorded? (some r.1.label) = some (some (.schema t)) := by
  obtain ⟨found, known, same, recorded, serial⟩ := resolved
  rw [leads] at same
  cases same
  obtain ⟨name, u, label, target, -, reached⟩ := ordered.targets _ _ recorded
  cases label
  cases target
  rw [recorded, identified _ u reached _ t followed serial]

variable (done : draft.missing = []) (resolved : ∀ r ∈ references, Resolved catalogs scope draft r)

include done resolved

theorem Follows.recorded {name : String} {t : Schema} (followed : Follows catalogs options scope references name t) :
    draft.recorded? (some name) = some (some (.schema t)) := by
  induction followed with
  | first leads =>
    obtain ⟨r, member, rfl, found⟩ := leads
    exact (resolved r member).recorded identified ordered found (.first ⟨r, member, rfl, found⟩)
  | next followed leads ih =>
    -- the schema before has been described, and all its references were recorded then
    obtain ⟨r, member, rfl, found⟩ := leads
    obtain ⟨keywords, -, before, after, described, kept⟩ := ordered.defined done ih
    exact ((ofSchema_resolves described r member).keep kept).recorded identified ordered found
      (.next followed ⟨r, member, rfl, found⟩)

/-- When nothing is missing, every reference of the schemas that are followed to is resolved. -/
theorem Follows.resolves {name : String} {t : Schema} (followed : Follows catalogs options scope references name t) :
    ∀ r ∈ t.shownReferences options, Resolved catalogs (scopeOf options t) draft r := by
  obtain ⟨keywords, -, before, after, described, kept⟩ :=
    ordered.defined done (followed.recorded identified ordered done resolved)
  exact fun r member => (ofSchema_resolves described r member).keep kept

theorem tabulates : Tabulates catalogs options scope references draft.definitions := by
  have labels := ordered.labels done
  refine ⟨labels ▸ ordered.unambiguous, fun label => ?_, fun name t followed => ?_⟩
  · rw [labels, List.mem_map]
    refine ⟨fun ⟨entry, listed, same⟩ => ?_, fun ⟨name, t, same, followed⟩ => ?_⟩
    · obtain ⟨name, t, named, -, -, followed⟩ := ordered.listed listed
      exact ⟨name, t, same.symm.trans named, followed⟩
    · obtain ⟨n, listed, named⟩ := recorded?_eq_some (followed.recorded identified ordered done resolved)
      exact ⟨_, listed, named.trans same.symm⟩
  · obtain ⟨keywords, defined, before, after, described, kept⟩ :=
      ordered.defined done (followed.recorded identified ordered done resolved)
    have key : before.definitionsKey = options.definitionsKey := by
      rw [← ordered.key, kept.key, (ofSchema_grows described).key]
    rw [defined, ofSchema_content described key]

end Ordered

theorem CarrySchemas.into (carry : CarrySchemas references) (name : String) (found : Target)
    (leads : Leads catalogs scope references name found) :
    ∃ t, found = .schema t ∧ Follows catalogs options scope references name t := by
  obtain ⟨t, rfl⟩ := carry.leads leads
  exact ⟨t, rfl, .first leads⟩

theorem follows_onward (carry : ∀ name t, Follows catalogs options scope references name t → CarrySchemas (t.shownReferences options)) :
    Onward catalogs options (Follows catalogs options scope references) := by
  intro label s followed name found leads
  obtain ⟨t, rfl⟩ := (carry label s followed).leads leads
  exact ⟨t, rfl, .next followed leads⟩

variable (catalogs options scope references) in
/-- Every reference that is followed leads somewhere, and each name to one schema. -/
structure Unfailing : Prop where
  given : ∀ r ∈ references, (scope.lookup? catalogs r.1 r.2).isSome
  further : ∀ name t, Follows catalogs options scope references name t →
    ∀ r ∈ t.shownReferences options, ((scopeOf options t).lookup? catalogs r.1 r.2).isSome
  functional : ∀ name t, Follows catalogs options scope references name t →
    ∀ u, Follows catalogs options scope references name u → t = u

/-- A document that is made has the definitions of all schemas that are followed to. -/
theorem complete_tabulates (carry : CarrySchemas references)
    (onward : ∀ name t, Follows catalogs options scope references name t → CarrySchemas (t.shownReferences options))
    (identified : Identified catalogs options scope references) {making : Drafting Entries}
    (grows : ∀ before made after, Makes making before made after → Grows (Leads catalogs scope references) before after)
    (resolves : ∀ before made after, Makes making before made after → ∀ r ∈ references, Resolved catalogs scope after r)
    {document : Entries} (completed : complete catalogs options options.definitionsKey making = .ok document) :
    Unfailing catalogs options scope references ∧
      ∃ body first definitions, Makes making { definitionsKey := options.definitionsKey } body first ∧
        Tabulates catalogs options scope references definitions ∧
        document = if definitions.isEmpty then body else body.setField options.definitionsKey (.map definitions) := by
  obtain ⟨body, first, draft, names, described, kept, ordered, done, same⟩ :=
    complete_defines (follows_onward onward) carry.into grows completed
  have resolved r (member : r ∈ references) := (resolves _ _ _ described r member).keep kept
  refine ⟨⟨fun r member => ?_, fun name t followed r member => ?_, fun name t left u right => ?_⟩,
    body, first, draft.definitions, described, tabulates identified ordered done resolved, same⟩
  · obtain ⟨found, -, leads, -⟩ := resolved r member
    rw [leads]
    rfl
  · obtain ⟨found, -, leads, -⟩ := followed.resolves identified ordered done resolved r member
    rw [leads]
    rfl
  · have recorded := left.recorded identified ordered done resolved
    rw [right.recorded identified ordered done resolved] at recorded
    cases recorded
    rfl

variable {s : Schema}

variable (catalogs options) in
/-- What keeps a document from being made: a reference that is followed leads nowhere, or one name to two schemas. -/
inductive Obstructed (s : Schema) : Prop where
  | lost {u : Schema} {r : Name × Option Target} (followed : u = s ∨ ∃ name, FollowsFrom catalogs options s name u)
      (member : r ∈ u.shownReferences options) (lost : (scopeOf options u).lookup? catalogs r.1 r.2 = none) : Obstructed s
  | ambiguous {name : String} {t u : Schema} (left : FollowsFrom catalogs options s name t)
      (right : FollowsFrom catalogs options s name u) (differ : t ≠ u) : Obstructed s

theorem Obstructed.outer {name : String} {t : Schema} (followed : FollowsFrom catalogs options s name t)
    (obstructed : Obstructed catalogs options t) : Obstructed catalogs options s := by
  cases obstructed with
  | lost within member lost =>
    obtain rfl | ⟨label, further⟩ := within
    · exact .lost (.inr ⟨name, followed⟩) member lost
    · exact .lost (.inr ⟨label, followed.trans further⟩) member lost
  | ambiguous left right differ => exact .ambiguous (followed.trans left) (followed.trans right) differ

theorem Unfailing.not_obstructed
    (unfailing : Unfailing catalogs options (scopeOf options s) (s.shownReferences options)) : ¬ Obstructed catalogs options s := by
  rintro (⟨followed, member, lost⟩ | ⟨left, right, differ⟩)
  · obtain rfl | ⟨name, followed⟩ := followed
    · have found := unfailing.given _ member
      rw [lost] at found
      cases found
    · have found := unfailing.further _ _ followed _ member
      rw [lost] at found
      cases found
  · exact differ (unfailing.functional _ _ left _ right)

theorem Blames.obstructs {u : Schema} {e : Failing DocumentError} (carry : CarrySchemas (u.shownReferences options))
    (within : u = s ∨ ∃ name, FollowsFrom catalogs options s name u)
    (blamed : Blames catalogs (scopeOf options u) (u.shownReferences options) (Targets (FollowsFrom catalogs options s)) e) :
    (∃ reason, e = .reason reason) ∧ Obstructed catalogs options s := by
  cases blamed with
  | unresolved member lost => exact ⟨⟨_, rfl⟩, .lost within member lost⟩
  | @ambiguous r found known member resolved recorded other =>
    have leads : LeadsFrom catalogs options u r.1.label found := ⟨r, member, rfl, resolved⟩
    obtain ⟨t, rfl⟩ := carry.leads leads
    obtain ⟨v, rfl, left⟩ := recorded
    have right : FollowsFrom catalogs options s r.1.label t := by
      obtain rfl | ⟨name, followed⟩ := within
      · exact .first leads
      · exact .next followed leads
    exact ⟨⟨_, rfl⟩, .ambiguous left right fun same => other (by rw [same])⟩

theorem schemaContent_absent {key : String} (definitions : key ∈ Pointer.definitionsKeys) (s : Schema) :
    ∀ e ∈ schemaContent options s, e.1.str? ≠ some key := by
  have apart : ∀ keyword ∈ schemaKeywords, keyword ∉ Pointer.definitionsKeys := by decide
  intro e member named
  have listed : key ∈ schemaKeywords := (keywordsOf_sublist options s _).subset (List.mem_filterMap.mpr ⟨e, member, named⟩)
  exact apart key listed definitions

theorem generate_content (key : options.definitionsKey ∈ Pointer.definitionsKeys) {document : Entries}
    (generated : generate catalogs options s = .ok document) :
    document.dropField options.definitionsKey = schemaContent options s := by
  obtain ⟨body, first, after, described, -, rfl⟩ := complete_makes generated
  obtain rfl := ofSchema_content described rfl
  split
  · exact Entries.dropField_of_absent (schemaContent_absent key s)
  · rw [Entries.dropField_setField, Entries.dropField_of_absent (schemaContent_absent key s)]

variable (catalogs options) in
/-- A document with definitions exactly if a reference is followed: each name once, and under it what the document
of the schema itself says. -/
structure IsClosed (s : Schema) (document : Entries) : Prop where
  present : (document.field? options.definitionsKey).isSome ↔ ∃ name t, FollowsFrom catalogs options s name t
  definitions : ∀ under, document.field? options.definitionsKey = some under → ∃ definitions : Entries, under = .map definitions ∧
    (definitions.map (·.1.str?)).Nodup ∧
    (∀ label, label ∈ definitions.map (·.1.str?) ↔ ∃ name t, label = some name ∧ FollowsFrom catalogs options s name t) ∧
    ∀ name t, FollowsFrom catalogs options s name t → ∃ own, generate catalogs options t = .ok own ∧
      definitions.field? name = some (.map (own.dropField options.definitionsKey))

variable (describable : ∀ u, (u = s ∨ ∃ name, FollowsFrom catalogs options s name u) → Describable options u)

include describable

/-- No document is made only if it is obstructed. -/
theorem generate_fails {e : Failing DocumentError} (failed : generate catalogs options s = .error e) :
    (∃ reason, e = .reason reason) ∧ Obstructed catalogs options s := by
  have carry : CarrySchemas (s.shownReferences options) := (describable s (.inl rfl)).carries
  have further name t (followed : FollowsFrom catalogs options s name t) := describable t (.inr ⟨name, followed⟩)
  have onward : Onward catalogs options (FollowsFrom catalogs options s) :=
    follows_onward fun name t followed => (further name t followed).carries
  obtain failed | ⟨name, t, followed, blamed⟩ :=
    complete_fails onward further carry.into (fun _ _ _ => ofSchema_grows) failed
  · have nothing : ({ definitionsKey := options.definitionsKey } : Draft).Within (Targets (FollowsFrom catalogs options s)) :=
      fun _ _ impossible => nomatch impossible
    exact (ofSchema_fails (describable s (.inl rfl)) carry.into nothing failed).obstructs carry (.inl rfl)
  · exact blamed.obstructs (further name t followed).carries (.inr ⟨name, followed⟩)

theorem generate_succeeds (unobstructed : ¬ Obstructed catalogs options s) : ∃ document, generate catalogs options s = .ok document := by
  cases outcome : generate catalogs options s with
  | ok document => exact ⟨document, rfl⟩
  | error e => exact absurd (generate_fails describable outcome).2 unobstructed

/-- A document is made unless it is obstructed, and then it is closed under references. -/
theorem generate_closed (identified : Identified catalogs options (scopeOf options s) (s.shownReferences options))
    (key : options.definitionsKey ∈ Pointer.definitionsKeys) :
    ((∃ reason, generate catalogs options s = .error (.reason reason)) ↔ Obstructed catalogs options s) ∧
      (¬ Obstructed catalogs options s → ∃ document, generate catalogs options s = .ok document ∧
        IsClosed catalogs options s document) := by
  have made {document : Entries} (generated : generate catalogs options s = .ok document) :=
    complete_tabulates (describable s (.inl rfl)).carries
      (fun name t followed => (describable t (.inr ⟨name, followed⟩)).carries) identified
      (fun _ _ _ => ofSchema_grows) (fun _ _ _ => ofSchema_resolves) generated
  refine ⟨⟨fun ⟨reason, failed⟩ => (generate_fails describable failed).2, fun obstructed => ?_⟩, fun unobstructed => ?_⟩
  · cases outcome : generate catalogs options s with
    | ok document => exact absurd obstructed (made outcome).1.not_obstructed
    | error e =>
      obtain ⟨⟨reason, rfl⟩, -⟩ := generate_fails describable outcome
      exact ⟨reason, rfl⟩
  · obtain ⟨document, generated⟩ := generate_succeeds describable unobstructed
    obtain ⟨-, body, first, definitions, described, tabulates, same⟩ := made generated
    obtain rfl := ofSchema_content described rfl
    have stands : document.field? options.definitionsKey = if definitions.isEmpty then none else some (.map definitions) := by
      rw [same]
      split
      · exact Entries.field?_of_absent (schemaContent_absent key s)
      · exact Entries.field?_setField_self _ _ _
    refine ⟨document, generated, ?_, fun under there => ?_⟩
    · rw [stands]
      split
      next none => exact iff_of_false (fun impossible => nomatch impossible) (tabulates.isEmpty_iff.mp none)
      next some => exact iff_of_true rfl (Classical.not_not.mp fun nothing => some (tabulates.isEmpty_iff.mpr nothing))
    · rw [stands] at there
      split at there
      · cases there
      · cases there
        refine ⟨definitions, rfl, tabulates.distinct, tabulates.listed, fun name t followed => ?_⟩
        obtain ⟨own, described⟩ : ∃ own, generate catalogs options t = .ok own := by
          refine generate_succeeds (fun u within => describable u (.inr ?_)) fun obstructed => unobstructed (obstructed.outer followed)
          obtain rfl | ⟨label, further⟩ := within
          · exact ⟨name, followed⟩
          · exact ⟨label, followed.trans further⟩
        refine ⟨own, described, ?_⟩
        rw [tabulates.each name t followed, generate_content key described]

omit describable

namespace ReferenceClosure

/-- A field that is required, of a type. -/
def requiredField (name : String) (type : SchemaType) : Field :=
  { name, type, required := true, default := none, description := .null, examples := [], derived := false, extra := [] }

def recordOf (serial : Nat) (name : String) (fields : List Field) : Schema :=
  { serial, name, fields, crossFieldHooks := [], derivedHooks := [], title := none, description := none, strict := false,
    container := none, catalog := some 0 }

def book : Schema :=
  recordOf 1 "Book" [requiredField "title" (.primitive .string []), requiredField "author" (.ref "Author" none)]

/-- Authors, who lead back to books. -/
def author : Schema := recordOf 2 "Author" [requiredField "books" (.array (.ref "Book" none) [])]

/-- The copies in stock of each book. -/
def stock : Schema := recordOf 3 "Stock" [requiredField "copies" (.map (.ref "Book" none) (.primitive .integer []) [])]

def shelves : Catalogs := ⟨[(0, ⟨[("Book", some book), ("Author", some author)]⟩)]⟩

theorem book_built : book.IsBuilt := by
  have assembly : Schema.Assembly shelves {} 1
      (.list [.tuple [.str "title", .type (.primitive .string [])], .tuple [.str "author", .type (.ref "Author" none)]])
      { name := "Book", catalog := some 0 } book := ⟨_, book.fields, [], [], rfl, by with_unfolding_all rfl, rfl, rfl, rfl⟩
  exact ⟨_, _, _, _, _, assembly.build_eq rfl rfl rfl⟩

theorem author_built : author.IsBuilt := by
  have assembly : Schema.Assembly shelves {} 2 (.list [.tuple [.str "books", .type (.array (.ref "Book" none) [])]])
      { name := "Author", catalog := some 0 } author := ⟨_, author.fields, [], [], rfl, by with_unfolding_all rfl, rfl, rfl, rfl⟩
  exact ⟨_, _, _, _, _, assembly.build_eq rfl rfl rfl⟩

theorem stock_built : stock.IsBuilt := by
  have assembly : Schema.Assembly shelves {} 3
      (.list [.tuple [.str "copies", .type (.map (.ref "Book" none) (.primitive .integer []) [])]])
      { name := "Stock", catalog := some 0 } stock := ⟨_, stock.fields, [], [], rfl, by with_unfolding_all rfl, rfl, rfl, rfl⟩
  exact ⟨_, _, _, _, _, assembly.build_eq rfl rfl rfl⟩

theorem book_follows {name : String} {t : Schema} (followed : FollowsFrom shelves {} book name t) :
    (name = "Author" ∧ t = author) ∨ (name = "Book" ∧ t = book) := by
  have ofBook : book.shownReferences {} = [(.text "Author", none)] := rfl
  have ofAuthor : author.shownReferences {} = [(.text "Book", none)] := rfl
  have fromBook {name : String} {t : Schema} (leads : LeadsFrom shelves {} book name (.schema t)) : name = "Author" ∧ t = author := by
    obtain ⟨r, member, rfl, resolved⟩ := leads
    rw [ofBook] at member
    cases List.mem_singleton.mp member
    cases resolved
    exact ⟨rfl, rfl⟩
  induction followed with
  | first leads => exact .inl (fromBook leads)
  | next _ leads ih =>
    obtain ⟨-, rfl⟩ | ⟨-, rfl⟩ := ih
    · obtain ⟨r, member, rfl, resolved⟩ := leads
      rw [ofAuthor] at member
      cases List.mem_singleton.mp member
      cases resolved
      exact .inr ⟨rfl, rfl⟩
    · exact .inl (fromBook leads)

theorem book_describable (u : Schema) (within : u = book ∨ ∃ name, FollowsFrom shelves {} book name u) : Describable {} u := by
  have ofBook : Describable {} book :=
    { built := book_built
      carries := fun name target member => by cases List.mem_singleton.mp (show _ ∈ [(Name.text "Author", none)] from member)
      defaults := by simp [Schema.shownFields, book, recordOf, requiredField]
      extras := by simp [Schema.shownFields, book, recordOf, requiredField] }
  obtain rfl | ⟨name, followed⟩ := within
  · exact ofBook
  obtain ⟨-, rfl⟩ | ⟨-, rfl⟩ := book_follows followed
  · exact {
      built := author_built
      carries := fun name target member => by cases List.mem_singleton.mp (show _ ∈ [(Name.text "Book", none)] from member)
      defaults := by simp [Schema.shownFields, author, recordOf, requiredField]
      extras := by simp [Schema.shownFields, author, recordOf, requiredField] }
  · exact ofBook

theorem book_identified : Identified shelves {} (scopeOf {} book) (book.shownReferences {}) := by
  intro _ t left _ u right same
  obtain ⟨-, rfl⟩ | ⟨-, rfl⟩ := book_follows left <;> obtain ⟨-, rfl⟩ | ⟨-, rfl⟩ := book_follows right
  · rfl
  · cases same
  · cases same
  · rfl

/-- Authors and books are defined in the document of books, though they lead to each other forever. -/
theorem book_closed :
    (∀ u, (u = book ∨ ∃ name, FollowsFrom shelves {} book name u) → Describable {} u) ∧
    Identified shelves {} (scopeOf {} book) (book.shownReferences {}) ∧
    FollowsFrom shelves {} book "Book" book ∧
    ∃ document, generate shelves {} book = .ok document ∧ IsClosed shelves {} book document := by
  have closed := generate_closed book_describable book_identified (by decide)
  have written : FollowsFrom shelves {} book "Author" author := .first ⟨_, List.mem_singleton_self _, rfl, rfl⟩
  refine ⟨book_describable, book_identified, written.next ⟨_, List.mem_singleton_self _, rfl, rfl⟩, closed.2 fun obstructed => ?_⟩
  obtain ⟨reason, failed⟩ := closed.1.mpr obstructed
  cases failed

/-- References in the types of keys are not followed: the document defines nothing. -/
theorem keys_unfollowed :
    stock.IsBuilt ∧ Follows shelves {} (scopeOf {} stock) stock.references "Book" book ∧
      ∃ document, generate shelves {} stock = .ok document ∧ document.field? "definitions" = none := by
  refine ⟨stock_built, .first ⟨_, List.mem_singleton_self _, rfl, rfl⟩, schemaContent {} stock, ?_, ?_⟩
  · with_unfolding_all rfl
  · exact Entries.field?_of_absent (schemaContent_absent (by decide) stock)

end ReferenceClosure
end Document
end RecordSchema
