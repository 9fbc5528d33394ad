import RecordSchema.Proofs.Flattening
import RecordSchema.Proofs.ReferenceClosure
import RecordSchema.Proofs.ResolvedDocuments

/-! Flattening keeps the meaning of documents. Pointers in a document of schemas and pointers in what flattening makes
of it lead to definitions that admit the same, also where definitions lead back to themselves and are kept; and no
definition is dropped that a pointer still leads to. Main statement: `flatten_preserves`. -/

namespace RecordSchema

namespace Document
open Drafting Draft

variable {catalogs : Catalogs} {options : DocumentOptions} {scope : Scope} {references : List (Name × Option Target)}
  {key : String} {body definitions : Entries} {v : Value}

/-- A schema with definitions under a key, if there are any. -/
def withDefinitions (key : String) (body definitions : Entries) : Entries :=
  if definitions.isEmpty then body else body.setField key (.map definitions)

/-- What a document is flattened to, from what its root is simplified to and what is collected from there. -/
theorem flattenEntries_eq (options : FlatteningOptions) {document made found : Entries} (key : String)
    (simplified : inlineAll (Parts.ofEntries document).definitions (keptNames options (Parts.ofEntries document).definitions)
      (.map (Parts.ofEntries document).root) = .ok (.map made))
    (collects : collect (inlineAll (Parts.ofEntries document).definitions (keptNames options (Parts.ofEntries document).definitions))
      (Parts.ofEntries document).definitions (Parts.ofEntries document).definitions.length [] (Document.references (.map made)) = .ok found)
    (either : (Parts.ofEntries document).key = some key ∨ found = []) :
    flattenEntries options document = .ok (.map (withDefinitions key made found)) := by
  rw [flattenEntries, flattenParts, simplified, Except.ok_bind, collects, Except.ok_bind]
  obtain first | rfl := either
  · rw [first]
    unfold withDefinitions
    dsimp only
    split <;> rfl
  · cases (Parts.ofEntries document).key <;> rfl

section Composed

theorem target?_withDefinitions (listed : key ∈ Pointer.definitionsKeys) {name : String} (defined : definitions.field? name = some v) :
    Pointer.target? (withDefinitions key body definitions) (Pointer.ofName key name) = some v := by
  refine Pointer.target?_ofName listed ?_ defined
  cases definitions with
  | nil => cases defined
  | cons e rest => exact Entries.field?_setField_self _ _ _

theorem admits_withDefinitions (listed : key ∈ Pointer.definitionsKeys) {root : Entries} :
    Admits root (.map (withDefinitions key body definitions)) v ↔ Admits root (.map body) v := by
  refine admits_alike fun keyword telling => ?_
  unfold withDefinitions
  split
  · rfl
  · exact Entries.field?_setField_of_ne _ _ fun same => telling (List.mem_append_right _ (same ▸ listed))

variable (key body definitions) in
/-- What a document of schemas consists of: schemas that are tidy, with a definition for each pointer, and no two
definitions of one name. -/
structure Composed : Prop where
  listed : key ∈ Pointer.definitionsKeys
  body : Tidy key (IsDefined definitions) (.map body)
  orderly : Orderly key definitions
  distinct : (definitions.map (·.1.str?)).Nodup

/-- The parts of a schema with definitions, if it holds none of its own. -/
theorem parts_withDefinitions (listed : key ∈ Pointer.definitionsKeys) (bare : Bare key body)
    (distinct : (definitions.map (·.1.str?)).Nodup) : Parts.ofEntries (withDefinitions key body definitions) =
      ⟨if definitions.isEmpty then none else some key, definitions, body⟩ := by
  cases definitions with
  | nil => exact Parts.foldl_add_of_plain (fun e member => (bare e member).2) {}
  | cons d others =>
    obtain ⟨single, rest⟩ := bare.reattach (List.contains_iff_mem.mpr listed) (d :: others)
    show Parts.ofEntries (body.setField key (.map (d :: others))) = _
    rw [parts_of_one single, rest, Entries.update_of_distinct distinct]
    rfl

variable (composed : Composed key body definitions)

include composed

theorem Composed.parts : Parts.ofEntries (withDefinitions key body definitions) =
    ⟨if definitions.isEmpty then none else some key, definitions, body⟩ := by
  have absent {name : String} (listed : name ∈ Pointer.definitionsKeys) : ∀ e ∈ body, e.1.str? ≠ some name :=
    composed.body.absent (List.mem_cons_of_mem _ (List.mem_cons_of_mem _ listed))
  refine parts_withDefinitions composed.listed (fun e member => ⟨absent composed.listed e member, ?_⟩) composed.distinct
  refine Bool.eq_false_iff.mpr fun holds => ?_
  obtain ⟨name, listed, named⟩ := key_of_holdsDefinitions holds
  exact absent listed e member named

/-- Definitions that are not kept do not lead back to themselves. -/
theorem Composed.shallow (options : FlatteningOptions) (v : Value) :
    Shallow definitions (keptNames options definitions) definitions.length v := by
  have refers {a b : String} (points : PointsTo definitions a b) : RefersTo definitions a b := by
    obtain ⟨body, found, pointed, defined⟩ := points
    obtain ⟨schema, rfl, tidy⟩ := composed.orderly a body found
    unfold RefersTo successors
    rw [found]
    exact List.mem_filter.mpr ⟨(tidy.pointers composed.listed b pointed).2, defined⟩
  exact shallow_of_tame (fun name free again =>
    free (List.mem_append_left _ (mem_recursive.mpr (again.lift id fun _ _ points => refers points)))) v

end Composed

section Redirection

variable (key definitions) in
/-- A tidy schema, which refers to definitions of a kind only. -/
def Refers (P : String → Prop) (v : Value) : Prop :=
  Tidy key (IsDefined definitions) v ∧ ∀ name ∈ Document.references v, P name

theorem Tidy.refers (listed : key ∈ Pointer.definitionsKeys) (tidy : Tidy key (IsDefined definitions) v) :
    Refers key definitions (IsDefined definitions) v :=
  ⟨tidy, fun name mentioned => (tidy.pointers listed name ((references_subset v).1 mentioned)).1⟩

/-- The pointers of tidy schemas are redirected, if those to the definitions of the kind are. -/
theorem redirects {P : String → Prop} {first second : Entries} (listed : key ∈ Pointer.definitionsKeys)
    (each : ∀ name body, P name → definitions.field? name = some body → ∃ target other,
      Pointer.target? first (Pointer.ofName key name) = some target ∧ Refers key definitions P target ∧
      Pointer.target? second (Pointer.ofName key name) = some other ∧ ∀ u, Admits second target u → Admits second other u) :
    Redirects first second (Refers key definitions P) where
  below schema refers w inside := by
    have tidy := refers.1.inner inside
    obtain ⟨e, member, sub⟩ := inside
    exact ⟨tidy, fun name mentioned =>
      refers.2 name (references_subset_map member sub (fun items same => Tidy.not_list (same ▸ tidy)) mentioned)⟩
  leads schema under pointer target refers found text leads := by
    obtain ⟨name, rfl, readable, known, -⟩ := refers.1.points_to found
    cases text
    obtain ⟨body, defined⟩ := hasField_iff.mp known
    have points : pointer? schema = some name := by
      rw [pointer?, found]
      exact Pointer.name?_ofName listed readable
    have mentioned : name ∈ Document.references (.map schema) := by
      rw [Document.references]
      exact List.mem_append_left _ (Option.mem_toList.mpr points)
    obtain ⟨own, other, here, good, there, into⟩ := each name body (refers.2 name mentioned) defined
    cases here.symm.trans leads
    exact ⟨good, other, there, into⟩

end Redirection

section Flattened

variable (composed : Composed key body definitions) {kept : List String}
  (shallow : ∀ v, Shallow definitions kept definitions.length v)

/-- All definitions, flattened. -/
def flatDefinitions (definitions : Entries) (kept : List String) : Entries :=
  List.map (fun e => (e.1, flattened definitions kept e.2)) definitions

theorem target?_flatDefinitions (listed : key ∈ Pointer.definitionsKeys) {name : String} (defined : definitions.field? name = some v) :
    Pointer.target? (withDefinitions key [] (flatDefinitions definitions kept)) (Pointer.ofName key name) =
      some (flattened definitions kept v) :=
  target?_withDefinitions listed (by rw [flatDefinitions, field?_map, defined]; rfl)

include composed shallow

/-- In a document, definitions can be flattened in their place. -/
theorem Composed.admits_flatDefinitions (tidy : Tidy key (IsDefined definitions) v) {u : Value} :
    Admits (withDefinitions key body definitions) v u ↔ Admits (withDefinitions key [] (flatDefinitions definitions kept)) v u := by
  have here {name : String} {sub : Value} (defined : definitions.field? name = some sub) :
      Pointer.target? (withDefinitions key body definitions) (Pointer.ofName key name) = some sub :=
    target?_withDefinitions composed.listed defined
  have there {name : String} {sub : Value} (defined : definitions.field? name = some sub) :
      Pointer.target? (withDefinitions key [] (flatDefinitions definitions kept)) (Pointer.ofName key name) =
        some (flattened definitions kept sub) := target?_flatDefinitions composed.listed defined
  have replaces {name : String} {sub : Value} (defined : definitions.field? name = some sub) :
      Tidy key (IsDefined definitions) sub ∧ Replaces key definitions kept sub (flattened definitions kept sub) := by
    obtain ⟨schema, rfl, own⟩ := composed.orderly name sub defined
    exact ⟨own, flattened_replaces composed.listed composed.orderly shallow own⟩
  -- each way, what a pointer led to before is replaced in the document where the pointer leads now
  have onward : Redirects (withDefinitions key body definitions) (withDefinitions key [] (flatDefinitions definitions kept))
      (Refers key definitions (IsDefined definitions)) := redirects composed.listed fun name sub _ defined =>
    ⟨sub, _, here defined, (replaces defined).1.refers composed.listed, there defined, fun u =>
      ((replaces defined).2.admits _ (fun _ _ found => ⟨_, there found, .inr rfl⟩) u).mp⟩
  have back : Redirects (withDefinitions key [] (flatDefinitions definitions kept)) (withDefinitions key body definitions)
      (Refers key definitions (IsDefined definitions)) := redirects composed.listed fun name sub _ defined =>
    ⟨_, sub, there defined, (replaces defined).2.tidy.refers composed.listed, here defined, fun u =>
      ((replaces defined).2.admits _ (fun _ _ found => ⟨_, here found, .inl rfl⟩) u).mpr⟩
  exact admits_iff_of_redirects onward back (tidy.refers composed.listed)

/-- Definitions that nothing leads to can be dropped. -/
theorem Composed.admits_collected {made found : Entries} (tidy : Tidy key (IsDefined definitions) (.map made))
    (collected : Collected definitions kept (Document.references (.map made)) [] found) {u : Value} :
    Admits (withDefinitions key [] (flatDefinitions definitions kept)) (.map made) u ↔
      Admits (withDefinitions key made found) (.map made) u := by
  have among {name : String} (either : name ∈ [] ∨ name ∈ labels found) : name ∈ labels found := either.resolve_left List.not_mem_nil
  have refers : Refers key definitions (· ∈ labels found) (.map made) :=
    ⟨tidy, fun name mentioned => among (collected.wanted name mentioned ((tidy.refers composed.listed).2 name mentioned))⟩
  have each name sub (member : name ∈ labels found) (defined : definitions.field? name = some sub) :
      Pointer.target? (withDefinitions key [] (flatDefinitions definitions kept)) (Pointer.ofName key name) =
          some (flattened definitions kept sub) ∧
        Pointer.target? (withDefinitions key made found) (Pointer.ofName key name) = some (flattened definitions kept sub) ∧
        Refers key definitions (· ∈ labels found) (flattened definitions kept sub) := by
    obtain ⟨own, same, stands⟩ := collected.field? member
    cases same.symm.trans defined
    obtain ⟨schema, rfl, tidy⟩ := composed.orderly name _ defined
    have flat := (flattened_replaces composed.listed composed.orderly shallow tidy).tidy
    refine ⟨target?_flatDefinitions composed.listed defined, target?_withDefinitions composed.listed stands, flat,
      fun other mentioned => ?_⟩
    obtain ⟨e, listed, -, same⟩ := Entries.mem_of_field? stands
    rw [← same] at flat mentioned
    exact among (collected.closed e listed other mentioned ((flat.refers composed.listed).2 other mentioned))
  have onward : Redirects (withDefinitions key [] (flatDefinitions definitions kept)) (withDefinitions key made found)
      (Refers key definitions (· ∈ labels found)) := redirects composed.listed fun name sub member defined =>
    ⟨_, _, (each name sub member defined).1, (each name sub member defined).2.2, (each name sub member defined).2.1, fun _ => id⟩
  have back : Redirects (withDefinitions key made found) (withDefinitions key [] (flatDefinitions definitions kept))
      (Refers key definitions (· ∈ labels found)) := redirects composed.listed fun name sub member defined =>
    ⟨_, _, (each name sub member defined).2.1, (each name sub member defined).2.2, (each name sub member defined).1, fun _ => id⟩
  exact admits_iff_of_redirects onward back refers

omit shallow

/-- A document that is put together of tidy schemas is flattened to one that admits the same. -/
theorem Composed.flattenEntries_preserves (options : FlatteningOptions) :
    ∃ flat, flattenEntries options (withDefinitions key body definitions) = .ok (.map flat) ∧
      ∀ u, Admits flat (.map flat) u ↔ Admits (withDefinitions key body definitions) (.map (withDefinitions key body definitions)) u := by
  have shallow := composed.shallow options
  generalize names : keptNames options definitions = kept at shallow
  obtain ⟨made, same⟩ : ∃ made, flattened definitions kept (.map body) = .map made := inlined_map _ body
  have replaces := flattened_replaces composed.listed composed.orderly shallow composed.body
  rw [same] at replaces
  have simplified : inlineAll definitions kept (.map body) = .ok (.map made) := by
    rw [← same]
    exact inlineTo_eq (shallow _)
  obtain ⟨found, collects, collected⟩ := collect_collects shallow (Nat.le_refl _)
    (.start definitions kept (Document.references (.map made)))
  refine ⟨withDefinitions key made found, ?_, fun u => ?_⟩
  · have parts := composed.parts
    refine flattenEntries_eq options key (by rw [parts, names]; exact simplified) (by rw [parts, names]; exact collects) ?_
    rw [parts]
    cases definitions with
    | nil =>
      -- without definitions nothing can be collected
      refine .inr (List.eq_nil_iff_forall_not_mem.mpr fun e member => ?_)
      obtain ⟨name, body, defined, -⟩ := collected.each e member
      cases defined
    | cons _ _ => exact .inl rfl
  · -- the two documents meet in one where all definitions are flattened and none is dropped
    rw [admits_withDefinitions composed.listed, admits_withDefinitions composed.listed,
      ← composed.admits_collected shallow replaces.tidy collected, composed.admits_flatDefinitions shallow composed.body]
    exact (replaces.admits _ (fun name sub defined => ⟨_, target?_flatDefinitions composed.listed defined, .inr rfl⟩) u).symm

end Flattened

section Generated

variable (options) in
/-- A schema without keywords of its own in the fields that a document shows. The references there carry schemas, if
anything, and their names can be read back from pointers. -/
structure Simple (s : Schema) : Prop where
  carries : CarrySchemas (s.shownReferences options)
  readable : ∀ r ∈ s.shownReferences options, Pointer.Readable r.1.label
  bare : ∀ f ∈ s.shownFields options, f.extra = []

/-- What documents consist of: schemas of types, and those of simple schemas. -/
inductive Described : Entries → Prop where
  | ofType (key : String) (t : SchemaType) : Described (typeContent key t)
  | ofSchema {options : DocumentOptions} {s : Schema} (simple : Simple options s) : Described (schemaContent options s)

/-- All definitions are described. -/
def AllDescribed (definitions : Entries) : Prop :=
  ∀ name definition, definitions.field? name = some definition → ∃ schema, definition = .map schema ∧ Described schema

/-- What is made of simple schemas is completed by tidy definitions, one for each pointer. -/
theorem complete_composed (listed : options.definitionsKey ∈ Pointer.definitionsKeys) (carry : CarrySchemas references)
    (simple : ∀ name t, Follows catalogs options scope references name t → Simple options t) {making : Drafting Entries}
    (grows : ∀ before made after, Makes making before made after → Grows (Leads catalogs scope references) before after)
    (resolves : ∀ before made after, Makes making before made after → ∀ r ∈ references, Resolved catalogs scope after r)
    (content : ∀ made after, Makes making { definitionsKey := options.definitionsKey } made after → Described made ∧
      ∀ Known : String → Prop, (∀ r ∈ references, Known r.1.label) → Tidy options.definitionsKey Known (.map made))
    {document : Entries} (completed : complete catalogs options options.definitionsKey making = .ok document) :
    ∃ body definitions, document = withDefinitions options.definitionsKey body definitions ∧
      Composed options.definitionsKey body definitions ∧ Described body ∧
      AllDescribed definitions := by
  obtain ⟨body, first, draft, names, described, kept, ordered, done, same⟩ :=
    complete_defines (follows_onward fun name t followed => (simple name t followed).carries) carry.into grows completed
  have known {within : Scope} {r : Name × Option Target} (resolved : Resolved catalogs within draft r) :
      IsDefined draft.definitions r.1.label := by
    obtain ⟨found, recorded, -, listed, -⟩ := resolved
    obtain ⟨name, t, label, target, -, -⟩ := ordered.targets _ _ listed
    cases label
    cases target
    obtain ⟨keywords, defined, -⟩ := ordered.defined done listed
    exact hasField_iff.mpr ⟨_, defined⟩
  have each {name : String} {definition : Value} (defined : draft.definitions.field? name = some definition) :
      ∃ t, Simple options t ∧ definition = .map (schemaContent options t) ∧
        ∀ r ∈ t.shownReferences options, IsDefined draft.definitions r.1.label := by
    obtain ⟨t, recorded, followed⟩ := ordered.of_definition defined
    obtain ⟨keywords, stands, before, after, made, later⟩ := ordered.defined done recorded
    cases stands.symm.trans defined
    have key : before.definitionsKey = options.definitionsKey := by
      rw [← ordered.key, later.key, (ofSchema_grows made).key]
    obtain rfl := ofSchema_content made key
    exact ⟨t, simple name t followed, rfl, fun r member => known ((ofSchema_resolves made r member).keep later)⟩
  obtain ⟨shape, tidy⟩ := content body first described
  refine ⟨body, draft.definitions, same, ⟨listed, ?_, fun name definition defined => ?_, ?_⟩, shape, fun name definition defined => ?_⟩
  · exact tidy _ fun r member => known ((resolves _ _ _ described r member).keep kept)
  · obtain ⟨t, simple, rfl, known⟩ := each defined
    exact ⟨_, rfl, tidy_schemaContent simple.bare fun r member => ⟨simple.readable r member, known r member⟩⟩
  · rw [ordered.labels done]
    exact ordered.unambiguous
  · obtain ⟨t, simple, rfl, -⟩ := each defined
    exact ⟨_, rfl, .ofSchema simple⟩

variable (catalogs) in
/-- Documents of schemas and of types, made of simple schemas. -/
inductive Generated : Entries → Prop where
  | ofSchema {options : DocumentOptions} {s : Schema} {document : Entries} (listed : options.definitionsKey ∈ Pointer.definitionsKeys)
      (own : Simple options s) (simple : ∀ name t, FollowsFrom catalogs options s name t → Simple options t)
      (generated : generate catalogs options s = .ok document) : Generated document
  | ofType {catalog : Option CatalogId} {key : String} {t : SchemaType} {document : Entries} (listed : key ∈ Pointer.definitionsKeys)
      (carries : CarrySchemas t.shownReferences) (readable : ∀ r ∈ t.shownReferences, Pointer.Readable r.1.label)
      (simple : ∀ name u, Follows catalogs { definitionsKey := key, catalog } ⟨none, catalog⟩ t.shownReferences name u →
        Simple { definitionsKey := key, catalog } u)
      (generated : generateType catalogs catalog key t = .ok document) : Generated document

/-- What a generated document is composed of. -/
theorem Generated.composed {document : Entries} (generated : Generated catalogs document) :
    ∃ key body definitions, document = withDefinitions key body definitions ∧ Composed key body definitions ∧ Described body ∧
      AllDescribed definitions := by
  cases generated with
  | @ofSchema options s _ listed own simple generated =>
    refine ⟨_, complete_composed listed own.carries simple (fun _ _ _ => ofSchema_grows) (fun _ _ _ => ofSchema_resolves) ?_ generated⟩
    intro made after described
    obtain rfl := ofSchema_content described rfl
    exact ⟨.ofSchema own, fun Known known => tidy_schemaContent own.bare fun r member => ⟨own.readable r member, known r member⟩⟩
  | @ofType catalog key t _ listed carries readable simple generated =>
    have completed : complete catalogs { definitionsKey := key, catalog } ({ definitionsKey := key, catalog } : DocumentOptions).definitionsKey
      (Document.ofType catalogs ⟨none, catalog⟩ t) = .ok document := generated
    refine ⟨_, complete_composed ?_ carries simple (fun _ _ _ => ofType_grows t) (fun _ _ _ => ofType_resolves t) ?_ completed⟩
    · exact listed
    intro made after described
    obtain rfl := ofType_content t described
    exact ⟨.ofType _ t, fun Known known => tidy_typeContent t fun r member => ⟨readable r member, known r member⟩⟩

/-- A document that is generated is flattened to one that admits the same. -/
theorem flatten_preserves {document : Entries} (generated : Generated catalogs document) (options : FlatteningOptions) :
    ∃ flat, flattenEntries options document = .ok (.map flat) ∧
      ((Value.map document).isCopyable = true → flatten options (.map document) = .ok (.map flat)) ∧
      ∀ v, Admits flat (.map flat) v ↔ Admits document (.map document) v := by
  obtain ⟨key, body, definitions, rfl, composed, -⟩ := generated.composed
  obtain ⟨flat, flattened, admits⟩ := composed.flattenEntries_preserves options
  exact ⟨flat, flattened, fun copyable => (flatten_of_copyable options copyable).trans flattened, admits⟩

namespace FlattenedDocuments
open ReferenceClosure

def reader : Schema := recordOf 4 "Reader" [requiredField "name" (.primitive .string [])]

/-- The loan of a book, whose reader is the only member of a choice. -/
def loan : Schema :=
  recordOf 5 "Loan" [requiredField "book" (.ref "Book" none), requiredField "reader" (.union [.ref "Reader" none] [])]

def library : Catalogs := ⟨[(0, ⟨[("Book", some book), ("Author", some author), ("Reader", some reader)]⟩)]⟩

/-- What the library holds under a name. -/
def Holds (name : String) (t : Schema) : Prop :=
  (name = "Book" ∧ t = book) ∨ (name = "Author" ∧ t = author) ∨ (name = "Reader" ∧ t = reader)

theorem library_follows (first : ∀ name t, Leads library scope references name (.schema t) → Holds name t) {name : String} {t : Schema}
    (followed : Follows library options scope references name t) : Holds name t := by
  induction followed with
  | first leads => exact first _ _ leads
  | next _ leads ih =>
    obtain ⟨r, member, rfl, resolved⟩ := leads
    obtain ⟨-, rfl⟩ | ⟨-, rfl⟩ | ⟨-, rfl⟩ := ih
    · have shown : book.shownReferences options = [(.text "Author", none)] := by
        simp [Schema.shownReferences, Schema.shownFields, book, recordOf, requiredField, SchemaType.shownReferences]
      rw [shown] at member
      cases List.mem_singleton.mp member
      cases resolved
      exact .inr (.inl ⟨rfl, rfl⟩)
    · have shown : author.shownReferences options = [(.text "Book", none)] := by
        simp [Schema.shownReferences, Schema.shownFields, author, recordOf, requiredField, SchemaType.shownReferences]
      rw [shown] at member
      cases List.mem_singleton.mp member
      cases resolved
      exact .inl ⟨rfl, rfl⟩
    · have shown : reader.shownReferences options = [] := by
        simp [Schema.shownReferences, Schema.shownFields, reader, recordOf, requiredField, SchemaType.shownReferences]
      rw [shown] at member
      cases member

theorem Holds.simple {name : String} {t : Schema} (holds : Holds name t) : Simple options t := by
  obtain ⟨-, rfl⟩ | ⟨-, rfl⟩ | ⟨-, rfl⟩ := holds
  all_goals
    constructor
    · simp [CarrySchemas, Schema.shownReferences, Schema.shownFields, book, author, reader, recordOf, requiredField, SchemaType.shownReferences]
    · simp [Schema.shownReferences, Schema.shownFields, book, author, reader, recordOf, requiredField, SchemaType.shownReferences,
        Pointer.Readable, Name.label]
    · simp [Schema.shownFields, book, author, reader, recordOf, requiredField]

theorem loan_simple : Simple {} loan := by
  have shown : loan.shownReferences {} = [(.text "Book", none), (.text "Reader", none)] := rfl
  constructor
  · rw [shown]
    simp [CarrySchemas]
  · rw [shown]
    decide
  · simp [Schema.shownFields, loan, recordOf, requiredField]

theorem loan_generated {document : Entries} (generated : generate library {} loan = .ok document) : Generated library document := by
  refine .ofSchema (by decide) loan_simple (fun name t followed => (library_follows (fun label u leads => ?_) followed).simple) generated
  obtain ⟨r, member, rfl, resolved⟩ := leads
  obtain rfl | last := List.mem_cons.mp (show r ∈ [(Name.text "Book", none), (Name.text "Reader", none)] from member)
  · cases resolved
    exact .inl ⟨rfl, rfl⟩
  · cases List.mem_singleton.mp last
    cases resolved
    exact .inr (.inr ⟨rfl, rfl⟩)

theorem books_generated {document : Entries} (generated : generateType library (some 0) "$defs" (.array (.ref "Book" none) []) = .ok document) :
    Generated library document := by
  have shown : (SchemaType.array (.ref "Book" none) []).shownReferences = [(.text "Book", none)] := rfl
  refine .ofType (by decide) ?_ ?_ (fun name t followed => (library_follows (fun label u leads => ?_) followed).simple) generated
  · rw [shown]
    simp [CarrySchemas]
  · rw [shown]
    decide
  · obtain ⟨r, member, rfl, resolved⟩ := leads
    cases List.mem_singleton.mp (show r ∈ [(Name.text "Book", none)] from member)
    cases resolved
    exact .inl ⟨rfl, rfl⟩

/-- Books and authors lead to each other, and are kept; the reader of a loan is put in the place of the choice. -/
theorem loan_flattened :
    (∃ document, generate library {} loan = .ok document ∧ Generated library document ∧
      ∃ flat, flattenEntries {} document = .ok (.map flat) ∧ ∀ v, Admits flat (.map flat) v ↔ Admits document (.map document) v) ∧
    ∃ document, generateType library (some 0) "$defs" (.array (.ref "Book" none) []) = .ok document ∧ Generated library document ∧
      ∃ flat, flattenEntries { preserveComplexReferences := true } document = .ok (.map flat) ∧
        ∀ v, Admits flat (.map flat) v ↔ Admits document (.map document) v := by
  constructor
  · cases generated : generate library {} loan with
    | error e => cases generated
    | ok document =>
      obtain ⟨flat, made, -, same⟩ := flatten_preserves (loan_generated generated) {}
      exact ⟨document, rfl, loan_generated generated, flat, made, same⟩
  · cases generated : generateType library (some 0) "$defs" (.array (.ref "Book" none) []) with
    | error e => cases generated
    | ok document =>
      obtain ⟨flat, made, -, same⟩ := flatten_preserves (books_generated generated) { preserveComplexReferences := true }
      exact ⟨document, rfl, books_generated generated, flat, made, same⟩

end FlattenedDocuments

end Generated

end Document
end RecordSchema
