import RecordSchema.Proofs.ReferenceClosure
import RecordSchema.Proofs.RegularSchemas
import RecordSchema.Proofs.RunRelocation

/-! Requests to catalogs. A reference that carries no schema is looked up each time that it is needed, so what is
registered or taken out can change what validation and documents come to. It cannot as long as none of the names in
question is one that such a reference has, in a schema that is come to. Main statement: `unrelated_requests`. -/

namespace RecordSchema

/-- What catalogs are asked for. -/
inductive CatalogRequest where
  | register (id : CatalogId) (s : Option Schema) (name : Option String)
  | unregister (id : CatalogId) (name : String)

/-- The name that a request is about. Nothing can be registered without a name. -/
def CatalogRequest.name? : CatalogRequest → Option String
  | .register _ s name => Catalog.keyFor? s name
  | .unregister _ name => some name

namespace Catalogs

/-- The catalogs with another one under its number. -/
def put (catalogs : Catalogs) (id : CatalogId) (catalog : Catalog) : Catalogs :=
  ⟨(id, catalog) :: catalogs.listed.filter (·.1 ≠ id)⟩

/-- The catalogs after a request. One that fails leaves them as they are. -/
def handle (catalogs : Catalogs) : CatalogRequest → Catalogs
  | .register id s name =>
    match (catalogs.get id).register s name with
    | .ok catalog => catalogs.put id catalog
    | .error _ => catalogs
  | .unregister id name =>
    match (catalogs.get id).unregister name with
    | .ok catalog => catalogs.put id catalog
    | .error _ => catalogs

/-- The catalogs after requests, one after another. -/
def handleAll (catalogs : Catalogs) (requests : List CatalogRequest) : Catalogs := requests.foldl handle catalogs

end Catalogs

section Frame

theorem lookup_filter_of_ne {α β : Type} [DecidableEq α] {key removed : α} (other : key ≠ removed) (entries : List (α × β)) :
    (entries.filter (·.1 ≠ removed)).lookup key = entries.lookup key := by
  induction entries with
  | nil => rfl
  | cons entry rest ih =>
    obtain ⟨k, v⟩ := entry
    by_cases same : k = removed
    · subst same
      rw [List.filter_cons_of_neg (by simp), List.lookup_cons, beq_eq_false_iff_ne.mpr other]
      exact ih
    · rw [List.filter_cons_of_pos (by simpa using same), List.lookup_cons, List.lookup_cons, ih]

theorem Catalogs.get_put (catalogs : Catalogs) (id other : CatalogId) (catalog : Catalog) :
    (catalogs.put id catalog).get other = if other = id then catalog else catalogs.get other := by
  unfold Catalogs.get Catalogs.put
  by_cases same : other = id
  · subst same
    simp
  · simp only [List.lookup_cons, beq_eq_false_iff_ne.mpr same, lookup_filter_of_ne same, if_neg same]

namespace Catalog

variable {catalog after : Catalog} {label : String}

theorem get?_register {s : Option Schema} {name : Option String} (registered : catalog.register s name = .ok after)
    (other : keyFor? s name ≠ some label) : after.get? label = catalog.get? label := by
  unfold register at registered
  cases key : keyFor? s name with
  | none =>
    rw [key] at registered
    cases registered
  | some own =>
    simp only [key] at registered
    split at registered
    · cases registered
    · cases registered
      have apart : (label == own) = false := beq_eq_false_iff_ne.mpr fun same => other (by rw [key, same])
      unfold get?
      simp [List.lookup_append, List.lookup_cons, apart]

theorem get?_unregister {name : String} (taken : catalog.unregister name = .ok after) (other : label ≠ name) :
    after.get? label = catalog.get? label := by
  unfold unregister at taken
  split at taken
  · cases taken
    exact congrArg Option.join (lookup_filter_of_ne other catalog.entries)
  · cases taken

end Catalog

namespace Catalogs

/-- The same is registered under a name, in each of the catalogs. -/
def SameUnder (now later : Catalogs) (label : String) : Prop := ∀ id, (later.get id).get? label = (now.get id).get? label

theorem SameUnder.put {now : Catalogs} {label : String} {id : CatalogId} {catalog : Catalog}
    (same : catalog.get? label = (now.get id).get? label) : SameUnder now (now.put id catalog) label := by
  intro other
  rw [get_put]
  split
  next here => rw [same, here]
  next => rfl

/-- One request leaves all as it is under other names than its own. -/
theorem handle_sameUnder (now : Catalogs) {request : CatalogRequest} {label : String} (other : request.name? ≠ some label) :
    SameUnder now (now.handle request) label := by
  cases request with
  | register id s name =>
    cases registered : (now.get id).register s name with
    | error reason =>
      simp only [handle, registered]
      exact fun _ => rfl
    | ok catalog =>
      simp only [handle, registered]
      exact .put (Catalog.get?_register registered other)
  | unregister id name =>
    cases taken : (now.get id).unregister name with
    | error reason =>
      simp only [handle, taken]
      exact fun _ => rfl
    | ok catalog =>
      simp only [handle, taken]
      exact .put (Catalog.get?_unregister taken fun same => other (congrArg some same.symm))

/-- By induction on the requests, whether they succeed or fail. -/
theorem handleAll_sameUnder {requests : List CatalogRequest} {label : String}
    (others : ∀ request ∈ requests, request.name? ≠ some label) (now : Catalogs) :
    SameUnder now (now.handleAll requests) label := by
  induction requests generalizing now with
  | nil => exact fun _ => rfl
  | cons request rest ih =>
    obtain ⟨first, later⟩ := List.forall_mem_cons.mp others
    intro id
    exact (ih later (now.handle request) id).trans (handle_sameUnder now first id)

end Catalogs

/-- A reference means what it meant if it carries its target, or if the same is registered under its name. -/
theorem Scope.lookup?_sameUnder {now later : Catalogs} {name : Name} {target : Option Target}
    (same : target = none → Catalogs.SameUnder now later name.label) (scope : Scope) :
    scope.lookup? later name target = scope.lookup? now name target := by
  cases target with
  | some target => rfl
  | none =>
    have inCatalog (catalog : Option CatalogId) : inCatalog? later catalog name.label = inCatalog? now catalog name.label := by
      cases catalog with
      | none => rfl
      | some id => exact same rfl id
    simp only [lookup?, named?, inCatalog]

end Frame

section Data
open Validation Proofs.RunRelocation

variable {now later : Catalogs} {s : Schema}

/-- Validation comes to the same where all references mean the same that a run can come to. -/
theorem validate_of_sameUnder
    (same : ∀ t catalog, RunsInto now s t catalog → ∀ r ∈ t.references, r.2 = none → Catalogs.SameUnder now later r.1.label)
    (d : Value) : validate later s d = validate now s d := by
  have bisimulation : Bisimulation later now fun t c₁ c₂ => c₁ = c₂ ∧ RunsInto now s t c₂ := by
    rintro t catalog _ ⟨rfl, into⟩ f inside r mentioned
    have member : r ∈ t.references := Schema.mem_references.mpr ⟨f, inside, mentioned⟩
    have means := Scope.lookup?_sameUnder (same t catalog into r member) ⟨some t, t.catalog.or catalog⟩
    constructor
    · rw [means]
    · intro found u gaps resolved read
      exact ⟨rfl, .next into member resolved read⟩
  have ran := run_relocated bisimulation (s := s) ⟨rfl, .self⟩ Value.deepest {} d.unfolded [] []
  rw [List.append_nil, outcomeUnder_nil, id_map] at ran
  rw [validate, validate, ran]

end Data

namespace Document
open Drafting Draft

section Drafts
variable {P : Target → Target → Prop} (equal : ∀ u v, P u v → u = v)
include equal

/-- Drafts are equal where only equal targets correspond to each other. -/
theorem corresponds_eq {draft other : Draft} (drafts : Draft.Corresponds P draft other) : other = draft := by
  have targets : other.targets = draft.targets := by
    refine (List.forall₂_eq_eq_eq ▸ drafts.targets.imp fun a b pair => ?_ : draft.targets = other.targets).symm
    cases pair with
    | intro name both =>
      cases both with
      | none => rfl
      | some both => rw [equal _ _ both]
  obtain ⟨_, _, _, _⟩ := draft
  obtain ⟨_, _, _, _⟩ := other
  obtain ⟨rfl, rfl, rfl, -⟩ := drafts
  cases targets
  rfl

/-- What is made in step comes to the same. -/
theorem inStep_run_eq {α : Type} {making other : Drafting α} (steps : InStep P Eq making other) {draft : Draft}
    (drafts : Draft.Corresponds P draft draft) : other.run draft = making.run draft := by
  obtain ⟨outcomes, after⟩ := steps draft draft drafts
  exact Prod.ext outcomes.eq.symm (corresponds_eq equal after)

end Drafts

section Covered
variable {now later : Catalogs} {options : DocumentOptions} {s : Schema}

variable (now options s) in
/-- One target, and what describes it, if anything does, is covered by the document. -/
def SameCovered (u v : Target) : Prop := u = v ∧ ∀ t, u.described? = some t → Covers now options s t

variable (same : ∀ t, Covers now options s t → ∀ r ∈ t.shownReferences options, r.2 = none →
  Catalogs.SameUnder now later r.1.label)
include same

theorem sameCovered_correspondence : Correspondence (fun _ => False) now later (SameCovered now options s) options where
  distinguished := by
    rintro u _ ⟨rfl, -⟩ w _ ⟨rfl, -⟩
    exact Iff.rfl
  reworded := by
    rintro u _ ⟨rfl, -⟩
    exact .refl u
  closed := by
    rintro u _ ⟨rfl, covers⟩ t _ described again r shown
    obtain rfl := Option.some.inj (described.symm.trans again)
    rw [Scope.lookup?_sameUnder (same t (covers t described) r shown)]
    cases resolved : (scopeOf options t).lookup? now r.1 r.2 with
    | none => exact .none
    | some found =>
      refine .some ⟨rfl, fun v told => ?_⟩
      exact .next (covers t described) ⟨r, shown, rfl, resolved⟩ ((describedBy?_eq found).trans told)

/-- Each of the catalogs has its own limit for the rounds of writing, and both are settled at their sum. -/
theorem writeAll_run_eq {key : String} {keywords : Entries} {first : Draft}
    (described : Makes (ofSchema now options s) { definitionsKey := key } keywords first)
    (describedToo : Makes (ofSchema later options s) { definitionsKey := key } keywords first)
    (drafts : Draft.Corresponds (SameCovered now options s) first first) :
    (writeAll later options).run first = (writeAll now options).run first := by
  have pairs := sameCovered_correspondence same
  have heldNow : namesInCatalogs now ⊆ namesWithin now first := List.subset_append_right _ _
  have heldLater : namesInCatalogs later ⊆ namesWithin later first := List.subset_append_right _ _
  calc (writeAll later options).run first
      = (writeUpTo later options (namesWithin later first).length).run first := rfl
    _ = (writeUpTo later options ((namesWithin later first).length + (namesWithin now first).length)).run first :=
        ((Counted.first describedToo).writeUpTo_settled heldLater (Nat.le_add_left _ _) _).symm
    _ = (writeUpTo now options ((namesWithin later first).length + (namesWithin now first).length)).run first :=
        inStep_run_eq (fun _ _ both => both.1) (pairs.writeUpTo_inStep _) drafts
    _ = (writeUpTo now options ((namesWithin now first).length + (namesWithin later first).length)).run first := by
        rw [Nat.add_comm]
    _ = (writeUpTo now options (namesWithin now first).length).run first :=
        (Counted.first described).writeUpTo_settled heldNow (Nat.le_add_left _ _) _
    _ = (writeAll now options).run first := rfl

/-- A document comes to the same where all references mean the same that it shows of what it covers. -/
theorem generate_of_sameUnder : generate later options s = generate now options s := by
  have pairs := sameCovered_correspondence same
  have root : SameCovered now options s (.schema s) (.schema s) := by
    refine ⟨rfl, fun t described => ?_⟩
    obtain rfl := Option.some.inj described
    exact .own
  have empty : Draft.Corresponds (SameCovered now options s) { definitionsKey := options.definitionsKey }
      { definitionsKey := options.definitionsKey } := ⟨rfl, rfl, rfl, .nil⟩
  have steps := pairs.ofSchema_inStep root rfl rfl
  have started := inStep_run_eq (fun _ _ both => both.1) steps empty
  apply congrArg Prod.fst
  apply run_bind_congr started
  intro document first describedToo
  have described : Makes (ofSchema now options s) { definitionsKey := options.definitionsKey } document first :=
    started.symm.trans describedToo
  have drafts : Draft.Corresponds (SameCovered now options s) first first := by
    have after := (steps _ _ empty).2
    rw [started] at after
    rw [show (ofSchema now options s).run { definitionsKey := options.definitionsKey } = (.ok document, first) from described] at after
    exact after
  apply run_bind_congr (writeAll_run_eq same described describedToo drafts)
  intro _ _ _
  rfl

end Covered

end Document

/-- Requests about other names than those of references that carry no schema, in the schemas that are come to from a
schema, make no difference to it: neither to what validation makes of any data nor to the document under any options,
faults and errors among them. -/
theorem unrelated_requests (catalogs : Catalogs) (requests : List CatalogRequest) (s : Schema) :
    ((∀ t catalog, RunsInto catalogs s t catalog → ∀ r ∈ t.references, r.2 = none →
        ∀ request ∈ requests, request.name? ≠ some r.1.label) →
      ∀ d, Validation.validate (catalogs.handleAll requests) s d = Validation.validate catalogs s d) ∧
    (∀ options, (∀ t, Document.Covers catalogs options s t → ∀ r ∈ t.shownReferences options, r.2 = none →
        ∀ request ∈ requests, request.name? ≠ some r.1.label) →
      Document.generate (catalogs.handleAll requests) options s = Document.generate catalogs options s) := by
  constructor
  · intro unrelated d
    apply validate_of_sameUnder
    intro t catalog into r member bare
    exact Catalogs.handleAll_sameUnder (unrelated t catalog into r member bare) catalogs
  · intro options unrelated
    apply Document.generate_of_sameUnder
    intro t covers r shown bare
    exact Catalogs.handleAll_sameUnder (unrelated t covers r shown bare) catalogs

section Shelves
open Document ReferenceClosure

/-- The stock is registered, which cannot be done twice, and what is not there cannot be taken out. -/
def stocking : List CatalogRequest := [.register 0 (some stock) none, .register 0 (some stock) none, .unregister 0 "Ledger"]

theorem author_or_book {t : Schema} {catalog : Option CatalogId} {r : Name × Option Target} {found : Target}
    (known : t = book ∨ t = author) (member : r ∈ t.references)
    (resolved : Scope.lookup? shelves ⟨some t, t.catalog.or catalog⟩ r.1 r.2 = some found) :
    found = .schema author ∨ found = .schema book := by
  obtain rfl | rfl := known
  · cases List.mem_singleton.mp (show r ∈ [(Name.text "Author", none)] from member)
    cases resolved
    exact .inl rfl
  · cases List.mem_singleton.mp (show r ∈ [(Name.text "Book", none)] from member)
    cases resolved
    exact .inr rfl

theorem book_runsInto {t : Schema} {catalog : Option CatalogId} (into : RunsInto shelves book t catalog) :
    t = book ∨ t = author := by
  induction into with
  | self => exact .inl rfl
  | next _ member resolved read ih =>
    obtain rfl | rfl := author_or_book ih member resolved
    · cases read
      exact .inr rfl
    · cases read
      exact .inl rfl

theorem book_covers {t : Schema} (covers : Covers shelves {} book t) : t = book ∨ t = author := by
  induction covers with
  | own => exact .inl rfl
  | next _ leads told ih =>
    obtain ⟨r, shown, -, resolved⟩ := leads
    obtain rfl | rfl := author_or_book ih (Schema.shownReferences_subset {} _ shown) resolved
    · cases told
      exact .inr rfl
    · cases told
      exact .inl rfl

theorem stocking_unrelated {t : Schema} (known : t = book ∨ t = author) :
    ∀ r ∈ t.references, ∀ request ∈ stocking, request.name? ≠ some r.1.label := by
  obtain rfl | rfl := known
  · intro r member
    cases List.mem_singleton.mp (show r ∈ [(Name.text "Author", none)] from member)
    decide
  · intro r member
    cases List.mem_singleton.mp (show r ∈ [(Name.text "Book", none)] from member)
    decide

/-- Books and authors, who lead to each other, do not come to the stock. -/
theorem unrelated_requests_stocking :
    ((shelves.handleAll stocking).get 0).contains "Stock" = true ∧ (shelves.get 0).contains "Stock" = false ∧
      (∀ d, Validation.validate (shelves.handleAll stocking) book d = Validation.validate shelves book d) ∧
      generate (shelves.handleAll stocking) {} book = generate shelves {} book := by
  obtain ⟨data, documents⟩ := unrelated_requests shelves stocking book
  refine ⟨rfl, rfl, data ?_, documents {} ?_⟩
  · intro t catalog into r member _
    exact stocking_unrelated (book_runsInto into) r member
  · intro t covers r shown _
    exact stocking_unrelated (book_covers covers) r (t.shownReferences_subset {} shown)

end Shelves

end RecordSchema
