import RecordSchema.Proofs.DocumentShape
import RecordSchema.Proofs.Rewording

/-! Documents of schemas in other words. A document tells the bounds of constraints and not their messages; what is
left of a schema in it, apart from its content, is which schemas are told apart under one name. Main statement:
`generate_reworded`. -/

namespace RecordSchema

variable {lost : Fault → Prop}

/-- The schema that a document describes for a target, if there is one. -/
def Target.described? : Target → Option Schema
  | .schema s => some s
  | .lookalike _ _ _ forDocument _ => forDocument.toOption

theorem Target.Reworded.described? {u v : Target} (same : u.Reworded lost v) :
    Option.Rel (Schema.Reworded lost) u.described? v.described? := by
  cases same with
  | schema schemas => exact .some schemas
  | lookalike => exact .refl .refl _

theorem Schema.Reworded.shownFields {s t : Schema} (same : s.Reworded lost t) (options : DocumentOptions) :
    List.Forall₂ (Field.Reworded lost) (s.shownFields options) (t.shownFields options) :=
  filter_reworded same.fields fun _ _ fields => by cases fields; rfl

theorem Constraint.keywords_reworded {cs ds : List Constraint} (each : List.Forall₂ (Constraint.Reworded lost) cs ds) :
    keywords ds = keywords cs := by
  have same (done : Entries) : keywords.go done ds = keywords.go done cs := by
    induction each generalizing done with
    | nil => rfl
    | cons first _ ih => simp only [keywords.go, first.kind, first.bound, ih]
  exact same []

/-- Targets that correspond to each other, recorded under one name. -/
inductive Draft.Paired (P : Target → Target → Prop) :
    Option Name × Option Target → Option Name × Option Target → Prop where
  | intro (name : Option Name) {target met : Option Target} (both : Option.Rel P target met) :
    Paired P (name, target) (name, met)

/-- Drafts of two documents that differ at most in the targets. -/
structure Draft.Corresponds (P : Target → Target → Prop) (draft other : Draft) : Prop where
  key : other.definitionsKey = draft.definitionsKey
  underway : other.underway = draft.underway
  written : other.written = draft.written
  targets : List.Forall₂ (Paired P) draft.targets other.targets

namespace Drafting

variable {α β γ δ : Type} {P : Target → Target → Prop} {R : α → β → Prop} {S : γ → δ → Prop}

/-- Two documents are made step by step: from drafts that correspond, both makings fail alike or come to related
results, and the drafts correspond again. -/
def InStep (P : Target → Target → Prop) (R : α → β → Prop) (making : Drafting α) (other : Drafting β) : Prop :=
  ∀ before first, Draft.Corresponds P before first →
    Except.Related Eq R (making.run before).1 (other.run first).1 ∧
      Draft.Corresponds P (making.run before).2 (other.run first).2

theorem InStep.pure {a : α} {b : β} (values : R a b) : InStep P R (pure a) (pure b) :=
  fun _ _ drafts => ⟨.ok values, drafts⟩

theorem InStep.throw (reason : Failing DocumentError) : InStep P R (throw reason) (throw reason) :=
  fun _ _ drafts => ⟨.error rfl, drafts⟩

theorem InStep.get : InStep P (Draft.Corresponds P) get get := fun _ _ drafts => ⟨.ok drafts, drafts⟩

theorem InStep.set {draft other : Draft} (drafts : Draft.Corresponds P draft other) :
    InStep P Eq (set draft : Drafting PUnit) (set other) := fun _ _ _ => ⟨.ok rfl, drafts⟩

theorem InStep.modify {change changeToo : Draft → Draft}
    (changes : ∀ draft other, Draft.Corresponds P draft other → Draft.Corresponds P (change draft) (changeToo other)) :
    InStep P Eq (modify change : Drafting PUnit) (modify changeToo) := fun _ _ drafts => ⟨.ok rfl, changes _ _ drafts⟩

theorem InStep.bind {making : Drafting α} {other : Drafting β} {next : α → Drafting γ} {nextToo : β → Drafting δ}
    (first : InStep P R making other) (rest : ∀ a b, R a b → InStep P S (next a) (nextToo b)) :
    InStep P S (making >>= next) (other >>= nextToo) := by
  intro before start drafts
  obtain ⟨outcomes, middle⟩ := first before start drafts
  have here : (making >>= next).run before = ExceptT.bindCont next (making.run before).1 (making.run before).2 := rfl
  have there : (other >>= nextToo).run start = ExceptT.bindCont nextToo (other.run start).1 (other.run start).2 := rfl
  rw [here, there]
  generalize (making.run before).1 = outcome, (other.run start).1 = met at outcomes
  cases outcomes with
  | error reasons =>
    cases reasons
    exact ⟨.error rfl, middle⟩
  | ok values => exact rest _ _ values _ _ middle

theorem InStep.bind_eq {making other : Drafting α} {next : α → Drafting γ} {nextToo : α → Drafting δ}
    (first : InStep P Eq making other) (rest : ∀ a, InStep P S (next a) (nextToo a)) :
    InStep P S (making >>= next) (other >>= nextToo) :=
  first.bind fun a _ same => same ▸ rest a

end Drafting

namespace Draft
open Drafting

variable {P : Target → Target → Prop} {draft other : Draft}

namespace Corresponds

variable (drafts : Corresponds P draft other)
include drafts

theorem names : other.targets.map Prod.fst = draft.targets.map Prod.fst :=
  drafts.targets.map_eq fun _ _ pair => by cases pair; rfl

theorem recorded? (label : Option String) : Option.Rel (Option.Rel P) (draft.recorded? label) (other.recorded? label) := by
  have each := drafts.targets
  unfold Draft.recorded?
  generalize draft.targets = targets, other.targets = others at each
  induction each with
  | nil => exact .none
  | cons first _ ih =>
    cases first with
    | intro name both =>
      simp only [List.find?_cons]
      cases decide (labelOf name = label) with
      | true => exact .some both
      | false => exact ih

theorem missing : List.Forall₂ (Paired P) draft.missing other.missing := by
  refine List.rel_filter (fun _ _ both => ?_) drafts.targets
  cases both
  dsimp only
  rw [drafts.written, drafts.underway]

theorem definitions : other.definitions = draft.definitions := by
  have read (d : Draft) : d.definitions = (d.targets.map Prod.fst).filterMap fun name =>
      (d.written.lookup (labelOf name)).map fun definition => ((name.map Name.toValue).getD .null, definition) := by
    rw [List.filterMap_map]
    rfl
  rw [read, read, drafts.names, drafts.written]

theorem put (name : Option Name) {target met : Option Target} (both : Option.Rel P target met) :
    Corresponds P (draft.put name target) (other.put name met) := by
  have known := drafts.recorded? (labelOf name)
  have referred : other.isReferredTo (labelOf name) = draft.isReferredTo (labelOf name) := by
    unfold isReferredTo
    generalize draft.recorded? (labelOf name) = found, other.recorded? (labelOf name) = more at known
    cases known <;> rfl
  unfold Draft.put
  rw [referred]
  split
  · refine ⟨drafts.key, drafts.underway, drafts.written, List.rel_map (fun _ _ pair => ?_) drafts.targets⟩
    cases pair with
    | intro own targets =>
      dsimp only
      split
      · exact .intro own both
      · exact .intro own targets
  · exact ⟨drafts.key, drafts.underway, drafts.written, List.rel_append drafts.targets (.cons (.intro name both) .nil)⟩

theorem begin (label : Option String) : Corresponds P (draft.begin label) (other.begin label) :=
  ⟨drafts.key, congrArg (List.cons label) drafts.underway, drafts.written, drafts.targets⟩

theorem write (label : Option String) (definition : Value) :
    Corresponds P (draft.write label definition) (other.write label definition) := by
  refine ⟨drafts.key, ?_, ?_, drafts.targets⟩
  · simp only [Draft.write, drafts.underway]
  · simp only [Draft.write, drafts.written]

end Corresponds

theorem pointerTo_inStep (label : Option String) : InStep P Eq (pointerTo label) (pointerTo label) := by
  cases label with
  | none => exact .throw _
  | some name =>
    refine InStep.get.bind fun draft other drafts => .pure ?_
    rw [pointer, pointer, drafts.key]

variable (P) in
/-- Targets are told apart exactly if those that correspond to them are. -/
def Distinguished : Prop := ∀ u v, P u v → ∀ w x, P w x → (u.serial = w.serial ↔ v.serial = x.serial)

theorem refer_inStep (distinguished : Distinguished P) (name : Name) {found met : Target} (both : P found met) :
    InStep P Eq (refer (some name) (some found)) (refer (some name) (some met)) := by
  refine InStep.get.bind fun draft other drafts => ?_
  have recorded : Option.Rel P (draft.recorded? (labelOf (some name))).join (other.recorded? (labelOf (some name))).join :=
    (drafts.recorded? _).bind fun _ _ targets => targets
  generalize (draft.recorded? (labelOf (some name))).join = known, (other.recorded? (labelOf (some name))).join = more
    at recorded
  cases recorded with
  | none => exact (InStep.set (drafts.put _ (.some both))).bind_eq fun _ => pointerTo_inStep _
  | some targets =>
    have apart := distinguished _ _ both _ _ targets
    simp only [Option.map_some, ne_eq, Option.some.injEq, apart]
    split
    · exact (InStep.throw _).bind_eq fun _ => pointerTo_inStep _
    · exact pointerTo_inStep _

end Draft

namespace Document
open Drafting Draft

variable {now later : Catalogs} {P : Target → Target → Prop}

theorem addKeywords_inStep {cs ds : List Constraint} (each : List.Forall₂ (Constraint.Reworded lost) cs ds) (schema : Entries) :
    InStep P Eq (addKeywords schema cs) (addKeywords schema ds) := by
  unfold addKeywords
  rw [Constraint.keywords_reworded each]
  cases Constraint.keywords cs with
  | ok keywords => exact .pure rfl
  | error fault => exact .throw _

/-- Constraints are told alike where they are the same. -/
theorem sameKeywords (cs : List Constraint) (schema : Entries) : InStep P Eq (addKeywords schema cs) (addKeywords schema cs) :=
  have same : List.Forall₂ (Constraint.Reworded fun _ => False) cs cs := List.forall₂_same.mpr fun c _ => .refl c
  addKeywords_inStep same schema

theorem propertyNames_inStep (key : SchemaType) : InStep P Eq (propertyNames key) (propertyNames key) := by
  unfold propertyNames
  split
  · exact (sameKeywords _ _).bind_eq fun _ => .pure rfl
  · exact .pure rfl

theorem owned_inStep (v : Value) : InStep P Eq (owned v) (owned v) := by
  unfold owned
  cases v.copy with
  | ok v => exact .pure rfl
  | error fault => exact .throw _

theorem withExtra_inStep (extra schema : Entries) : InStep P Eq (withExtra schema extra) (withExtra schema extra) := by
  induction extra generalizing schema with
  | nil => exact .pure rfl
  | cons entry rest ih =>
    obtain ⟨key, v⟩ := entry
    exact (owned_inStep v).bind_eq fun _ => ih _

section Types
variable {scope other : Scope}

variable (now later P scope other) in
/-- References lead to targets that correspond to each other, or nowhere. -/
def LeadTogether (references : List (Name × Option Target)) : Prop :=
  ∀ r ∈ references, Option.Rel P (scope.lookup? now r.1 r.2) (other.lookup? later r.1 r.2)

mutual

theorem ofType_inStep (distinguished : Distinguished P) : ∀ {lost : Fault → Prop} {t u : SchemaType}, t.Reworded lost u →
    LeadTogether now later P scope other t.shownReferences → InStep P Eq (ofType now scope t) (ofType later other u)
  | _, .primitive kind _, _, .primitive own, _ => by
    simp only [ofType]
    exact addKeywords_inStep own _
  | _, .array element _, _, .array own, lead => by
    simp only [ofType]
    have same : element.Reworded (fun _ => False) element := .refl element
    exact (ofType_inStep distinguished same lead).bind_eq fun _ => addKeywords_inStep own _
  | _, .map key value _, _, .map own, lead => by
    simp only [ofType]
    have same : value.Reworded (fun _ => False) value := .refl value
    refine (ofType_inStep distinguished same lead).bind_eq fun _ => ?_
    exact (propertyNames_inStep key).bind_eq fun _ => addKeywords_inStep own _
  | _, .union variants _, _, .union _, lead => by
    simp only [ofType]
    exact (ofVariants_inStep distinguished variants lead).bind_eq fun _ => .pure rfl
  | _, .ref _ _, _, .ref name target, lead => by
    have targets := lead (name, target) (List.mem_singleton_self _)
    simp only [ofType]
    generalize scope.lookup? now name target = found, other.lookup? later name target = met at targets
    cases targets with
    | none => exact .throw _
    | some both => exact (refer_inStep distinguished name both).bind_eq fun _ => .pure rfl

theorem ofVariants_inStep (distinguished : Distinguished P) : ∀ types : List SchemaType,
    LeadTogether now later P scope other (SchemaType.shownReferencesOf types) →
    InStep P Eq (ofVariants now scope types) (ofVariants later other types)
  | [], _ => by
    simp only [ofVariants]
    exact .pure rfl
  | t :: rest, lead => by
    simp only [ofVariants]
    have same : t.Reworded (fun _ => False) t := .refl t
    refine (ofType_inStep distinguished same fun r member => lead r (List.mem_append_left _ member)).bind_eq fun _ => ?_
    refine (ofVariants_inStep distinguished rest fun r member => lead r (List.mem_append_right _ member)).bind_eq fun _ => ?_
    exact .pure rfl

end

variable (distinguished : Distinguished P) {s t : Schema} (schemas : s.Reworded lost t)
include distinguished schemas

theorem ofField_inStep {f g : Field} (fields : f.Reworded lost g)
    (lead : LeadTogether now later P scope other f.type.shownReferences) :
    InStep P Eq (ofField now scope s f) (ofField later other t g) := by
  have computing : t.derivedHooks = s.derivedHooks := by cases schemas; rfl
  cases fields with
  | intro types =>
    unfold ofField
    rw [computing]
    refine (ofType_inStep distinguished types lead).bind_eq fun own => ?_
    dsimp only
    cases f.default with
    | none => exact (InStep.pure rfl).bind_eq fun _ => withExtra_inStep _ _
    | some v => exact (owned_inStep v).bind_eq fun _ => (InStep.pure rfl).bind_eq fun _ => withExtra_inStep _ _

theorem properties_inStep {fs gs : List Field} (fields : List.Forall₂ (Field.Reworded lost) fs gs)
    (lead : LeadTogether now later P scope other (fs.flatMap fun f => f.type.shownReferences)) :
    InStep P Eq (properties now scope s fs) (properties later other t gs) := by
  induction fields with
  | nil => exact .pure rfl
  | @cons f g _ _ first _ ih =>
    rw [List.flatMap_cons] at lead
    obtain ⟨here, others⟩ := List.forall_mem_append.mp lead
    have named : g.name = f.name := by cases first; rfl
    refine (ofField_inStep distinguished schemas first here).bind_eq fun _ => (ih others).bind_eq fun _ => ?_
    rw [named]
    exact .pure rfl

end Types

theorem ofSchema_inStep {options : DocumentOptions} (distinguished : Distinguished P) {s t : Schema} (schemas : s.Reworded lost t)
    (lead : LeadTogether now later P (scopeOf options s) (scopeOf options t) (s.shownReferences options)) :
    InStep P Eq (ofSchema now options s) (ofSchema later options t) := by
  have shown := schemas.shownFields options
  have needed := filter_reworded (p := fun f => f.required && !f.derived) shown fun _ _ fields => by cases fields; rfl
  have required : (((t.shownFields options).filter fun f => f.required && !f.derived).map fun f => f.name.toValue) =
      ((s.shownFields options).filter fun f => f.required && !f.derived).map fun f => f.name.toValue :=
    needed.map_eq fun _ _ fields => by cases fields; rfl
  have title : t.title = s.title := by cases schemas; rfl
  have description : t.description = s.description := by cases schemas; rfl
  have strict : t.strict = s.strict := by cases schemas; rfl
  unfold ofSchema
  rw [title, description, strict]
  refine (properties_inStep distinguished schemas shown lead).bind_eq fun _ => .pure ?_
  unfold Schema.shownFields at required
  rw [required]

/-! How many definitions can be needed is told by the names that can come to be referred to. -/

theorem namesInFields_reworded {fs gs : List Field} (each : List.Forall₂ (Field.Reworded lost) fs gs) :
    namesInFields gs = namesInFields fs := by
  induction each with
  | nil => rfl
  | @cons f _ _ _ first _ ih =>
    cases f
    cases first with
    | intro types =>
      rw [namesInFields, namesInFields, ih]
      congr 1
      cases types <;> simp only [namesInType]

theorem namesInSchema_reworded {s t : Schema} (schemas : s.Reworded lost t) : namesInSchema t = namesInSchema s := by
  have fields := namesInFields_reworded schemas.fields
  cases s
  cases t
  simpa only [namesInSchema] using fields

theorem namesInTarget_reworded {found met : Option Target} (targets : Option.Rel (Target.Reworded lost) found met) :
    namesInTarget met = namesInTarget found := by
  cases targets with
  | none => rfl
  | some both =>
    cases both with
    | schema schemas => simpa only [namesInTarget] using namesInSchema_reworded schemas
    | lookalike => rfl

theorem namesWithin_reworded (catalogs : now.Reworded lost later) {draft other : Draft}
    (drafts : Draft.Corresponds (Target.Reworded lost) draft other) : namesWithin later other = namesWithin now draft := by
  unfold namesWithin
  refine congrArg₂ _ (congrArg₂ _ (drafts.targets.map_eq ?_) (drafts.targets.flatMap_eq ?_)) (catalogs.flatMap_eq ?_)
  · intro _ _ pair
    cases pair
    rfl
  · rintro _ _ ⟨_, both⟩
    exact namesInTarget_reworded both
  · rintro _ _ ⟨_, entries⟩
    refine entries.flatMap_eq ?_
    rintro ⟨_, s⟩ ⟨_, t⟩ ⟨_, schemas⟩
    cases schemas with
    | none => rfl
    | some both => exact namesInSchema_reworded both

variable (lost now later P options) in
/-- What corresponds to each other is the same in other words, and refers to what corresponds again. -/
structure Correspondence : Prop where
  distinguished : Distinguished P
  reworded : ∀ u v, P u v → u.Reworded lost v
  closed : ∀ u v, P u v → ∀ r q, u.described? = some r → v.described? = some q →
    LeadTogether now later P (scopeOf options r) (scopeOf options q) (r.shownReferences options)

namespace Correspondence

variable (pairs : Correspondence lost now later P options)
include pairs

theorem ofSchema_inStep {u v : Target} (both : P u v) {r q : Schema} (described : u.described? = some r)
    (others : v.described? = some q) : InStep P Eq (ofSchema now options r) (ofSchema later options q) := by
  have schemas := (pairs.reworded u v both).described?
  rw [described, others] at schemas
  cases schemas with
  | some schemas => exact Document.ofSchema_inStep pairs.distinguished schemas (pairs.closed u v both r q described others)

theorem writeUpTo_inStep (limit : Nat) : InStep P Eq (writeUpTo now options limit) (writeUpTo later options limit) := by
  induction limit with
  | zero => exact .pure rfl
  | succ limit ih =>
    rw [writeUpTo, writeUpTo]
    refine InStep.get.bind fun draft other drafts => ?_
    have missing := drafts.missing
    generalize draft.missing = lacking, other.missing = lacked at missing
    cases missing with
    | nil => exact .pure rfl
    | cons first _ =>
      cases first with
      | intro name targets =>
        refine (InStep.modify fun _ _ drafts => drafts.begin (labelOf name)).bind_eq fun _ => ?_
        have written (definition : Entries) : InStep P Eq
            (do modify fun draft => draft.write (labelOf name) (.map definition)
                writeUpTo now options limit)
            (do modify fun draft => draft.write (labelOf name) (.map definition)
                writeUpTo later options limit) :=
          (InStep.modify fun _ _ drafts => drafts.write _ _).bind_eq fun _ => ih
        cases targets with
        | none => exact (InStep.throw _).bind_eq fun _ => written _
        | @some u v both =>
          have same := pairs.reworded _ _ both
          cases same with
          | schema schemas => exact (pairs.ofSchema_inStep both rfl rfl).bind_eq written
          | lookalike serial thing forData forDocument gaps =>
            cases forDocument with
            | error fault => exact (InStep.throw _).bind_eq fun _ => written _
            | ok s =>
              refine (pairs.ofSchema_inStep both rfl rfl).bind_eq fun definition => ?_
              split
              · cases gaps.strict with
                | none => exact (InStep.pure rfl).bind_eq fun _ => written _
                | some fault => exact (InStep.throw _).bind_eq fun _ => written _
              · exact written _

theorem writeAll_inStep (catalogs : now.Reworded lost later) : InStep P Eq (writeAll now options) (writeAll later options) := by
  refine InStep.get.bind fun draft other drafts => ?_
  have reworded : Draft.Corresponds (Target.Reworded lost) draft other :=
    ⟨drafts.key, drafts.underway, drafts.written, drafts.targets.imp fun _ _ pair => by
      cases pair with
      | intro name both => exact .intro name (both.mono pairs.reworded)⟩
  rw [namesWithin_reworded catalogs reworded]
  exact pairs.writeUpTo_inStep _

theorem generate_inStep (catalogs : now.Reworded lost later) {s t : Schema} (both : P (.schema s) (.schema t)) :
    generate later options t = generate now options s := by
  have whole : InStep P Eq
      (do let document ← ofSchema now options s
          writeAll now options
          let definitions := (← get).definitions
          return if definitions.isEmpty then document else document.setField options.definitionsKey (.map definitions))
      (do let document ← ofSchema later options t
          writeAll later options
          let definitions := (← get).definitions
          return if definitions.isEmpty then document else document.setField options.definitionsKey (.map definitions)) := by
    refine (pairs.ofSchema_inStep both rfl rfl).bind_eq fun document => (pairs.writeAll_inStep catalogs).bind_eq fun _ => ?_
    refine InStep.get.bind fun draft other drafts => .pure ?_
    rw [drafts.definitions]
  have empty : Draft.Corresponds P { definitionsKey := options.definitionsKey } { definitionsKey := options.definitionsKey } :=
    ⟨rfl, rfl, rfl, .nil⟩
  exact (whole _ _ empty).1.eq.symm

end Correspondence

section Twins
variable {options : DocumentOptions} {s t : Schema}

variable (now later options s t) in
/-- Targets that the same references lead to, from two schemas on. -/
inductive Twins : Target → Target → Prop where
  | roots : Twins (.schema s) (.schema t)
  | follow {u v found met : Target} {r q : Schema} {name : Name} {target : Option Target} (both : Twins u v)
      (described : u.described? = some r) (others : v.described? = some q)
      (shown : (name, target) ∈ r.shownReferences options)
      (leads : (scopeOf options r).lookup? now name target = some found)
      (leadsToo : (scopeOf options q).lookup? later name target = some met) : Twins found met

/-- Twins are the same in other words, since the schemas are from which they are reached. -/
theorem Twins.reworded (catalogs : now.Reworded lost later) (schemas : s.Reworded lost t) {u v : Target}
    (both : Twins now later options s t u v) : u.Reworded lost v := by
  induction both with
  | roots => exact .schema schemas
  | @follow u v found met r q name target _ described others _ leads leadsToo ih =>
    have same := ih.described?
    rw [described, others] at same
    cases same with
    | some same =>
      have targets := Scope.lookup?_reworded catalogs (.ofSchema same options.catalog) name target
      change Option.Rel _ ((scopeOf options r).lookup? now name target)
        ((scopeOf options q).lookup? later name target) at targets
      rw [leads, leadsToo] at targets
      cases targets with
      | some targets => exact targets

theorem twins_correspond (catalogs : now.Reworded lost later) (schemas : s.Reworded lost t)
    (distinguished : Distinguished (Twins now later options s t)) :
    Correspondence lost now later (Twins now later options s t) options := by
  refine ⟨distinguished, fun _ _ both => both.reworded catalogs schemas, ?_⟩
  intro u v both r q described others reference shown
  have same := (both.reworded catalogs schemas).described?
  rw [described, others] at same
  cases same with
  | some same =>
    have targets := Scope.lookup?_reworded catalogs (.ofSchema same options.catalog) reference.1 reference.2
    have follow (found met : Target) (leads : (scopeOf options r).lookup? now reference.1 reference.2 = some found)
        (leadsToo : (scopeOf options q).lookup? later reference.1 reference.2 = some met) :
        Twins now later options s t found met := .follow both described others shown leads leadsToo
    change Option.Rel _ ((scopeOf options r).lookup? now reference.1 reference.2)
      ((scopeOf options q).lookup? later reference.1 reference.2) at targets
    generalize (scopeOf options r).lookup? now reference.1 reference.2 = found,
      (scopeOf options q).lookup? later reference.1 reference.2 = met at targets follow
    cases targets with
    | none => exact .none
    | some _ => exact .some (follow _ _ rfl rfl)

/-- Schemas in other words have the same document, wherever the same targets are told apart. -/
theorem generate_reworded (catalogs : now.Reworded lost later) (schemas : s.Reworded lost t)
    (distinguished : Distinguished (Twins now later options s t)) :
    generate later options t = generate now options s :=
  (twins_correspond catalogs schemas distinguished).generate_inStep catalogs .roots

/-- In the same catalogs the same references lead to the same targets, unless to the schemas themselves. -/
theorem Twins.same_or_roots (schemas : s.Reworded lost t) {u v : Target} (both : Twins now now options s t u v) :
    u = v ∨ u = .schema s ∧ v = .schema t := by
  induction both with
  | roots => exact .inr ⟨rfl, rfl⟩
  | @follow u v found met r q name target _ described others _ leads leadsToo ih =>
    obtain rfl | ⟨rfl, rfl⟩ := ih
    · cases described.symm.trans others
      cases leads.symm.trans leadsToo
      exact .inl rfl
    · cases described
      cases others
      cases target with
      | some target => exact .inl (Option.some.inj (leads.symm.trans leadsToo))
      | none =>
        -- a name is the schema's own for both schemas, or else it is looked up in the same catalogs
        simp only [scopeOf, Scope.lookup?, Scope.named?, schemas.name, schemas.catalog, Option.none_or] at leads leadsToo
        split at leads
        next own =>
          rw [if_pos own] at leadsToo
          exact .inr ⟨(Option.some.inj leads).symm, (Option.some.inj leadsToo).symm⟩
        next other =>
          rw [if_neg other] at leadsToo
          exact .inl (Option.some.inj (leads.symm.trans leadsToo))

/-- A schema that takes the number of another one, in the same catalogs, leaves all others told apart as they were. -/
theorem distinguished_of_serial (schemas : s.Reworded lost t) (serial : t.serial = s.serial) :
    Distinguished (Twins now now options s t) := by
  have numbered {u v : Target} (both : Twins now now options s t u v) : v.serial = u.serial := by
    obtain rfl | ⟨rfl, rfl⟩ := both.same_or_roots schemas
    · rfl
    · exact serial
  intro u v first w x second
  rw [numbered first, numbered second]

end Twins

end Document
end RecordSchema
