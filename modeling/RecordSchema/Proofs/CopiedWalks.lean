import RecordSchema.Document.Flatten
import RecordSchema.Proofs.DocumentParts

/-! Resolving and flattening copy what stands in the place of a schema and is none, and some of the keywords
beside a reference. Where everything can be copied, they come to the same as the walks that copy nothing.
Main statements: `resolve_of_copyable`, `flatten_of_copyable`. -/

namespace RecordSchema.Document

section Walk
variable {node : Entries → Except Fault Entries → Except Fault Value} {change : Entries → Except Fault Entries}

/-- What a walk does at a schema that can be copied is to change it. -/
def Changes (node : Entries → Except Fault Entries → Except Fault Value) (change : Entries → Except Fault Entries) : Prop :=
  ∀ schema, (Value.map schema).isCopyable = true →
    node schema (rebuildEntries true change schema) = rebuild true change (.map schema)

mutual

theorem Changes.visit_eq (changes : Changes node change) {v : Value} (copyable : v.isCopyable = true) :
    visit Value.copy node v = rebuild true change v := by
  cases v with
  | map schema =>
    rw [visit, changes.visitEntries_eq copyable]
    exact changes schema copyable
  | list items => rw [visit, changes.visitItems_eq copyable, rebuild, if_pos rfl]
  | _ => exact (if_pos copyable : Value.copy _ = .ok _)

theorem Changes.visitEntries_eq (changes : Changes node change) {entries : List (Value × Value)}
    (copyable : Value.areCopyableEntries entries = true) :
    visitEntries Value.copy node entries = rebuildEntries true change entries := by
  cases entries with
  | nil => rfl
  | cons e rest =>
    obtain ⟨key, v⟩ := e
    rw [Value.areCopyableEntries, Bool.and_eq_true, Bool.and_eq_true] at copyable
    obtain ⟨⟨-, own⟩, others⟩ := copyable
    rw [visitEntries.eq_def, rebuildEntries.eq_def]
    dsimp only
    rw [changes.visitEntries_eq others]
    -- what stands under the key, by the shape that the key gives it
    generalize KeywordShape.ofKey? key = shape
    rcases shape with _ | _ | _ | _
    · rfl
    · cases v with
      | list items =>
        dsimp only
        rw [changes.visitItems_eq own]
      | _ =>
        dsimp only
        rw [changes.visit_eq own]
    · cases v with
      | list items =>
        dsimp only
        rw [changes.visitItems_eq own]
      | _ => rfl
    · cases v with
      | map named =>
        dsimp only
        rw [changes.visitNamed_eq own]
      | _ => rfl

theorem Changes.visitItems_eq (changes : Changes node change) {items : List Value} (copyable : Value.areCopyable items = true) :
    visitItems Value.copy node items = rebuildItems true change items := by
  cases items with
  | nil => rfl
  | cons v rest =>
    rw [Value.areCopyable, Bool.and_eq_true] at copyable
    rw [visitItems, rebuildItems, changes.visit_eq copyable.1, changes.visitItems_eq copyable.2]

theorem Changes.visitNamed_eq (changes : Changes node change) {entries : List (Value × Value)}
    (copyable : Value.areCopyableEntries entries = true) :
    visitNamed Value.copy node entries = rebuildNamed true change entries := by
  cases entries with
  | nil => rfl
  | cons e rest =>
    obtain ⟨key, v⟩ := e
    rw [Value.areCopyableEntries, Bool.and_eq_true, Bool.and_eq_true] at copyable
    rw [visitNamed, rebuildNamed, changes.visit_eq copyable.1.2, changes.visitNamed_eq copyable.2]

end

end Walk

section Resolving
variable {definitions schema target beside : Entries} {options : ResolutionOptions} {v : Value}

/-- The keywords that are copied beside a reference. -/
def isCopiedKey (key : Value) : Bool := key.str?.any ["title", "description"].contains

/-- Where titles and descriptions can be copied, their copies make no difference. -/
theorem mergeCopied_eq {dropped : Entries → String → Bool}
    (copyable : ∀ e ∈ beside, isCopiedKey e.1 = true → e.2.isCopyable = true) :
    mergeCopied dropped target beside = .ok (mergeBeside dropped target beside) := by
  induction beside generalizing target with
  | nil => rfl
  | cons e rest ih =>
    obtain ⟨key, v⟩ := e
    obtain ⟨own, others⟩ := List.forall_mem_cons.mp copyable
    rw [mergeCopied, List.foldlM_cons, mergeBeside, List.foldl_cons]
    dsimp only
    split
    next => exact ih others
    next =>
      split
      next copied =>
        have same : v.copy = .ok v := if_pos (own copied)
        rw [same]
        exact ih others
      next => exact ih others

/-- What is copied beside a reference is no schema, so that the walk has left it as it was. -/
theorem copyable_beside (copyable : (Value.map schema).isCopyable = true) (plain : Entries → Entries) :
    ∀ e ∈ rebuiltEntries plain schema, isCopiedKey e.1 = true → e.2.isCopyable = true := by
  intro e member copied
  obtain ⟨⟨key, v⟩, inside, rfl⟩ := List.mem_map.mp member
  obtain ⟨keyword, named, listed⟩ := (Option.any_eq_true _ _).mp copied
  have shape : KeywordShape.ofKey? key = none := by
    rw [KeywordShape.ofKey?, named]
    simp only [List.contains_cons, List.contains_nil, Bool.or_false, Bool.or_eq_true, beq_iff_eq] at listed
    obtain rfl | rfl := listed <;> rfl
  show (rebuiltUnder plain key v).isCopyable = true
  rw [rebuiltUnder_of_unshaped shape]
  exact (Value.areCopyableEntries_iff.mp copyable (key, v) inside).2

theorem rebuild_ok (plain : Entries → Entries) (v : Value) :
    rebuild true (fun schema => .ok (plain schema)) v = (.ok (rebuilt plain v) : Except Fault Value) :=
  rebuild_eq_pure fun _ _ => rfl

theorem rebuildEntries_ok (plain : Entries → Entries) (schema : Entries) :
    rebuildEntries true (fun schema => .ok (plain schema)) schema = (.ok (rebuiltEntries plain schema) : Except Fault Entries) :=
  rebuildEntries_eq_pure fun _ _ w _ => rebuild_ok plain w

/-- A walk with something else in the place of references comes to one that changes schemas, if it does so at each
schema with a reference and at each one without. -/
theorem exchange_eq {change : Entries → Except Fault Entries}
    {found : Value → Entries → Except Fault Entries → Except Fault Value}
    (plain : ∀ schema, target? definitions schema = none →
      .map <$> rebuildEntries true change schema = rebuild true change (.map schema))
    (referring : ∀ schema name body, (Value.map schema).isCopyable = true → target? definitions schema = some (name, body) →
      found body schema (rebuildEntries true change schema) = rebuild true change (.map schema))
    (copyable : v.isCopyable = true) : exchange definitions found v = rebuild true change v := by
  refine Changes.visit_eq (fun schema own => ?_) copyable
  split
  next none => exact plain schema none
  next name body target => exact referring schema name body own target

/-- Resolving with copies what can be copied is resolving without them. -/
theorem resolveCopied_eq (defined : ∀ name body, definitions.field? name = some body → body.isCopyable = true) (depth : Nat)
    (copyable : v.isCopyable = true) :
    resolveCopied options definitions depth v = .ok (resolveTo options definitions depth v) := by
  induction depth generalizing v with
  | zero =>
    have same (schema : Entries) : rebuild true (fun schema => .ok (id schema)) (.map schema) = (.ok (.map schema) : Except Fault Value) := by
      rw [rebuild_ok, rebuilt_id]
    refine (exchange_eq (fun schema _ => ?_) (fun schema _ _ own _ => ?_) copyable).trans ((rebuild_ok id v).trans ?_)
    · rw [same, rebuildEntries_ok, rebuiltEntries_id]
      rfl
    · rw [same]
      exact if_pos own
    · rw [rebuilt_id]
      rfl
  | succ depth ih =>
    have beneath (schema : Entries) := rebuildEntries_ok (expand options definitions (resolveTo options definitions depth)) schema
    have here (schema : Entries) := rebuild_ok (expand options definitions (resolveTo options definitions depth)) (.map schema)
    refine (exchange_eq (fun schema none => ?_) (fun schema name body own target => ?_) copyable).trans (rebuild_ok _ v)
    · rw [beneath, here, rebuilt_map, expand, target?_rebuilt, none]
      rfl
    · rw [beneath, here, rebuilt_map, expand, target?_rebuilt, target, ih (defined name body (target?_eq_some.mp target).2)]
      show (do return Value.map (← mergeCopied _ _ _)) = _
      rw [mergeCopied_eq (copyable_beside own _)]
      rfl

end Resolving

section Flattening
variable {definitions : Entries} {kept : List String} {v : Value}

theorem inline_failsOnlyWith {fault : Fault} {making : Value → Except Fault Value} (each : ∀ v, (making v).FailsOnlyWith fault)
    (schema : Entries) : (inline definitions kept making schema).FailsOnlyWith fault := by
  unfold inline
  split
  next => exact Except.failsOnly_ok _ _
  next name body _ =>
    split
    next => exact Except.failsOnly_ok _ _
    next => exact (each body).bind fun _ _ => Except.failsOnly_ok _ _

theorem inlineTo_failsOnlyWith (depth : Nat) (v : Value) : (inlineTo definitions kept depth v).FailsOnlyWith .endless := by
  induction depth generalizing v with
  | zero => exact rebuild_failsOnlyWith (inline_failsOnlyWith fun _ _ failed => (Except.error.inj failed).symm) v
  | succ depth ih => exact rebuild_failsOnlyWith (inline_failsOnlyWith ih) v

/-- At a schema both ways of simplifying come to the same, although one looks at the definition first and the
other one at what is beside the reference: there is just one fault that either can end with. -/
theorem changes_inline {copied making : Value → Except Fault Value} (only : ∀ v, (making v).FailsOnlyWith .endless)
    (same : ∀ name body, definitions.field? name = some body → copied body = making body) :
    Changes (fun schema rebuilt =>
      match target? definitions schema with
      | none => return .map (collapseAll (← rebuilt))
      | some (name, body) => do
        if ← (return kept.contains name : Except Fault Bool) then return .map (collapseAll (← rebuilt))
        let target := asEntries (← copied body)
        return .map (collapseAll (mergeBeside (fun _ keyword => keyword = "$ref") target (← rebuilt))))
      (inline definitions kept making) := by
  intro schema _
  have beneath : (rebuildEntries true (inline definitions kept making) schema).FailsOnlyWith _ :=
    rebuildEntries_failsOnlyWith (inline_failsOnlyWith only) schema
  rw [rebuild]
  cases done : rebuildEntries true (inline definitions kept making) schema with
  | error fault =>
    cases beneath fault done
    dsimp only
    split
    next => rfl
    next name body found =>
      rw [same name body (target?_eq_some.mp found).2, pure_bind]
      split
      next => rfl
      next =>
        cases inside : making body with
        | error fault =>
          cases only body fault inside
          rfl
        | ok target => rfl
  | ok made =>
    have points : pointer? made = pointer? schema := pointer?_of_rebuilt ((rebuildEntries_eq _ schema).symm.trans done)
    simp only [Except.ok_bind]
    rw [inline, target?_congr points]
    cases target : target? definitions schema with
    | none => rfl
    | some found =>
      obtain ⟨name, body⟩ := found
      dsimp only
      rw [same name body (target?_eq_some.mp target).2, pure_bind]
      split
      next => rfl
      next => cases making body <;> rfl

/-- Simplifying with copies what can be copied is simplifying without them. -/
theorem inlineCopiedTo_eq (defined : ∀ name body, definitions.field? name = some body → body.isCopyable = true) (depth : Nat)
    (copyable : v.isCopyable = true) :
    inlineCopiedTo definitions (fun name => return kept.contains name) depth v = inlineTo definitions kept depth v := by
  induction depth generalizing v with
  | zero =>
    have only (v : Value) : (.error .endless : Except Fault Value).FailsOnlyWith .endless := Except.failsOnly_error rfl
    exact (changes_inline only fun _ _ _ => rfl).visit_eq copyable
  | succ depth ih =>
    exact (changes_inline (inlineTo_failsOnlyWith depth) fun name body found => ih (defined name body found)).visit_eq copyable

end Flattening

section Collection
variable {simplify other : Value → Except Fault Value} {definitions done : Entries} {limit : Nat} {name : String}
  {pending : List String} {body : Value}

/-- A name is passed over without a definition, and if it is done already. -/
theorem collect_skip (skipped : definitions.field? name = none ∨ done.hasField name = true) :
    collect simplify definitions limit done (name :: pending) = collect simplify definitions limit done pending := by
  rw [collect]
  split
  next => rfl
  next defined =>
    obtain undefined | known := skipped
    · cases undefined.symm.trans defined
    · rw [if_pos known]

theorem collect_full (defined : definitions.field? name = some body) (unknown : ¬ done.hasField name = true) :
    collect simplify definitions 0 done (name :: pending) = .ok done := by
  rw [collect, defined]
  dsimp only
  rw [if_neg unknown]

theorem collect_next (defined : definitions.field? name = some body) (unknown : ¬ done.hasField name = true) :
    collect simplify definitions (limit + 1) done (name :: pending) = simplify body >>= fun body =>
      collect simplify definitions limit (done ++ [(.str name, body)]) (pending ++ references body) := by
  rw [collect, defined]
  dsimp only
  rw [if_neg unknown]

/-- Where there is nothing to add, nothing is added. -/
theorem collect_done (all : ∀ name ∈ pending, definitions.field? name = none ∨ done.hasField name = true) :
    collect simplify definitions limit done pending = .ok done := by
  induction pending with
  | nil => rw [collect]
  | cons name rest ih =>
    obtain ⟨here, later⟩ := List.forall_mem_cons.mp all
    rw [collect_skip here]
    exact ih later

theorem collect_congr (same : ∀ name body, definitions.field? name = some body → simplify body = other body) :
    collect simplify definitions limit done pending = collect other definitions limit done pending := by
  induction limit, done, pending using collect.induct definitions with
  | case1 limit done => rw [collect, collect]
  | case2 limit done name rest undefined ih => rw [collect_skip (.inl undefined), collect_skip (.inl undefined), ih]
  | case3 limit done name rest body defined known ih => rw [collect_skip (.inr known), collect_skip (.inr known), ih]
  | case4 done name rest body defined unknown => rw [collect_full defined unknown, collect_full defined unknown]
  | case5 done name rest body defined unknown limit ih =>
    rw [collect_next defined unknown, collect_next defined unknown, same name body defined]
    exact bind_congr ih

/-- Flattening in parts simplifies the root and definitions only. -/
theorem flattenParts_congr {parts : Parts} (root : simplify (.map parts.root) = other (.map parts.root))
    (defined : ∀ name body, parts.definitions.field? name = some body → simplify body = other body) :
    flattenParts simplify parts = flattenParts other parts := by
  rw [flattenParts, flattenParts, root]
  refine bind_congr fun made => ?_
  rw [collect_congr defined]

end Collection

section Documents
variable {document : Entries}

theorem resolve_of_copyable (options : ResolutionOptions) (copyable : (Value.map document).isCopyable = true) :
    resolve options (.map document) = .ok (resolveEntries options document) :=
  resolveCopied_eq (fun _ _ => isCopyable_composite.definition copyable) _ (isCopyable_composite.root copyable)

theorem flatten_of_copyable (options : FlatteningOptions) (copyable : (Value.map document).isCopyable = true) :
    flatten options (.map document) = flattenEntries options document := by
  have defined (name : String) (body : Value) : (Parts.ofEntries document).definitions.field? name = some body → body.isCopyable = true :=
    isCopyable_composite.definition copyable
  refine flattenParts_congr ?_ fun name body found => ?_
  · exact inlineCopiedTo_eq defined _ (isCopyable_composite.root copyable)
  · exact inlineCopiedTo_eq defined _ (defined name body found)

end Documents

end RecordSchema.Document
