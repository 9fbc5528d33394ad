import RecordSchema.Normal.Type
import RecordSchema.Proofs.Outcome

/-! Well-formed types. What expressions come to is well-formed at every level, however constraints were added to
it, and a type that is checked again is kept just if it is well-formed. Main statements: `normalize_formed`, `normalize_type`. -/

namespace RecordSchema

@[simp] theorem Quantity.lt_ofInt (m n : Int) : (Quantity.ofInt m).lt (.ofInt n) = decide (m < n) := by
  have cast (k : Int) : (Dyadic.ofInt k).toRat = k := Dyadic.toRat_intCast k
  simp only [ofInt, lt, ← Dyadic.toRat_lt_toRat_iff, cast, Rat.intCast_lt_intCast]

namespace Constraint

/-- A bound that fits the kind of the constraint: a size, a number, a pattern that can be read, or some choices. -/
def IsSane (c : Constraint) : Prop :=
  match c.kind with
  | .minLength | .maxLength | .minItems | .maxItems | .minEntries | .maxEntries => ∃ n : Nat, c.bound = .int n
  | .above | .below | .atLeast | .atMost => c.bound.number?.isSome = true
  | .pattern => ∃ text compiled, c.bound.str? = some text ∧ Pattern.parse text = .ok compiled
  | .choices => ∃ first others, c.bound = .tuple (first :: others)

theorem requireBound_size {type : String} {c : Constraint} (size : c.kind.isSizeBound = true) :
    c.requireBound type = .ok () ↔ ∃ n : Nat, c.bound = .int n := by
  rw [requireBound, if_pos size]
  split
  next n given =>
    rw [given]
    split
    next positive => exact iff_of_true rfl ⟨n.toNat, congrArg _ (Int.toNat_of_nonneg positive).symm⟩
    next negative =>
      refine iff_of_false nofun fun ⟨m, same⟩ => negative ?_
      cases same
      exact Int.natCast_nonneg m
  next other => exact iff_of_false nofun fun ⟨m, same⟩ => other m same

theorem requireBound_eq_ok {type : String} {c : Constraint} : c.requireBound type = .ok () ↔ c.IsSane := by
  obtain ⟨kind, bound, message⟩ := c
  cases kind with
  | minLength | maxLength | minItems | maxItems | minEntries | maxEntries => exact requireBound_size rfl
  | above | below | atLeast | atMost =>
    show (if bound.number?.isSome then _ else _) = _ ↔ bound.number?.isSome = true
    split
    next given => exact iff_of_true rfl given
    next missing => exact iff_of_false nofun missing
  | pattern =>
    show requireBound type _ = .ok () ↔ ∃ text compiled, bound.str? = some text ∧ Pattern.parse text = .ok compiled
    simp only [requireBound, ConstraintKind.isSizeBound, ConstraintKind.isComparison, Bool.false_eq_true, if_false, if_true]
    cases bound.str? with
    | none => exact iff_of_false nofun nofun
    | some text =>
      cases read : Pattern.parse text with
      | ok compiled => exact iff_of_true (by simp [read]) ⟨text, compiled, rfl, read⟩
      | error failure =>
        refine iff_of_false (by cases failure <;> simp [read, NormalizeError.raise]) fun ⟨_, compiled, same, other⟩ => ?_
        cases same
        rw [read] at other
        cases other
  | choices =>
    show requireBound type _ = .ok () ↔ ∃ first others, bound = .tuple (first :: others)
    simp only [requireBound, ConstraintKind.isSizeBound, ConstraintKind.isComparison, Bool.false_eq_true, if_false, reduceCtorEq]
    split
    next first others => exact iff_of_true rfl ⟨first, others, rfl⟩
    next other => exact iff_of_false nofun fun ⟨first, others, same⟩ => other first others same

theorem lastBound?_mem {kind : ConstraintKind} {cs : List Constraint} {bound : Value} (found : lastBound? kind cs = some bound) :
    ∃ c ∈ cs, c.kind = kind ∧ c.bound = bound := by
  induction cs with
  | nil => cases found
  | cons c rest ih =>
    rw [lastBound?] at found
    obtain later | ⟨-, own⟩ := Option.or_eq_some_iff.mp found
    · obtain ⟨d, member, same⟩ := ih later
      exact ⟨d, List.mem_cons_of_mem _ member, same⟩
    · split at own
      next same => exact ⟨c, List.mem_cons_self, same, Option.some.inj own⟩
      next => cases own

/-- Of each pair of size bounds, the least that is given last does not exceed the greatest that is. -/
def SizesOrdered (cs : List Constraint) : Prop :=
  ∀ pair ∈ sizePairs, ∀ least most : Nat,
    lastBound? pair.1 cs = some (.int least) → lastBound? pair.2 cs = some (.int most) → least ≤ most

theorem lastBound?_size {kind : ConstraintKind} {cs : List Constraint} (sane : ∀ c ∈ cs, c.IsSane)
    (size : kind.isSizeBound = true) {bound : Value} (found : lastBound? kind cs = some bound) : ∃ n : Nat, bound = .int n := by
  obtain ⟨c, member, rfl, rfl⟩ := lastBound?_mem found
  have passed : c.requireBound "" = .ok () := requireBound_eq_ok.mpr (sane c member)
  exact (requireBound_size size).mp passed

theorem requireOrder_go_eq_ok {type : String} {cs : List Constraint} (sane : ∀ c ∈ cs, c.IsSane) :
    ∀ {pairs : List (ConstraintKind × ConstraintKind)}, (∀ pair ∈ pairs, pair.1.isSizeBound = true ∧ pair.2.isSizeBound = true) →
      (requireOrder.go type cs pairs = .ok () ↔ ∀ pair ∈ pairs, ∀ least most : Nat,
        lastBound? pair.1 cs = some (.int least) → lastBound? pair.2 cs = some (.int most) → least ≤ most)
  | [], _ => iff_of_true rfl (List.forall_mem_nil _)
  | (low, high) :: rest, sizes => by
    obtain ⟨⟨ofLow, ofHigh⟩, others⟩ := List.forall_mem_cons.mp sizes
    have ofRest : requireOrder.go type cs rest = .ok () ↔ _ := requireOrder_go_eq_ok sane others
    rw [List.forall_mem_cons, ← ofRest, requireOrder.go]
    cases least : lastBound? low cs with
    | none => simp
    | some a =>
      cases most : lastBound? high cs with
      | none => simp
      | some b =>
        obtain ⟨m, rfl⟩ := lastBound?_size sane ofLow least
        obtain ⟨n, rfl⟩ := lastBound?_size sane ofHigh most
        have ordered : (∀ least most : Nat, some (Value.int m) = some (.int least) → some (Value.int n) = some (.int most) →
            least ≤ most) ↔ ¬ (n : Int) < m := by
          refine ⟨fun inOrder => ?_, fun inOrder least most ofLeast ofMost => ?_⟩
          · have := inOrder m n rfl rfl
            omega
          · simp only [Option.some.injEq, Value.int.injEq] at ofLeast ofMost
            omega
        rw [ordered]
        by_cases crossed : (n : Int) < m <;> simp [Value.quantity?, crossed, NormalizeError.raise]

theorem requireOrder_eq_ok {type : String} {cs : List Constraint} (sane : ∀ c ∈ cs, c.IsSane) :
    requireOrder type cs = .ok () ↔ SizesOrdered cs :=
  requireOrder_go_eq_ok sane (by decide)

theorem lastBound?_map {f : Constraint → Constraint} (kept : ∀ c, (f c).kind = c.kind ∧ (f c).bound = c.bound)
    (kind : ConstraintKind) (cs : List Constraint) : lastBound? kind (cs.map f) = lastBound? kind cs := by
  induction cs with
  | nil => rfl
  | cons c rest ih => rw [List.map_cons, lastBound?, lastBound?, ih, (kept c).1, (kept c).2]

end Constraint

namespace SchemaType

/-- The constraints of a type are of kinds that it can carry, with bounds that fit them and sizes in order. -/
structure SoundlyConstrained (t : SchemaType) : Prop where
  allowed : ∀ c ∈ t.constraints, t.allows c.kind = true
  sane : ∀ c ∈ t.constraints, c.IsSane
  ordered : Constraint.SizesOrdered t.constraints

/-- Every level of the type is soundly constrained, no union is empty, and references are named as it is asked for. -/
inductive FormedWith (Named : Name → Option Target → Prop) : SchemaType → Prop where
  | primitive {kind : Primitive} {cs : List Constraint} (own : (SchemaType.primitive kind cs).SoundlyConstrained) :
      FormedWith Named (.primitive kind cs)
  | array {element : SchemaType} {cs : List Constraint} (own : (SchemaType.array element cs).SoundlyConstrained)
      (inner : FormedWith Named element) : FormedWith Named (.array element cs)
  | map {key value : SchemaType} {cs : List Constraint} (own : (SchemaType.map key value cs).SoundlyConstrained)
      (ofKey : FormedWith Named key) (ofValue : FormedWith Named value) : FormedWith Named (.map key value cs)
  | union {variants : List SchemaType} {cs : List Constraint} (own : (SchemaType.union variants cs).SoundlyConstrained)
      (inhabited : variants ≠ []) (inner : ∀ t ∈ variants, FormedWith Named t) : FormedWith Named (.union variants cs)
  | ref {name : Name} {target : Option Target} (named : Named name target) : FormedWith Named (.ref name target)

/-- A well-formed type: every reference in it has a name. -/
abbrev WellFormed (t : SchemaType) : Prop := t.FormedWith fun name _ => name.label ≠ ""

theorem soundlyConstrained_of_nil {t : SchemaType} (none : t.constraints = []) : t.SoundlyConstrained := by
  refine ⟨?_, ?_, ?_⟩
  · rw [none]; exact List.forall_mem_nil _
  · rw [none]; exact List.forall_mem_nil _
  · rw [none]; exact fun _ _ _ _ impossible => nomatch impossible

theorem requireConstraints_eq_ok {t : SchemaType} {cs : List Constraint} :
    t.requireConstraints cs = .ok () ↔ (∀ c ∈ cs, t.allows c.kind = true) ∧ ∀ c ∈ cs, c.IsSane := by
  induction cs with
  | nil => exact iff_of_true rfl ⟨List.forall_mem_nil _, List.forall_mem_nil _⟩
  | cons c rest ih =>
    rw [requireConstraints]
    refine Except.guard_eq_ok.trans ?_
    rw [Except.check_eq_ok, Constraint.requireBound_eq_ok, ih, List.forall_mem_cons, List.forall_mem_cons]
    simp only [Bool.not_eq_true', Bool.not_eq_false]
    exact ⟨fun ⟨first, sane, allowed, others⟩ => ⟨⟨first, allowed⟩, sane, others⟩,
      fun ⟨⟨first, allowed⟩, sane, others⟩ => ⟨first, sane, allowed, others⟩⟩

theorem verifyOwn_eq_ok {t : SchemaType} : verify.verifyOwn t = .ok () ↔ t.SoundlyConstrained := by
  rw [verify.verifyOwn, Except.check_eq_ok, requireConstraints_eq_ok]
  exact ⟨fun ⟨⟨allowed, sane⟩, ordered⟩ => ⟨allowed, sane, (Constraint.requireOrder_eq_ok sane).mp ordered⟩,
    fun ⟨allowed, sane, ordered⟩ => ⟨⟨allowed, sane⟩, (Constraint.requireOrder_eq_ok sane).mpr ordered⟩⟩

mutual

/-- The check of a type lets through what is well-formed, and nothing else. -/
theorem verify_eq_ok : ∀ {t : SchemaType}, t.verify = .ok () ↔ t.WellFormed
  | .primitive kind cs => by
    rw [verify, verifyOwn_eq_ok]
    exact ⟨.primitive, fun | .primitive own => own⟩
  | .array element cs => by
    rw [verify, Except.check_eq_ok, verifyOwn_eq_ok, verify_eq_ok]
    exact ⟨fun ⟨own, inner⟩ => .array own inner, fun | .array own inner => ⟨own, inner⟩⟩
  | .map key value cs => by
    rw [verify, Except.check_eq_ok, Except.check_eq_ok, verifyOwn_eq_ok, verify_eq_ok, verify_eq_ok]
    exact ⟨fun ⟨own, ofKey, ofValue⟩ => .map own ofKey ofValue, fun | .map own ofKey ofValue => ⟨own, ofKey, ofValue⟩⟩
  | .union variants cs => by
    rw [verify, Except.check_eq_ok, verifyOwn_eq_ok]
    refine (and_congr_right fun _ => Except.guard_eq_ok).trans ?_
    rw [verifyAll_eq_ok, List.isEmpty_iff]
    exact ⟨fun ⟨own, inhabited, inner⟩ => .union own inhabited inner, fun | .union own inhabited inner => ⟨own, inhabited, inner⟩⟩
  | .ref name target => by
    rw [verify]
    split
    next nameless => exact iff_of_false nofun fun | .ref named => named (String.isEmpty_iff.mp nameless)
    next named => exact iff_of_true rfl (.ref fun nameless => named (String.isEmpty_iff.mpr nameless))

theorem verifyAll_eq_ok : ∀ {types : List SchemaType}, verifyAll types = .ok () ↔ ∀ t ∈ types, t.WellFormed
  | [] => iff_of_true rfl (List.forall_mem_nil _)
  | t :: rest => by rw [verifyAll, Except.check_eq_ok, verify_eq_ok, verifyAll_eq_ok, List.forall_mem_cons]

end

@[simp] theorem allows_withConstraints (t : SchemaType) (cs : List Constraint) : (t.withConstraints cs).allows = t.allows := by
  funext kind
  cases t with
  | primitive scalar _ => cases scalar <;> rfl
  | _ => rfl

theorem constraints_withConstraints_subset (t : SchemaType) (cs : List Constraint) : (t.withConstraints cs).constraints ⊆ cs := by
  cases t with
  | ref _ _ => exact List.nil_subset _
  | _ => exact List.Subset.refl _

variable {Named : Name → Option Target → Prop}

namespace FormedWith

theorem own {t : SchemaType} (formed : t.FormedWith Named) : t.SoundlyConstrained := by
  cases formed with
  | ref _ => exact soundlyConstrained_of_nil rfl
  | _ => assumption

theorem withConstraints {t : SchemaType} {cs : List Constraint} (formed : t.FormedWith Named)
    (own : (t.withConstraints cs).SoundlyConstrained) : (t.withConstraints cs).FormedWith Named := by
  cases formed with
  | primitive _ => exact .primitive own
  | array _ inner => exact .array own inner
  | map _ ofKey ofValue => exact .map own ofKey ofValue
  | union _ inhabited inner => exact .union own inhabited inner
  | ref named => exact .ref named

theorem weaken {Other : Name → Option Target → Prop} {t : SchemaType} (formed : t.FormedWith Named)
    (implies : ∀ name target, Named name target → Other name target) : t.FormedWith Other := by
  induction formed with
  | primitive own => exact .primitive own
  | array own _ ih => exact .array own ih
  | map own _ _ ofKey ofValue => exact .map own ofKey ofValue
  | union own inhabited _ ih => exact .union own inhabited ih
  | ref named => exact .ref (implies _ _ named)

end FormedWith

/-- Constraints that are added are checked by themselves, and their sizes together with those that were there. -/
theorem attach_formed {t u : SchemaType} {extra : List Constraint} (formed : t.FormedWith Named)
    (attached : t.attach extra = .ok u) : u.FormedWith Named := by
  unfold attach at attached
  split at attached
  · cases attached
    exact formed
  · cases attached
  · obtain ⟨passed, attached⟩ := Except.check_eq_ok.mp attached
    obtain ⟨inOrder, same⟩ := Except.check_eq_ok.mp attached
    cases same
    obtain ⟨allowed, sane⟩ := requireConstraints_eq_ok.mp passed
    have saneAll : ∀ c ∈ t.constraints ++ extra, c.IsSane := List.forall_mem_append.mpr ⟨formed.own.sane, sane⟩
    refine formed.withConstraints ⟨fun c member => ?_, fun c member => ?_, ?_⟩
    · rw [allows_withConstraints]
      exact List.forall_mem_append.mpr ⟨formed.own.allowed, allowed⟩ c (constraints_withConstraints_subset _ _ member)
    · exact saneAll c (constraints_withConstraints_subset _ _ member)
    · cases formed with
      | ref _ => exact (soundlyConstrained_of_nil rfl).ordered
      | _ => exact (Constraint.requireOrder_eq_ok saneAll).mp inOrder

theorem attachTrailing_formed {t u : SchemaType} {trailing : Option Expr} (formed : t.FormedWith Named)
    (attached : t.attachTrailing trailing = .ok u) : u.FormedWith Named := by
  unfold attachTrailing at attached
  split at attached
  · cases attached; exact formed
  · cases attached; exact formed
  · split at attached
    · cases attached
    · obtain ⟨extra, -, attached⟩ := Except.bind_eq_ok.mp attached
      exact attach_formed formed attached

end SchemaType

/-- A message changes neither the kind nor the bound of a constraint. -/
theorem Messages.apply_kept (messages : Messages) (c : Constraint) :
    (messages.apply c).kind = c.kind ∧ (messages.apply c).bound = c.bound := by
  rw [apply]
  split <;> exact ⟨rfl, rfl⟩

theorem Constraint.IsSane.of_same {c d : Constraint} (sane : c.IsSane) (kind : d.kind = c.kind) (bound : d.bound = c.bound) :
    d.IsSane := by
  unfold IsSane at sane ⊢
  rw [kind, bound]
  exact sane

namespace SchemaType

variable {Named : Name → Option Target → Prop}

theorem withMessages_formed {t : SchemaType} (formed : t.FormedWith Named) (messages : Messages) :
    (t.withMessages messages).FormedWith Named := by
  have given : ∀ c ∈ (t.withMessages messages).constraints, ∃ d ∈ t.constraints, messages.apply d = c :=
    fun c member => List.mem_map.mp (constraints_withConstraints_subset _ _ member)
  refine formed.withConstraints ⟨fun c member => ?_, fun c member => ?_, ?_⟩
  · obtain ⟨d, own, rfl⟩ := given c member
    rw [allows_withConstraints, (messages.apply_kept d).1]
    exact formed.own.allowed d own
  · obtain ⟨d, own, rfl⟩ := given c member
    exact (formed.own.sane d own).of_same (messages.apply_kept d).1 (messages.apply_kept d).2
  · have ordered := formed.own.ordered
    cases formed with
    | ref _ => exact (soundlyConstrained_of_nil rfl).ordered
    | _ =>
      intro pair member least most
      simp only [SchemaType.withConstraints, SchemaType.constraints, Constraint.lastBound?_map messages.apply_kept]
      exact ordered pair member least most

end SchemaType

namespace Expr

mutual

/-- The schemas in an expression, and the things in it that may look like one. -/
def carried : Expr → List Expr
  | .schema s => [.schema s]
  | .object serial attributes => [.object serial attributes]
  | .constrained base _ => carried base
  | .list items | .tuple items | .set items => carriedOf items
  | .map entries | .view entries => carriedIn entries
  | .derivedField _ declared _ _ _ _ _ => carried declared
  | _ => []

def carriedOf : List Expr → List Expr
  | [] => []
  | e :: rest => carried e ++ carriedOf rest

def carriedIn : List (Expr × Expr) → List Expr
  | [] => []
  | (key, e) :: rest => carried key ++ carried e ++ carriedIn rest

end

theorem carried_subset {e : Expr} {items : List Expr} (member : e ∈ items) : e.carried ⊆ carriedOf items := by
  induction items with
  | nil => cases member
  | cons first rest ih =>
    rw [carriedOf]
    obtain rfl | later := List.mem_cons.mp member
    · exact List.subset_append_left _ _
    · exact List.subset_append_of_subset_right _ (ih later)

/-- What an expression carries becomes references that are named as it is asked for. -/
def CarriesOnly (Named : Name → Option Target → Prop) (carried : List Expr) : Prop :=
  ∀ thing ∈ carried, ∀ name target, SchemaType.ofExpr thing = .ok (.ref name target) → Named name target

theorem CarriesOnly.mono {Named : Name → Option Target → Prop} {some all : List Expr} (only : CarriesOnly Named all)
    (part : some ⊆ all) : CarriesOnly Named some := fun thing member => only thing (part member)

end Expr

namespace SchemaType

variable {Named : Name → Option Target → Prop}

theorem ofName_formed {written name : String} {t : SchemaType} (made : ofName written name = .ok t) : t.FormedWith Named := by
  unfold ofName at made
  split at made
  · cases made; exact .primitive (soundlyConstrained_of_nil rfl)
  · cases made

theorem ofData_formed {v : Value} {t : SchemaType} (made : ofExpr (.data v) = .ok t) : t.FormedWith Named := by
  cases v with
  | null =>
    cases made
    exact .primitive (soundlyConstrained_of_nil rfl)
  | str name => exact ofName_formed made
  | member m =>
    unfold ofExpr at made
    split at made
    · cases made
      exact .primitive (soundlyConstrained_of_nil rfl)
    · exact ofName_formed made
  | hostType h =>
    unfold ofExpr at made
    split at made
    · cases made
      exact .primitive (soundlyConstrained_of_nil rfl)
    · cases made
  | _ => cases made

theorem ofExprs_length {items : List Expr} {types : List SchemaType} (made : ofExprs items = .ok types) :
    types.length = items.length := by
  induction items generalizing types with
  | nil => cases made; rfl
  | cons e rest ih =>
    rw [ofExprs] at made
    obtain ⟨t, -, made⟩ := Except.bind_eq_ok.mp made
    obtain ⟨others, remaining, same⟩ := Except.bind_eq_ok.mp made
    cases same
    exact congrArg (· + 1) (ih remaining)

/-- Spellings that start with a tag, given what their arguments come to. -/
theorem ofTagged_formed {head : Expr} {arguments : List Expr} {t : SchemaType}
    (written : ∀ name target, name.label ≠ "" → Named name target)
    (inner : ∀ e ∈ arguments, ∀ u, ofExpr e = .ok u → u.FormedWith Named)
    (variants : ∀ es, (.list es ∈ arguments ∨ .tuple es ∈ arguments) → ∀ types, ofExprs es = .ok types →
      ∀ u ∈ types, u.FormedWith Named)
    (made : ofExpr (.tuple (head :: arguments)) = .ok t) : t.FormedWith Named := by
  have array {element : SchemaType} (formed : element.FormedWith Named) : (SchemaType.array element []).FormedWith Named :=
    .array (soundlyConstrained_of_nil rfl) formed
  have map {key value : SchemaType} (ofKey : key.FormedWith Named) (ofValue : value.FormedWith Named) :
      (SchemaType.map key value []).FormedWith Named := .map (soundlyConstrained_of_nil rfl) ofKey ofValue
  unfold ofExpr at made
  split at made
  · cases made
  split at made
  · -- an array
    split at made
    · obtain ⟨element, first, same⟩ := Except.bind_eq_ok.mp made
      cases same
      exact array (inner _ List.mem_cons_self _ first)
    · obtain ⟨element, first, attached⟩ := Except.bind_eq_ok.mp made
      exact attachTrailing_formed (array (inner _ List.mem_cons_self _ first)) attached
    · cases made
  · -- a map
    split at made
    · obtain ⟨key, first, made⟩ := Except.bind_eq_ok.mp made
      obtain ⟨value, second, same⟩ := Except.bind_eq_ok.mp made
      cases same
      exact map (inner _ List.mem_cons_self _ first) (inner _ (List.mem_cons_of_mem _ List.mem_cons_self) _ second)
    · obtain ⟨key, first, made⟩ := Except.bind_eq_ok.mp made
      obtain ⟨value, second, attached⟩ := Except.bind_eq_ok.mp made
      exact attachTrailing_formed (map (inner _ List.mem_cons_self _ first)
        (inner _ (List.mem_cons_of_mem _ List.mem_cons_self) _ second)) attached
    · cases made
  · -- a union
    have ofVariants (es : List Expr) (member : .list es ∈ arguments ∨ .tuple es ∈ arguments) (trailing : Option Expr)
        (inhabited : ¬ es.isEmpty = true)
        (made : (do
          let types ← ofExprs es
          attachTrailing (.union types []) trailing) = .ok t) : t.FormedWith Named := by
      obtain ⟨types, read, attached⟩ := Except.bind_eq_ok.mp made
      refine attachTrailing_formed (.union (soundlyConstrained_of_nil rfl) (fun none => inhabited ?_)
        (variants es member types read)) attached
      subst none
      exact List.isEmpty_iff_length_eq_zero.mpr (ofExprs_length read).symm
    split at made
    case h_3 => cases made
    all_goals
      split at made
      · cases made
      · obtain ⟨inhabited, made⟩ := Except.guard_eq_ok.mp made
        exact ofVariants _ (by simp) _ inhabited made
  · -- a reference
    split at made
    · split at made
      · cases made
      · split at made
        · cases made
        next named =>
          cases made
          exact .ref (written _ _ fun nameless => named (String.isEmpty_iff.mpr nameless))
    · cases made
  · -- a scalar
    split at made
    · cases made
    · cases made
    · exact attachTrailing_formed (.primitive (soundlyConstrained_of_nil rfl)) made

mutual

/-- By recursion on the expression; what is written by name is checked where it is read, and what is carried is named
as it is. -/
theorem ofExpr_formed (written : ∀ name target, name.label ≠ "" → Named name target) :
    ∀ (e : Expr) {t : SchemaType}, Expr.CarriesOnly Named e.carried → ofExpr e = .ok t → t.FormedWith Named
  | .type t, u, _, made => by
    change (t.verify >>= fun _ => pure t) = _ at made
    obtain ⟨verified, same⟩ := Except.check_eq_ok.mp made
    cases same
    exact (verify_eq_ok.mp verified).weaken written
  | .constrained base keywords, t, only, made => by
    change (ofExpr base >>= _) = _ at made
    obtain ⟨u, read, made⟩ := Except.bind_eq_ok.mp made
    obtain ⟨extra, -, attached⟩ := Except.bind_eq_ok.mp made
    rw [Expr.carried] at only
    exact attach_formed (ofExpr_formed written base only read) attached
  | .data v, t, _, made => ofData_formed made
  | .list [element], t, only, made => by
    change (ofExpr element >>= _) = _ at made
    obtain ⟨u, read, same⟩ := Except.bind_eq_ok.mp made
    cases same
    rw [Expr.carried] at only
    exact .array (soundlyConstrained_of_nil rfl)
      (ofExpr_formed written element (only.mono (Expr.carried_subset List.mem_cons_self)) read)
  | .list [], _, _, made | .list (_ :: _ :: _), _, _, made => nomatch made
  | .map [(key, value)], t, only, made => by
    change (ofExpr key >>= _) = _ at made
    obtain ⟨u, ofKey, made⟩ := Except.bind_eq_ok.mp made
    obtain ⟨w, ofValue, same⟩ := Except.bind_eq_ok.mp made
    cases same
    rw [Expr.carried, Expr.carriedIn] at only
    exact .map (soundlyConstrained_of_nil rfl)
      (ofExpr_formed written key
        (only.mono (List.subset_append_of_subset_left _ (List.subset_append_left _ _))) ofKey)
      (ofExpr_formed written value
        (only.mono (List.subset_append_of_subset_left _ (List.subset_append_right _ _))) ofValue)
  | .map [], _, _, made | .map (_ :: _ :: _), _, _, made => nomatch made
  | .tuple [], _, _, made => nomatch made
  | .tuple (head :: arguments), t, only, made => by
    rw [Expr.carried] at only
    refine ofTagged_formed written (fun e member u read => ?_) (fun es member types read => ?_) made
    · have smaller := List.sizeOf_lt_of_mem member
      exact ofExpr_formed written e (only.mono (Expr.carried_subset (List.mem_cons_of_mem _ member))) read
    · have smaller : sizeOf es < sizeOf arguments := by
        obtain member | member := member
        all_goals
          have := List.sizeOf_lt_of_mem member
          simp only [Expr.list.sizeOf_spec, Expr.tuple.sizeOf_spec] at this
          omega
      have inside : Expr.carriedOf es ⊆ Expr.carriedOf (head :: arguments) := by
        obtain member | member := member
        all_goals
          have part := Expr.carried_subset (List.mem_cons_of_mem head member)
          rwa [Expr.carried] at part
      exact ofExprs_formed written es (only.mono inside) read
  | .schema s, t, only, made => by
    rw [Expr.carried] at only
    obtain rfl := Except.ok.inj made
    exact .ref (only _ List.mem_cons_self _ _ made)
  | .object serial attributes, t, only, made => by
    rw [Expr.carried] at only
    have read := made
    unfold ofExpr at made
    split at made
    · cases made
      exact .ref (only _ List.mem_cons_self _ _ read)
    · cases made
  | .set _, _, _, made | .view _, _, _, made | .constraint _, _, _, made | .catalog _ _, _, _, made | .hook _, _, _, made
  | .derivedField _ _ _ _ _ _ _, _, _, made => nomatch made
  termination_by e => sizeOf e

theorem ofExprs_formed (written : ∀ name target, name.label ≠ "" → Named name target) :
    ∀ (items : List Expr) {types : List SchemaType}, Expr.CarriesOnly Named (Expr.carriedOf items) →
      ofExprs items = .ok types → ∀ t ∈ types, t.FormedWith Named
  | [], types, _, made => by
    cases made
    exact List.forall_mem_nil _
  | e :: rest, types, only, made => by
    change (ofExpr e >>= _) = _ at made
    obtain ⟨t, first, made⟩ := Except.bind_eq_ok.mp made
    obtain ⟨others, remaining, same⟩ := Except.bind_eq_ok.mp made
    cases same
    rw [Expr.carriedOf] at only
    exact List.forall_mem_cons.mpr ⟨ofExpr_formed written e (only.mono (List.subset_append_left _ _)) first,
      ofExprs_formed written rest (only.mono (List.subset_append_right _ _)) remaining⟩
  termination_by items => sizeOf items

end

/-- Whatever an expression comes to is well-formed, but for the names of what it carries. -/
theorem normalize_formed {e constraints messages : Expr} {t : SchemaType}
    (written : ∀ name target, name.label ≠ "" → Named name target) (only : Expr.CarriesOnly Named e.carried)
    (made : normalize e constraints messages = .ok t) : t.FormedWith Named := by
  obtain ⟨extra, -, made⟩ := Except.bind_eq_ok.mp made
  obtain ⟨base, read, made⟩ := Except.bind_eq_ok.mp made
  obtain ⟨u, attached, made⟩ := Except.bind_eq_ok.mp made
  have formed := attach_formed (ofExpr_formed written e only read) attached
  split at made
  · obtain ⟨told, -, same⟩ := Except.bind_eq_ok.mp made
    cases same
    exact withMessages_formed formed told
  · cases made
    exact formed

/-- A type that is read without anything added is checked and kept. -/
theorem normalize_type {t u : SchemaType} : normalize (.type t) = .ok u ↔ u = t ∧ t.WellFormed := by
  rw [← verify_eq_ok]
  change ((t.verify >>= fun _ => pure t) >>= fun v => v.attach [] >>= fun w => pure w) = .ok u ↔ _
  cases verified : t.verify with
  | error e => exact iff_of_false nofun nofun
  | ok _ => exact ⟨fun same => ⟨(Except.ok.inj same).symm, rfl⟩, fun ⟨same, _⟩ => congrArg _ same.symm⟩

end SchemaType
end RecordSchema
