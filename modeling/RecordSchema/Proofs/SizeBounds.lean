import RecordSchema.Proofs.UnansweredChecks

/-! Bounds on sizes that a type carries. What is compared where a type is read is the least size given last and the
greatest size given last; so some size meets all bounds wherever the last bound of each kind is the tightest, and an
earlier bound can be left crossed otherwise. Main statement: `SchemaType.sizes_met`. -/

namespace RecordSchema

@[simp] theorem Quantity.le_ofInt (m n : Int) : (Quantity.ofInt m).le (.ofInt n) = decide (m ≤ n) := by
  have cast (k : Int) : (Dyadic.ofInt k).toRat = k := Dyadic.toRat_intCast k
  have same : Dyadic.ofInt m = Dyadic.ofInt n ↔ m = n := by
    rw [← Dyadic.toRat_inj, cast, cast, Rat.intCast_inj]
  rw [le, lt_ofInt, ofInt, ofInt, eq, decide_eq_decide.mpr same, ← Bool.decide_or, decide_eq_decide]
  omega

namespace Constraint

variable {c d : Constraint} {cs : List Constraint} {low high kind : ConstraintKind} {n : Nat}

/-- Every least size among constraints is at most every greatest size. -/
def Uncrossed (cs : List Constraint) (low high : ConstraintKind) : Prop :=
  ∀ c ∈ cs, ∀ d ∈ cs, c.kind = low → d.kind = high → ∃ least most : Nat, c.bound = .int least ∧ d.bound = .int most ∧ least ≤ most

/-- Whatever has this size satisfies the constraints of both kinds. -/
def MetBy (cs : List Constraint) (low high : ConstraintKind) (n : Nat) : Prop :=
  ∀ c ∈ cs, c.kind = low ∨ c.kind = high → ∀ v, c.kind.size? v = some n → c.check v = .ok true

/-- The last bound of each kind is the tightest: no bound that was given before asks for more. -/
structure Tightening (cs : List Constraint) (low high : ConstraintKind) : Prop where
  least : ∀ c ∈ cs, c.kind = low → ∀ n last : Nat, c.bound = .int n → lastBound? low cs = some (.int last) → n ≤ last
  most : ∀ c ∈ cs, c.kind = high → ∀ n last : Nat, c.bound = .int n → lastBound? high cs = some (.int last) → last ≤ n

/-- A kind that is attached has a last bound. -/
theorem exists_lastBound? (member : c ∈ cs) (same : c.kind = kind) : ∃ bound, lastBound? kind cs = some bound := by
  induction cs with
  | nil => cases member
  | cons first rest ih =>
    rw [lastBound?]
    cases later : lastBound? kind rest with
    | some bound => exact ⟨bound, rfl⟩
    | none =>
      rcases List.mem_cons.mp member with rfl | inside
      · exact ⟨c.bound, by simp [same]⟩
      · obtain ⟨bound, found⟩ := ih inside
        rw [later] at found
        cases found

theorem IsSane.size (sane : c.IsSane) (size : c.kind.isSizeBound = true) : ∃ n : Nat, c.bound = .int n := by
  have accepted : c.requireBound "" = .ok () := requireBound_eq_ok.mpr sane
  exact (requireBound_size size).mp accepted

theorem sizePairs_size {pair : ConstraintKind × ConstraintKind} (paired : pair ∈ sizePairs) :
    pair.1.isSizeBound = true ∧ pair.2.isSizeBound = true := by
  revert pair
  decide

/-- A tightest bound of each kind, and these in order, leave nothing crossed. -/
theorem Tightening.uncrossed {pair : ConstraintKind × ConstraintKind} (tightening : Tightening cs pair.1 pair.2)
    (sane : ∀ c ∈ cs, c.IsSane) (ordered : SizesOrdered cs) (paired : pair ∈ sizePairs) : Uncrossed cs pair.1 pair.2 := by
  intro c ofLow d ofHigh low high
  have sizes := sizePairs_size paired
  obtain ⟨least, atLeast⟩ := (sane c ofLow).size (low ▸ sizes.1)
  obtain ⟨most, atMost⟩ := (sane d ofHigh).size (high ▸ sizes.2)
  obtain ⟨lastLow, foundLow⟩ := exists_lastBound? ofLow low
  obtain ⟨lastHigh, foundHigh⟩ := exists_lastBound? ofHigh high
  obtain ⟨a, rfl⟩ := lastBound?_size sane sizes.1 foundLow
  obtain ⟨b, rfl⟩ := lastBound?_size sane sizes.2 foundHigh
  have first : least ≤ a := tightening.least c ofLow low least a atLeast foundLow
  have middle : a ≤ b := ordered pair paired a b foundLow foundHigh
  have second : b ≤ most := tightening.most d ofHigh high most b atMost foundHigh
  exact ⟨least, most, atLeast, atMost, by omega⟩

/-- Of the least sizes among constraints one is the greatest, unless there is none. -/
theorem exists_greatest_least (numbered : ∀ c ∈ cs, c.kind = low → ∃ n : Nat, c.bound = .int n) :
    ∃ n : Nat, (n = 0 ∨ ∃ c ∈ cs, c.kind = low ∧ c.bound = .int n) ∧ ∀ c ∈ cs, c.kind = low → ∀ m : Nat, c.bound = .int m → m ≤ n := by
  induction cs with
  | nil => exact ⟨0, .inl rfl, List.forall_mem_nil _⟩
  | cons c rest ih =>
    obtain ⟨first, others⟩ := List.forall_mem_cons.mp numbered
    obtain ⟨n, given, above⟩ := ih others
    have later : n = 0 ∨ ∃ d ∈ c :: rest, d.kind = low ∧ d.bound = .int n :=
      given.imp_right fun ⟨d, inside, same⟩ => ⟨d, List.mem_cons_of_mem c inside, same⟩
    by_cases kind : c.kind = low
    · obtain ⟨m, bound⟩ := first kind
      by_cases more : m ≤ n
      · refine ⟨n, later, List.forall_mem_cons.mpr ⟨fun _ k same => ?_, above⟩⟩
        cases bound.symm.trans same
        exact more
      · refine ⟨m, .inr ⟨c, List.mem_cons_self, kind, bound⟩, List.forall_mem_cons.mpr ⟨fun _ k same => ?_, ?_⟩⟩
        · cases bound.symm.trans same
          exact Nat.le_refl m
        · intro d inside other k same
          have := above d inside other k same
          omega
    · exact ⟨n, later, List.forall_mem_cons.mpr ⟨fun same => absurd same kind, above⟩⟩

/-- There are values of every size. -/
theorem exists_of_size (size : kind.isSizeBound = true) (n : Nat) : ∃ v, kind.size? v = some n := by
  cases kind with
  | minLength | maxLength => exact ⟨.str (String.ofList (List.replicate n 'a')), by simp [ConstraintKind.size?, Value.length?, Value.str?]⟩
  | minItems | maxItems => exact ⟨.list (List.replicate n .null), congrArg some List.length_replicate⟩
  | minEntries | maxEntries => exact ⟨.map (List.replicate n (.null, .null)), congrArg some List.length_replicate⟩
  | _ => cases size

/-- What a least and a greatest size ask of a size. -/
theorem check_size_iff {pair : ConstraintKind × ConstraintKind} (paired : pair ∈ sizePairs) {bound : Nat} (given : c.bound = .int bound)
    {v : Value} (measured : c.kind.size? v = some n) :
    (c.kind = pair.1 → (c.check v = .ok true ↔ bound ≤ n)) ∧ (c.kind = pair.2 → (c.check v = .ok true ↔ n ≤ bound)) := by
  have sizes := sizePairs_size paired
  have least : pair.1.holds (.ofInt n) (.ofInt bound) = decide (bound ≤ n) := by
    revert pair
    simp [sizePairs, ConstraintKind.holds]
  have most : pair.2.holds (.ofInt n) (.ofInt bound) = decide (n ≤ bound) := by
    revert pair
    simp [sizePairs, ConstraintKind.holds]
  constructor
  · intro low
    rw [check_of_size (low ▸ sizes.1), measured, given, low]
    simp [checkSize, Value.quantity?, least]
  · intro high
    rw [check_of_size (high ▸ sizes.2), measured, given, high]
    simp [checkSize, Value.quantity?, most]

/-- Some size meets all bounds of a pair just if none of them are crossed. -/
theorem uncrossed_iff_met {pair : ConstraintKind × ConstraintKind} (sane : ∀ c ∈ cs, c.IsSane) (paired : pair ∈ sizePairs) :
    Uncrossed cs pair.1 pair.2 ↔ ∃ n, MetBy cs pair.1 pair.2 n := by
  have sizes := sizePairs_size paired
  constructor
  · intro uncrossed
    have numbered : ∀ c ∈ cs, c.kind = pair.1 → ∃ n : Nat, c.bound = .int n := fun c member low => (sane c member).size (low ▸ sizes.1)
    obtain ⟨n, given, above⟩ := exists_greatest_least numbered
    refine ⟨n, fun c member kind v measured => ?_⟩
    rcases kind with low | high
    · obtain ⟨least, bound⟩ := (sane c member).size (low ▸ sizes.1)
      exact ((check_size_iff paired bound measured).1 low).mpr (above c member low least bound)
    · obtain ⟨most, bound⟩ := (sane c member).size (high ▸ sizes.2)
      refine ((check_size_iff paired bound measured).2 high).mpr ?_
      rcases given with rfl | ⟨d, inside, low, exactly⟩
      · exact Nat.zero_le most
      · obtain ⟨least, upper, ofLow, ofHigh, inOrder⟩ := uncrossed d inside c member low high
        cases exactly.symm.trans ofLow
        cases bound.symm.trans ofHigh
        exact inOrder
  · rintro ⟨n, met⟩ c ofLow d ofHigh low high
    have lowSize : c.kind.isSizeBound = true := low ▸ sizes.1
    have highSize : d.kind.isSizeBound = true := high ▸ sizes.2
    obtain ⟨least, atLeast⟩ := (sane c ofLow).size lowSize
    obtain ⟨most, atMost⟩ := (sane d ofHigh).size highSize
    obtain ⟨v, measured⟩ := exists_of_size lowSize n
    obtain ⟨w, alsoMeasured⟩ := exists_of_size highSize n
    have above := ((check_size_iff paired atLeast measured).1 low).mp (met c ofLow (.inl low) v measured)
    have below := ((check_size_iff paired atMost alsoMeasured).2 high).mp (met d ofHigh (.inr high) w alsoMeasured)
    exact ⟨least, most, atLeast, atMost, by omega⟩

end Constraint

namespace SchemaType
open Constraint

/-- A type stands at some level of another: it is the type itself, or at a level of its element, of its key or value, or of
one of its variants. -/
inductive Level : SchemaType → SchemaType → Prop where
  | self {t : SchemaType} : Level t t
  | element {element u : SchemaType} {cs : List Constraint} (inner : Level element u) : Level (.array element cs) u
  | key {key value u : SchemaType} {cs : List Constraint} (inner : Level key u) : Level (.map key value cs) u
  | value {key value u : SchemaType} {cs : List Constraint} (inner : Level value u) : Level (.map key value cs) u
  | variant {t u : SchemaType} {variants : List SchemaType} {cs : List Constraint} (member : t ∈ variants) (inner : Level t u) :
      Level (.union variants cs) u

theorem FormedWith.level {Named : Name → Option Target → Prop} {t u : SchemaType} (formed : t.FormedWith Named) (level : t.Level u) :
    u.FormedWith Named := by
  induction level with
  | self => exact formed
  | element _ ih =>
    cases formed with
    | array _ inner => exact ih inner
  | key _ ih =>
    cases formed with
    | map _ ofKey _ => exact ih ofKey
  | value _ ih =>
    cases formed with
    | map _ _ ofValue => exact ih ofValue
  | variant member _ ih =>
    cases formed with
    | union _ _ inner => exact ih (inner _ member)

/-- At every level of a type that is read, the last bounds of a pair are in order; some size meets all bounds of the pair just
if none of them are crossed; and none are where the last bound of each kind is the tightest, in particular where no kind is
attached twice. -/
theorem sizes_met {e constraints messages : Expr} {t u : SchemaType} (made : normalize e constraints messages = .ok t)
    (level : t.Level u) {pair : ConstraintKind × ConstraintKind} (paired : pair ∈ sizePairs) :
    (∀ least most : Nat, lastBound? pair.1 u.constraints = some (.int least) → lastBound? pair.2 u.constraints = some (.int most) →
      least ≤ most) ∧
    (Uncrossed u.constraints pair.1 pair.2 ↔ ∃ n, MetBy u.constraints pair.1 pair.2 n) ∧
    (Tightening u.constraints pair.1 pair.2 → Uncrossed u.constraints pair.1 pair.2) := by
  have named : Expr.CarriesOnly (fun _ _ => True) e.carried := fun _ _ _ _ _ => trivial
  have own : u.SoundlyConstrained := ((normalize_formed (fun _ _ _ => trivial) named made).level level).own
  exact ⟨own.ordered pair paired, uncrossed_iff_met own.sane paired, fun tightening => tightening.uncrossed own.sane own.ordered paired⟩

/-- Some nicknames of up to eight characters: at least one of them by the tag, and at least two by keywords. -/
def nicknames : Expr :=
  .constrained
    (.tuple [.str "array", .tuple [.str "string", .map [(.str "max_length", .data (.int 8))]], .map [(.str "min_items", .data (.int 1))]])
    [("min_items", .data (.int 2))]

/-- What two nicknames are told to be at most is compared with the later of the two least numbers, which is the tighter one. -/
theorem nicknames_met :
    ∃ t cs, normalize nicknames (.map [(.str "max_items", .data (.int 2))]) = .ok t ∧ t.Level t ∧
      t.Level (.primitive .string [⟨.maxLength, .int 8, .null⟩]) ∧ (.minItems, .maxItems) ∈ sizePairs ∧
      t.constraints = cs ∧ cs = [⟨.minItems, .int 1, .null⟩, ⟨.minItems, .int 2, .null⟩, ⟨.maxItems, .int 2, .null⟩] ∧
      Tightening cs .minItems .maxItems ∧ Uncrossed cs .minItems .maxItems ∧ ∃ n, MetBy cs .minItems .maxItems n := by
  have made : normalize nicknames (.map [(.str "max_items", .data (.int 2))]) =
      .ok (.array (.primitive .string [⟨.maxLength, .int 8, .null⟩])
        [⟨.minItems, .int 1, .null⟩, ⟨.minItems, .int 2, .null⟩, ⟨.maxItems, .int 2, .null⟩]) := by with_unfolding_all rfl
  have paired : (ConstraintKind.minItems, ConstraintKind.maxItems) ∈ sizePairs := by decide
  obtain ⟨-, met, uncrossed⟩ := sizes_met made .self paired
  have tightening : Tightening [⟨.minItems, .int 1, .null⟩, ⟨.minItems, .int 2, .null⟩, ⟨.maxItems, .int 2, .null⟩] .minItems .maxItems := by
    constructor <;> simp [lastBound?]
    · constructor <;> (intro n last first second; omega)
    · intro n last first second
      omega
  exact ⟨_, _, made, .self, .element .self, paired, rfl, rfl, tightening, uncrossed tightening, met.mp (uncrossed tightening)⟩

/-- A nickname of at least five characters. -/
def nickname : Expr := .constrained (.data (.str "string")) [("min_length", .data (.int 5))]

/-- A nickname that is told to have one to three characters as well is accepted: only the later of its two least lengths is
compared with the greatest length, and no text meets both others. -/
theorem nickname_crossed :
    ¬ ∀ (e constraints messages : Expr) (t u : SchemaType), normalize e constraints messages = .ok t → t.Level u →
      ∀ pair ∈ sizePairs, Uncrossed u.constraints pair.1 pair.2 := by
  intro never
  have made : normalize nickname (.map [(.str "min_length", .data (.int 1)), (.str "max_length", .data (.int 3))]) =
      .ok (.primitive .string [⟨.minLength, .int 5, .null⟩, ⟨.minLength, .int 1, .null⟩, ⟨.maxLength, .int 3, .null⟩]) := by
    with_unfolding_all rfl
  have uncrossed := never _ _ _ _ _ made .self (.minLength, .maxLength) (by decide)
  obtain ⟨least, most, five, three, inOrder⟩ := uncrossed ⟨.minLength, .int 5, .null⟩ (by simp [constraints])
    ⟨.maxLength, .int 3, .null⟩ (by simp [constraints]) rfl rfl
  have ofLeast : (5 : Int) = least := Value.int.inj five
  have ofMost : (3 : Int) = most := Value.int.inj three
  omega

end SchemaType
end RecordSchema
