import RecordSchema.Proofs.DocumentFailures

/-! What keywords say of a type's constraints. They tell of each kind of constraint once, by the one that was
attached last, and a value has all that they ask for exactly if it satisfies these constraints; where a kind was
attached again, checks go on to ask for the earlier ones as well. Main statement: `SchemaType.keywords_say_latest`. -/

namespace RecordSchema

/-- The kind of constraint speaks of the value: it has what is measured. -/
def ConstraintKind.Measures (kind : ConstraintKind) (v : Value) : Prop :=
  match kind with
  | .minLength | .maxLength | .pattern => v.length?.isSome = true
  | .above | .below | .atLeast | .atMost => v.number?.isSome = true
  | .choices => True
  | .minItems | .maxItems => v.itemCount?.isSome = true
  | .minEntries | .maxEntries => v.entryCount?.isSome = true

namespace SchemaType

/-- A value is of the shape of a scalar, an array or a map, whatever is inside. -/
def Shapes (t : SchemaType) (v : Value) : Prop :=
  match t with
  | .primitive kind _ => kind.admits v = true
  | .array _ _ => v.sequence?.isSome = true
  | .map _ _ _ => v.entries?.isSome = true
  | .union _ _ | .ref _ _ => False

theorem measures_text {v : Value} (admitted : Primitive.string.admits v = true) : v.length?.isSome = true := by
  cases v with
  | str _ | member _ => rfl
  | _ => cases admitted

theorem measures_number {scalar : Primitive} {v : Value} (numeric : scalar = .integer ∨ scalar = .float)
    (admitted : scalar.admits v = true) : v.number?.isSome = true := by
  obtain rfl | rfl := numeric
  all_goals
    cases v with
    | int _ | float _ | nan _ => rfl
    | _ => cases admitted

/-- A type carries only constraints that speak of the values of its shape. -/
theorem measures_of_allows {t : SchemaType} {kind : ConstraintKind} {v : Value} (json : v.isJson = true)
    (shaped : t.Shapes v) (allowed : t.allows kind = true) : kind.Measures v := by
  cases t with
  | primitive scalar _ =>
    cases scalar with
    | string =>
      cases kind with
      | minLength | maxLength | pattern => exact measures_text shaped
      | choices => trivial
      | _ => cases allowed
    | integer | float =>
      cases kind with
      | above | below | atLeast | atMost => exact measures_number (by decide) shaped
      | choices => trivial
      | _ => cases allowed
    | boolean | any =>
      cases kind with
      | choices => trivial
      | _ => cases allowed
    | null => cases allowed
  | array _ _ =>
    have counted : v.itemCount?.isSome = true := by
      rw [Value.itemCount?, Value.items?, Value.unfolded_of_isJson json]
      exact Option.isSome_map.trans shaped
    cases kind with
    | minItems | maxItems => exact counted
    | _ => cases allowed
  | map _ _ _ =>
    obtain ⟨entries, mapping⟩ := Option.isSome_iff_exists.mp shaped
    obtain rfl := Value.eq_map_of_isJson json (Value.mapping?_of_entries mapping)
    cases kind with
    | minEntries | maxEntries => rfl
    | _ => cases allowed
  | union _ _ | ref _ _ => cases shaped

end SchemaType

namespace Value

theorem quantity?_of_number? {v : Value} {q : Quantity} (number : v.number? = some q) :
    v.quantity? = some q ∧ v.isBool = false := by
  cases v with
  | int _ | float _ | nan _ => exact ⟨number, rfl⟩
  | _ => cases number

theorem equal_of_numbers {v choice : Value} {x y : Quantity} (left : v.number? = some x) (right : choice.number? = some y)
    (same : x.eq y = true) : v.equal choice = true := by
  have measured := (quantity?_of_number? right).1
  cases v with
  | int _ | float _ =>
    cases left
    exact (Option.any_eq_true _ _).mpr ⟨y, measured, same⟩
  | nan _ =>
    cases left
    cases y <;> cases same
  | _ => cases left

theorem equal_of_texts {v choice : Value} {text : String} (left : v.str? = some text) (right : choice.str? = some text) :
    v.equal choice = true := by
  cases v with
  | str _ | member _ =>
    cases left
    exact beq_iff_eq.mpr right
  | _ => cases left

theorem isBool_of_text {v : Value} {text : String} (read : v.str? = some text) : v.isBool = false := by
  cases v with
  | bool _ => cases read
  | _ => rfl

/-- A scalar that is equal in documents counts as a choice. -/
theorem isChoice_of_documentEqual {v choice : Value} (scalar : choice.isScalar = true) (same : v.DocumentEqual choice) :
    v.isChoice choice = true := by
  rw [isChoice, Bool.and_eq_true, beq_iff_eq]
  cases same with
  | null => exact ⟨rfl, rfl⟩
  | bool b => cases b <;> exact ⟨rfl, rfl⟩
  | number left right same =>
    exact ⟨(quantity?_of_number? left).2.trans (quantity?_of_number? right).2.symm, equal_of_numbers left right same⟩
  | text left right => exact ⟨(isBool_of_text left).trans (isBool_of_text right).symm, equal_of_texts left right⟩
  | list _ _ | map _ _ _ => cases scalar

end Value

namespace Constraint
open Document

theorem checkSize_of_keeps {size : Option Nat} {n : Int} {holds : Quantity → Quantity → Bool} (measured : size.isSome = true)
    (kept : Keeps (counted size) (.int n) holds) : checkSize size (.int n) holds = .ok true := by
  obtain ⟨m, rfl⟩ := Option.isSome_iff_exists.mp measured
  obtain ⟨b, limit, each⟩ := kept
  cases limit
  exact congrArg Except.ok (each _ rfl)

theorem checkNumber_of_keeps {v bound : Value} {holds : Quantity → Quantity → Bool} (measured : v.number?.isSome = true)
    (kept : Keeps v.number? bound holds) : checkNumber v bound holds = true := by
  obtain ⟨q, number⟩ := Option.isSome_iff_exists.mp measured
  obtain ⟨b, limit, each⟩ := kept
  rw [checkNumber, number, limit]
  exact each q number

/-- A search reads no more of a value and of a pattern than their texts. -/
theorem checkPattern_of_texts {v bound : Value} {text pattern : String} (read : v.str? = some text)
    (written : bound.str? = some pattern) : checkPattern v bound = checkPattern (.str text) (.str pattern) := by
  unfold checkPattern
  rw [read]
  cases bound with
  | str _ | member _ =>
    cases written
    rfl
  | _ => cases written

/-- A value that a constraint speaks of satisfies it if it obeys its keyword. -/
theorem check_of_asserts {c : Constraint} (bounded : c.Bounded) (scalar : c.ScalarChoices) {v : Value} (json : v.isJson = true)
    (measured : c.kind.Measures v) (asserted : Asserts c.kind.keyword c.documented v) : c.check v = .ok true := by
  unfold check
  unfold documented at asserted
  cases kind : c.kind with
  | choices =>
    rw [kind] at asserted
    obtain ⟨items, bound⟩ := bounded.choices kind
    have scalars := scalar kind
    rw [bound] at asserted scalars ⊢
    obtain ⟨_, same, choice, member, equal⟩ := asserted
    cases same
    refine (isAmong_of_isJson json items).trans (congrArg Except.ok ?_)
    exact List.any_eq_true.mpr ⟨choice, member, Value.isChoice_of_documentEqual (scalars choice member) equal⟩
  | pattern =>
    rw [kind] at asserted measured
    obtain ⟨text, read⟩ := Option.isSome_iff_exists.mp (Option.isSome_map.symm.trans measured)
    obtain ⟨pattern, written, found⟩ := asserted
    exact (checkPattern_of_texts read written).trans (found text read)
  | above | below | atLeast | atMost =>
    rw [kind] at asserted measured
    exact congrArg Except.ok (checkNumber_of_keeps measured asserted)
  | minLength | maxLength | minItems | maxItems | minEntries | maxEntries =>
    rw [kind] at asserted measured
    obtain ⟨n, bound⟩ := bounded.size (by rw [kind]; rfl)
    rw [bound] at asserted ⊢
    exact checkSize_of_keeps measured asserted

/-- The constraints that none of the same kind follows. -/
def latest : List Constraint → List Constraint
  | [] => []
  | c :: rest => if rest.any (·.kind = c.kind) then latest rest else c :: latest rest

theorem latest_subset (cs : List Constraint) : latest cs ⊆ cs := by
  induction cs with
  | nil => exact List.Subset.refl _
  | cons c rest ih =>
    rw [latest]
    split
    next => exact List.subset_cons_of_subset c ih
    next => exact List.cons_subset_cons c ih

theorem latest_of_nodup {cs : List Constraint} (distinct : (cs.map (·.kind)).Nodup) : latest cs = cs := by
  induction cs with
  | nil => rfl
  | cons c rest ih =>
    obtain ⟨fresh, others⟩ := List.nodup_cons.mp distinct
    have last : ¬ rest.any (·.kind = c.kind) = true := fun again => by
      obtain ⟨d, member, same⟩ := List.any_eq_true.mp again
      exact fresh (List.mem_map.mpr ⟨d, member, of_decide_eq_true same⟩)
    rw [latest, if_neg last, ih others]

/-- Of each kind that is attached there is a latest constraint. -/
theorem exists_latest {cs : List Constraint} {c : Constraint} (member : c ∈ cs) : ∃ d ∈ latest cs, d.kind = c.kind := by
  induction cs generalizing c with
  | nil => cases member
  | cons first rest ih =>
    rw [latest]
    split
    next again =>
      obtain rfl | later := List.mem_cons.mp member
      · obtain ⟨d, inside, same⟩ := List.any_eq_true.mp again
        obtain ⟨e, last, kind⟩ := ih inside
        exact ⟨e, last, kind.trans (of_decide_eq_true same)⟩
      · exact ih later
    next =>
      obtain rfl | later := List.mem_cons.mp member
      · exact ⟨c, List.mem_cons_self, rfl⟩
      · obtain ⟨e, last, kind⟩ := ih later
        exact ⟨e, List.mem_cons_of_mem _ last, kind⟩

theorem keyword_inj {one other : ConstraintKind} : one.keyword = other.keyword ↔ one = other := by
  cases one <;> cases other <;> decide

private theorem keywords_go_keeps {cs : List Constraint} {done made : Entries} (ended : keywords.go done cs = .ok made)
    {kind : ConstraintKind} (absent : ∀ c ∈ cs, c.kind ≠ kind) : made.field? kind.keyword = done.field? kind.keyword := by
  induction cs generalizing done with
  | nil =>
    cases ended
    rfl
  | cons c rest ih =>
    obtain ⟨other, others⟩ := List.forall_mem_cons.mp absent
    rw [ih (keywords_go_cons ended) others, Entries.field?_setField_of_ne _ _ fun same => other (keyword_inj.mp same).symm]

private theorem keywords_go_latest {cs : List Constraint} {done made : Entries} (ended : keywords.go done cs = .ok made) :
    ∀ c ∈ latest cs, made.field? c.kind.keyword = some c.documented := by
  induction cs generalizing done with
  | nil => exact List.forall_mem_nil _
  | cons c rest ih =>
    have later := ih (keywords_go_cons ended)
    rw [latest]
    split
    next => exact later
    next last =>
      refine List.forall_mem_cons.mpr ⟨?_, later⟩
      have absent : ∀ d ∈ rest, d.kind ≠ c.kind :=
        fun d member same => last (List.any_eq_true.mpr ⟨d, member, decide_eq_true same⟩)
      rw [keywords_go_keeps (keywords_go_cons ended) absent, Entries.field?_setField_self]

/-- Each keyword tells of the latest constraint of its kind. -/
theorem field?_keywords {cs : List Constraint} {made : Entries} (ended : keywords cs = .ok made) {keyword : String} {under : Value} :
    made.field? keyword = some under ↔ ∃ c ∈ latest cs, c.kind.keyword = keyword ∧ c.documented = under := by
  constructor
  · intro found
    obtain ⟨e, member, named, -⟩ := Entries.mem_of_field? found
    obtain ⟨c, inside, told, -⟩ := mem_keywords ended e member
    obtain ⟨d, last, same⟩ := exists_latest inside
    have spelled : d.kind.keyword = keyword := by
      rw [same]
      exact Option.some.inj (told.symm.trans named)
    refine ⟨d, last, spelled, ?_⟩
    have stands := keywords_go_latest ended d last
    rw [spelled, found] at stands
    exact (Option.some.inj stands).symm
  · rintro ⟨c, last, rfl, rfl⟩
    exact keywords_go_latest ended c last

theorem failures_eq_ok_nil {cs : List Constraint} {v : Value} : failures cs v = .ok [] ↔ ∀ c ∈ cs, c.check v = .ok true := by
  induction cs with
  | nil => exact iff_of_true rfl (List.forall_mem_nil _)
  | cons c rest ih =>
    rw [List.forall_mem_cons, ← ih, failures, Except.bind_eq_ok]
    constructor
    · rintro ⟨satisfied, first, ended⟩
      obtain ⟨others, remaining, same⟩ := Except.bind_eq_ok.mp ended
      cases satisfied with
      | true =>
        cases same
        exact ⟨first, remaining⟩
      | false => cases same
    · rintro ⟨first, remaining⟩
      exact ⟨true, first, by rw [remaining]; rfl⟩

end Constraint

namespace Document

/-- A value has all that keywords say. -/
def AssertsAll (told : Entries) (v : Value) : Prop := ∀ keyword under, told.field? keyword = some under → Asserts keyword under v

end Document

namespace SchemaType
open Document Constraint

/-- Whatever a type is made from, its keywords say of data of its shape what the latest constraint of each kind does.
So they ask for no more than the checks do, and for as much where no kind of constraint was attached twice. -/
theorem keywords_say_latest {e constraints messages : Expr} {t : SchemaType} (made : normalize e constraints messages = .ok t)
    (scalar : ∀ c ∈ t.constraints, c.ScalarChoices) {v : Value} (json : v.isJson = true) (shaped : t.Shapes v) :
    ∃ told, keywords t.constraints = .ok told ∧
      (AssertsAll told v ↔ failures (latest t.constraints) v = .ok []) ∧
      (failures t.constraints v = .ok [] → AssertsAll told v) ∧
      ((t.constraints.map (·.kind)).Nodup → (AssertsAll told v ↔ failures t.constraints v = .ok [])) := by
  have named : Expr.CarriesOnly (fun _ _ => True) e.carried := fun _ _ _ _ _ => trivial
  have own : t.SoundlyConstrained := (normalize_formed (fun _ _ _ => trivial) named made).own
  obtain ⟨told, ended⟩ := keywords_returns own.bounded
  have same : ∀ c ∈ t.constraints, Asserts c.kind.keyword c.documented v ↔ c.check v = .ok true := fun c member =>
    ⟨check_of_asserts (own.bounded c member) (scalar c member) json (measures_of_allows json shaped (own.allowed c member)),
      asserts_of_check (own.bounded c member) (scalar c member) json⟩
  have agreed : AssertsAll told v ↔ failures (latest t.constraints) v = .ok [] := by
    rw [failures_eq_ok_nil]
    constructor
    · intro all c last
      exact (same c (latest_subset _ last)).mp (all _ _ ((field?_keywords ended).mpr ⟨c, last, rfl, rfl⟩))
    · rintro each _ _ found
      obtain ⟨c, last, rfl, rfl⟩ := (field?_keywords ended).mp found
      exact (same c (latest_subset _ last)).mpr (each c last)
  refine ⟨told, ended, agreed, fun all => agreed.mpr ?_, fun distinct => ?_⟩
  · exact failures_eq_ok_nil.mpr fun c last => failures_eq_ok_nil.mp all c (latest_subset _ last)
  · rw [agreed, latest_of_nodup distinct]

/-- A share in percent, with one bound by its tag and one beside it. -/
def share : Expr := .tuple [.str "integer", .map [(.str "gt", .data (.int 0))]]

/-- The keywords of a share let 7 through and not 0. -/
theorem share_told :
    ∃ t told, normalize share (.map [(.str "lteq", .data (.int 100))]) = .ok t ∧ keywords t.constraints = .ok told ∧
      AssertsAll told (.int 7) ∧ ¬ AssertsAll told (.int 0) := by
  have made : normalize share (.map [(.str "lteq", .data (.int 100))]) =
      .ok (.primitive .integer [⟨.above, .int 0, .null⟩, ⟨.atMost, .int 100, .null⟩]) := by with_unfolding_all rfl
  obtain ⟨told, ended, -, -, agreed⟩ := keywords_say_latest made (by decide) (v := .int 7) (by decide) rfl
  obtain ⟨_, again, -, -, alsoAgreed⟩ := keywords_say_latest made (by decide) (v := .int 0) (by decide) rfl
  obtain rfl := Except.ok.inj (ended.symm.trans again)
  have within : failures [⟨.above, .int 0, .null⟩, ⟨.atMost, .int 100, .null⟩] (.int 7) = .ok [] := by with_unfolding_all rfl
  have outside : failures [⟨.above, .int 0, .null⟩, ⟨.atMost, .int 100, .null⟩] (.int 0) = .ok [⟨.above, .int 0, .null⟩] := by
    with_unfolding_all rfl
  refine ⟨_, told, made, ended, (agreed (by decide)).mpr within, fun all => ?_⟩
  cases outside.symm.trans ((alsoAgreed (by decide)).mp all)

/-- A code of at least five characters. -/
def code : Expr := .constrained (.data (.str "string")) [("min_length", .data (.int 5))]

/-- A code that is told to have at least two characters as well loses the keyword for five of them: the keywords let a
text of three characters through, and the check does not. -/
theorem code_tells_less :
    ¬ ∀ (e constraints messages : Expr) (t : SchemaType), normalize e constraints messages = .ok t →
      (∀ c ∈ t.constraints, c.ScalarChoices) → ∀ v : Value, v.isJson = true → t.Shapes v →
        ∃ told, keywords t.constraints = .ok told ∧ (AssertsAll told v ↔ failures t.constraints v = .ok []) := by
  intro agree
  have made : normalize code (.map [(.str "min_length", .data (.int 2))]) =
      .ok (.primitive .string [⟨.minLength, .int 5, .null⟩, ⟨.minLength, .int 2, .null⟩]) := by with_unfolding_all rfl
  obtain ⟨told, ended, agreed⟩ := agree _ _ _ _ made (by decide) (.str "abc") (by decide) rfl
  have kept : AssertsAll told (.str "abc") := by
    intro keyword under found
    obtain ⟨c, last, rfl, rfl⟩ := (field?_keywords ended).mp found
    obtain rfl : c = ⟨.minLength, .int 2, .null⟩ := List.mem_singleton.mp last
    exact asserts_of_check ⟨"", rfl⟩ (by decide) (by decide) (by with_unfolding_all rfl)
  have short : failures [⟨.minLength, .int 5, .null⟩, ⟨.minLength, .int 2, .null⟩] (.str "abc") = .ok [⟨.minLength, .int 5, .null⟩] := by
    with_unfolding_all rfl
  cases short.symm.trans (agreed.mp kept)

end SchemaType
end RecordSchema
