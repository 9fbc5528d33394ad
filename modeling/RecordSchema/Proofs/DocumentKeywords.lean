import RecordSchema.Proofs.BuiltTypes
import RecordSchema.Proofs.DataParts
import RecordSchema.Proofs.DocumentMeaning
import RecordSchema.Value.Copy

/-! Keywords for constraints. A value that satisfies a constraint obeys its keyword, as long as the keyword
tells all of it: choices of other data than scalars are compared more freely than documents do. Main
statements: `Constraint.asserts_of_check`, `Constraint.mem_keywords`. -/

namespace RecordSchema

namespace Entries

theorem mem_of_field? {entries : Entries} {name : String} {v : Value} (found : entries.field? name = some v) :
    ∃ e ∈ entries, e.1.str? = some name ∧ e.2 = v := by
  induction entries with
  | nil => cases found
  | cons e rest ih =>
    obtain ⟨k, w⟩ := e
    rw [field?] at found
    split at found
    next here => exact ⟨_, List.mem_cons_self, here, Option.some.inj found⟩
    next =>
      obtain ⟨e, member, same⟩ := ih found
      exact ⟨e, List.mem_cons_of_mem _ member, same⟩

theorem field?_isSome_of_mem {entries : Entries} {name : String} {e : Value × Value} (member : e ∈ entries)
    (named : e.1.str? = some name) : (entries.field? name).isSome := by
  induction entries with
  | nil => cases member
  | cons first rest ih =>
    obtain ⟨k, w⟩ := first
    rw [field?]
    split
    next => rfl
    next other =>
      obtain rfl | later := List.mem_cons.mp member
      · exact absurd named other
      · exact ih later

theorem field?_append_of_absent {entries : Entries} {name : String} (absent : ∀ e ∈ entries, e.1.str? ≠ some name)
    (others : Entries) : field? (entries ++ others) name = others.field? name := by
  induction entries with
  | nil => rfl
  | cons e rest ih =>
    obtain ⟨first, later⟩ := List.forall_mem_cons.mp absent
    obtain ⟨k, w⟩ := e
    rw [List.cons_append, field?, if_neg first, ih later]

theorem dropField_of_absent {entries : Entries} {name : String} (absent : ∀ e ∈ entries, e.1.str? ≠ some name) :
    entries.dropField name = entries :=
  List.filter_eq_self.mpr fun e member => decide_eq_true (absent e member)

theorem field?_of_absent {entries : Entries} {name : String} (absent : ∀ e ∈ entries, e.1.str? ≠ some name) :
    entries.field? name = none := by
  have found := field?_append_of_absent absent []
  rw [List.append_nil] at found
  exact found

theorem not_named_of_absent {entries : Entries} {name : String} (absent : entries.field? name = none) :
    ∀ e ∈ entries, e.1.str? ≠ some name := by
  intro e member named
  have found := field?_isSome_of_mem member named
  rw [absent] at found
  cases found

theorem dropField_setField (entries : Entries) (name : String) (v : Value) :
    (entries.setField name v).dropField name = entries.dropField name := by
  induction entries with
  | nil => simp [setField, dropField, Value.str?]
  | cons e rest ih =>
    obtain ⟨k, w⟩ := e
    by_cases here : k.str? = some name
    · simp [setField, dropField, here]
    · have later : List.filter _ (setField rest name v) = List.filter _ rest := ih
      simp only [setField, if_neg here, dropField, List.filter_cons, later]

theorem mem_setField {entries : Entries} {name : String} {v : Value} {e : Value × Value}
    (member : e ∈ entries.setField name v) : e ∈ entries ∨ e.1.str? = some name ∧ e.2 = v := by
  induction entries with
  | nil =>
    cases List.mem_singleton.mp member
    exact .inr ⟨rfl, rfl⟩
  | cons first rest ih =>
    obtain ⟨k, w⟩ := first
    rw [setField] at member
    split at member
    next here =>
      obtain rfl | later := List.mem_cons.mp member
      · exact .inr ⟨here, rfl⟩
      · exact .inl (List.mem_cons_of_mem _ later)
    next =>
      obtain rfl | later := List.mem_cons.mp member
      · exact .inl List.mem_cons_self
      · exact (ih later).imp_left (List.mem_cons_of_mem _)

/-- A key that is the same as a text key is that text. -/
theorem str?_of_same {k key : Value} {name : String} (text : k.str? = some name) (same : k.same key = true) :
    key.str? = some name := by
  cases k with
  | str s => cases text; simpa [Value.same, Value.equalAt] using same
  | member m => cases text; simpa [Value.same, Value.equalAt] using same
  | _ => cases text

theorem str?_eq_of_same {k key : Value} (same : k.same key = true) : k.str? = key.str? := by
  cases named : k.str? with
  | some name => exact (str?_of_same named same).symm
  | none =>
    have compared : Value.equalAt true k key = true := same
    cases text : key.str? with
    | none => rfl
    | some name =>
      exfalso
      cases key with
      | str _ | member _ =>
        cases k with
        | str _ | member _ => cases named
        | bool _ | int _ | float _ => simp [Value.equalAt, Value.quantity?] at compared
        | record kind _ => cases kind <;> cases compared
        | _ => cases compared
      | _ => cases text

theorem field?_put {entries : Entries} {key v w : Value} {name : String}
    (found : (entries.put key v).field? name = some w) :
    entries.field? name = some w ∨ key.str? = some name ∧ w = v := by
  induction entries with
  | nil =>
    rw [put, field?] at found
    split at found
    next here => exact .inr ⟨here, (Option.some.inj found).symm⟩
    next => cases found
  | cons first rest ih =>
    obtain ⟨k, u⟩ := first
    rw [put] at found
    by_cases here : k.str? = some name
    · by_cases same : k.same key = true
      · rw [if_pos same, field?, if_pos here] at found
        exact .inr ⟨str?_of_same here same, (Option.some.inj found).symm⟩
      · rw [if_neg same, field?, if_pos here] at found
        exact .inl (by rw [field?, if_pos here, found])
    · rw [field?, if_neg here]
      split at found
      · rw [field?, if_neg here] at found
        exact .inl found
      · rw [field?, if_neg here] at found
        exact ih found

theorem mem_put {entries : Entries} {key v : Value} {e : Value × Value} (member : e ∈ entries.put key v) :
    e ∈ entries ∨ e.1.str? = key.str? ∧ e.2 = v := by
  induction entries with
  | nil =>
    cases List.mem_singleton.mp member
    exact .inr ⟨rfl, rfl⟩
  | cons first rest ih =>
    obtain ⟨k, w⟩ := first
    rw [put] at member
    split at member
    next same =>
      obtain rfl | later := List.mem_cons.mp member
      · exact .inr ⟨str?_eq_of_same same, rfl⟩
      · exact .inl (List.mem_cons_of_mem _ later)
    next =>
      obtain rfl | later := List.mem_cons.mp member
      · exact .inl List.mem_cons_self
      · exact (ih later).imp_left (List.mem_cons_of_mem _)

theorem mem_put_of_ne {entries : Entries} {key v : Value} {e : Value × Value} (member : e ∈ entries) (apart : e.1.str? ≠ key.str?) :
    e ∈ entries.put key v := by
  induction entries with
  | nil => cases member
  | cons first rest ih =>
    obtain ⟨k, w⟩ := first
    rw [put]
    obtain rfl | later := List.mem_cons.mp member
    · rw [if_neg fun same => apart (str?_eq_of_same same)]
      exact List.mem_cons_self
    · split
      · exact List.mem_cons_of_mem _ later
      · exact List.mem_cons_of_mem _ (ih later)

theorem mem_update {entries others : Entries} {e : Value × Value} (member : e ∈ entries.update others) :
    e ∈ entries ∨ ∃ o ∈ others, e.1.str? = o.1.str? ∧ e.2 = o.2 := by
  induction others generalizing entries with
  | nil => exact .inl member
  | cons first rest ih =>
    obtain ⟨key, v⟩ := first
    obtain before | ⟨o, later, same⟩ := ih member
    · exact (mem_put before).imp_right fun same => ⟨(key, v), List.mem_cons_self, same⟩
    · exact .inr ⟨o, List.mem_cons_of_mem _ later, same⟩

/-- What stands under a name in an update comes from one of the two sides. -/
theorem field?_update {entries others : Entries} {name : String} {w : Value}
    (found : (entries.update others).field? name = some w) :
    entries.field? name = some w ∨ ∃ e ∈ others, e.1.str? = some name ∧ e.2 = w := by
  induction others generalizing entries with
  | nil => exact .inl found
  | cons e rest ih =>
    obtain ⟨key, v⟩ := e
    obtain found | ⟨e, later, same⟩ := ih found
    · exact (field?_put found).imp_right fun ⟨named, same⟩ => ⟨_, List.mem_cons_self, named, same.symm⟩
    · exact .inr ⟨e, List.mem_cons_of_mem _ later, same⟩

theorem put_of_fresh {entries : Entries} {key : Value} (fresh : ∀ e ∈ entries, e.1.str? ≠ key.str?) (v : Value) :
    entries.put key v = entries ++ [(key, v)] := by
  induction entries with
  | nil => rfl
  | cons e rest ih =>
    obtain ⟨k, w⟩ := e
    obtain ⟨first, others⟩ := List.forall_mem_cons.mp fresh
    rw [put, if_neg fun same => first (str?_eq_of_same same), ih others, List.cons_append]

theorem update_of_distinct {entries others : Entries} (distinct : ((entries ++ others).map (·.1.str?)).Nodup) :
    entries.update others = entries ++ others := by
  induction others generalizing entries with
  | nil => exact (List.append_nil entries).symm
  | cons e rest ih =>
    obtain ⟨key, v⟩ := e
    have fresh : ∀ e ∈ entries, e.1.str? ≠ key.str? := by
      intro e member same
      rw [List.map_append] at distinct
      exact (List.nodup_append.mp distinct).2.2 _ (List.mem_map_of_mem member) _ List.mem_cons_self same
    show (entries.put key v).update rest = _
    rw [put_of_fresh fresh, ih (by rwa [List.append_assoc]), List.append_assoc]
    rfl

end Entries

namespace Value

theorem isJson_of_mem_list {items : List Value} (json : (Value.list items).isJson = true) :
    ∀ item ∈ items, item.isJson = true :=
  all_of_mem_list json

/-- The keys of a JSON map are text, and its values are JSON again. -/
theorem isJson_of_mem_map {entries : Entries} (json : (Value.map entries).isJson = true) :
    ∀ e ∈ entries, (∃ text, e.1 = .str text) ∧ e.2.isJson = true := by
  have values : ∀ e ∈ entries, e.2.isJson = true := all_of_mem_map json
  rw [isJson, all, Bool.and_eq_true] at json
  obtain ⟨texts, -⟩ := json
  refine fun e member => ⟨?_, values e member⟩
  have text := List.all_eq_true.mp texts e member
  split at text
  next s same => exact ⟨s, same⟩
  next => cases text

theorem isJson_list {items : List Value} (each : ∀ item ∈ items, item.isJson = true) : (Value.list items).isJson = true := by
  show allItems isJsonPart items = true
  induction items with
  | nil => rfl
  | cons v rest ih =>
    obtain ⟨first, later⟩ := List.forall_mem_cons.mp each
    rw [allItems, ih later, Bool.and_true]
    exact first

theorem isJson_map {entries : Entries} (each : ∀ e ∈ entries, (∃ text, e.1 = .str text) ∧ e.2.isJson = true) :
    (Value.map entries).isJson = true := by
  rw [isJson, all, Bool.and_eq_true]
  constructor
  · refine List.all_eq_true.mpr fun e member => ?_
    obtain ⟨⟨text, same⟩, -⟩ := each e member
    rw [same]
  · induction entries with
    | nil => rfl
    | cons e rest ih =>
      obtain ⟨key, v⟩ := e
      obtain ⟨⟨⟨text, rfl⟩, value⟩, later⟩ := List.forall_mem_cons.mp each
      rw [allEntries, Bool.and_eq_true, Bool.and_eq_true]
      exact ⟨⟨rfl, value⟩, ih later⟩

theorem isJson_key {entries : Entries} (json : (Value.map entries).isJson = true) {e : Value × Value}
    (member : e ∈ entries) : e.1.isJson = true := by
  obtain ⟨⟨text, same⟩, -⟩ := isJson_of_mem_map json e member
  rw [same]
  rfl

/-- A tuple is not JSON, nor is what holds itself. -/
theorem eq_list_of_isJson {v : Value} (json : v.isJson = true) {items : List Value} (sequence : v.items? = some items) :
    v = .list items := by
  cases v with
  | list _ => cases sequence; rfl
  | tuple _ | ring _ _ => cases json
  | _ => cases sequence

/-- A view is not JSON, nor is what holds itself. -/
theorem eq_map_of_isJson {v : Value} (json : v.isJson = true) {entries : Entries} (mapping : v.mapping? = some entries) :
    v = .map entries := by
  cases v with
  | map _ => cases mapping; rfl
  | view _ | ring _ _ => cases json
  | _ => cases mapping

theorem unfolded_of_isJson {v : Value} (json : v.isJson = true) : v.unfolded = v := by
  cases v with
  | ring _ _ => cases json
  | _ => rfl

theorem hasEnd_of_isJson {v : Value} (json : v.isJson = true) : v.hasEnd = true := by
  refine all_mono (fun part allowed => ?_) v json
  cases part <;> first | rfl | exact allowed

theorem areCopyable_iff {items : List Value} : areCopyable items = true ↔ ∀ v ∈ items, v.isCopyable = true := by
  induction items with
  | nil => exact iff_of_true rfl (List.forall_mem_nil _)
  | cons v rest ih => rw [areCopyable, Bool.and_eq_true, ih, List.forall_mem_cons]

theorem areCopyableEntries_iff {entries : List (Value × Value)} :
    areCopyableEntries entries = true ↔ ∀ e ∈ entries, e.1.isCopyable = true ∧ e.2.isCopyable = true := by
  induction entries with
  | nil => exact iff_of_true rfl (List.forall_mem_nil _)
  | cons e rest ih => rw [areCopyableEntries, Bool.and_eq_true, Bool.and_eq_true, ih, List.forall_mem_cons]

theorem isCopyable_of_isJson {v : Value} (json : v.isJson = true) : v.isCopyable = true := by
  induction size : sizeOf v using Nat.strongRecOn generalizing v with
  | _ n ih =>
    subst size
    cases v with
    | list items =>
      refine areCopyable_iff.mpr fun v member => ih _ ?_ (isJson_of_mem_list json v member) rfl
      have inside := List.sizeOf_lt_of_mem member
      simp only [list.sizeOf_spec]
      omega
    | map entries =>
      refine areCopyableEntries_iff.mpr fun e member => ?_
      obtain ⟨⟨text, key⟩, value⟩ := isJson_of_mem_map json e member
      refine ⟨by rw [key]; rfl, ih _ ?_ value rfl⟩
      have inside := List.sizeOf_lt_of_mem member
      obtain ⟨k, v⟩ := e
      simp only [Prod.mk.sizeOf_spec] at inside
      simp only [map.sizeOf_spec]
      omega
    | null | bool _ | int _ | float _ | str _ => rfl
    | _ => cases json

/-- Null, booleans, numbers and text. -/
def isScalar : Value → Bool
  | .null | .bool _ | .int _ | .float _ | .nan _ | .str _ | .member _ => true
  | _ => false

theorem quantity?_eq_number? {v : Value} (notBool : v.isBool = false) : v.quantity? = v.number? := by
  cases v with
  | bool b => cases notBool
  | _ => rfl

theorem documentEqual_of_quantity {v choice : Value} {x : Quantity} (measured : v.number? = some x) (notBool : choice.isBool = false)
    (same : choice.quantity?.any x.eq = true) : v.DocumentEqual choice := by
  rw [quantity?_eq_number? notBool] at same
  obtain ⟨y, found, same⟩ := (Option.any_eq_true _ _).mp same
  exact .number measured found same

/-- What counts as a choice, of data that comes to an end. -/
def isChoice (v choice : Value) : Bool := v.isBool == choice.isBool && v.equal choice

/-- Whether JSON data counts as a choice can always be told. -/
theorem isChoice?_of_isJson {v choice : Value} (json : v.isJson = true) : v.isChoice? choice = some (v.isChoice choice) := by
  rw [isChoice?, equal?, if_pos (hasEnd_of_isJson json), isChoice]
  cases v.isBool == choice.isBool <;> rfl

/-- A scalar that counts as a choice is equal to it in documents as well. -/
theorem documentEqual_of_isChoice {v choice : Value} (json : v.isJson = true) (scalar : choice.isScalar = true)
    (chosen : v.isChoice choice = true) : v.DocumentEqual choice := by
  rw [isChoice, Bool.and_eq_true, beq_iff_eq] at chosen
  obtain ⟨kinds, same⟩ := chosen
  cases v with
  | null =>
    cases choice with
    | null => exact .null
    | _ => cases same
  | bool b =>
    cases choice with
    | bool c =>
      obtain rfl : b = c := by cases b <;> cases c <;> first | rfl | cases same
      exact .bool b
    | _ => cases kinds
  | int n => exact documentEqual_of_quantity rfl kinds.symm same
  | float x => exact documentEqual_of_quantity rfl kinds.symm same
  | str s => exact .text rfl (beq_iff_eq.mp same)
  | list vs => cases choice <;> first | (cases scalar; done) | cases same
  | map es => cases choice <;> first | (cases scalar; done) | cases same
  | _ => cases json

end Value

namespace Constraint
open Document

/-- All choices, if the constraint has any, are scalars. -/
def ScalarChoices (c : Constraint) : Prop := c.kind = .choices → ∀ w ∈ c.bound.elements?.getD [], w.isScalar = true

instance (c : Constraint) : Decidable c.ScalarChoices := inferInstanceAs (Decidable (_ → _))

/-- What documents say of the constraint, under its keyword. -/
def documented (c : Constraint) : Value :=
  match c.kind, c.bound.unfolded.elements? with
  | .choices, some items => .list items
  | _, _ => c.bound

theorem keywords_go_cons {c : Constraint} {rest : List Constraint} {done made : Entries}
    (ended : keywords.go done (c :: rest) = .ok made) :
    keywords.go (done.setField c.kind.keyword c.documented) rest = .ok made := by
  rw [keywords.go] at ended
  split at ended
  next items kind listed =>
    have told : c.documented = .list items := by simp only [documented, kind, listed]
    rw [told]
    exact ended
  next => cases ended
  next other _ =>
    unfold documented
    split
    next items kind listed => exact absurd listed (other items kind)
    next => exact ended

private theorem mem_keywords_go {cs : List Constraint} {done made : Entries} (ended : keywords.go done cs = .ok made) :
    ∀ e ∈ made, e ∈ done ∨ ∃ c ∈ cs, e.1.str? = some c.kind.keyword ∧ e.2 = c.documented := by
  induction cs generalizing done with
  | nil =>
    cases ended
    exact fun _ member => .inl member
  | cons c rest ih =>
    intro e member
    obtain before | ⟨d, inside, told⟩ := ih (keywords_go_cons ended) e member
    · exact (Entries.mem_setField before).imp_right fun told => ⟨c, List.mem_cons_self, told⟩
    · exact .inr ⟨d, List.mem_cons_of_mem _ inside, told⟩

/-- Every keyword tells of a constraint. -/
theorem mem_keywords {cs : List Constraint} {made : Entries} (ended : keywords cs = .ok made) :
    ∀ e ∈ made, ∃ c ∈ cs, e.1.str? = some c.kind.keyword ∧ e.2 = c.documented :=
  fun e member => (mem_keywords_go ended e member).resolve_left (fun impossible => nomatch impossible)

/-- A size that passed the check of its bound keeps to the bound. -/
theorem keeps_of_checkSize {size : Option Nat} {n : Int} {holds : Quantity → Quantity → Bool}
    (satisfied : checkSize size (.int n) holds = .ok true) :
    Keeps (counted size) (.int n) holds := by
  refine ⟨.ofInt n, rfl, fun q measured => ?_⟩
  obtain ⟨m, rfl, rfl⟩ := Option.map_eq_some_iff.mp measured
  exact Except.ok.inj satisfied

theorem keeps_of_checkNumber {v bound : Value} {holds : Quantity → Quantity → Bool}
    (satisfied : checkNumber v bound holds = true) : Keeps v.number? bound holds := by
  unfold checkNumber at satisfied
  split at satisfied
  next x y measured limit =>
    refine ⟨y, limit, fun q same => ?_⟩
    rw [measured] at same
    cases same
    exact satisfied
  next => cases satisfied

theorem isAmong_of_isJson {v : Value} (json : v.isJson = true) (items : List Value) : isAmong v items = .ok (items.any v.isChoice) := by
  induction items with
  | nil => rfl
  | cons choice rest ih =>
    rw [isAmong, Value.isChoice?_of_isJson json, List.any_cons, ih]
    cases v.isChoice choice <;> rfl

/-- Nothing but text is ever found. -/
theorem pattern_of_checkPattern {v bound : Value} {pattern : String} (written : bound.str? = some pattern)
    (satisfied : checkPattern v bound = .ok true) :
    ∀ text, v.str? = some text → checkPattern (.str text) (.str pattern) = .ok true := by
  intro text read
  rw [← satisfied, checkPattern, checkPattern, read, readPattern?_of_text written]
  rfl

/-- A value that satisfies a constraint obeys its keyword. -/
theorem asserts_of_check {c : Constraint} (bounded : c.Bounded) (scalar : c.ScalarChoices) {v : Value}
    (json : v.isJson = true) (satisfied : c.check v = .ok true) : Asserts c.kind.keyword c.documented v := by
  unfold check at satisfied
  unfold documented
  cases kind : c.kind with
  | choices =>
    rw [kind] at satisfied
    obtain ⟨items, bound⟩ := bounded.choices kind
    have scalars := scalar kind
    rw [bound] at satisfied scalars ⊢
    obtain ⟨choice, member, chosen⟩ := List.any_eq_true.mp (Except.ok.inj ((isAmong_of_isJson json items).symm.trans satisfied))
    exact ⟨items, rfl, choice, member, Value.documentEqual_of_isChoice json (scalars choice member) chosen⟩
  | pattern =>
    rw [kind] at satisfied
    obtain ⟨pattern, written⟩ := bounded.pattern kind
    exact ⟨pattern, written, pattern_of_checkPattern written satisfied⟩
  | above | below | atLeast | atMost =>
    rw [kind] at satisfied
    exact keeps_of_checkNumber (Except.ok.inj satisfied)
  | minLength | maxLength | minItems | maxItems | minEntries | maxEntries =>
    rw [kind] at satisfied
    obtain ⟨n, bound⟩ := bounded.size (by rw [kind]; rfl)
    rw [bound] at satisfied ⊢
    exact keeps_of_checkSize satisfied

end Constraint

namespace Document

variable {root schema : Entries} {keyword : String} {under v : Value}

/-- Keywords that tell readers of a document something, and say nothing of data. -/
def notes : List String := ["title", "description", "default", "examples", "readOnly", "x-derived-field"]

/-- Notes, and the keywords for definitions, which say nothing of data either. -/
def remarks : List String := notes ++ Pointer.definitionsKeys

theorem not_applicator_of_remark (remark : keyword ∈ remarks) : keyword ∉ applicators := by
  revert keyword
  decide

theorem asserts_remark (remark : keyword ∈ remarks) (under v : Value) : Asserts keyword under v := by
  simp only [remarks, notes, Pointer.definitionsKeys, List.cons_append, List.nil_append, List.mem_cons, List.not_mem_nil,
    or_false] at remark
  obtain rfl | rfl | rfl | rfl | rfl | rfl | rfl | rfl := remark <;> exact trivial

theorem Obeys.asserts (obeyed : Obeys root schema keyword under v) (noSchema : keyword ∉ applicators) :
    Asserts keyword under v := by
  cases obeyed with
  | plain _ asserted => exact asserted
  | _ => exact absurd (by decide) noSchema

/-- What else stands in a schema matters only for the properties that it lists. -/
theorem Obeys.of_lists {other : Entries} (lists : ∀ name, Lists schema name → Lists other name)
    (obeyed : Obeys root schema keyword under v) : Obeys root other keyword under v := by
  cases obeyed with
  | pointer text leads admitted => exact .pointer text leads admitted
  | properties each => exact .properties each
  | additionalProperties each =>
    exact .additionalProperties fun entries same e member name named unlisted =>
      each entries same e member name named fun listed => unlisted (lists name listed)
  | propertyNames each => exact .propertyNames each
  | items each => exact .items each
  | anyOf member admitted => exact .anyOf member admitted
  | plain noSchema asserted => exact .plain noSchema asserted

theorem Admits.remark (admitted : Admits root (.map schema) v) (remark : keyword ∈ remarks) (under : Value) :
    Admits root (.map (schema.setField keyword under)) v := by
  cases admitted with
  | keywords each =>
    refine .keywords fun other told found => ?_
    by_cases same : other = keyword
    · subst same
      exact .plain (not_applicator_of_remark remark) (asserts_remark remark _ _)
    · rw [Entries.field?_setField_of_ne _ _ same] at found
      refine (each other told found).of_lists fun name ⟨named, stands, listed⟩ => ⟨named, ?_, listed⟩
      rwa [Entries.field?_setField_of_ne _ _ fun properties => not_applicator_of_remark remark (by rw [← properties]; decide)]

end Document
end RecordSchema
