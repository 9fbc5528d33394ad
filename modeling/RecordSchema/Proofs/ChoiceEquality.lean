import RecordSchema.Proofs.ConstraintKeywords
import RecordSchema.Proofs.JsonData

/-! Choices of arbitrary data. Two values are told apart by being a boolean or not, and inside of them true and false
count as 1 and 0. So every value that equals a choice is accepted, and one that equals none is accepted only for a
choice that has a number where the value has a boolean, or the other way round. Main statement:
`Constraint.check_choices`. -/

namespace RecordSchema
open Document

namespace Value

section Numeric

mutual

/-- The value with 1 and 0 in place of true and false. -/
def numeric : Value → Value
  | .bool b => .int (if b then 1 else 0)
  | .list items => .list (numericItems items)
  | .map entries => .map (numericEntries entries)
  | v => v

def numericItems : List Value → List Value
  | [] => []
  | v :: rest => numeric v :: numericItems rest

def numericEntries : List (Value × Value) → List (Value × Value)
  | [] => []
  | (key, v) :: rest => (key, numeric v) :: numericEntries rest

end

theorem numericItems_eq (items : List Value) : numericItems items = items.map numeric := by
  induction items with
  | nil => rfl
  | cons v rest ih => rw [numericItems, ih, List.map_cons]

theorem numericEntries_eq (entries : Entries) : numericEntries entries = List.map (fun e => (e.1, e.2.numeric)) entries := by
  induction entries with
  | nil => rfl
  | cons e rest ih => rw [numericEntries, ih, List.map_cons]

theorem length_numericEntries (entries : Entries) : (numericEntries entries).length = entries.length := by
  rw [numericEntries_eq, List.length_map]

theorem field?_numericEntries (entries : Entries) (name : String) :
    Entries.field? (numericEntries entries) name = (entries.field? name).map numeric := by
  induction entries with
  | nil => rfl
  | cons e rest ih =>
    obtain ⟨key, v⟩ := e
    rw [numericEntries, Entries.field?, Entries.field?]
    split
    next => rfl
    next => exact ih

/-- What counts as a number by itself is one in the numeric reading. -/
theorem number?_numeric (v : Value) : v.numeric.number? = v.quantity? := by
  cases v <;> rfl

theorem str?_numeric (v : Value) : v.numeric.str? = v.str? := by
  cases v <;> rfl

end Numeric

section Equality

variable {v w : Value} {vs ws : List Value} {es fs : Entries}

theorem documentEqual_null_iff : DocumentEqual .null w ↔ w = .null := by
  constructor
  · intro same
    cases same with
    | null => rfl
    | number left _ _ | text left _ => cases left
  · rintro rfl
    exact .null

theorem str?_of_number? {x : Quantity} (measured : v.number? = some x) : v.str? = none := by
  cases v <;> first | rfl | cases measured

theorem documentEqual_number_iff {x : Quantity} (measured : v.number? = some x) :
    v.DocumentEqual w ↔ ∃ y, w.number? = some y ∧ x.eq y = true := by
  constructor
  · intro same
    cases same with
    | number left right same =>
      obtain rfl := Option.some.inj (left.symm.trans measured)
      exact ⟨_, right, same⟩
    | text left _ => rw [str?_of_number? measured] at left; cases left
    | _ => cases measured
  · rintro ⟨y, right, same⟩
    exact .number measured right same

theorem documentEqual_text_iff {s : String} (read : v.str? = some s) : v.DocumentEqual w ↔ w.str? = some s := by
  constructor
  · intro same
    cases same with
    | text left right =>
      obtain rfl := Option.some.inj (left.symm.trans read)
      exact right
    | number left _ _ => rw [str?_of_number? left] at read; cases read
    | _ => cases read
  · exact .text read

theorem documentEqual_list_iff :
    DocumentEqual (.list vs) (.list ws) ↔ vs.length = ws.length ∧ ∀ pair ∈ vs.zip ws, pair.1.DocumentEqual pair.2 := by
  constructor
  · intro same
    cases same with
    | number left _ _ | text left _ => cases left
    | list length each => exact ⟨length, each⟩
  · rintro ⟨length, each⟩
    exact .list length each

theorem documentEqual_map_iff :
    DocumentEqual (.map es) (.map fs) ↔ es.length = fs.length ∧
      ∀ e ∈ es, ∃ name, e.1.str? = some name ∧ ∃ w, fs.field? name = some w ∧ e.2.DocumentEqual w := by
  constructor
  · intro same
    cases same with
    | number left _ _ | text left _ => cases left
    | map length shared each =>
      refine ⟨length, fun e member => ?_⟩
      obtain ⟨name, named, found⟩ := shared e member
      obtain ⟨w, found⟩ := Option.isSome_iff_exists.mp found
      exact ⟨name, named, w, found, each e member name w named found⟩
  · rintro ⟨length, each⟩
    refine .map length (fun e member => ?_) (fun e member name w named found => ?_)
    · obtain ⟨name, named, w, found, -⟩ := each e member
      exact ⟨name, named, by rw [found]; rfl⟩
    · obtain ⟨other, text, x, stands, same⟩ := each e member
      obtain rfl := Option.some.inj (named.symm.trans text)
      obtain rfl := Option.some.inj (found.symm.trans stands)
      exact same

theorem numeric_list_iff : (list vs).numeric.DocumentEqual (list ws).numeric ↔
    vs.length = ws.length ∧ ∀ pair ∈ vs.zip ws, pair.1.numeric.DocumentEqual pair.2.numeric := by
  rw [numeric, numeric, documentEqual_list_iff, numericItems_eq, numericItems_eq, List.length_map, List.length_map,
    List.zip_map, List.forall_mem_map]
  rfl

theorem numeric_map_iff : (map es).numeric.DocumentEqual (map fs).numeric ↔ es.length = fs.length ∧
    ∀ e ∈ es, ∃ name, e.1.str? = some name ∧ ∃ w, fs.field? name = some w ∧ e.2.numeric.DocumentEqual w.numeric := by
  rw [numeric, numeric, documentEqual_map_iff, length_numericEntries, length_numericEntries, numericEntries_eq es, List.forall_mem_map]
  simp only [field?_numericEntries, Option.map_eq_some_iff, exists_exists_and_eq_and]

theorem equalLists_iff :
    equalLists vs ws = true ↔ vs.length = ws.length ∧ ∀ pair ∈ vs.zip ws, equalAt true pair.1 pair.2 = true := by
  induction vs generalizing ws with
  | nil => cases ws <;> simp [equalLists]
  | cons v rest ih =>
    cases ws with
    | nil => simp [equalLists]
    | cons w others =>
      rw [equalLists, Bool.and_eq_true, ih, List.zip_cons_cons, List.forall_mem_cons, List.length_cons, List.length_cons,
        Nat.add_right_cancel_iff]
      exact and_left_comm

theorem entriesAmong_iff :
    entriesAmong es fs = true ↔ ∀ e ∈ es, ∃ f ∈ fs, equalAt true e.1 f.1 = true ∧ equalAt true e.2 f.2 = true := by
  induction es with
  | nil => simp [entriesAmong]
  | cons e rest ih =>
    rw [entriesAmong, Bool.and_eq_true, ih, List.forall_mem_cons, List.any_eq_true]
    simp only [Bool.and_eq_true]

/-- A key is found among the entries of a map with no key twice just if it is their entry of that name. -/
theorem exists_entry_iff {e : Value × Value} {name : String} (key : e.1 = .str name) (distinct : (labels fs).Nodup) :
    (∃ f ∈ fs, equalAt true e.1 f.1 = true ∧ equalAt true e.2 f.2 = true) ↔
      ∃ w, fs.field? name = some w ∧ equalAt true e.2 w = true := by
  have named (f : Value × Value) : equalAt true e.1 f.1 = true ↔ f.1.str? = some name := by
    rw [key, equalAt, beq_iff_eq]
  constructor
  · rintro ⟨f, member, keys, values⟩
    exact ⟨f.2, Entries.field?_of_mem distinct member ((named f).mp keys), values⟩
  · rintro ⟨w, found, values⟩
    obtain ⟨f, member, text, rfl⟩ := Entries.mem_of_field? found
    exact ⟨f, member, (named f).mpr text, values⟩

theorem eq_list_of_documentEqual (same : DocumentEqual (.list vs) w) : ∃ ws, w = .list ws := by
  cases same with
  | number left _ _ | text left _ => cases left
  | list _ _ => exact ⟨_, rfl⟩

theorem eq_map_of_documentEqual (same : DocumentEqual (.map es) w) : ∃ fs, w = .map fs := by
  cases same with
  | number left _ _ | text left _ => cases left
  | map _ _ _ => exact ⟨_, rfl⟩

/-- Data is compared by numeric readings. -/
theorem equalAt_iff (inside : Bool) (json : v.isJson = true) (other : w.isJson = true) (apart : w.all keysApart = true) :
    equalAt inside v w = true ↔ v.numeric.DocumentEqual w.numeric := by
  induction v, json using json_induction generalizing w inside with
  | scalar v json scalar =>
    have measured {x : Quantity} (number : v.quantity? = some x) :
        w.quantity?.any x.eq = true ↔ v.numeric.DocumentEqual w.numeric := by
      rw [documentEqual_number_iff ((number?_numeric v).trans number), number?_numeric, Option.any_eq_true]
    cases v with
    | null => cases w <;> simp [equalAt, numeric, documentEqual_null_iff]
    | bool _ | int _ | float _ => exact measured rfl
    | str s =>
      refine beq_iff_eq.trans ?_
      rw [← str?_numeric]
      exact (documentEqual_text_iff rfl).symm
    | list _ | map _ => cases scalar
    | _ => cases json
  | list vs _ ih =>
    rw [equalAt, unfolded_of_isJson other]
    cases w with
    | list ws =>
      refine equalLists_iff.trans (.trans ?_ numeric_list_iff.symm)
      refine and_congr_right fun _ => forall₂_congr fun pair member => ?_
      obtain ⟨left, right⟩ := List.of_mem_zip member
      obtain ⟨-, alike⟩ := ih _ left
      exact alike true (isJson_of_mem_list other _ right) (all_of_mem_list apart _ right)
    | _ =>
      refine iff_of_false (fun matched => by cases matched) fun same => ?_
      obtain ⟨_, shape⟩ := eq_list_of_documentEqual same
      cases shape
  | map es _ ih =>
    rw [equalAt, unfolded_of_isJson other]
    cases w with
    | map fs =>
      have distinct : (labels fs).Nodup := (keyed_of_isJson other apart).distinct
      rw [numeric_map_iff, entries?, Bool.and_eq_true, beq_iff_eq, entriesAmong_iff]
      refine and_congr_right fun _ => forall₂_congr fun e member => ?_
      obtain ⟨⟨name, key⟩, -, alike⟩ := ih e member
      rw [exists_entry_iff key distinct, key]
      simp only [str?, Option.some.injEq, exists_eq_left']
      refine exists_congr fun x => and_congr_right fun found => ?_
      obtain ⟨f, among, -, rfl⟩ := Entries.mem_of_field? found
      exact alike true (isJson_of_mem_map other f among).2 (all_of_mem_map apart f among)
    | view _ => cases other
    | _ =>
      refine iff_of_false (fun matched => by cases matched) fun same => ?_
      obtain ⟨_, shape⟩ := eq_map_of_documentEqual same
      cases shape

end Equality

/-- Somewhere in two values, at one place, one has a boolean and the other one a number. -/
inductive Blurs : Value → Value → Prop where
  | here {v w} (left : v.quantity?.isSome = true) (right : w.quantity?.isSome = true) (apart : v.isBool ≠ w.isBool) : Blurs v w
  | item {vs ws pair} (member : pair ∈ vs.zip ws) (inside : Blurs pair.1 pair.2) : Blurs (.list vs) (.list ws)
  | entry {es fs : Entries} {e name w} (member : e ∈ es) (named : e.1.str? = some name) (found : fs.field? name = some w)
      (inside : Blurs e.2 w) : Blurs (.map es) (.map fs)

section Blurring

variable {v w : Value}

theorem numeric_of_documentEqual (same : v.DocumentEqual w) : v.numeric.DocumentEqual w.numeric := by
  induction same with
  | null => exact .null
  | bool b => cases b <;> exact (documentEqual_number_iff rfl).mpr ⟨_, rfl, rfl⟩
  | number left right same =>
    exact .number ((number?_numeric _).trans (quantity?_of_number? left).1) ((number?_numeric _).trans (quantity?_of_number? right).1) same
  | text left right => exact .text ((str?_numeric _).trans left) ((str?_numeric _).trans right)
  | list length _ ih => exact numeric_list_iff.mpr ⟨length, ih⟩
  | map length shared _ ih =>
    refine numeric_map_iff.mpr ⟨length, fun e member => ?_⟩
    obtain ⟨name, named, found⟩ := shared e member
    obtain ⟨w, found⟩ := Option.isSome_iff_exists.mp found
    exact ⟨name, named, w, found, ih e member name w named found⟩

theorem isBool_of_documentEqual (same : v.DocumentEqual w) : v.isBool = w.isBool := by
  cases same with
  | number left right _ => exact (quantity?_of_number? left).2.trans (quantity?_of_number? right).2.symm
  | text left right => exact (isBool_of_text left).trans (isBool_of_text right).symm
  | _ => rfl

theorem documentEqual_of_measured {x y : Quantity} (left : v.quantity? = some x) (right : w.quantity? = some y)
    (same : x.eq y = true) (kinds : v.isBool = w.isBool) : v.DocumentEqual w := by
  cases v with
  | bool b =>
    cases w with
    | bool c =>
      cases left
      cases right
      cases b <;> cases c <;> first | exact .bool _ | cases same
    | _ => cases kinds
  | _ => exact .number ((quantity?_eq_number? rfl).symm.trans left) ((quantity?_eq_number? kinds.symm).symm.trans right) same

/-- Values of one numeric reading are equal, unless a boolean stands for a number. -/
theorem documentEqual_or_blurs (json : v.isJson = true) (same : v.numeric.DocumentEqual w.numeric) :
    v.DocumentEqual w ∨ Blurs v w := by
  induction v, json using json_induction generalizing w with
  | scalar v json scalar =>
    have measured {x : Quantity} (left : v.quantity? = some x) : v.DocumentEqual w ∨ Blurs v w := by
      obtain ⟨y, right, equal⟩ := (documentEqual_number_iff ((number?_numeric v).trans left)).mp same
      rw [number?_numeric] at right
      by_cases kinds : v.isBool = w.isBool
      · exact .inl (documentEqual_of_measured left right equal kinds)
      · exact .inr (.here (by rw [left]; rfl) (by rw [right]; rfl) kinds)
    cases v with
    | null =>
      have nothing := documentEqual_null_iff.mp same
      cases w with
      | null => exact .inl .null
      | _ => cases nothing
    | bool _ | int _ | float _ => exact measured rfl
    | str s => exact .inl (.text rfl ((str?_numeric w).symm.trans ((documentEqual_text_iff rfl).mp same)))
    | list _ | map _ => cases scalar
    | _ => cases json
  | list vs _ ih =>
    cases w with
    | list ws =>
      by_cases blurred : Blurs (.list vs) (.list ws)
      · exact .inr blurred
      · obtain ⟨length, each⟩ := numeric_list_iff.mp same
        refine .inl (.list length fun pair member => ?_)
        obtain ⟨-, equal⟩ := ih _ (List.of_mem_zip member).1
        exact (equal (each pair member)).resolve_right fun inside => blurred (.item member inside)
    | _ =>
      obtain ⟨_, shape⟩ := eq_list_of_documentEqual same
      cases shape
  | map es _ ih =>
    cases w with
    | map fs =>
      by_cases blurred : Blurs (.map es) (.map fs)
      · exact .inr blurred
      · obtain ⟨length, each⟩ := numeric_map_iff.mp same
        refine .inl (documentEqual_map_iff.mpr ⟨length, fun e member => ?_⟩)
        obtain ⟨name, named, w, found, same⟩ := each e member
        obtain ⟨-, -, equal⟩ := ih e member
        exact ⟨name, named, w, found, (equal same).resolve_right fun inside => blurred (.entry member named found inside)⟩
    | _ =>
      obtain ⟨_, shape⟩ := eq_map_of_documentEqual same
      cases shape

end Blurring

end Value

namespace Constraint

variable {v : Value} {choices : List Value}

/-- A choice is told from the value by being a boolean or not, and else by the numeric readings. -/
theorem isChoice_iff {choice : Value} (json : v.isJson = true) (other : choice.isJson = true) (apart : choice.all Value.keysApart = true) :
    v.isChoice choice = true ↔ v.isBool = choice.isBool ∧ v.numeric.DocumentEqual choice.numeric := by
  rw [Value.isChoice, Bool.and_eq_true, beq_iff_eq, Value.equal, Value.equalAt_iff false json other apart]

/-- Choices of JSON data always decide. What the keyword for them admits satisfies them, and what satisfies them is
admitted, or has a boolean where a choice has a number or the other way round. -/
theorem check_choices (message : Value) (json : v.isJson = true) (others : ∀ choice ∈ choices, choice.isJson = true)
    (apart : ∀ choice ∈ choices, choice.all Value.keysApart = true) :
    keywords [⟨.choices, .tuple choices, message⟩] = .ok [(.str "enum", .list choices)] ∧
    ∃ held, Constraint.check ⟨.choices, .tuple choices, message⟩ v = .ok held ∧
      (held = true ↔ ∃ choice ∈ choices, v.isBool = choice.isBool ∧ v.numeric.DocumentEqual choice.numeric) ∧
      (Asserts "enum" (.list choices) v → held = true) ∧
      (held = true → Asserts "enum" (.list choices) v ∨ ∃ choice ∈ choices, v.isBool = choice.isBool ∧ v.Blurs choice) := by
  have decided : choices.any v.isChoice = true ↔
      ∃ choice ∈ choices, v.isBool = choice.isBool ∧ v.numeric.DocumentEqual choice.numeric := by
    rw [List.any_eq_true]
    exact exists_congr fun choice => and_congr_right fun member => isChoice_iff json (others choice member) (apart choice member)
  refine ⟨rfl, _, isAmong_of_isJson json choices, decided, ?_, fun held => ?_⟩
  · rintro ⟨_, ⟨⟩, choice, member, same⟩
    exact decided.mpr ⟨choice, member, Value.isBool_of_documentEqual same, Value.numeric_of_documentEqual same⟩
  · obtain ⟨choice, member, kinds, same⟩ := decided.mp held
    exact (Value.documentEqual_or_blurs json same).imp (fun equal => ⟨choices, rfl, choice, member, equal⟩)
      fun blurred => ⟨choice, member, kinds, blurred⟩

/-- Choices with data inside of data. -/
def settings : List Value :=
  [.list [.bool true, .int 1], .map [(.str "name", .str "x"), (.str "flags", .list [.bool false])]]

/-- The order of entries does not count among choices. -/
theorem settings_checked : ∃ v, v.isJson = true ∧ (∀ choice ∈ settings, choice.isJson = true) ∧
    (∀ choice ∈ settings, choice.all Value.keysApart = true) ∧ Asserts "enum" (.list settings) v ∧
    Constraint.check ⟨.choices, .tuple settings, .null⟩ v = .ok true := by
  have others : ∀ choice ∈ settings, choice.isJson = true := by decide
  have apart : ∀ choice ∈ settings, choice.all Value.keysApart = true := by decide
  let v : Value := .map [(.str "flags", .list [.bool false]), (.str "name", .str "x")]
  have json : v.isJson = true := by decide
  have flags : Value.DocumentEqual (.list [.bool false]) (.list [.bool false]) :=
    .list rfl (by simpa using Value.DocumentEqual.bool false)
  have equal : v.DocumentEqual (.map [(.str "name", .str "x"), (.str "flags", .list [.bool false])]) := by
    refine Value.documentEqual_map_iff.mpr ⟨rfl, ?_⟩
    simpa [Value.str?, Entries.field?] using ⟨flags, Value.DocumentEqual.text rfl rfl⟩
  have listed : Asserts "enum" (.list settings) v := ⟨settings, rfl, _, List.mem_cons_of_mem _ List.mem_cons_self, equal⟩
  obtain ⟨-, held, checked, -, admitted, -⟩ := check_choices .null json others apart
  exact ⟨v, json, others, apart, listed, by rw [checked, admitted listed]⟩

/-- A list that holds true is taken for the choice of a list that holds 1. -/
theorem flag_chosen :
    ¬ ∀ (choices : List Value) (message v : Value), choices ≠ [] → (∀ choice ∈ choices, choice.isJson = true) → v.isJson = true →
      (Constraint.check ⟨.choices, .tuple choices, message⟩ v = .ok true ↔ ∃ choice ∈ choices, v.DocumentEqual choice) := by
  intro always
  have one := (always [.list [.int 1]] .null (.list [.bool true]) (by simp) (by decide) (by decide)).mp rfl
  obtain ⟨choice, member, same⟩ := one
  rw [List.mem_singleton] at member
  subst member
  obtain ⟨-, each⟩ := Value.documentEqual_list_iff.mp same
  have inside := Value.isBool_of_documentEqual (each (.bool true, .int 1) List.mem_cons_self)
  cases inside

end Constraint
end RecordSchema
