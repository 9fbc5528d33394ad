import Mathlib.Logic.Basic
import RecordSchema.Validation.Report

/-! Locations read back. A location drops the point before its first name and before every index, so that it is read
from the front: what a name holds ends before the next point or bracket, and what an index holds before its closing
bracket. Paths whose names are not empty and have none of these marks are told apart by their locations, except that the
empty path looks like the name of the root. Main statement: `location_determines_path`. -/

namespace RecordSchema

/-- The characters that tell steps apart. -/
def Step.isMark (c : Char) : Bool := c = '.' || c = '[' || c = ']'

/-- A step that shows where it ends: an index, or a name without marks. -/
def Step.IsPlain : Step → Prop
  | .name text => text ≠ "" ∧ text.toList.all (!Step.isMark ·)
  | .index _ => True

instance : DecidablePred Step.IsPlain := fun step =>
  match step with
  | .name _ => inferInstanceAs (Decidable (_ ∧ _))
  | .index _ => inferInstanceAs (Decidable True)

/-- A path that its location is to be read back to. -/
structure Path.Readable (path : Path) : Prop where
  plain : ∀ step ∈ path, step.IsPlain
  notRoot : path ≠ [.name "<root>"]

instance : DecidablePred Path.Readable := fun path =>
  decidable_of_iff ((∀ step ∈ path, step.IsPlain) ∧ path ≠ [.name "<root>"])
    ⟨fun both => ⟨both.1, both.2⟩, fun readable => ⟨readable.plain, readable.notRoot⟩⟩

namespace Path

section Characters
variable {ends : Char → Prop} {text text' rest rest' : List Char}

/-- Text up to the first character that ends it is found again. -/
theorem text_ends_once (inside : ∀ c ∈ text, ¬ ends c) (inside' : ∀ c ∈ text', ¬ ends c)
    (after : ∀ c ∈ rest.head?, ends c) (after' : ∀ c ∈ rest'.head?, ends c) (same : text ++ rest = text' ++ rest') :
    text = text' ∧ rest = rest' := by
  induction text generalizing text' with
  | nil =>
    cases text' with
    | nil => exact ⟨rfl, same⟩
    | cons c _ =>
      have first : rest.head? = some c := congrArg List.head? same
      exact absurd (after c first) (inside' c List.mem_cons_self)
  | cons c text ih =>
    cases text' with
    | nil =>
      have first : rest'.head? = some c := (congrArg List.head? same).symm
      exact absurd (after' c first) (inside c List.mem_cons_self)
    | cons c' text' =>
      obtain ⟨rfl, remaining⟩ := List.cons.inj same
      obtain ⟨rfl, restSame⟩ := ih (fun d member => inside d (List.mem_cons_of_mem _ member))
        (fun d member => inside' d (List.mem_cons_of_mem _ member)) remaining
      exact ⟨rfl, restSame⟩

end Characters

/-- What an index shows between its brackets. -/
def digits (n : Int) : List Char := (toString n).toList

theorem digits_eq (n : Int) :
    digits n = if 0 ≤ n then Nat.toDigits 10 n.toNat else '-' :: Nat.toDigits 10 (-n).toNat := by
  unfold digits
  rw [Int.toString_eq_repr, Int.repr_eq_if]
  split
  · exact Nat.toList_repr
  · simp

theorem not_mem_toDigits {c : Char} (other : c.isDigit = false) (k : Nat) : c ∉ Nat.toDigits 10 k := fun member =>
  absurd (Nat.isDigit_of_mem_toDigits (by decide) (by decide) member) (by rw [other]; decide)

/-- The digits tell the amount, and only a negative number opens with a minus. -/
theorem digits_injective {n m : Int} (same : digits n = digits m) : n = m := by
  have amounts {k l : Nat} (alike : Nat.toDigits 10 k = Nat.toDigits 10 l) : k = l :=
    calc k = Nat.ofDigitChars 10 (Nat.toDigits 10 k) 0 := Nat.ofDigitChars_ten_toDigits.symm
      _ = Nat.ofDigitChars 10 (Nat.toDigits 10 l) 0 := by rw [alike]
      _ = l := Nat.ofDigitChars_ten_toDigits
  rw [digits_eq, digits_eq] at same
  by_cases natural : 0 ≤ n <;> by_cases natural' : 0 ≤ m
  · rw [if_pos natural, if_pos natural'] at same
    have amount := amounts same
    omega
  · rw [if_pos natural, if_neg natural'] at same
    exact absurd (same ▸ List.mem_cons_self) (not_mem_toDigits rfl n.toNat)
  · rw [if_neg natural, if_pos natural'] at same
    exact absurd (same ▸ List.mem_cons_self) (not_mem_toDigits rfl m.toNat)
  · rw [if_neg natural, if_neg natural'] at same
    have amount := amounts (List.cons.inj same).2
    omega

theorem bracket_not_mem_digits (n : Int) : ']' ∉ digits n := by
  rw [digits_eq]
  split
  · exact not_mem_toDigits rfl _
  · exact List.not_mem_cons_of_ne_of_not_mem (by decide) (not_mem_toDigits rfl _)

theorem toList_innerStep_index (n : Int) : (innerStep (.index n)).toList = '[' :: (digits n ++ [']']) := by
  simp [innerStep, digits]

/-- The characters of everything after the first step. -/
def inner (path : Path) : List Char := path.flatMap fun step => (innerStep step).toList

theorem toList_location_cons (step : Step) (path : Path) :
    (location (step :: path)).toList = (firstStep step).toList ++ inner path := by
  simp [location, inner, String.toList_join, List.flatMap_map]

/-- An inner step shows at least its mark. -/
theorem inner_cons_ne_nil (step : Step) (path : Path) : inner (step :: path) ≠ [] := by
  cases step with
  | name text => simp [inner, innerStep]
  | index n => simp [inner, toList_innerStep_index]

theorem inner_name (text : String) (path : Path) : inner (.name text :: path) = '.' :: (text.toList ++ inner path) := by
  simp [inner, innerStep]

theorem inner_index (n : Int) (path : Path) : inner (.index n :: path) = '[' :: (digits n ++ ']' :: inner path) := by
  simp [inner, toList_innerStep_index]

/-- Every inner step opens with a mark. -/
theorem inner_opens (path : Path) : ∀ c ∈ (inner path).head?, Step.isMark c = true := by
  intro c first
  cases path with
  | nil => cases first
  | cons step path =>
    cases step with
    | name text =>
      rw [inner_name] at first
      obtain rfl := Option.some.inj first
      rfl
    | index n =>
      rw [inner_index] at first
      obtain rfl := Option.some.inj first
      rfl

section Steps
variable {p q : Path}

/-- A plain name ends where the next step opens. -/
theorem name_ends_once {text text' : String} (plain : Step.IsPlain (.name text)) (plain' : Step.IsPlain (.name text'))
    (same : text.toList ++ inner p = text'.toList ++ inner q) : text = text' ∧ inner p = inner q := by
  have inside : ∀ c ∈ text.toList, ¬ Step.isMark c = true := by
    intro c member
    simpa using List.all_eq_true.mp plain.2 c member
  have inside' : ∀ c ∈ text'.toList, ¬ Step.isMark c = true := by
    intro c member
    simpa using List.all_eq_true.mp plain'.2 c member
  obtain ⟨textSame, rest⟩ := text_ends_once inside inside' (inner_opens p) (inner_opens q) same
  exact ⟨String.toList_injective textSame, rest⟩

/-- An index ends at its closing bracket. -/
theorem index_ends_once {n m : Int} (same : digits n ++ ']' :: inner p = digits m ++ ']' :: inner q) :
    n = m ∧ inner p = inner q := by
  have inside (k : Int) : ∀ c ∈ digits k, ¬ c = ']' := by
    rintro c member rfl
    exact bracket_not_mem_digits k member
  have after (r : Path) : ∀ c ∈ (']' :: inner r).head?, c = ']' := by
    intro c first
    exact (Option.some.inj first).symm
  obtain ⟨numberSame, rest⟩ := text_ends_once (inside n) (inside m) (after p) (after q) same
  exact ⟨digits_injective numberSame, (List.cons.inj rest).2⟩

/-- By induction on one path: the opening mark tells the kind of the next step of the other. -/
theorem inner_injective (plainP : ∀ step ∈ p, step.IsPlain) (plainQ : ∀ step ∈ q, step.IsPlain)
    (same : inner p = inner q) : p = q := by
  induction p generalizing q with
  | nil =>
    cases q with
    | nil => rfl
    | cons step q => exact absurd same.symm (inner_cons_ne_nil step q)
  | cons step p ih =>
    have restP : ∀ s ∈ p, s.IsPlain := fun s member => plainP s (List.mem_cons_of_mem _ member)
    cases q with
    | nil => exact absurd same (inner_cons_ne_nil step p)
    | cons step' q =>
      have restQ : ∀ s ∈ q, s.IsPlain := fun s member => plainQ s (List.mem_cons_of_mem _ member)
      cases step with
      | name text =>
        cases step' with
        | name text' =>
          rw [inner_name, inner_name] at same
          obtain ⟨rfl, rest⟩ := name_ends_once (plainP _ List.mem_cons_self) (plainQ _ List.mem_cons_self)
            (List.cons.inj same).2
          rw [ih restP restQ rest]
        | index m => simp [inner_name, inner_index] at same
      | index n =>
        cases step' with
        | name text' => simp [inner_name, inner_index] at same
        | index m =>
          rw [inner_index, inner_index] at same
          obtain ⟨rfl, rest⟩ := index_ends_once (List.cons.inj same).2
          rw [ih restP restQ rest]

/-- A plain name does not open like an index. -/
theorem name_ne_index {text : String} {n : Int} (plain : Step.IsPlain (.name text)) :
    text.toList ++ inner p ≠ '[' :: (digits n ++ ']' :: inner q) := by
  intro same
  obtain ⟨c, rest, shown⟩ := List.exists_cons_of_ne_nil (String.toList_eq_nil_iff.not.mpr plain.1)
  have unmarked := List.all_eq_true.mp plain.2 c (by simp [shown])
  rw [shown] at same
  obtain rfl := (List.cons.inj same).1
  cases unmarked

/-- Only the empty path, and the name of the root, are shown as the root. -/
theorem eq_nil_of_location_root (readable : Readable p) (root : location p = "<root>") : p = [] := by
  cases p with
  | nil => rfl
  | cons step p =>
    have chars := congrArg String.toList root
    rw [toList_location_cons] at chars
    cases step with
    | name text =>
      have rootPlain : Step.IsPlain (.name "<root>") := by decide
      obtain ⟨rfl, rest⟩ := name_ends_once (q := []) (readable.plain _ List.mem_cons_self) rootPlain
        (chars.trans (List.append_nil _).symm)
      obtain rfl := inner_injective (fun s member => readable.plain s (List.mem_cons_of_mem _ member))
        (fun s member => absurd member List.not_mem_nil) rest
      exact absurd rfl readable.notRoot
    | index n => simp [firstStep] at chars

theorem toList_firstStep_index (n : Int) : (firstStep (.index n)).toList ++ inner p = '[' :: (digits n ++ ']' :: inner p) := by
  simp [firstStep, digits]

theorem eq_of_location_eq (readableP : Readable p) (readableQ : Readable q) (same : location p = location q) : p = q := by
  cases p with
  | nil => exact (eq_nil_of_location_root readableQ same.symm).symm
  | cons step p =>
    cases q with
    | nil => exact eq_nil_of_location_root readableP same
    | cons step' q =>
      have plain := readableP.plain step List.mem_cons_self
      have plain' := readableQ.plain step' List.mem_cons_self
      have chars := congrArg String.toList same
      rw [toList_location_cons, toList_location_cons] at chars
      have both : step = step' ∧ inner p = inner q := by
        cases step with
        | name text =>
          cases step' with
          | name text' =>
            obtain ⟨rfl, rest⟩ := name_ends_once plain plain' chars
            exact ⟨rfl, rest⟩
          | index m =>
            rw [toList_firstStep_index] at chars
            exact absurd chars (name_ne_index plain)
        | index n =>
          rw [toList_firstStep_index] at chars
          cases step' with
          | name text' => exact absurd chars.symm (name_ne_index plain')
          | index m =>
            rw [toList_firstStep_index] at chars
            obtain ⟨rfl, rest⟩ := index_ends_once (List.cons.inj chars).2
            exact ⟨rfl, rest⟩
      obtain ⟨rfl, rest⟩ := both
      rw [inner_injective (fun s member => readableP.plain s (List.mem_cons_of_mem _ member))
        (fun s member => readableQ.plain s (List.mem_cons_of_mem _ member)) rest]

end Steps
end Path

namespace Report

theorem indexText?_getD_text (step : Step) : (indexText? step.toValue).getD step.toValue.text = Path.firstStep step := by
  cases step with
  | name text => rfl
  | index n => rfl

theorem innerText_toValue (step : Step) : innerText step.toValue = Path.innerStep step := by
  cases step with
  | name text => rfl
  | index n => rfl

/-- A path of steps that is given as data has the location of the path. -/
theorem location_toValue (path : Path) : location (path.map Step.toValue) = Path.location path := by
  cases path with
  | nil => rfl
  | cons step path =>
    rw [List.map_cons, location, indexText?_getD_text, Path.location, List.map_map]
    congr 2
    apply List.map_congr_left
    intro step _
    exact innerText_toValue step

/-- Steps that are given as data go before the path of the violation. -/
theorem pathUnder_steps (outer : Path) (v : Violation) :
    pathUnder (.list (outer.map Step.toValue)) v = .ok ((v.under outer).path.map Step.toValue) := by
  unfold pathUnder
  cases outer with
  | nil => rfl
  | cons step outer =>
    rw [Violation.under, List.map_append]
    rfl

end Report

/-- Readable paths with one location are one path. The same is true of violations that are seen from further out,
whether they are moved or only their paths are read out: the location tells the outer path and the inner one together. -/
theorem location_determines_path :
    (∀ p q : Path, p.Readable → q.Readable → p.location = q.location → p = q) ∧
    ∀ (outer outer' : Path) (v v' : Violation),
      ∃ places places', Report.pathUnder (.list (outer.map Step.toValue)) v = .ok places ∧
        Report.pathUnder (.list (outer'.map Step.toValue)) v' = .ok places' ∧
        Report.location places = (v.under outer).path.location ∧
        (Path.Readable (outer ++ v.path) → Path.Readable (outer' ++ v'.path) →
          Report.location places = Report.location places' → outer ++ v.path = outer' ++ v'.path) := by
  constructor
  · intro p q readableP readableQ same
    exact Path.eq_of_location_eq readableP readableQ same
  · intro outer outer' v v'
    refine ⟨_, _, Report.pathUnder_steps outer v, Report.pathUnder_steps outer' v', Report.location_toValue _, ?_⟩
    intro readable readable' same
    rw [Report.location_toValue, Report.location_toValue] at same
    exact Path.eq_of_location_eq readable readable' same

/-- A violation at the item of an order is found at one place, wherever its outer path is cut off. -/
theorem location_determines_path_items :
    Path.Readable [.name "items", .index 2, .name "sku"] ∧
      Path.location [.name "items", .index 2, .name "sku"] = "items[2].sku" ∧
      ([.name "items", .index 2, .name "sku"] : Path) = ([.name "items"] : Path) ++ ([.index 2, .name "sku"] : Path) ∧
      ([.name "items", .index 2] : Path) ++ ([.name "sku"] : Path) = ([.name "items"] : Path) ++ ([.index 2, .name "sku"] : Path) := by
  let short : Violation := ⟨[.name "sku"], .requiredMissing, "field is required", none, none⟩
  let long : Violation := ⟨[.index 2, .name "sku"], .requiredMissing, "field is required", none, none⟩
  have readable : Path.Readable [.name "items", .index 2, .name "sku"] := by decide
  obtain ⟨places, places', found, found', _, determined⟩ :=
    location_determines_path.2 [.name "items", .index 2] [.name "items"] short long
  have same : places = places' := by
    rw [Report.pathUnder_steps] at found found'
    exact (Except.ok.inj found).symm.trans (Except.ok.inj found')
  refine ⟨readable, by decide, ?_, determined readable readable (congrArg Report.location same)⟩
  exact location_determines_path.1 _ _ readable readable rfl

/-- The name of the root is shown like the root. -/
example : Path.location [.name "<root>"] = Path.location [] := by decide

end RecordSchema
