import Mathlib.Data.List.TakeWhile
import RecordSchema.Proofs.DocumentContent
import RecordSchema.Proofs.Inlining

/-! Names of definitions and the pointers to them. A name is escaped character by character when it is put into a
pointer, and one line is read from the pointer. So a name is read back exactly if it stands on one line and is not empty;
of another name no more is read than the line that it ends after, if it does. Main statement: `reference_recognised`. -/

namespace RecordSchema

namespace Pointer

/-- A name that is read back from its pointer: on one line, and not empty. Neither types nor the options of
schemas admit an empty name. -/
def Readable (name : String) : Prop := name ≠ "" ∧ '\n' ∉ name.toList

instance (name : String) : Decidable (Readable name) := inferInstanceAs (Decidable (_ ∧ _))

section Lines
variable {text line rest : List Char}

theorem newline_not_mem_escape {name : List Char} (oneLine : '\n' ∉ name) : '\n' ∉ escape name := by
  fun_induction escape name with
  | case1 => exact oneLine
  | case2 rest ih => simp_all
  | case3 rest ih => simp_all
  | case4 c rest _ _ ih => simp_all

theorem escape_append (first second : List Char) : escape (first ++ second) = escape first ++ escape second := by
  fun_induction escape first with
  | case1 => rfl
  | case2 rest ih => simp [escape, ih]
  | case3 rest ih => simp [escape, ih]
  | case4 c rest notTilde notSlash ih => rw [List.cons_append, escape.eq_4 c _ notTilde notSlash, ih, List.cons_append]

theorem isEmpty_escape (text : List Char) : (escape text).isEmpty = text.isEmpty := by
  fun_cases escape text <;> rfl

theorem takeWhile_line (oneLine : '\n' ∉ line) : line.takeWhile (· ≠ '\n') = line :=
  List.takeWhile_eq_self_iff.mpr fun _ member => decide_eq_true fun same => oneLine (same ▸ member)

/-- Text without a line break is a line, unless it is empty. -/
theorem line?_of_oneLine (oneLine : '\n' ∉ line) : line? line = if line.isEmpty then none else some line := by
  unfold line?
  rw [takeWhile_line oneLine]
  simp

/-- Nothing may follow a line break. -/
theorem line?_of_break (oneLine : '\n' ∉ line) (rest : List Char) :
    line? (line ++ '\n' :: rest) = if line.isEmpty || !rest.isEmpty then none else some line := by
  have first : (line ++ '\n' :: rest).takeWhile (· ≠ '\n') = line := by
    have whole := takeWhile_line oneLine
    rw [List.takeWhile_append, whole, if_pos rfl, List.takeWhile_cons_of_neg (by simp), List.append_nil]
  unfold line?
  simp only [first, List.drop_left]
  cases rest <;> simp

/-- Escapes keep lines apart. -/
theorem line?_escape (text : List Char) : line? (escape text) = (line? text).map escape := by
  by_cases broken : '\n' ∈ text
  · obtain ⟨line, rest, rfl, oneLine⟩ := List.eq_append_cons_of_mem broken
    have split : escape (line ++ '\n' :: rest) = escape line ++ '\n' :: escape rest := by
      rw [escape_append]
      rfl
    rw [split, line?_of_break oneLine, line?_of_break (newline_not_mem_escape oneLine), isEmpty_escape, isEmpty_escape]
    split <;> rfl
  · rw [line?_of_oneLine broken, line?_of_oneLine (newline_not_mem_escape broken), isEmpty_escape]
    split <;> rfl

end Lines

variable {key name : String}

/-- What is read from the pointer to a name is the one line of the name. -/
theorem name?_ofName_eq (known : key ∈ definitionsKeys) (name : String) :
    name? (ofName key name) = (line? name.toList).map String.ofList := by
  have after : definitionsKeys.findSome? (fun other => afterStart? (start other).toList (ofName key name).toList) =
      some (escape name.toList) := by
    simp only [definitionsKeys, List.mem_cons, List.not_mem_nil, or_false] at known
    obtain rfl | rfl := known
    · simp [ofName, start, afterStart?, definitionsKeys]
    · simp [ofName, start, afterStart?, definitionsKeys]
  unfold name?
  rw [after, Option.bind_eq_bind, Option.bind_some, line?_escape]
  cases line? name.toList with
  | none => rfl
  | some line =>
    show some (String.ofList (unescape (escape line))) = some (String.ofList line)
    rw [unescape_escape]

/-- Names are read back exactly if they are readable. -/
theorem name?_ofName_iff (known : key ∈ definitionsKeys) : name? (ofName key name) = some name ↔ Readable name := by
  rw [name?_ofName_eq known]
  constructor
  · intro same
    obtain ⟨line, found, rfl⟩ := Option.map_eq_some_iff.mp same
    rw [String.toList_ofList] at found
    have oneLine : '\n' ∉ line := by
      intro broken
      obtain ⟨first, rest, rfl, oneLine⟩ := List.eq_append_cons_of_mem broken
      rw [line?_of_break oneLine] at found
      split at found
      · cases found
      · simp at found
    rw [line?_of_oneLine oneLine] at found
    split at found
    · cases found
    next filled => exact ⟨fun empty => filled (by simpa using empty), by simpa using oneLine⟩
  · rintro ⟨filled, oneLine⟩
    rw [line?_of_oneLine oneLine]
    simp [filled]

theorem name?_ofName (known : key ∈ definitionsKeys) (readable : Readable name) : name? (ofName key name) = some name :=
  (name?_ofName_iff known).mpr readable

end Pointer

namespace Document
open Drafting Draft

section References
variable {catalogs : Catalogs} {scope : Scope} {before after : Draft} {made : Entries} {key : String}

/-- A reference is recorded in the draft under its name, and becomes the pointer to this name. -/
theorem ofRef_pointer {label : Name} {target : Option Target} (described : Makes (ofType catalogs scope (.ref label target)) before made after) :
    made.field? "$ref" = some (.str (Pointer.ofName before.definitionsKey label.label)) ∧
      ∃ found known, scope.lookup? catalogs label target = some found ∧
        after.recorded? (some label.label) = some (some known) ∧ known.serial = found.serial := by
  obtain ⟨found, resolved, text, referred, rfl⟩ := ofRef_makes described
  obtain ⟨growth, rfl, known, recorded, same⟩ := refer_makes referred
  refine ⟨?_, found, known, resolved, recorded, same⟩
  rw [pointer, growth.key]
  rfl

/-- What is read from the pointer to a name is its one line, which is the name itself exactly if it is readable. So
wherever a document refers to a schema under a readable name, resolving and flattening both take the reference for one to
the definition of this name, for which the schema is recorded. -/
theorem reference_recognised (listed : key ∈ Pointer.definitionsKeys) (name : String) :
    Pointer.name? (Pointer.ofName key name) = (Pointer.line? name.toList).map String.ofList ∧
      (Pointer.name? (Pointer.ofName key name) = some name ↔ Pointer.Readable name) ∧
      (Pointer.Readable name → ∀ {catalogs scope before after made} {label : Name} {target : Option Target}, label.label = name →
        before.definitionsKey = key → Makes (ofType catalogs scope (.ref label target)) before made after →
        (∃ found known, scope.lookup? catalogs label target = some found ∧
          after.recorded? (some name) = some (some known) ∧ known.serial = found.serial) ∧
        ∀ (schema definitions : Entries) body, schema.field? "$ref" = made.field? "$ref" → definitions.field? name = some body →
          (∀ options inside, expand options definitions inside schema = mergeBeside options.isDropped (asEntries (inside body)) schema) ∧
          ∀ kept inside, inline definitions kept inside schema =
            if kept.contains name then .ok (collapseAll schema) else do
              let target ← inside body
              return collapseAll (mergeBeside (fun _ keyword => keyword = "$ref") (asEntries target) schema)) := by
  refine ⟨Pointer.name?_ofName_eq listed name, Pointer.name?_ofName_iff listed, fun readable => ?_⟩
  rintro catalogs scope before after made label target rfl rfl described
  obtain ⟨points, recorded⟩ := ofRef_pointer described
  refine ⟨recorded, fun schema definitions body same defined => ?_⟩
  have pointed : pointer? schema = some label.label := by
    rw [pointer?, same, points]
    exact Pointer.name?_ofName listed readable
  have selected : target? definitions schema = some (label.label, body) := target?_eq_some.mpr ⟨pointed, defined⟩
  refine ⟨fun options inside => ?_, fun kept inside => ?_⟩
  · rw [expand, selected]
  · rw [inline, selected]
    rfl

/-- A shelf, named so that its name holds an escape already. -/
def shelf : Schema :=
  { serial := 1, name := "~1/~0", fields := [], crossFieldHooks := [], derivedHooks := [], title := none, description := none,
    strict := false, container := none, catalog := none }

/-- Shelves that stand on shelves: the reference to the name is recognised, and is what the pointer is resolved to. -/
theorem shelf_recognised :
    "$defs" ∈ Pointer.definitionsKeys ∧ Pointer.name? (Pointer.ofName "$defs" "~1/~0") = some "~1/~0" ∧
      ∃ made after, Makes (ofType {} ⟨some shelf, none⟩ (.ref (.text "~1/~0") none)) { definitionsKey := "$defs" } made after ∧
        expand {} [entry "~1/~0" (.map [entry "type" (.str "object")])] id made = [entry "type" (.str "object")] := by
  have listed : "$defs" ∈ Pointer.definitionsKeys := by decide
  have readable : Pointer.Readable "~1/~0" := by decide
  have described : Makes (ofType {} ⟨some shelf, none⟩ (.ref (.text "~1/~0") none)) { definitionsKey := "$defs" } _ _ := rfl
  obtain ⟨-, back, recognised⟩ := reference_recognised listed "~1/~0"
  obtain ⟨-, selects⟩ := recognised readable rfl rfl described
  refine ⟨listed, back.mpr readable, _, _, described, ?_⟩
  exact (selects _ [entry "~1/~0" (.map [entry "type" (.str "object")])] _ rfl rfl).1 {} id

/-- Of a name on two lines nothing is read, and the break at the end of a name is lost. -/
theorem twoLines_lost :
    Pointer.name? (Pointer.ofName "definitions" "Order\nLine") = none ∧
      Pointer.name? (Pointer.ofName "definitions" "Order\n") = some "Order" := by
  decide +kernel

end References
end Document
end RecordSchema
