import RecordSchema.Validation.Hooks
import RecordSchema.Value.Copy

/-! Validation of data against a schema: the fields, with all that is wrong with them; then, if
nothing is, the cross-field hooks and the derived fields. A referenced schema validates its part
of the data in the same way. What hooks compute is checked by the same rules, as far as these concern
its shape. -/

namespace RecordSchema

namespace Mode

/-- What is to be gone through when data of some size is checked. The check of a shape stays with its
type. -/
def work : Mode → Bool → Nat → Nat × Nat
  | .shape, _, _ => (0, 0)
  | .full rounds, ends, size => Value.work rounds ends size

/-- A part is no more work than the whole. -/
theorem work_part {mode : Mode} {part whole : Bool} {m n : Nat} {α : Type} {r : α → α → Prop} {x y : α}
    (kept : whole = true → part = true ∧ m ≤ n) (less : r x y) :
    Prod.Lex (Prod.Lex (· < ·) (· < ·)) r (mode.work part m, x) (mode.work whole n, y) := by
  cases mode with
  | shape => exact .right _ less
  | full rounds => exact Value.work_part kept less

/-- The check of a shape is less work than that of anything in full. -/
theorem work_shape (rounds : Nat) (part whole : Bool) (m : Nat) {n : Nat} (positive : 0 < n) :
    Prod.Lex (· < ·) (· < ·) (Mode.shape.work part m) ((Mode.full rounds).work whole n) := by
  cases whole with
  | true => exact .right _ positive
  | false => exact .left _ _ (Nat.succ_pos _)

end Mode

namespace Validation

/-- What stage one and two find in the fields. -/
structure FieldReport where
  output : Entries := []
  missing : List Violation := []
  invalid : List Violation := []

/-- The step to an unknown key, or `none` for a declared field that may be supplied. -/
def unexpected? (s : Schema) (path : Path) (key : Value) : Option Violation :=
  let step := key.step
  let named (fields : List Field) : Bool := fields.any fun f => key.str? = some f.name.label
  if !s.strict || named s.regularFields then none
  else some {
    path := path ++ [step], kind := .extraField,
    message := if named s.derivedFields then "derived field is read-only and cannot be supplied"
      else "unknown field" }

/-- Violations by keys that were not asked for; only a strict schema minds them. -/
def unexpected (s : Schema) (path : Path) (entries : Entries) : List Violation :=
  (Entries.keys entries).filterMap (unexpected? s path)

/-- Ends with the fault of a part that is lacking. -/
def require : Option Fault → Except Fault Unit
  | none => .ok ()
  | some fault => .error fault

/-- Violations by keys that were not asked for. Only where there are such keys it must be known
whether the schema minds them, and only then they are written. -/
def unexpectedWith (gaps : Gaps) (s : Schema) (path : Path) (entries : Entries) :
    Except Fault (List Violation) := do
  if !(unexpected { s with strict := true } path entries).isEmpty then require gaps.strict
  if s.strict then (Entries.keys entries).forM Value.requireStep
  return unexpected s path entries

/-- The stages of hooks, after the fields are found to be valid. -/
def runHooks (shape : SchemaType → Value → Path → Except Fault Checked) (s : Schema) (path : Path)
    (fields : Entries) : Hooks.Staged := do
  match ← Hooks.runCrossField path s.crossFieldHooks fields with
  | .ok fields => Hooks.runDerived shape s path s.derivedHooks fields
  | .error violations => return .error violations

theorem field?_smaller {entries : Entries} {name : String} {v : Value}
    (found : entries.field? name = some v) :
    sizeOf v < sizeOf entries ∧ ((Value.map entries).hasEnd = true → v.hasEnd = true) := by
  induction entries with
  | nil => simp [Entries.field?] at found
  | cons entry rest ih =>
    obtain ⟨k, w⟩ := entry
    simp only [List.cons.sizeOf_spec, Prod.mk.sizeOf_spec]
    simp only [Entries.field?] at found
    split at found
    · cases found
      exact ⟨by omega, fun ends => (Value.hasEnd_entry ends).2.1⟩
    · obtain ⟨smaller, ended⟩ := ih found
      exact ⟨by omega, fun ends => ended (Value.hasEnd_entry ends).2.2⟩

theorem sizeOf_value_pos (v : Value) : 0 < sizeOf v := by
  cases v <;> simp +arith

theorem sizeOf_type_pos (t : SchemaType) : 0 < sizeOf t := by
  cases t <;> simp +arith

mutual

/-- Checks a value, in full or its shape alone. -/
def check (catalogs : Catalogs) (mode : Mode) (scope : Scope) (t : SchemaType) (v : Value)
    (path : Path) : Except Fault Checked :=
  match t with
  | .primitive kind cs =>
    if kind.admits v then do return ⟨v, ← ownViolations mode cs v path⟩
    else return .mismatch kind.label v path
  | .array element cs =>
    match _found : v.items? with
    | none => return .mismatch (SchemaType.array element cs).describe v path
    | some items => do
      let own ← ownViolations mode cs v path
      let (items, violations) ← checkItems catalogs mode scope element path 0 items
      return ⟨.list items, own ++ violations⟩
  | .map key value cs =>
    match _found : v.mapping? with
    | none => return .mismatch (SchemaType.map key value cs).describe v path
    | some entries => do
      let own ← ownViolations mode cs (.map entries) path
      let (entries, violations) ← checkEntries catalogs mode scope key value path entries
      return ⟨.map entries, own ++ violations⟩
  | .union variants cs => do
    match ← checkVariants catalogs mode scope variants v path with
    | some c => return c
    | none => return .mismatch (SchemaType.union variants cs).describe v path
  | .ref name target =>
    match scope.lookup? catalogs name target with
    | none => return .unresolved name v path
    | some found =>
      match v.mapping? with
      | none => return .mismatch (SchemaType.ref name target).describe v path
      | some entries =>
        match mode, found with
        | .shape, _ => return .clean (.map entries)
        | .full _, .lookalike _ _ (.error fault) _ _ => throw fault
        | .full rounds, .lookalike _ _ (.ok s) _ gaps => do
          return .ofRun (← run catalogs rounds s gaps v path scope.catalog)
        | .full rounds, .schema s => do
          return .ofRun (← run catalogs rounds s {} v path scope.catalog)
  termination_by (mode.work v.hasEnd (sizeOf v), 1, sizeOf t, 0)
  decreasing_by
    · exact Mode.work_part (fun ends => (Value.items?_smaller _found ends).imp_right Nat.le_of_lt)
        (.right _ (.left _ _ (by simp only [SchemaType.array.sizeOf_spec]; omega)))
    · exact Mode.work_part (fun ends => (Value.mapping?_smaller _found ends).imp_right Nat.le_of_lt)
        (.right _ (.left _ _ (by simp only [SchemaType.map.sizeOf_spec]; omega)))
    · exact .right _ (.right _ (.left _ _ (by simp only [SchemaType.union.sizeOf_spec]; omega)))
    all_goals exact .right _ (.left _ _ Nat.zero_lt_one)

/-- Checks the items of a sequence one after another. -/
def checkItems (catalogs : Catalogs) (mode : Mode) (scope : Scope) (t : SchemaType) (path : Path)
    (index : Nat) (items : List Value) : Except Fault (List Value × List Violation) :=
  match items with
  | [] => return ([], [])
  | v :: rest => do
    let c ← check catalogs mode scope t v (path ++ [.index index])
    let (items, violations) ← checkItems catalogs mode scope t path (index + 1) rest
    return (c.value :: items, c.violations ++ violations)
  termination_by (mode.work (Value.list items).hasEnd (sizeOf items), 1, sizeOf t, items.length)
  decreasing_by
    · exact Mode.work_part (fun ends => ⟨(Value.hasEnd_cons ends).1, by simp; omega⟩)
        (.right _ (.right _ (by simp)))
    · exact Mode.work_part (fun ends => ⟨(Value.hasEnd_cons ends).2, by simp⟩)
        (.right _ (.right _ (by simp)))

/-- Checks the entries of a map one after another, of each the key before the value. Keys stay as
they are. -/
def checkEntries (catalogs : Catalogs) (mode : Mode) (scope : Scope) (key value : SchemaType)
    (path : Path) (entries : Entries) : Except Fault (Entries × List Violation) :=
  match entries with
  | [] => return ([], [])
  | (k, v) :: rest => do
    let place ← entryPlace path k
    let ofKey ← check catalogs mode scope key k place
    let ofValue ← check catalogs mode scope value v place
    let (entries, violations) ← checkEntries catalogs mode scope key value path rest
    return ((k, ofValue.value) :: entries, ofKey.violations ++ ofValue.violations ++ violations)
  termination_by (mode.work (Value.map entries).hasEnd (sizeOf entries), 1, sizeOf key + sizeOf value,
    entries.length)
  decreasing_by
    · refine Mode.work_part (fun ends => ⟨(Value.hasEnd_entry ends).1, by simp; omega⟩) (.right _ ?_)
      exact .left _ _ (Nat.lt_add_of_pos_right (sizeOf_type_pos value))
    · refine Mode.work_part (fun ends => ⟨(Value.hasEnd_entry ends).2.1, by simp; omega⟩) (.right _ ?_)
      exact .left _ _ (Nat.lt_add_of_pos_left (sizeOf_type_pos key))
    · exact Mode.work_part (fun ends => ⟨(Value.hasEnd_entry ends).2.2, by simp⟩)
        (.right _ (.right _ (by simp)))

/-- The first variant with nothing wrong. -/
def checkVariants (catalogs : Catalogs) (mode : Mode) (scope : Scope) (variants : List SchemaType)
    (v : Value) (path : Path) : Except Fault (Option Checked) :=
  match variants with
  | [] => return none
  | t :: rest => do
    let c ← check catalogs mode scope t v path
    if c.isClean then return some c else checkVariants catalogs mode scope rest v path
  termination_by (mode.work v.hasEnd (sizeOf v), 1, sizeOf variants, 0)
  decreasing_by
    · exact .right _ (.right _ (.left _ _ (by simp only [List.cons.sizeOf_spec]; omega)))
    · exact .right _ (.right _ (.left _ _ (by simp only [List.cons.sizeOf_spec]; omega)))

/-- Checks the declared fields: those present by their types; an absent one takes its default, or
is missing if it is required. -/
def fieldReport (catalogs : Catalogs) (rounds : Nat) (scope : Scope) (path : Path)
    (entries : Entries) (fields : List Field) : Except Fault FieldReport :=
  match fields with
  | [] => return {}
  | f :: rest => do
    let place := path ++ [.name f.name.label]
    match _found : entries.field? f.name.label with
    | some v =>
      let c ← check catalogs (.full rounds) scope f.type v place
      let report ← fieldReport catalogs rounds scope path entries rest
      if c.isClean then return { report with output := (f.name.toValue, c.value) :: report.output }
      else return { report with invalid := c.violations ++ report.invalid }
    | none =>
      let default ← f.default.mapM Value.copy
      let report ← fieldReport catalogs rounds scope path entries rest
      match default with
      | some v => return { report with output := (f.name.toValue, v) :: report.output }
      | none =>
        if f.required then
          let violation : Violation :=
            { path := place, kind := .requiredMissing, message := "field is required" }
          return { report with missing := violation :: report.missing }
        else return report
  termination_by ((Mode.full rounds).work (Value.map entries).hasEnd (sizeOf entries), 2, sizeOf fields, 0)
  decreasing_by
    · exact Mode.work_part (fun ends => ⟨(field?_smaller _found).2 ends, Nat.le_of_lt (field?_smaller _found).1⟩)
        (.left _ _ (by omega))
    · exact .right _ (.right _ (.left _ _ (by simp only [List.cons.sizeOf_spec]; omega)))
    · exact .right _ (.right _ (.left _ _ (by simp only [List.cons.sizeOf_spec]; omega)))

/-- Runs all stages of a schema on a value. The schema's own catalog replaces the one around. -/
def run (catalogs : Catalogs) (rounds : Nat) (s : Schema) (gaps : Gaps) (v : Value) (path : Path)
    (catalog : Option CatalogId) : Except Fault (Except (List Violation) Entries) :=
  match _found : v.mapping?, _left : v.roundsAfter rounds with
  | none, _ => return .error (Checked.mismatch "object" v path).violations
  | some _, none => throw .endless
  | some entries, some left => do
    let scope : Scope := ⟨some s, s.catalog.or catalog⟩
    let report ← fieldReport catalogs left scope path entries s.regularFields
    match report.missing ++ report.invalid ++ (← unexpectedWith gaps s path entries) with
    | [] => do
      require gaps.hooks
      runHooks (fun t w place => check catalogs .shape scope t w place) s path report.output
    | violations => return .error violations
  termination_by ((Mode.full rounds).work v.hasEnd (sizeOf v), 0, 0, 0)
  decreasing_by
    · exact .left _ _ (Value.work_round _left fun ends => Value.mapping?_smaller _found ends)
    · exact .left _ _ (Mode.work_shape rounds _ _ _ (sizeOf_value_pos v))

end

/-- Checks a single value. Without a catalog that of the owner is used. -/
def checkSingle (catalogs : Catalogs) (t : SchemaType) (v : Value) (owner : Option Schema := none)
    (catalog : Option CatalogId := none) : Except Fault Checked :=
  check catalogs (.full Value.deepest) ⟨owner, catalog.or (owner.bind Schema.catalog)⟩ t v []

end Validation
end RecordSchema
