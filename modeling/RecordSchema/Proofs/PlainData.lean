import RecordSchema.Proofs.DataParts
import RecordSchema.Proofs.DocumentKeywords
import RecordSchema.Proofs.References
import RecordSchema.Proofs.ReturnedChecks

/-! Where nothing is computed: a type that refers to no schema gives data back as it is, or finds fault with it, as
long as all sequences in the data are lists and all mappings are maps. JSON data is such. Main statement:
`check_unaltered`. -/

namespace RecordSchema

namespace Value

/-- What is copied as it is: no tuple, no view of a map, and nothing that holds itself. -/
def isPlainPart : Value → Bool
  | .tuple _ | .view _ | .ring _ _ | .back _ => false
  | _ => true

/-- Data whose sequences are lists and whose mappings are maps, all the way down. -/
def isPlain (v : Value) : Bool := v.all isPlainPart

/-- JSON data is plain; so are numbers that JSON has no text for. -/
theorem isPlain_of_isJson {v : Value} (json : v.isJson = true) : v.isPlain = true := by
  refine all_mono (fun part allowed => ?_) v json
  cases part <;> first | rfl | exact allowed

theorem eq_list_of_isPlain {v : Value} (plain : v.isPlain = true) {items : List Value} (sequence : v.items? = some items) :
    v = .list items := by
  cases v with
  | list _ => cases sequence; rfl
  | tuple _ | ring _ _ => cases plain
  | _ => cases sequence

theorem eq_map_of_isPlain {v : Value} (plain : v.isPlain = true) {entries : Entries} (mapping : v.mapping? = some entries) :
    v = .map entries := by
  cases v with
  | map _ => cases mapping; rfl
  | view _ | ring _ _ => cases plain
  | _ => cases mapping

end Value

namespace Proofs.PlainData
open Validation

variable {catalogs : Catalogs}

variable (catalogs) in
/-- What each function of a run makes of plain data in which it finds nothing wrong. Nothing is said of
runs, since there are none without references. -/
def motives : Motives where
  ofValue mode scope t v path := t.references = [] → v.isPlain = true →
    ∀ c, check catalogs mode scope t v path = .ok c → c.violations = [] → c.value = v
  ofRun _ _ _ _ _ _ := True
  ofFields _ _ _ _ _ := True
  ofVariants mode scope variants v path := (∀ t ∈ variants, t.references = []) → v.isPlain = true →
    ∀ c, checkVariants catalogs mode scope variants v path = .ok (some c) → c.value = v
  ofEntries mode scope key value path entries := value.references = [] → (∀ e ∈ entries, e.2.isPlain = true) →
    ∀ checked, checkEntries catalogs mode scope key value path entries = .ok (checked, []) → checked = entries
  ofItems mode scope t path index items := t.references = [] → (∀ v ∈ items, v.isPlain = true) →
    ∀ checked, checkItems catalogs mode scope t path index items = .ok (checked, []) → checked = items

private theorem array_plain (mode : Mode) (scope : Scope) (element : SchemaType) (cs : List Constraint) (v : Value) (path : Path)
    (ofItems : ∀ items, v.items? = some items → (motives catalogs).ofItems mode scope element path 0 items) :
    (motives catalogs).ofValue mode scope (.array element cs) v path := by
  intro alone plain c checked clean
  obtain ⟨-, rfl⟩ | ⟨items, own, ⟨inner, violations⟩, found, -, each, rfl⟩ := check_array_eq_ok.mp checked
  · cases clean
  · obtain ⟨-, rfl⟩ := List.append_eq_nil_iff.mp clean
    have whole : v = .list items := Value.eq_list_of_isPlain plain found
    subst whole
    have kept : inner = items := ofItems items found alone (Value.all_of_mem_list plain) inner each
    exact congrArg Value.list kept

private theorem map_plain (mode : Mode) (scope : Scope) (key value : SchemaType) (cs : List Constraint) (v : Value) (path : Path)
    (ofEntries : ∀ entries, v.mapping? = some entries → (motives catalogs).ofEntries mode scope key value path entries) :
    (motives catalogs).ofValue mode scope (.map key value cs) v path := by
  intro alone plain c checked clean
  obtain ⟨-, rfl⟩ | ⟨entries, own, ⟨inner, violations⟩, found, -, each, rfl⟩ := check_map_eq_ok.mp checked
  · cases clean
  · obtain ⟨-, rfl⟩ := List.append_eq_nil_iff.mp clean
    have whole : v = .map entries := Value.eq_map_of_isPlain plain found
    subst whole
    obtain ⟨-, ofValues⟩ := List.append_eq_nil_iff.mp alone
    have values : ∀ e ∈ entries, e.2.isPlain = true := Value.all_of_mem_map plain
    have kept : inner = entries := ofEntries entries found ofValues values inner each
    exact congrArg Value.map kept

private theorem step : Cases catalogs (motives catalogs) where
  primitive mode scope kind cs v path := by
    intro alone plain c checked clean
    obtain ⟨-, rfl⟩ | ⟨-, own, -, rfl⟩ := check_primitive_eq_ok.mp checked
    · cases clean
    · rfl
  array := array_plain
  map := map_plain
  union mode scope variants cs v path ofVariants := by
    intro alone plain c checked clean
    rw [check] at checked
    obtain ⟨first, chosen, checked⟩ := Except.bind_eq_ok.mp checked
    cases first with
    | none =>
      cases checked
      cases clean
    | some first =>
      cases checked
      refine ofVariants (fun t member => ?_) plain _ chosen
      refine List.eq_nil_iff_forall_not_mem.mpr fun r inside => ?_
      have mentioned : r ∈ SchemaType.referencesOf variants := SchemaType.mem_referencesOf.mpr ⟨t, member, inside⟩
      rw [show SchemaType.referencesOf variants = [] from alone] at mentioned
      cases mentioned
  ref mode scope name target v path _ := by
    intro alone
    cases alone
  run _ _ _ _ _ _ _ := trivial
  noField _ _ _ _ := trivial
  field _ _ _ _ _ _ _ _ := trivial
  noVariant mode scope v path := by
    intro alone plain c chosen
    rw [checkVariants] at chosen
    cases chosen
  variant mode scope t rest v path ofValue ofRest := by
    intro alone plain c chosen
    obtain ⟨first, checked, ⟨clean, same⟩ | ⟨-, chosen⟩⟩ := checkVariants_cons_eq_ok.mp chosen
    · cases same
      exact ofValue (alone t List.mem_cons_self) plain _ checked clean
    · exact ofRest (fun u member => alone u (List.mem_cons_of_mem _ member)) plain c chosen
  noEntry mode scope key value path := by
    intro alone plain checked each
    rw [checkEntries] at each
    cases each
    rfl
  entry mode scope key value path k v rest _ ofValue ofRest := by
    intro alone plain checked each
    obtain ⟨-, ofKey, c, ⟨others, violations⟩, -, first, remaining, same⟩ := checkEntries_cons_eq_ok.mp each
    obtain ⟨rfl, none⟩ := Prod.mk.inj same
    obtain ⟨silent, rfl⟩ := List.append_eq_nil_iff.mp none.symm
    obtain ⟨-, clean⟩ := List.append_eq_nil_iff.mp silent
    obtain ⟨here, later⟩ := List.forall_mem_cons.mp plain
    rw [ofValue alone here c first clean, ofRest alone later others remaining]
  noItem mode scope t path index := by
    intro alone plain checked each
    rw [checkItems] at each
    cases each
    rfl
  item mode scope t path index v rest ofValue ofRest := by
    intro alone plain checked each
    obtain ⟨c, ⟨others, violations⟩, first, remaining, same⟩ := checkItems_cons_eq_ok.mp each
    obtain ⟨rfl, none⟩ := Prod.mk.inj same
    obtain ⟨clean, rfl⟩ := List.append_eq_nil_iff.mp none.symm
    obtain ⟨here, later⟩ := List.forall_mem_cons.mp plain
    rw [ofValue alone here c first clean, ofRest alone later others remaining]

/-- Plain data comes out of a check as it went in, if the type has no references and nothing is wrong. -/
theorem check_unaltered {mode : Mode} {scope : Scope} {t : SchemaType} (alone : t.references = []) {v : Value} (plain : v.isPlain = true)
    {path : Path} {c : Checked} (checked : check catalogs mode scope t v path = .ok c) (clean : c.violations = []) :
    c.value = v :=
  step.all.1 mode scope t v path alone plain c checked clean

theorem check_plain {mode : Mode} {scope : Scope} {t : SchemaType} (alone : t.references = []) {v : Value} (json : v.isJson = true)
    {path : Path} {c : Checked} (checked : check catalogs mode scope t v path = .ok c) (clean : c.violations = []) :
    c.value = v :=
  check_unaltered alone (Value.isPlain_of_isJson json) checked clean

end Proofs.PlainData
end RecordSchema
