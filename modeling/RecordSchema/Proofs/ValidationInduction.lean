import RecordSchema.Validation.Check

/-! The functions of a validation run call each other, always on a smaller part of the data or of
the type. Main statement: `Cases.all`, one induction over all of them, so that what is proved of a
run is proved one step at a time. -/

namespace RecordSchema

/-- What a target is read as when data is checked by it. -/
def Target.forRun : Target → Except Fault (Schema × Gaps)
  | .schema s => .ok (s, {})
  | .lookalike _ _ forData _ gaps => forData.map (·, gaps)

namespace Validation

variable {catalogs : Catalogs} {mode : Mode} {rounds : Nat} {scope : Scope} {name : Name} {target : Option Target} {v : Value}
  {path : Path}

theorem check_array_mismatch {element : SchemaType} {cs : List Constraint} (noSequence : v.items? = none) :
    check catalogs mode scope (.array element cs) v path =
      .ok (.mismatch (SchemaType.array element cs).describe v path) := by
  rw [check]
  split
  next => rfl
  next _ found => rw [noSequence] at found; cases found

theorem check_array_found {element : SchemaType} {cs : List Constraint} {items : List Value} (found : v.items? = some items) :
    check catalogs mode scope (.array element cs) v path = do
      let own ← ownViolations mode cs v path
      let checked ← checkItems catalogs mode scope element path 0 items
      return ⟨.list checked.1, own ++ checked.2⟩ := by
  rw [check]
  split
  next none => rw [found] at none; cases none
  next _ again =>
    rw [found] at again
    cases again
    rfl

theorem check_map_mismatch {key value : SchemaType} {cs : List Constraint} (noMapping : v.mapping? = none) :
    check catalogs mode scope (.map key value cs) v path =
      .ok (.mismatch (SchemaType.map key value cs).describe v path) := by
  rw [check]
  split
  next => rfl
  next _ found => rw [noMapping] at found; cases found

theorem check_map_found {key value : SchemaType} {cs : List Constraint} {entries : Entries} (found : v.mapping? = some entries) :
    check catalogs mode scope (.map key value cs) v path = do
      let own ← ownViolations mode cs (.map entries) path
      let checked ← checkEntries catalogs mode scope key value path entries
      return ⟨.map checked.1, own ++ checked.2⟩ := by
  rw [check]
  split
  next none => rw [found] at none; cases none
  next _ again =>
    rw [found] at again
    cases again
    rfl

/-- The first variant that is clean counts, if there is one. -/
theorem check_union (variants : List SchemaType) (cs : List Constraint) :
    check catalogs mode scope (.union variants cs) v path =
      (·.getD (.mismatch (SchemaType.union variants cs).describe v path)) <$> checkVariants catalogs mode scope variants v path := by
  rw [check, map_eq_pure_bind]
  refine bind_congr fun first => ?_
  cases first <;> rfl

theorem check_ref_unresolved (lost : scope.lookup? catalogs name target = none) :
    check catalogs mode scope (.ref name target) v path = .ok (.unresolved name v path) := by
  rw [check, lost]
  rfl

theorem check_ref_mismatch {found : Target} (resolved : scope.lookup? catalogs name target = some found)
    (noMapping : v.mapping? = none) :
    check catalogs mode scope (.ref name target) v path =
      .ok (.mismatch (SchemaType.ref name target).describe v path) := by
  rw [check, resolved]
  simp only [noMapping]
  rfl

/-- Of the shape of a value under a reference no more is checked than that it is a map. -/
theorem check_ref_shape {found : Target} {entries : Entries} (resolved : scope.lookup? catalogs name target = some found)
    (mapping : v.mapping? = some entries) :
    check catalogs .shape scope (.ref name target) v path = .ok (.clean (.map entries)) := by
  rw [check, resolved]
  simp only [mapping]
  rfl

/-- In full, a reference runs the stages of what it resolves to, with the catalog in effect around it. -/
theorem check_ref_found {found : Target} {entries : Entries} (resolved : scope.lookup? catalogs name target = some found)
    (mapping : v.mapping? = some entries) :
    check catalogs (.full rounds) scope (.ref name target) v path = found.forRun >>= fun (s, gaps) =>
      Checked.ofRun <$> run catalogs rounds s gaps v path scope.catalog := by
  rw [check, resolved]
  simp only [mapping]
  cases found with
  | schema s => rfl
  | lookalike serial thing forData forDocument gaps => cases forData <;> rfl

/-- One property of each function of a run. -/
structure Motives where
  ofValue : Mode → Scope → SchemaType → Value → Path → Prop
  ofRun : Nat → Schema → Gaps → Value → Path → Option CatalogId → Prop
  ofFields : Nat → Scope → Path → Entries → List Field → Prop
  ofVariants : Mode → Scope → List SchemaType → Value → Path → Prop
  ofEntries : Mode → Scope → SchemaType → SchemaType → Path → Entries → Prop
  ofItems : Mode → Scope → SchemaType → Path → Nat → List Value → Prop

/-- Each property holds of a call if the properties hold of the calls that it makes. -/
structure Cases (catalogs : Catalogs) (motives : Motives) : Prop where
  primitive : ∀ mode scope kind cs v path, motives.ofValue mode scope (.primitive kind cs) v path
  array : ∀ mode scope element cs v path,
    (∀ items, v.items? = some items → motives.ofItems mode scope element path 0 items) →
    motives.ofValue mode scope (.array element cs) v path
  map : ∀ mode scope key value cs v path,
    (∀ entries, v.mapping? = some entries → motives.ofEntries mode scope key value path entries) →
    motives.ofValue mode scope (.map key value cs) v path
  union : ∀ mode scope variants cs v path, motives.ofVariants mode scope variants v path →
    motives.ofValue mode scope (.union variants cs) v path
  ref : ∀ mode scope name target v path,
    (∀ rounds found s gaps, mode = .full rounds → v.isMapping = true → scope.lookup? catalogs name target = some found →
      found.forRun = .ok (s, gaps) → motives.ofRun rounds s gaps v path scope.catalog) →
    motives.ofValue mode scope (.ref name target) v path
  run : ∀ rounds s gaps v path catalog,
    (∀ entries left, v.mapping? = some entries → v.roundsAfter rounds = some left →
      motives.ofFields left ⟨some s, s.catalog.or catalog⟩ path entries s.regularFields ∧
        ∀ t w place, motives.ofValue .shape ⟨some s, s.catalog.or catalog⟩ t w place) →
    motives.ofRun rounds s gaps v path catalog
  noField : ∀ rounds scope path entries, motives.ofFields rounds scope path entries []
  field : ∀ rounds scope path entries f rest,
    (∀ v, entries.field? f.name.label = some v →
      motives.ofValue (.full rounds) scope f.type v (path ++ [.name f.name.label])) →
    motives.ofFields rounds scope path entries rest → motives.ofFields rounds scope path entries (f :: rest)
  noVariant : ∀ mode scope v path, motives.ofVariants mode scope [] v path
  variant : ∀ mode scope t rest v path, motives.ofValue mode scope t v path →
    motives.ofVariants mode scope rest v path → motives.ofVariants mode scope (t :: rest) v path
  noEntry : ∀ mode scope key value path, motives.ofEntries mode scope key value path []
  entry : ∀ mode scope key value path k v rest,
    motives.ofValue mode scope key k (path ++ [k.keyStep]) →
    motives.ofValue mode scope value v (path ++ [k.keyStep]) →
    motives.ofEntries mode scope key value path rest →
    motives.ofEntries mode scope key value path ((k, v) :: rest)
  noItem : ∀ mode scope t path index, motives.ofItems mode scope t path index []
  item : ∀ mode scope t path (index : Nat) v rest, motives.ofValue mode scope t v (path ++ [.index index]) →
    motives.ofItems mode scope t path (index + 1) rest →
    motives.ofItems mode scope t path index (v :: rest)

/-- A reference without a run of its own keeps the property by itself. -/
theorem Cases.ref_alone {motives : Motives} (step : Cases catalogs motives)
    (alone : ∀ rounds found s gaps, mode = .full rounds → v.isMapping = true → scope.lookup? catalogs name target = some found →
      found.forRun ≠ .ok (s, gaps)) : motives.ofValue mode scope (.ref name target) v path :=
  step.ref mode scope name target v path fun rounds found s gaps full mapping resolved read =>
    absurd read (alone rounds found s gaps full mapping resolved)

/-- All properties hold if each step keeps them. A run is well-founded, since a reference reaches
the same value again only through the fields of a schema, and data without end only through one round less. -/
theorem Cases.all {motives : Motives} (step : Cases catalogs motives) :
    (∀ mode scope t v path, motives.ofValue mode scope t v path) ∧
    (∀ rounds s gaps v path catalog, motives.ofRun rounds s gaps v path catalog) := by
  have all := check.mutual_induct catalogs motives.ofValue motives.ofRun motives.ofFields
    motives.ofVariants motives.ofEntries motives.ofItems
  refine (fun held => ⟨held.1, held.2.1⟩) (all ?_ ?_ ?_ ?_ ?_ ?_ ?_ ?_ ?_ ?_ ?_ ?_ ?_ ?_ ?_ ?_
    step.noField ?_ ?_ step.noVariant ?_ step.noEntry ?_ step.noItem ?_)
  case refine_1 | refine_2 => exact fun mode scope v path kind cs _ => step.primitive mode scope kind cs v path
  case refine_3 =>
    intro mode scope v path element cs none
    exact step.array mode scope element cs v path fun items found => by rw [none] at found; cases found
  case refine_4 =>
    intro mode scope v path element cs items some held
    exact step.array mode scope element cs v path fun _ found => by rw [some] at found; cases found; exact held
  case refine_5 =>
    intro mode scope v path key value cs none
    exact step.map mode scope key value cs v path fun entries found => by rw [none] at found; cases found
  case refine_6 =>
    intro mode scope v path key value cs entries some held
    exact step.map mode scope key value cs v path fun _ found => by rw [some] at found; cases found; exact held
  case refine_7 => exact fun mode scope v path variants cs => step.union mode scope variants cs v path
  case refine_8 =>
    intro mode scope v path name target lost
    exact step.ref_alone fun _ _ _ _ _ _ found => by rw [lost] at found; cases found
  case refine_9 =>
    intro mode scope v path name target found resolved noMapping
    exact step.ref_alone fun _ _ _ _ _ mapping => by simp [Value.isMapping, noMapping] at mapping
  case refine_10 =>
    intro scope v path name target found resolved entries mapping
    exact step.ref_alone fun _ _ _ _ impossible => nomatch impossible
  case refine_11 =>
    intro scope v path name target entries mapping rounds serial thing fault forDocument gaps resolved
    refine step.ref_alone fun _ _ _ _ _ _ found read => ?_
    rw [resolved] at found
    cases found
    cases read
  case refine_12 | refine_13 =>
    intros
    rename_i resolved held
    refine step.ref _ _ _ _ _ _ fun _ _ _ _ full _ found read => ?_
    rw [resolved] at found
    cases full
    cases found
    cases read
    exact held
  case refine_14 =>
    intro rounds s gaps v path catalog none
    exact step.run rounds s gaps v path catalog fun entries left found => by rw [none] at found; cases found
  case refine_15 =>
    intro rounds s gaps v path catalog entries some out
    exact step.run rounds s gaps v path catalog fun _ left _ spent => by rw [out] at spent; cases spent
  case refine_16 =>
    intro rounds s gaps v path catalog entries left some spent _ ofFields ofShapes
    refine step.run rounds s gaps v path catalog fun _ _ found other => ?_
    rw [some] at found
    rw [spent] at other
    cases found
    cases other
    exact ⟨ofFields, ofShapes⟩
  case refine_17 =>
    intro rounds scope path entries f rest _ v some ofValue
    exact step.field rounds scope path entries f rest fun _ found => by rw [some] at found; cases found; exact ofValue
  case refine_18 =>
    intro rounds scope path entries f rest none
    exact step.field rounds scope path entries f rest fun v found => by rw [none] at found; cases found
  case refine_19 => exact fun mode scope v path t rest => step.variant mode scope t rest v path
  case refine_20 =>
    exact fun mode scope key value path k v rest ofKey ofValue =>
      step.entry mode scope key value path k v rest (ofKey _) (ofValue _)
  case refine_21 => exact fun mode scope t path index v rest => step.item mode scope t path index v rest

end Validation
end RecordSchema
