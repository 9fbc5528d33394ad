import RecordSchema.Proofs.Inlining

/-! Resolving in two goes. What is resolved so deep and, with its definitions put back, deeper comes to what is
resolved as deep at once: a reference is left exactly where all depth is used up, and its expansion goes on there.
Main statements: `mergeBeside_assoc`, `resolveTo_add`. -/

namespace RecordSchema

namespace Entries

variable {entries : Entries} {name other : String} {v w : Value}

theorem put_str (entries : Entries) (name : String) (v : Value) : entries.put (.str name) v = entries.setField name v := by
  have same (k : Value) : k.same (.str name) = true ↔ k.str? = some name := by
    constructor
    · exact str?_eq_of_same
    · intro text
      cases k with
      | str s => cases text; simp [Value.same, Value.equalAt]; rfl
      | member m => cases text; simp [Value.same, Value.equalAt]; rfl
      | _ => cases text
  induction entries with
  | nil => rfl
  | cons first rest ih =>
    obtain ⟨k, w⟩ := first
    by_cases here : k.str? = some name
    · rw [put, setField, if_pos here, if_pos ((same k).mpr here)]
    · rw [put, setField, if_neg here, if_neg (here ∘ (same k).mp), ih]

theorem setField_setField (entries : Entries) (name : String) (v w : Value) :
    (entries.setField name v).setField name w = entries.setField name w := by
  induction entries with
  | nil => simp [setField, Value.str?]
  | cons first rest ih =>
    obtain ⟨k, u⟩ := first
    by_cases here : k.str? = some name
    · simp only [setField, if_pos here]
    · simp only [setField, if_neg here, ih]

/-- An entry that is there already keeps its place, so another one can be set before or after it. -/
theorem setField_comm (present : entries.hasField name = true) (differ : other ≠ name) :
    (entries.setField other v).setField name w = (entries.setField name w).setField other v := by
  induction entries with
  | nil => cases present
  | cons first rest ih =>
    obtain ⟨k, u⟩ := first
    by_cases here : k.str? = some name
    · have apart : k.str? ≠ some other := fun text => differ (Option.some.inj (text.symm.trans here))
      simp only [setField, if_pos here, if_neg apart]
    · rw [hasField, field?, if_neg here] at present
      by_cases there : k.str? = some other
      · simp only [setField, if_pos there, if_neg here]
      · simp only [setField, if_neg here, if_neg there, ih present]

theorem hasField_setField_self : (entries.setField name v).hasField name = true := by
  rw [hasField, field?_setField_self]
  rfl

theorem hasField_setField_of_ne (differ : other ≠ name) : (entries.setField name v).hasField other = entries.hasField other := by
  rw [hasField, field?_setField_of_ne entries v differ, hasField]

theorem hasField_setField (present : entries.hasField other = true) : (entries.setField name v).hasField other = true := by
  by_cases same : other = name
  · rw [same]
    exact hasField_setField_self
  · rw [hasField_setField_of_ne same, present]

end Entries

namespace Document
open Entries

section Merging
variable {options : ResolutionOptions} {schema target beside : Entries} {name other : String} {v w : Value}

/-- Puts one keyword on top of a schema, unless the schema's own counts. -/
def lay (options : ResolutionOptions) (schema : Entries) (name : String) (v : Value) : Entries :=
  if options.isDropped schema name then schema else schema.setField name v

/-- Whether a keyword gives way to one that is there. -/
def yields (options : ResolutionOptions) (name : String) : Bool :=
  name = "title" && !options.preserveTitles || name = "description" && !options.preserveDescriptions

theorem isDropped_eq (options : ResolutionOptions) (schema : Entries) (name : String) :
    options.isDropped schema name = (name = "$ref" || yields options name && schema.hasField name) := by
  unfold ResolutionOptions.isDropped yields
  split
  · rfl
  · simp
  · simp
  next pointer title description =>
    rw [decide_eq_false pointer, decide_eq_false title, decide_eq_false description]
    rfl

theorem lay_pointer (options : ResolutionOptions) (schema : Entries) (v : Value) : lay options schema "$ref" v = schema := rfl

theorem isDropped_of_ne (other : name ≠ "$ref") (schema : Entries) :
    options.isDropped schema name = (yields options name && schema.hasField name) := by
  rw [isDropped_eq, decide_eq_false other, Bool.false_or]

theorem hasField_lay_self (other : name ≠ "$ref") : (lay options schema name v).hasField name = true := by
  rw [lay, isDropped_of_ne other]
  split
  next present => exact (Bool.and_eq_true_iff.mp present).2
  next => exact hasField_setField_self

theorem lay_cons_of_ne (differ : other ≠ name) :
    lay options ((.str other, v) :: schema) name w = (.str other, v) :: lay options schema name w := by
  have apart : (Value.str other).str? ≠ some name := fun text => differ (Option.some.inj text)
  have same : hasField ((.str other, v) :: schema) name = schema.hasField name := by rw [hasField, field?, if_neg apart, hasField]
  have dropped : options.isDropped ((.str other, v) :: schema) name = options.isDropped schema name := by
    rw [isDropped_eq, isDropped_eq, same]
  rw [lay, lay, dropped, Entries.setField, if_neg apart]
  split <;> rfl

/-- Of two values that are put under one keyword, the same one counts in a schema and on top of another. -/
theorem lay_twice (other : name ≠ "$ref") (target rest : Entries) (v w : Value) :
    ∃ u, lay options ((.str name, v) :: rest) name w = (.str name, u) :: rest ∧
      lay options (lay options target name v) name w = lay options target name u := by
  have here : hasField ((.str name, v) :: rest) name = true := by simp [hasField, field?, Value.str?]
  have there : (lay options target name v).hasField name = true := hasField_lay_self other
  have dropped {schema : Entries} (present : schema.hasField name = true) : options.isDropped schema name = yields options name := by
    rw [isDropped_of_ne other, present, Bool.and_true]
  rw [lay, lay.eq_def options (lay options target name v), dropped here, dropped there]
  cases weak : yields options name with
  | true => exact ⟨v, rfl, rfl⟩
  | false =>
    have strong (schema : Entries) (u : Value) : lay options schema name u = schema.setField name u := by
      rw [lay, isDropped_of_ne other, weak]
      rfl
    refine ⟨w, by simp [Entries.setField, Value.str?], ?_⟩
    rw [strong, strong]
    exact setField_setField target name v w

theorem mergeBeside_cons : mergeBeside options.isDropped target ((.str name, v) :: beside) =
    mergeBeside options.isDropped (lay options target name v) beside := by
  show mergeBeside _ (if options.isDropped target name then target else target.put (.str name) v) _ = _
  rw [put_str, lay]

theorem hasField_lay (present : schema.hasField name = true) : (lay options schema other v).hasField name = true := by
  unfold lay
  split
  · exact present
  · exact hasField_setField present

theorem lay_comm (present : schema.hasField name = true) (differ : other ≠ name) :
    lay options (lay options schema other v) name w = lay options (lay options schema name w) other v := by
  have kept {k : String} {u : Value} {l : String} (apart : l ≠ k) : (lay options schema k u).hasField l = schema.hasField l := by
    unfold lay
    split
    · rfl
    · exact hasField_setField_of_ne apart
  have first : options.isDropped (lay options schema other v) name = options.isDropped schema name := by
    rw [isDropped_eq, isDropped_eq, kept differ.symm]
  have second : options.isDropped (lay options schema name w) other = options.isDropped schema other := by
    rw [isDropped_eq, isDropped_eq, kept differ]
  rw [lay, first, lay.eq_def options (lay options schema name w), second]
  unfold lay
  split <;> split <;> first | rfl | exact setField_comm present differ

/-- The keys of a schema are text, and no two are the same. -/
structure Keyed (schema : Entries) : Prop where
  text : ∀ e ∈ schema, ∃ name, e.1 = .str name
  distinct : (labels schema).Nodup

theorem Keyed.tail {e : Value × Value} (keyed : Keyed (e :: schema)) : Keyed schema := by
  refine ⟨fun e member => keyed.text e (List.mem_cons_of_mem _ member), ?_⟩
  exact List.Nodup.sublist ((List.sublist_cons_self _ _).filterMap _) keyed.distinct

theorem Keyed.fresh (keyed : Keyed ((.str name, v) :: schema)) : name ∉ labels schema :=
  (List.nodup_cons.mp keyed.distinct).1

theorem Keyed.absent_later (keyed : Keyed ((.str name, v) :: schema)) : schema.field? name = none :=
  Option.not_isSome_iff_eq_none.mp fun found => keyed.fresh (mem_labels.mpr found)

theorem labels_setField_of_present (present : schema.hasField name = true) : labels (schema.setField name v) = labels schema := by
  induction schema with
  | nil => cases present
  | cons first rest ih =>
    obtain ⟨k, u⟩ := first
    by_cases here : k.str? = some name
    · rw [setField, if_pos here]
      simp only [labels, List.filterMap_cons]
    · rw [hasField, field?, if_neg here] at present
      rw [setField, if_neg here]
      have rest := ih present
      simp only [labels] at rest ⊢
      simp only [List.filterMap_cons, rest]

theorem Keyed.setField (keyed : Keyed schema) (name : String) (v : Value) : Keyed (schema.setField name v) := by
  cases present : schema.hasField name with
  | true =>
    refine ⟨fun e member => ?_, by rw [labels_setField_of_present present]; exact keyed.distinct⟩
    have text := keyed.text
    clear keyed
    induction schema with
    | nil => cases present
    | cons first rest ih =>
      obtain ⟨k, u⟩ := first
      obtain ⟨here, later⟩ := List.forall_mem_cons.mp text
      rw [Entries.setField] at member
      split at member
      next =>
        obtain rfl | member := List.mem_cons.mp member
        · exact here
        · exact later e member
      next apart =>
        rw [hasField, field?, if_neg apart] at present
        obtain rfl | member := List.mem_cons.mp member
        · exact here
        · exact ih present member later
  | false =>
    have absent : schema.field? name = none := Option.not_isSome_iff_eq_none.mp (by rw [← hasField, present]; decide)
    rw [setField_of_absent v absent]
    refine ⟨List.forall_mem_append.mpr ⟨keyed.text, List.forall_mem_singleton.mpr ⟨name, rfl⟩⟩, ?_⟩
    have listed : labels (schema ++ [(.str name, v)]) = labels schema ++ [name] := by
      rw [labels, List.filterMap_append]
      rfl
    rw [listed]
    refine List.nodup_append.mpr ⟨keyed.distinct, List.pairwise_singleton _ _, fun other before last single same => ?_⟩
    subst same
    cases List.mem_singleton.mp single
    rw [mem_labels, present] at before
    cases before

theorem Keyed.field?_update (keyed : Keyed beside) (target : Entries) (name : String) :
    (target.update beside).field? name = (beside.field? name).or (target.field? name) := by
  induction beside generalizing target with
  | nil => rfl
  | cons e rest ih =>
    obtain ⟨key, v⟩ := e
    obtain ⟨own, rfl⟩ := keyed.text (key, v) List.mem_cons_self
    have later : (target.update ((.str own, v) :: rest)).field? name = (Entries.field? rest name).or ((target.setField own v).field? name) := by
      rw [← put_str]
      exact ih keyed.tail _
    rw [later, field?]
    by_cases same : own = name
    · subst same
      have absent : Entries.field? rest own = none := keyed.absent_later
      simp [absent, field?_setField_self, Value.str?]
    · have apart : ¬ (Value.str own).str? = some name := fun text => same (Option.some.inj text)
      rw [if_neg apart, field?_setField_of_ne target v (Ne.symm same)]

theorem Keyed.update (first : Keyed target) (text : ∀ e ∈ beside, ∃ name, e.1 = .str name) : Keyed (target.update beside) := by
  induction beside generalizing target with
  | nil => exact first
  | cons e rest ih =>
    obtain ⟨key, v⟩ := e
    obtain ⟨⟨name, rfl⟩, later⟩ := List.forall_mem_cons.mp text
    show Keyed (Entries.update (Entries.put target (.str name) v) rest)
    rw [put_str]
    exact ih (first.setField name v) later

theorem Keyed.dropField (keyed : Keyed schema) (keyword : String) : Keyed (schema.dropField keyword) :=
  ⟨fun e member => keyed.text e (List.mem_filter.mp member).1, keyed.distinct.sublist (List.filter_sublist.filterMap _)⟩

theorem Keyed.lay (keyed : Keyed schema) (name : String) (v : Value) : Keyed (lay options schema name v) := by
  unfold Document.lay
  split
  · exact keyed
  · exact keyed.setField name v

theorem Keyed.mergeBeside (first : Keyed target) (second : Keyed beside) : Keyed (mergeBeside options.isDropped target beside) := by
  induction beside generalizing target with
  | nil => exact first
  | cons e rest ih =>
    obtain ⟨key, v⟩ := e
    obtain ⟨name, rfl⟩ := second.text (key, v) List.mem_cons_self
    rw [mergeBeside_cons]
    exact ih (first.lay name v) second.tail

/-- What stands under a keyword of a schema on top of another, given what stands under it in both. -/
def upon (options : ResolutionOptions) (name : String) (beside target : Option Value) : Option Value :=
  if name = "$ref" then target else if yields options name then target.or beside else beside.or target

theorem upon_none (name : String) (found : Option Value) : upon options name none found = found := by
  simp [upon]

theorem field?_lay (options : ResolutionOptions) (schema : Entries) (name : String) (v : Value) (other : String) :
    (lay options schema name v).field? other =
      if other = name then upon options name (some v) (schema.field? name) else schema.field? other := by
  by_cases same : other = name
  · subst same
    rw [if_pos rfl, upon]
    by_cases pointer : other = "$ref"
    · rw [if_pos pointer, pointer, lay_pointer]
    · rw [if_neg pointer, lay, isDropped_of_ne pointer, Entries.hasField]
      cases yields options other <;> cases found : schema.field? other <;> simp [found, field?_setField_self]
  · rw [if_neg same, lay]
    split
    · rfl
    · exact field?_setField_of_ne schema v same

theorem Keyed.field?_mergeBeside (keyed : Keyed beside) (target : Entries) (name : String) :
    (Document.mergeBeside options.isDropped target beside).field? name = upon options name (beside.field? name) (target.field? name) := by
  induction beside generalizing target with
  | nil => exact (upon_none name _).symm
  | cons e rest ih =>
    obtain ⟨key, v⟩ := e
    obtain ⟨own, rfl⟩ := keyed.text (key, v) List.mem_cons_self
    rw [mergeBeside_cons, ih keyed.tail, field?_lay, field?]
    by_cases same : name = own
    · subst same
      have absent : Entries.field? rest name = none := keyed.absent_later
      rw [absent, upon_none, if_pos rfl, Value.str?, if_pos rfl]
    · have apart : ¬ (Value.str own).str? = some name := fun text => same (Option.some.inj text).symm
      rw [if_neg same, if_neg apart]

/-- A keyword that is there, and comes no more, can be put on top before or after the others. -/
theorem lay_mergeBeside_comm (keyed : Keyed beside) (present : target.hasField name = true) (absent : name ∉ labels beside) :
    lay options (mergeBeside options.isDropped target beside) name w = mergeBeside options.isDropped (lay options target name w) beside := by
  induction beside generalizing target with
  | nil => rfl
  | cons e rest ih =>
    obtain ⟨key, v⟩ := e
    obtain ⟨other, rfl⟩ := keyed.text (key, v) List.mem_cons_self
    have differ : other ≠ name := fun same => absent (same ▸ List.mem_cons_self)
    rw [mergeBeside_cons, mergeBeside_cons, ih keyed.tail (hasField_lay present) fun later => absent (List.mem_cons_of_mem _ later)]
    rw [lay_comm present differ]

/-- It makes no difference whether a keyword is put on top of a schema before or after this goes on top of another. -/
theorem mergeBeside_lay (keyed : Keyed beside) (target : Entries) (name : String) (v : Value) :
    mergeBeside options.isDropped target (lay options beside name v) = lay options (mergeBeside options.isDropped target beside) name v := by
  by_cases pointer : name = "$ref"
  · subst pointer
    rw [lay_pointer, lay_pointer]
  induction beside generalizing target with
  | nil =>
    have alone : lay options [] name v = [(.str name, v)] := by
      rw [lay, isDropped_of_ne pointer, hasField, field?, Option.isSome_none, Bool.and_false]
      rfl
    rw [alone, mergeBeside_cons]
    rfl
  | cons e rest ih =>
    obtain ⟨key, w⟩ := e
    obtain ⟨other, rfl⟩ := keyed.text (key, w) List.mem_cons_self
    by_cases same : other = name
    · subst same
      obtain ⟨u, here, there⟩ := lay_twice pointer target rest w v
      rw [here, mergeBeside_cons, mergeBeside_cons, lay_mergeBeside_comm keyed.tail (hasField_lay_self pointer) keyed.fresh, there]
    · rw [lay_cons_of_ne same, mergeBeside_cons, mergeBeside_cons, ih keyed.tail]

/-- Putting schemas on top of each other is associative. -/
theorem mergeBeside_assoc (target : Entries) {middle : Entries} (first : Keyed middle) (second : Keyed beside) :
    mergeBeside options.isDropped target (mergeBeside options.isDropped middle beside) =
      mergeBeside options.isDropped (mergeBeside options.isDropped target middle) beside := by
  induction beside generalizing middle with
  | nil => rfl
  | cons e rest ih =>
    obtain ⟨key, v⟩ := e
    obtain ⟨name, rfl⟩ := second.text (key, v) List.mem_cons_self
    rw [mergeBeside_cons, mergeBeside_cons, ih (first.lay name v) second.tail, mergeBeside_lay first]

end Merging

section Walks
variable {options : ResolutionOptions} {schema target beside : Entries} {plain : Entries → Entries} {name : String} {v : Value}

theorem rebuiltUnder_of_text {key : Value} (text : key.str? = some name) : rebuiltUnder plain key v = rebuiltUnder plain (.str name) v := by
  have shape : KeywordShape.ofKey? key = KeywordShape.ofKey? (.str name) := congrArg (Option.bind · _) text
  unfold rebuiltUnder
  rw [shape]

theorem rebuiltEntries_setField :
    rebuiltEntries plain (schema.setField name v) = (rebuiltEntries plain schema).setField name (rebuiltUnder plain (.str name) v) := by
  induction schema with
  | nil => rfl
  | cons e rest ih =>
    obtain ⟨k, w⟩ := e
    show _ = Entries.setField ((k, rebuiltUnder plain k w) :: rebuiltEntries plain rest) name _
    rw [Entries.setField, Entries.setField]
    split
    next here =>
      rw [← rebuiltUnder_of_text here]
      rfl
    next => exact congrArg (List.cons _) ih

theorem rebuiltEntries_lay :
    rebuiltEntries plain (lay options schema name v) = lay options (rebuiltEntries plain schema) name (rebuiltUnder plain (.str name) v) := by
  have same : (rebuiltEntries plain schema).hasField name = schema.hasField name := by
    rw [hasField, field?_rebuilt, Option.isSome_map, hasField]
  have dropped : options.isDropped (rebuiltEntries plain schema) name = options.isDropped schema name := by
    rw [isDropped_eq, isDropped_eq, same]
  rw [lay, lay, dropped]
  split
  · rfl
  · exact rebuiltEntries_setField

/-- Changing the schemas below two schemas, and putting one on top of the other. -/
theorem rebuiltEntries_mergeBeside (keyed : Keyed beside) :
    rebuiltEntries plain (mergeBeside options.isDropped target beside) =
      mergeBeside options.isDropped (rebuiltEntries plain target) (rebuiltEntries plain beside) := by
  induction beside generalizing target with
  | nil => rfl
  | cons e rest ih =>
    obtain ⟨key, v⟩ := e
    obtain ⟨name, rfl⟩ := keyed.text (key, v) List.mem_cons_self
    show _ = mergeBeside _ _ ((.str name, rebuiltUnder plain (.str name) v) :: rebuiltEntries plain rest)
    rw [mergeBeside_cons, mergeBeside_cons, ih keyed.tail, rebuiltEntries_lay]

theorem labels_rebuilt (plain : Entries → Entries) (schema : Entries) : labels (rebuiltEntries plain schema) = labels schema := by
  rw [labels, labels, rebuiltEntries, List.filterMap_map]
  rfl

theorem Keyed.rebuilt (keyed : Keyed schema) (plain : Entries → Entries) : Keyed (rebuiltEntries plain schema) := by
  refine ⟨fun e member => ?_, (labels_rebuilt plain schema) ▸ keyed.distinct⟩
  obtain ⟨before, among, rfl⟩ := List.mem_map.mp member
  exact keyed.text before among

theorem keyed_asEntries {v : Value} (keyed : ∀ schema, v = .map schema → Keyed schema) : Keyed (asEntries v) := by
  unfold asEntries
  split
  next schema => exact keyed schema rfl
  next => exact ⟨List.forall_mem_singleton.mpr ⟨_, rfl⟩, List.pairwise_singleton _ _⟩

end Walks

section Depth
variable {options : ResolutionOptions} {definitions : Entries} {depth : Nat} {v : Value}

variable (definitions) in
/-- No key stands twice in a schema of a value, nor in one of the definitions. -/
structure AllKeyed (v : Value) : Prop where
  own : ∀ schema ∈ schemas v, Keyed schema
  defined : ∀ name body, definitions.field? name = some body → ∀ schema ∈ schemas body, Keyed schema

theorem AllKeyed.body (keyed : AllKeyed definitions v) {name : String} {body : Value} (found : definitions.field? name = some body) :
    AllKeyed definitions body := ⟨keyed.defined name body found, keyed.defined⟩

theorem AllKeyed.resolved (keyed : AllKeyed definitions v) : Keyed (asEntries (resolveTo options definitions depth v)) := by
  have itself {w : Value} (own : ∀ schema ∈ schemas w, Keyed schema) (schema : Entries) (whole : w = .map schema) : Keyed schema :=
    own schema (whole ▸ mem_schemas_map.mpr (.inl rfl))
  refine keyed_asEntries fun made same => ?_
  refine resolveTo_outermost (fun plain _ keyed => keyed.rebuilt plain) (fun _ _ => Keyed.mergeBeside) (fun w noMap => ?_)
    (fun name body found => itself (keyed.defined name body found)) (itself keyed.own) same
  exact keyed_asEntries fun schema whole => absurd whole (noMap schema)

/-- A walk on a schema that is on top of its target is a walk on both. -/
theorem rebuilt_mergeBeside {inside : Value → Value} {target beside : Entries} (first : Keyed target) (second : Keyed beside) :
    rebuilt (expand options definitions inside) (.map (mergeBeside options.isDropped target beside)) =
      .map (mergeBeside options.isDropped (asEntries (rebuilt (expand options definitions inside) (.map target)))
        (rebuiltEntries (expand options definitions inside) beside)) := by
  rw [rebuilt_map, rebuilt_map, rebuiltEntries_mergeBeside second]
  have first := first.rebuilt (expand options definitions inside)
  have second := second.rebuilt (expand options definitions inside)
  generalize rebuiltEntries (expand options definitions inside) target = target at first
  generalize rebuiltEntries (expand options definitions inside) beside = beside at second
  -- what the schema on top points to does not count
  have points : target? definitions (mergeBeside options.isDropped target beside) = target? definitions target := by
    rw [target?, target?, field?_mergeBeside fun _ => rfl]
  show Value.map (expand options definitions inside _) = .map (mergeBeside _ (expand options definitions inside target) beside)
  rw [expand, expand.eq_def options definitions inside target, points]
  split
  next => rfl
  next name body _ => rw [mergeBeside_assoc _ first second]

/-- What is no map, put into one as its only part, is walked there. -/
theorem rebuilt_asEntries {inside : Value → Value} (v : Value) :
    asEntries (rebuilt (expand options definitions inside) (.map (asEntries v))) = asEntries (rebuilt (expand options definitions inside) v) := by
  cases v with
  | map schema => rfl
  | list items =>
    rw [rebuilt_list]
    show expand options definitions inside [(.str "allOf", .list [rebuilt _ (.list items)])] = _
    rw [rebuilt_list]
    rfl
  | _ => rfl

theorem rebuiltUnder_twice {first second both : Entries → Entries} {key v : Value}
    (each : ∀ w ∈ subvalues key v, rebuilt second (rebuilt first w) = rebuilt both w) :
    rebuiltUnder second key (rebuiltUnder first key v) = rebuiltUnder both key v := by
  revert each
  unfold rebuiltUnder subvalues
  generalize KeywordShape.ofKey? key = shape
  intro each
  rcases shape with _ | _ | _ | _
  · rfl
  · exact each v (List.mem_singleton_self v)
  · cases v with
    | list items =>
      refine congrArg Value.list ?_
      rw [List.map_map]
      exact List.map_congr_left each
    | _ => rfl
  · cases v with
    | map named =>
      refine congrArg Value.map ?_
      rw [List.map_map]
      exact List.map_congr_left fun e member => congrArg (Prod.mk e.1) (each e.2 (List.mem_map_of_mem member))
    | _ => rfl

/-- A second walk goes on where the first one stopped, if it does so in the definitions that were put in. -/
theorem rebuilt_twice {once again both : Value → Value} (own : ∀ schema ∈ schemas v, Keyed schema)
    (further : ∀ name body, definitions.field? name = some body →
      Keyed (asEntries (once body)) ∧ rebuilt (expand options definitions again) (once body) = both body) :
    rebuilt (expand options definitions again) (rebuilt (expand options definitions once) v) =
      rebuilt (expand options definitions both) v := by
  induction v using descend with
  | map schema below =>
    have keyed : Keyed schema := own schema (mem_schemas_map.mpr (.inl rfl))
    have beneath : rebuiltEntries (expand options definitions again) (rebuiltEntries (expand options definitions once) schema) =
        rebuiltEntries (expand options definitions both) schema := by
      rw [rebuiltEntries, rebuiltEntries, rebuiltEntries, List.map_map]
      refine List.map_congr_left fun e member => congrArg (Prod.mk e.1) (rebuiltUnder_twice fun w inside => ?_)
      refine below e member w inside fun deeper met => own deeper ?_
      exact mem_schemas_map.mpr (.inr ⟨e, member, List.mem_flatMap.mpr ⟨w, inside, met⟩⟩)
    rw [rebuilt_map (expand options definitions once), rebuilt_map (expand options definitions both), ← beneath]
    have keyed := keyed.rebuilt (expand options definitions once)
    generalize rebuiltEntries (expand options definitions once) schema = done at keyed
    have points : target? definitions (rebuiltEntries (expand options definitions again) done) = target? definitions done :=
      target?_rebuilt _ done
    rw [expand.eq_def options definitions once, expand.eq_def options definitions both, points]
    cases target : target? definitions done with
    | none =>
      rw [target] at points
      rw [rebuilt_map, expand, points]
    | some found =>
      obtain ⟨name, body⟩ := found
      obtain ⟨resolved, onward⟩ := further name body (target?_eq_some.mp target).2
      show rebuilt _ (.map (mergeBeside _ (asEntries (once body)) done)) = .map (mergeBeside _ (asEntries (both body)) _)
      rw [rebuilt_mergeBeside resolved keyed, rebuilt_asEntries, onward]
  | list items ofItems =>
    rw [schemas_list] at own
    rw [rebuilt_list, rebuilt_list, rebuilt_list, List.map_map]
    refine congrArg Value.list (List.map_congr_left fun v member => ?_)
    exact ofItems v member fun schema met => own schema (List.mem_flatMap.mpr ⟨v, member, met⟩)
  | leaf v noMap noList =>
    have still (plain : Entries → Entries) : rebuilt plain v = v := rebuild_leaf noMap noList
    rw [still, still, still]

/-- Resolving so deep and then deeper is resolving as deep at once. -/
theorem resolveTo_add (keyed : AllKeyed definitions v) (m n : Nat) :
    resolveTo options definitions n (resolveTo options definitions m v) = resolveTo options definitions (m + n) v := by
  cases n with
  | zero => rfl
  | succ n =>
    induction m generalizing v with
    | zero => rw [Nat.zero_add, resolveTo]
    | succ m ih =>
      rw [Nat.succ_add]
      show rebuilt (expand options definitions (resolveTo options definitions n))
          (rebuilt (expand options definitions (resolveTo options definitions m)) v) =
        rebuilt (expand options definitions (resolveTo options definitions (m + (n + 1)))) v
      exact rebuilt_twice keyed.own fun name body found => ⟨(keyed.body found).resolved, ih (keyed.body found)⟩

end Depth

end Document
end RecordSchema
