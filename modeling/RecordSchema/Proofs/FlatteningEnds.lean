import RecordSchema.Proofs.Flattening

/-! When flattening comes to an end: unless a definition that is put in leads back to itself. The search for recursive
definitions finds all that lead back, and their pointers are kept, if no list stands in the place of one schema; from
lists of lists a definition can lead back to itself without being found. Main statement: `flatten_returns_iff`. -/

namespace RecordSchema.Document

variable {options : FlatteningOptions} {document definitions : Entries} {kept : List String} {root v : Value}

section Walks

variable (definitions kept root) in
/-- What flattening walks through: the document, and the definitions that are still referred to in what comes of it. -/
inductive Walked : Value → Prop where
  | root : Walked root
  | definition {v w body name} (walked : Walked v) (simplified : inlineAll definitions kept v = .ok w)
      (mentioned : name ∈ references w) (defined : definitions.field? name = some body) : Walked body

variable (definitions kept root) in
/-- A definition that flattening has to keep, if there is one of this name. -/
def Mentioned (name : String) : Prop :=
  ∃ v w, Walked definitions kept root v ∧ inlineAll definitions kept v = .ok w ∧ name ∈ references w

theorem Mentioned.walked {name : String} (mentioned : Mentioned definitions kept root name) (defined : definitions.field? name = some v) :
    Walked definitions kept root v := by
  obtain ⟨w, made, walked, simplified, refers⟩ := mentioned
  exact walked.definition simplified refers defined

/-- What is collected is all that flattening walks through besides the document. -/
theorem Collected.walked {found : Entries} (ends : ¬ Loops definitions kept root)
    (collected : Collected definitions kept (references (flattened definitions kept root)) [] found)
    (ended : ∀ name ∈ labels found, ∀ body, definitions.field? name = some body → ¬ Loops definitions kept body)
    (walked : Walked definitions kept root v) : v = root ∨ ∃ name ∈ labels found, definitions.field? name = some v := by
  induction walked with
  | root => exact .inl rfl
  | @definition v w body name _ simplified mentioned defined ih =>
    refine .inr ⟨name, ?_, defined⟩
    have known : IsDefined definitions name := hasField_iff.mpr ⟨body, defined⟩
    obtain rfl | ⟨label, listed, stands⟩ := ih
    · cases (inlineAll_eq ends).symm.trans simplified
      exact (collected.wanted name mentioned known).resolve_left List.not_mem_nil
    · cases (inlineAll_eq (ended label listed v stands)).symm.trans simplified
      obtain ⟨_, same, kept⟩ := collected.field? listed
      cases same.symm.trans stands
      obtain ⟨e, member, -, value⟩ := Entries.mem_of_field? kept
      exact (collected.closed e member name (value ▸ mentioned) known).resolve_left List.not_mem_nil

end Walks

section Documents

variable (options document) in
/-- What flattening a document walks through. -/
def FlatteningWalks (v : Value) : Prop :=
  Walked (Parts.ofEntries document).definitions (keptNames options (Parts.ofEntries document).definitions)
    (.map (Parts.ofEntries document).root) v

variable (options document) in
/-- On the way through a value flattening would put a definition into itself, and so on for ever. -/
def FlatteningLoops (v : Value) : Prop :=
  Loops (Parts.ofEntries document).definitions (keptNames options (Parts.ofEntries document).definitions) v

theorem flattenEntries_or_loops (options : FlatteningOptions) (document : Entries) :
    (flattenEntries options document).Returns ∧ (∀ v, FlatteningWalks options document v → ¬ FlatteningLoops options document v) ∨
      flattenEntries options document = .error .endless ∧
        ∃ v, FlatteningWalks options document v ∧ FlatteningLoops options document v := by
  unfold FlatteningWalks FlatteningLoops flattenEntries
  generalize Parts.ofEntries document = parts
  dsimp only
  unfold flattenParts
  generalize keptNames options parts.definitions = kept
  by_cases loops : Loops parts.definitions kept (.map parts.root)
  · rw [inlineAll_endless loops]
    exact .inr ⟨rfl, _, .root, loops⟩
  · have simplified := inlineAll_eq loops
    have onward (name : String) (body : Value) (mentioned : Mentioned parts.definitions kept (.map parts.root) name)
        (defined : parts.definitions.field? name = some body) (ends : ¬ Loops parts.definitions kept body) :
        ∀ other ∈ references (flattened parts.definitions kept body), Mentioned parts.definitions kept (.map parts.root) other :=
      fun other refers => ⟨body, _, mentioned.walked defined, inlineAll_eq ends, refers⟩
    have wanted : ∀ name ∈ references (flattened parts.definitions kept (.map parts.root)),
        Mentioned parts.definitions kept (.map parts.root) name := fun name refers => ⟨_, _, .root, simplified, refers⟩
    rw [simplified, Except.ok_bind]
    obtain ⟨found, collects, collected, ended⟩ | ⟨fails, name, body, mentioned, defined, again⟩ :=
      collects_or_loops (Nat.le_refl _) (.start parts.definitions kept _) wanted onward (List.forall_mem_nil _)
    · left
      refine ⟨?_, fun v walked => ?_⟩
      · rw [collects, Except.ok_bind]
        split
        · split <;> exact Except.returns_ok _
        · exact Except.returns_ok _
      · obtain rfl | ⟨name, listed, defined⟩ := collected.walked loops (fun name listed => (ended name listed).2) walked
        · exact loops
        · exact (ended name listed).2 v defined
    · right
      refine ⟨?_, body, mentioned.walked defined, again⟩
      rw [fails]
      rfl

/-- The search finds every definition that leads back to itself, if no list stands in the place of one schema. -/
theorem recursive_of_straight (straight : ∀ name body, definitions.field? name = some body → Straight body) {name : String}
    (again : Relation.TransGen (PointsTo definitions) name name) : name ∈ recursive definitions := by
  have refers {a b : String} (points : PointsTo definitions a b) : RefersTo definitions a b := by
    obtain ⟨body, found, pointed, defined⟩ := points
    unfold RefersTo successors
    rw [found]
    exact List.mem_filter.mpr ⟨(straight a body found).pointers_subset pointed, defined⟩
  exact mem_recursive.mpr (again.lift id fun _ _ points => refers points)

/-- Flattening returns exactly if nothing loops that it walks through. It does so whenever the search finds the
definitions that lead back to themselves, hence where no definition has a list in the place of one schema. -/
theorem flatten_returns_iff (options : FlatteningOptions) (json : (Value.map document).isJson = true) :
    ((flatten options (.map document)).Returns ↔ ∀ v, FlatteningWalks options document v → ¬ FlatteningLoops options document v) ∧
      (¬ (flatten options (.map document)).Returns → flatten options (.map document) = .error .endless) ∧
      ((∀ name, Relation.TransGen (PointsTo (Parts.ofEntries document).definitions) name name →
          name ∈ recursive (Parts.ofEntries document).definitions) → (flatten options (.map document)).Returns) ∧
      ((∀ name body, (Parts.ofEntries document).definitions.field? name = some body → Straight body) →
        (flatten options (.map document)).Returns) := by
  rw [flatten_of_copyable options (Value.isCopyable_of_isJson json)]
  have either := flattenEntries_or_loops options document
  have ends : (flattenEntries options document).Returns ↔ ∀ v, FlatteningWalks options document v → ¬ FlatteningLoops options document v := by
    obtain ⟨returns, none⟩ | ⟨fails, v, walked, loops⟩ := either
    · exact iff_of_true returns none
    · rw [fails]
      exact iff_of_false (Except.error_not_ok _) fun none => none v walked loops
  have detected (found : ∀ name, Relation.TransGen (PointsTo (Parts.ofEntries document).definitions) name name →
      name ∈ recursive (Parts.ofEntries document).definitions) : (flattenEntries options document).Returns :=
    ends.mpr fun v _ => not_loops_of_tame (fun name free again => free (List.mem_append_left _ (found name again))) v
  refine ⟨ends, fun fails => ?_, detected, fun straight => detected fun name => recursive_of_straight straight⟩
  exact (either.resolve_left fun both => fails both.1).1

/-- A row of cells, in which a row of rows can stand. -/
def table : Entries :=
  [entry "items" (.map [entry "$ref" (.str "#/definitions/Row")]),
   entry "definitions" (.map [
     entry "Row" (.map [
       entry "type" (.str "array"), entry "title" (.str "Row"),
       entry "items" (.list [.map [entry "anyOf" (.list [.map [entry "type" (.str "string")], .map [entry "$ref" (.str "#/definitions/Row")]])]])])])]

theorem table_flattened :
    (Value.map table).isJson = true ∧
      (∀ name body, (Parts.ofEntries table).definitions.field? name = some body → Straight body) ∧
      (flatten {} (.map table)).Returns := by
  have json : (Value.map table).isJson = true := by decide +kernel
  have each : ∀ e ∈ (Parts.ofEntries table).definitions, Straight e.2 := by decide +kernel
  have straight : ∀ name body, (Parts.ofEntries table).definitions.field? name = some body → Straight body := by
    intro name body found
    obtain ⟨e, member, -, rfl⟩ := Entries.mem_of_field? found
    exact each e member
  exact ⟨json, straight, (flatten_returns_iff {} json).2.2.2 straight⟩

/-- A choice that stands where a member of a choice should, which holds what it is defined for. -/
def nestedChoice : Entries :=
  [entry "$ref" (.str "#/definitions/Choice"),
   entry "definitions" (.map [
     entry "Choice" (.map [entry "allOf" (.list [.list [.map [entry "$ref" (.str "#/definitions/Choice")]]])])])]

/-- The definition leads back to itself, is not found, and is put into itself for ever. -/
theorem nestedChoice_endless :
    (Value.map nestedChoice).isJson = true ∧
      PointsTo (Parts.ofEntries nestedChoice).definitions "Choice" "Choice" ∧
      recursive (Parts.ofEntries nestedChoice).definitions = [] ∧
      flatten {} (.map nestedChoice) = .error .endless ∧
      flatten { preserveComplexReferences := true } (.map nestedChoice) = .error .endless := by
  refine ⟨by decide +kernel, ⟨_, rfl, by decide +kernel, by decide +kernel⟩, by decide +kernel, rfl, rfl⟩

end Documents
end RecordSchema.Document
