import Mathlib.Data.List.Nodup
import Mathlib.Data.List.Perm.Subperm
import Mathlib.Logic.Relation
import RecordSchema.Proofs.DocumentKeywords
import RecordSchema.Proofs.SchemaWalk

/-! Definitions that lead to others. Where none leads back to itself, a chain of them holds each at most
once, so there are no longer chains than definitions. Main statements: `shallow_iff`, `mem_reachedFrom`. -/

namespace RecordSchema.Document

variable {definitions : Entries}

theorem hasField_iff {name : String} : definitions.hasField name = true ↔ ∃ body, definitions.field? name = some body :=
  Option.isSome_iff_exists

/-- The names of definitions. -/
def labels (definitions : Entries) : List String := List.filterMap (·.1.str?) definitions

theorem mem_labels {name : String} : name ∈ labels definitions ↔ definitions.hasField name = true := by
  constructor
  · intro listed
    obtain ⟨e, member, named⟩ := List.mem_filterMap.mp listed
    exact Entries.field?_isSome_of_mem member named
  · intro defined
    obtain ⟨body, found⟩ := hasField_iff.mp defined
    obtain ⟨e, member, named, -⟩ := Entries.mem_of_field? found
    exact List.mem_filterMap.mpr ⟨e, member, named⟩

theorem length_labels_le (definitions : Entries) : (labels definitions).length ≤ definitions.length :=
  List.length_filterMap_le _ _

theorem nodup_labels (distinct : (List.map (·.1.str?) definitions).Nodup) : (labels definitions).Nodup := by
  have named : labels definitions = (List.map (·.1.str?) definitions).filterMap id := by rw [List.filterMap_map]; rfl
  rw [named]
  exact distinct.filterMap fun a other label left right => left.trans right.symm

section Chains

variable (definitions) in
/-- One definition points to another one. -/
def PointsTo (a b : String) : Prop :=
  ∃ body, definitions.field? a = some body ∧ b ∈ pointers body ∧ definitions.hasField b = true

variable (definitions) in
/-- No definition leads back to itself. -/
def Acyclic : Prop := ∀ name, ¬ Relation.TransGen (PointsTo definitions) name name

theorem Acyclic.of_rank (rank : String → Nat) (down : ∀ a b, PointsTo definitions a b → rank b < rank a) :
    Acyclic definitions := by
  have leads {a b : String} (chain : Relation.TransGen (PointsTo definitions) a b) : rank b < rank a := by
    induction chain with
    | single step => exact down _ _ step
    | tail _ step ih => exact Nat.lt_trans (down _ _ step) ih
  exact fun name again => Nat.lt_irrefl _ (leads again)

variable (definitions) in
/-- No chain of definitions from the schemas of a value on is longer than that, where chains end at names
that are kept. -/
def Shallow (kept : List String) : Nat → Value → Prop
  | 0, v => ∀ name ∈ pointers v, name ∉ kept → definitions.field? name = none
  | n + 1, v => ∀ name ∈ pointers v, name ∉ kept → ∀ body, definitions.field? name = some body → Shallow kept n body

variable (definitions) in
/-- A value points to a definition after so many steps from one definition into the next. -/
def PointedAfter : Nat → Value → String → Prop
  | 0, v, name => name ∈ pointers v
  | n + 1, v, name => ∃ via ∈ pointers v, ∃ body, definitions.field? via = some body ∧ PointedAfter n body name

theorem Shallow.undefined {n depth : Nat} {v : Value} (shallow : Shallow definitions [] n v) (deep : n ≤ depth) {name : String}
    (pointed : PointedAfter definitions depth v name) : definitions.field? name = none := by
  induction n generalizing v depth with
  | zero =>
    cases depth with
    | zero => exact shallow name pointed List.not_mem_nil
    | succ depth =>
      obtain ⟨via, first, body, found, -⟩ := pointed
      rw [shallow via first List.not_mem_nil] at found
      cases found
  | succ n ih =>
    obtain ⟨depth, rfl⟩ := Nat.exists_eq_succ_of_ne_zero (Nat.ne_of_gt (Nat.lt_of_lt_of_le n.succ_pos deep))
    obtain ⟨via, first, body, found, further⟩ := pointed
    exact ih (shallow via first List.not_mem_nil body found) (Nat.le_of_succ_le_succ deep) further

section Loops
variable {kept : List String}

variable (definitions kept) in
/-- One definition points to another one, which is not kept. -/
def Unfolds (a b : String) : Prop := PointsTo definitions a b ∧ b ∉ kept

variable (definitions kept) in
/-- A value leads to a definition, along definitions that are not kept. -/
def LeadsTo (v : Value) (name : String) : Prop :=
  ∃ a ∈ pointers v, a ∉ kept ∧ definitions.hasField a = true ∧ Relation.ReflTransGen (Unfolds definitions kept) a name

variable (definitions kept) in
/-- A value leads to a definition that leads back to itself. -/
def Loops (v : Value) : Prop :=
  ∃ name, LeadsTo definitions kept v name ∧ Relation.TransGen (Unfolds definitions kept) name name

theorem Loops.into {v : Value} (loops : Loops definitions kept v) :
    ∃ a ∈ pointers v, a ∉ kept ∧ ∃ body, definitions.field? a = some body ∧ Loops definitions kept body := by
  obtain ⟨b, ⟨a, pointed, free, known, leads⟩, again⟩ := loops
  obtain ⟨body, found⟩ := hasField_iff.mp known
  refine ⟨a, pointed, free, body, found, ?_⟩
  -- the first step out of the definition is a pointer in its body
  obtain ⟨next, ⟨⟨_, same, inside, defined⟩, untouched⟩, onward⟩ :
      ∃ next, Unfolds definitions kept a next ∧ Relation.ReflTransGen (Unfolds definitions kept) next b := by
    obtain rfl | ⟨next, step, onward⟩ := Relation.ReflTransGen.cases_head leads
    · exact Relation.TransGen.head'_iff.mp again
    · exact ⟨next, step, onward⟩
  cases same.symm.trans found
  exact ⟨b, ⟨next, inside, untouched, defined, onward⟩, again⟩

theorem Loops.not_shallow {v : Value} (loops : Loops definitions kept v) (n : Nat) : ¬ Shallow definitions kept n v := by
  intro shallow
  induction n generalizing v with
  | zero =>
    obtain ⟨a, pointed, free, body, found, -⟩ := loops.into
    cases (shallow a pointed free).symm.trans found
  | succ n ih =>
    obtain ⟨a, pointed, free, body, found, further⟩ := loops.into
    exact ih further (shallow a pointed free body found)

/-- A chain on which no definition comes twice leaves room for the definitions that are not on it. -/
private theorem shallow_of_chain {Met : String → Prop} (onward : ∀ a b, Met a → Unfolds definitions kept a b → Met b)
    (tame : ∀ name, Met name → ¬ Relation.TransGen (Unfolds definitions kept) name name)
    {chain : List String} {n : Nat} {v : Value} (distinct : chain.Nodup) (defined : ∀ a ∈ chain, definitions.hasField a = true)
    (leads : ∀ name ∈ pointers v, name ∉ kept → definitions.hasField name = true →
      Met name ∧ ∀ a ∈ chain, Relation.TransGen (Unfolds definitions kept) a name)
    (room : definitions.length ≤ chain.length + n) : Shallow definitions kept n v := by
  have longer {name : String} (pointed : name ∈ pointers v) (free : name ∉ kept) (known : definitions.hasField name = true) :
      (name :: chain).Nodup := by
    obtain ⟨met, whence⟩ := leads name pointed free known
    exact List.nodup_cons.mpr ⟨fun again => tame name met (whence name again), distinct⟩
  induction n generalizing chain v with
  | zero =>
    intro name pointed free
    cases found : definitions.field? name with
    | none => rfl
    | some body =>
      -- the chain would go on, with more definitions on it than there are
      have known : definitions.hasField name = true := hasField_iff.mpr ⟨body, found⟩
      have listed : name :: chain ⊆ labels definitions :=
        List.cons_subset.mpr ⟨mem_labels.mpr known, fun a member => mem_labels.mpr (defined a member)⟩
      have bound := (longer pointed free known).length_le_of_subset listed
      have few := length_labels_le definitions
      rw [List.length_cons] at bound
      omega
  | succ n ih =>
    intro name pointed free body found
    have known : definitions.hasField name = true := hasField_iff.mpr ⟨body, found⟩
    obtain ⟨met, before⟩ := leads name pointed free known
    have further : ∀ next ∈ pointers body, next ∉ kept → definitions.hasField next = true →
        Met next ∧ ∀ a ∈ name :: chain, Relation.TransGen (Unfolds definitions kept) a next := by
      intro next inside untouched defined
      have step : Unfolds definitions kept name next := ⟨⟨body, found, inside, defined⟩, untouched⟩
      exact ⟨onward name next met step, List.forall_mem_cons.mpr ⟨.single step, fun a member => .tail (before a member) step⟩⟩
    refine ih (longer pointed free known) (List.forall_mem_cons.mpr ⟨known, defined⟩) further ?_ ?_
    · rw [List.length_cons]
      omega
    · intro next inside untouched defined
      obtain ⟨met, whence⟩ := further next inside untouched defined
      exact List.nodup_cons.mpr ⟨fun again => tame next met (whence next again), longer pointed free known⟩

/-- Where nothing leads back to itself, there are no longer chains than definitions. -/
theorem shallow_iff {v : Value} : Shallow definitions kept definitions.length v ↔ ¬ Loops definitions kept v := by
  refine ⟨fun shallow loops => loops.not_shallow _ shallow, fun free => ?_⟩
  have onward (a b : String) (leads : LeadsTo definitions kept v a) (step : Unfolds definitions kept a b) :
      LeadsTo definitions kept v b := by
    obtain ⟨first, pointed, free, known, leads⟩ := leads
    exact ⟨first, pointed, free, known, leads.tail step⟩
  refine shallow_of_chain onward (fun name leads again => free ⟨name, leads, again⟩) List.nodup_nil (List.forall_mem_nil _)
    (fun name pointed free known => ?_) (by simp)
  exact ⟨⟨name, pointed, free, known, .refl⟩, List.forall_mem_nil _⟩

/-- Where only what is kept can lead back to itself, nothing loops. -/
theorem not_loops_of_tame (tame : ∀ name, name ∉ kept → ¬ Relation.TransGen (PointsTo definitions) name name) (v : Value) :
    ¬ Loops definitions kept v := by
  rintro ⟨name, -, again⟩
  obtain ⟨_, -, -, free⟩ := Relation.TransGen.tail'_iff.mp again
  exact tame name free (again.lift id fun _ _ step => step.1)

theorem shallow_of_tame (tame : ∀ name, name ∉ kept → ¬ Relation.TransGen (PointsTo definitions) name name) (v : Value) :
    Shallow definitions kept definitions.length v :=
  shallow_iff.mpr (not_loops_of_tame tame v)

end Loops

end Chains

section Recursion

variable (definitions) in
/-- One definition refers to another one, as far as the search for recursive definitions looks. -/
def RefersTo (a b : String) : Prop := b ∈ successors definitions a

theorem RefersTo.defined {a b : String} (refers : RefersTo definitions a b) : definitions.hasField b = true := by
  unfold RefersTo successors at refers
  split at refers
  · cases refers
  · exact (List.mem_filter.mp refers).2

theorem RefersTo.pointsTo {a b : String} (refers : RefersTo definitions a b) : PointsTo definitions a b := by
  have defined := refers.defined
  unfold RefersTo successors at refers
  split at refers
  next => cases refers
  next body found => exact ⟨body, found, (references_subset body).1 (List.mem_filter.mp refers).1, defined⟩

theorem mem_addNames {found names : List String} {name : String} :
    name ∈ addNames found names ↔ name ∈ found ∨ name ∈ names := by
  induction names generalizing found with
  | nil => simp [addNames]
  | cons first rest ih =>
    rw [addNames]
    split
    next known =>
      have inside : first ∈ found := List.contains_iff_mem.mp known
      rw [ih, List.mem_cons]
      constructor
      · exact fun either => either.imp_right .inr
      · rintro (before | rfl | later)
        · exact .inl before
        · exact .inl inside
        · exact .inr later
    next => rw [ih, List.mem_append, List.mem_singleton, List.mem_cons, or_assoc]

theorem nodup_addNames {found names : List String} (distinct : found.Nodup) : (addNames found names).Nodup := by
  induction names generalizing found with
  | nil => exact distinct
  | cons first rest ih =>
    rw [addNames]
    split
    next => exact ih distinct
    next unknown =>
      refine ih (List.nodup_append.mpr ⟨distinct, List.pairwise_singleton _ _, fun a member b single same => ?_⟩)
      subst same
      rw [List.mem_singleton] at single
      subst single
      exact unknown (List.contains_iff_mem.mpr member)

theorem addNames_of_subset {found names : List String} (inside : ∀ name ∈ names, name ∈ found) :
    addNames found names = found := by
  induction names with
  | nil => rfl
  | cons first rest ih =>
    obtain ⟨here, later⟩ := List.forall_mem_cons.mp inside
    rw [addNames, if_pos (List.contains_iff_mem.mpr here), ih later]

theorem addNames_grows (found names : List String) :
    (∀ name ∈ names, name ∈ found) ∨ found.length < (addNames found names).length := by
  induction names generalizing found with
  | nil => exact .inl (List.forall_mem_nil _)
  | cons first rest ih =>
    rw [addNames]
    split
    next known =>
      exact (ih found).imp_left fun rest => List.forall_mem_cons.mpr ⟨List.contains_iff_mem.mp known, rest⟩
    next =>
      right
      have grown : (found ++ [first]).length ≤ (addNames (found ++ [first]) rest).length := by
        obtain inside | grown := ih (found ++ [first])
        · rw [addNames_of_subset inside]
        · exact Nat.le_of_lt grown
      rw [List.length_append, List.length_singleton] at grown
      omega

theorem reachedIn_grows (n : Nat) (found : List String) : found ⊆ reachedIn definitions n found := by
  induction n generalizing found with
  | zero => exact List.Subset.refl found
  | succ n ih => exact fun name member => ih _ (mem_addNames.mpr (.inl member))

theorem reachedIn_sound {start : String} {n : Nat} {found : List String}
    (leads : ∀ name ∈ found, Relation.TransGen (RefersTo definitions) start name) :
    ∀ name ∈ reachedIn definitions n found, Relation.TransGen (RefersTo definitions) start name := by
  induction n generalizing found with
  | zero => exact leads
  | succ n ih =>
    refine ih fun name member => ?_
    obtain before | new := mem_addNames.mp member
    · exact leads name before
    · obtain ⟨a, inside, refers⟩ := List.mem_flatMap.mp new
      exact .tail (leads a inside) refers

variable (definitions) in
/-- Nothing is referred to that is not found. -/
def Saturated (found : List String) : Prop := ∀ a ∈ found, ∀ b, RefersTo definitions a b → b ∈ found

theorem reachedIn_of_saturated {found : List String} (saturated : Saturated definitions found) (n : Nat) :
    reachedIn definitions n found = found := by
  have same : addNames found (found.flatMap (successors definitions)) = found := by
    refine addNames_of_subset fun name new => ?_
    obtain ⟨a, inside, refers⟩ := List.mem_flatMap.mp new
    exact saturated a inside name refers
  induction n with
  | zero => rfl
  | succ n ih => rw [reachedIn, same, ih]

/-- A search with a round for every definition that is not found ends with nothing left to find. -/
theorem reachedIn_saturated {n : Nat} {found : List String} (distinct : found.Nodup)
    (defined : ∀ name ∈ found, definitions.hasField name = true) (room : definitions.length ≤ found.length + n) :
    Saturated definitions (reachedIn definitions n found) := by
  induction n generalizing found with
  | zero =>
    -- all definitions are found, so there is none left that is missing
    intro a inside b refers
    refine Decidable.byContradiction fun missing => ?_
    have longer : (b :: found).Nodup := List.nodup_cons.mpr ⟨missing, distinct⟩
    have listed : b :: found ⊆ labels definitions :=
      List.cons_subset.mpr ⟨mem_labels.mpr refers.defined, fun name member => mem_labels.mpr (defined name member)⟩
    have bound := longer.length_le_of_subset listed
    have few := length_labels_le definitions
    rw [List.length_cons] at bound
    omega
  | succ n ih =>
    obtain nothing | grown := addNames_grows found (found.flatMap (successors definitions))
    · have saturated : Saturated definitions found :=
        fun a inside b refers => nothing b (List.mem_flatMap.mpr ⟨a, inside, refers⟩)
      rw [reachedIn_of_saturated saturated]
      exact saturated
    · rw [reachedIn]
      refine ih (nodup_addNames distinct) (fun name member => ?_) (by omega)
      obtain before | new := mem_addNames.mp member
      · exact defined name before
      · obtain ⟨a, -, refers⟩ := List.mem_flatMap.mp new
        exact RefersTo.defined refers

theorem mem_reachedFrom {a name : String} :
    name ∈ reachedFrom definitions a ↔ Relation.TransGen (RefersTo definitions) a name := by
  have first (b : String) : b ∈ addNames [] (successors definitions a) ↔ RefersTo definitions a b := by
    rw [mem_addNames]
    simp [RefersTo]
  constructor
  · exact reachedIn_sound (fun b member => .single ((first b).mp member)) name
  · intro leads
    have saturated : Saturated definitions (reachedFrom definitions a) :=
      reachedIn_saturated (nodup_addNames List.nodup_nil) (fun b member => ((first b).mp member).defined) (by omega)
    induction leads with
    | single refers => exact reachedIn_grows _ _ ((first _).mpr refers)
    | tail _ refers ih => exact saturated _ ih _ refers

theorem mem_recursive {name : String} :
    name ∈ recursive definitions ↔ Relation.TransGen (RefersTo definitions) name name := by
  have found : isRecursive definitions name = true ↔ Relation.TransGen (RefersTo definitions) name name := by
    rw [isRecursive, List.contains_iff_mem, mem_reachedFrom]
  rw [recursive, List.mem_filterMap, ← found]
  constructor
  · rintro ⟨key, -, kept⟩
    obtain ⟨-, recursive⟩ := Option.filter_eq_some_iff.mp kept
    exact recursive
  · intro recursive
    have defined : definitions.hasField name = true := by
      obtain ⟨_, -, refers⟩ := Relation.TransGen.tail'_iff.mp (found.mp recursive)
      exact refers.defined
    obtain ⟨e, member, named⟩ := List.mem_filterMap.mp (mem_labels.mpr defined)
    exact ⟨e.1, List.mem_map_of_mem member, Option.filter_eq_some_iff.mpr ⟨named, recursive⟩⟩

theorem recursive_of_acyclic (acyclic : Acyclic definitions) : recursive definitions = [] := by
  refine List.eq_nil_iff_forall_not_mem.mpr fun name member => acyclic name ?_
  exact (mem_recursive.mp member).lift id fun _ _ refers => RefersTo.pointsTo refers

end Recursion

end RecordSchema.Document
