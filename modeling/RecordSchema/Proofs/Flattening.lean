import RecordSchema.Proofs.TidySchemas

/-! What flattening makes of the schemas in documents. A definition in the place of its pointer, under the notes
beside it, admits what the pointer admits, and so does the only member of a choice. The definitions that are
collected are all that can be met from there. Main statements: `inlined_replaces`, `collects_or_loops`. -/

namespace RecordSchema.Document

variable {key : String} {definitions : Entries} {kept : List String} {inside other : Value → Value} {schema : Entries}
  {v : Value}

section Pure

/-- Simplifies a schema, where simplifying its definition takes nothing else. -/
def simplify (definitions : Entries) (kept : List String) (inside : Value → Value) (schema : Entries) : Entries :=
  match target? definitions schema with
  | none => collapseAll schema
  | some (name, body) =>
    if kept.contains name then collapseAll schema
    else collapseAll (mergeBeside (fun _ keyword => keyword = "$ref") (asEntries (inside body)) schema)

/-- Simplifies a schema with definitions put into each other as deep as told, and not deeper. -/
def inlined (definitions : Entries) (kept : List String) : Nat → Value → Value
  | 0, v => rebuilt (simplify definitions kept id) v
  | depth + 1, v => rebuilt (simplify definitions kept (inlined definitions kept depth)) v

theorem simplify_congr (agree : ∀ name body, target? definitions schema = some (name, body) → name ∉ kept → inside body = other body) :
    simplify definitions kept inside schema = simplify definitions kept other schema := by
  unfold simplify
  split
  next => rfl
  next name body found =>
    split
    next => rfl
    next free => rw [agree name body found fun member => free (List.contains_iff_mem.mpr member)]

theorem inline_eq_simplify {making : Value → Except Fault Value}
    (agree : ∀ name body, target? definitions schema = some (name, body) → name ∉ kept → making body = .ok (inside body)) :
    inline definitions kept making schema = .ok (simplify definitions kept inside schema) := by
  unfold inline simplify
  cases found : target? definitions schema with
  | none => rfl
  | some target =>
    obtain ⟨name, body⟩ := target
    dsimp only
    split
    next => rfl
    next free =>
      rw [agree name body found fun member => free (List.contains_iff_mem.mpr member)]
      rfl

/-- What a schema points to once the schemas below it are changed, the value around it points to. -/
theorem target_pointed {plain : Entries → Entries} {name : String} {body : Value} (met : schema ∈ schemas v)
    (found : target? definitions (rebuiltEntries plain schema) = some (name, body)) :
    name ∈ pointers v ∧ definitions.field? name = some body := by
  obtain ⟨points, defined⟩ := target?_eq_some.mp found
  rw [pointer?_rebuilt] at points
  exact ⟨mem_pointers.mpr ⟨schema, met, points⟩, defined⟩

/-- Where chains of definitions end, simplifying comes to an end. -/
theorem inlineTo_eq {n : Nat} (shallow : Shallow definitions kept n v) :
    inlineTo definitions kept n v = .ok (inlined definitions kept n v) := by
  induction n generalizing v with
  | zero =>
    refine rebuild_eq_pure fun schema met => inline_eq_simplify fun name body found free => ?_
    obtain ⟨pointed, defined⟩ := target_pointed met found
    cases (shallow name pointed free).symm.trans defined
  | succ n ih =>
    refine rebuild_eq_pure fun schema met => inline_eq_simplify fun name body found free => ?_
    obtain ⟨pointed, defined⟩ := target_pointed met found
    exact ih (shallow name pointed free body defined)

/-- Simplifying a value comes to an end only if it does for the definitions that are put in. -/
theorem inside_returns {making : Value → Except Fault Value} (returns : (rebuild true (inline definitions kept making) v).Returns)
    {name : String} (pointed : name ∈ pointers v) (free : name ∉ kept) {body : Value} (found : definitions.field? name = some body) :
    (making body).Returns := by
  obtain ⟨schema, met, points⟩ := mem_pointers.mp pointed
  obtain ⟨made, same, done, changed⟩ := changed_of_rebuild returns schema met
  have target : target? definitions made = some (name, body) := target?_eq_some.mpr ⟨same.trans points, found⟩
  rw [inline, target] at changed
  dsimp only at changed
  rw [if_neg fun member => free (List.contains_iff_mem.mp member)] at changed
  obtain ⟨w, inside, -⟩ := Except.bind_eq_ok.mp changed
  exact ⟨w, inside⟩

theorem shallow_of_inlineTo {n : Nat} (returns : (inlineTo definitions kept n v).Returns) : Shallow definitions kept n v := by
  induction n generalizing v with
  | zero =>
    intro name pointed free
    cases found : definitions.field? name with
    | none => rfl
    | some body => exact absurd (inside_returns returns pointed free found) (Except.error_not_ok _)
  | succ n ih => exact fun name pointed free body found => ih (inside_returns returns pointed free found)

/-- How deep makes no difference where chains of definitions end before. -/
theorem inlined_same {n m : Nat} (left : Shallow definitions kept n v) (right : Shallow definitions kept m v) :
    inlined definitions kept n v = inlined definitions kept m v := by
  have agree {plain change : Entries → Entries}
      (each : ∀ schema ∈ schemas v, change (rebuiltEntries plain schema) = plain (rebuiltEntries plain schema)) :
      rebuilt change v = rebuilt plain v := rebuild_eq_pure (m := Id) each
  induction n generalizing m v with
  | zero =>
    cases m with
    | zero => rfl
    | succ m =>
      refine agree fun schema met => simplify_congr fun name body found free => ?_
      obtain ⟨pointed, defined⟩ := target_pointed met found
      cases (left name pointed free).symm.trans defined
  | succ n ih =>
    cases m with
    | zero =>
      refine agree fun schema met => simplify_congr fun name body found free => ?_
      obtain ⟨pointed, defined⟩ := target_pointed met found
      cases (right name pointed free).symm.trans defined
    | succ m =>
      refine agree fun schema met => simplify_congr fun name body found free => ?_
      obtain ⟨pointed, defined⟩ := target_pointed met found
      exact ih (left name pointed free body defined) (right name pointed free body defined) fun each => rebuild_eq_pure (m := Id) each

theorem inlined_map (depth : Nat) (schema : Entries) : ∃ made, inlined definitions kept depth (.map schema) = .map made := by
  cases depth with
  | zero => exact ⟨_, rebuilt_map _ schema⟩
  | succ depth => exact ⟨_, rebuilt_map _ schema⟩

end Pure

section Meaning

variable (definitions) in
def IsDefined (name : String) : Prop := definitions.hasField name = true

variable (definitions kept) in
/-- What flattening makes of a schema. -/
def flattened (v : Value) : Value := inlined definitions kept definitions.length v

theorem inlineAll_eq (ends : ¬ Loops definitions kept v) : inlineAll definitions kept v = .ok (flattened definitions kept v) :=
  inlineTo_eq (shallow_iff.mpr ends)

theorem inlineAll_endless (loops : Loops definitions kept v) : inlineAll definitions kept v = .error .endless := by
  cases ended : inlineAll definitions kept v with
  | error fault => rw [inlineTo_failsOnlyWith _ v fault ended]
  | ok w => exact absurd (shallow_of_inlineTo ⟨w, ended⟩) (loops.not_shallow _)

variable (key definitions) in
/-- All definitions are tidy schemas, and none is missing for a pointer in them. -/
def Orderly : Prop :=
  ∀ name body, definitions.field? name = some body → ∃ schema, body = .map schema ∧ Tidy key (IsDefined definitions) body

variable (key definitions kept) in
/-- The pointer to each definition leads to it in the document, or to what flattening makes of it. -/
def Presents (root : Entries) : Prop :=
  ∀ name body, definitions.field? name = some body → ∃ target, Pointer.target? root (Pointer.ofName key name) = some target ∧
    (target = body ∨ target = flattened definitions kept body)

variable (key definitions kept) in
/-- A tidy schema that admits the same as another one. -/
structure Replaces (v w : Value) : Prop where
  tidy : Tidy key (IsDefined definitions) w
  admits : ∀ root, Presents key definitions kept root → ∀ u, Admits root v u ↔ Admits root w u

theorem collapse_of_absent {keyword : String} (absent : ∀ e ∈ schema, e.1.str? ≠ some keyword) : collapse schema keyword = schema := by
  unfold collapse
  rw [Entries.field?_of_absent absent]

theorem obeys_anyOf {root : Entries} {subs : List Value} :
    Obeys root schema "anyOf" (.list subs) v ↔ ∃ sub ∈ subs, Admits root sub v := by
  constructor
  · intro obeyed
    generalize named : "anyOf" = keyword at obeyed
    cases obeyed with
    | anyOf member admitted => exact ⟨_, member, admitted⟩
    | plain free _ => exact absurd (by rw [← named]; decide) free
    | _ => exact absurd named (by decide)
  · rintro ⟨sub, member, admitted⟩
    exact .anyOf member admitted

theorem obeys_pointer {root : Entries} {pointer : String} {target : Value} (leads : Pointer.target? root pointer = some target) :
    Obeys root schema "$ref" (.str pointer) v ↔ Admits root target v := by
  constructor
  · intro obeyed
    generalize named : "$ref" = keyword at obeyed
    cases obeyed with
    | pointer text found admitted =>
      cases text
      cases found.symm.trans leads
      exact admitted
    | plain free _ => exact absurd (by rw [← named]; decide) free
    | _ => exact absurd named (by decide)
  · exact .pointer rfl leads

theorem collapse_replaces (tidy : Tidy key (IsDefined definitions) (.map schema)) :
    Replaces key definitions kept (.map schema) (.map (collapse schema "anyOf")) := by
  unfold collapse
  split
  next member found =>
    have inside : Below schema (.map member) := .of_field? found (List.mem_singleton_self _)
    have beside := tidy.beside_choice found
    have noted : Noted member (Entries.update member (schema.dropField "anyOf")) := (Noted.refl member).update (notes_beside beside)
    refine ⟨(tidy.inner inside).noted noted, fun root _ u => ?_⟩
    rw [admits_iff_obeys found beside, obeys_anyOf, ← noted.admits_iff]
    simp
  next => exact ⟨tidy, fun _ _ _ => Iff.rfl⟩

/-- No combinator but a choice stands in a tidy schema, nor in the only member of one. -/
theorem collapseAll_eq (tidy : Tidy key (IsDefined definitions) (.map schema)) : collapseAll schema = collapse schema "anyOf" := by
  have first : Replaces key definitions [] (.map schema) (.map (collapse schema "anyOf")) := collapse_replaces tidy
  show collapse (collapse (collapse schema "anyOf") "oneOf") "allOf" = _
  rw [collapse_of_absent (first.tidy.absent (by decide)), collapse_of_absent (first.tidy.absent (by decide))]

theorem collapseAll_replaces (tidy : Tidy key (IsDefined definitions) (.map schema)) :
    Replaces key definitions kept (.map schema) (.map (collapseAll schema)) := by
  rw [collapseAll_eq tidy]
  exact collapse_replaces tidy

/-- A walk leaves the keywords of a schema. -/
theorem each_rebuilt {P : String → Prop} (each : schema.Each fun keyword _ => P keyword) (plain : Entries → Entries) :
    (rebuiltEntries plain schema).Each fun keyword _ => P keyword := by
  intro e member
  obtain ⟨before, among, rfl⟩ := List.mem_map.mp member
  exact each before among

/-- A walk that leaves the schemas below a tidy schema tidy leaves it tidy. -/
theorem Tidy.rebuilt {Known : String → Prop} {plain : Entries → Entries} (tidy : Tidy key Known (.map schema))
    (below : ∀ w, Below schema w → Tidy key Known (rebuilt plain w)) : Tidy key Known (.map (rebuiltEntries plain schema)) := by
  have inner w (inside : Below (rebuiltEntries plain schema) w) : Tidy key Known w := by
    obtain ⟨e, member, inside⟩ := inside
    obtain ⟨before, among, rfl⟩ := List.mem_map.mp member
    rw [subvalues_rebuilt] at inside
    obtain ⟨w, original, rfl⟩ := List.mem_map.mp inside
    exact below w ⟨before, among, original⟩
  cases tidy with
  | pointer found readable known beside =>
    refine .pointer ?_ readable known (each_rebuilt beside plain)
    rw [field?_rebuilt, found]
    rfl
  | @choice _ subs found beside _ =>
    have made : (rebuiltEntries plain schema).field? "anyOf" = some (.list (subs.map (Document.rebuilt plain))) := by
      rw [field?_rebuilt, found]
      rfl
    exact .choice made (each_rebuilt beside plain) inner
  | plain free _ => exact .plain (each_rebuilt free plain) inner

variable (listed : key ∈ Pointer.definitionsKeys)

include listed

/-- A definition can stand in the place of its pointer, under the notes beside it. -/
theorem simplify_replaces (tidy : Tidy key (IsDefined definitions) (.map schema))
    (put : ∀ name body, target? definitions schema = some (name, body) → name ∉ kept → inside body = flattened definitions kept body ∧
      ∃ flat, flattened definitions kept body = .map flat ∧ Replaces key definitions kept body (.map flat)) :
    Replaces key definitions kept (.map schema) (.map (simplify definitions kept inside schema)) := by
  unfold simplify
  split
  next => exact collapseAll_replaces tidy
  next name body target =>
    split
    next => exact collapseAll_replaces tidy
    next free =>
      obtain ⟨same, flat, made, replaces⟩ := put name body target fun member => free (List.contains_iff_mem.mpr member)
      obtain ⟨points, defined⟩ := target?_eq_some.mp target
      rw [same, made]
      show Replaces key definitions kept _ (.map (collapseAll (mergeBeside _ flat schema)))
      obtain ⟨found, -, beside⟩ := tidy.pointer? listed points
      have noted : Noted flat (mergeBeside (fun _ keyword => keyword = "$ref") flat schema) := (Noted.refl flat).mergeBeside beside
      have collapsed : Replaces key definitions kept _ _ := collapseAll_replaces (replaces.tidy.noted noted)
      refine ⟨collapsed.tidy, fun root presents u => ?_⟩
      obtain ⟨target, leads, either⟩ := presents name body defined
      rw [admits_iff_obeys found beside, obeys_pointer leads, ← collapsed.admits root presents, ← noted.admits_iff]
      -- in the document itself the pointer leads to the definition, in the flat one to what is put in
      obtain rfl | rfl := either
      · exact replaces.admits root presents u
      · rw [made]

/-- A schema can be replaced by what it is simplified to, if definitions can be replaced by what is put in. -/
theorem rebuilt_replaces (tidy : Tidy key (IsDefined definitions) v)
    (put : ∀ name ∈ pointers v, name ∉ kept → ∀ body, definitions.field? name = some body → inside body = flattened definitions kept body ∧
      ∃ flat, flattened definitions kept body = .map flat ∧ Replaces key definitions kept body (.map flat)) :
    Replaces key definitions kept v (rebuilt (simplify definitions kept inside) v) := by
  induction v using descend with
  | map schema below =>
    have inner w (within : Below schema w) : Replaces key definitions kept w (rebuilt (simplify definitions kept inside) w) := by
      obtain ⟨e, member, sub⟩ := within
      exact below e member w sub (tidy.inner ⟨e, member, sub⟩) fun name pointed => put name (Below.pointers_subset ⟨e, member, sub⟩ pointed)
    have tidied := tidy.rebuilt fun w within => (inner w within).tidy
    rw [rebuilt_map]
    generalize done : rebuiltEntries (simplify definitions kept inside) schema = made at tidied
    have simplified : Replaces key definitions kept (.map made) (.map (simplify definitions kept inside made)) := by
      refine simplify_replaces listed tidied fun name body found free => ?_
      obtain ⟨pointed, defined⟩ := target_pointed (mem_schemas_map.mpr (.inl rfl)) (done ▸ found)
      exact put name pointed free body defined
    refine ⟨simplified.tidy, fun root presents u => ?_⟩
    rw [← simplified.admits root presents, ← done]
    exact admits_rebuilt fun w within u => (inner w within).admits root presents u
  | list items _ => exact absurd tidy Tidy.not_list
  | leaf v noMap noList =>
    have same : rebuilt (simplify definitions kept inside) v = v := rebuild_leaf noMap noList
    rw [same]
    exact ⟨tidy, fun _ _ _ => Iff.rfl⟩

variable (orderly : Orderly key definitions) (shallow : ∀ v, Shallow definitions kept definitions.length v)

include orderly shallow

/-- By induction on how deep definitions are put in: what is put in is simplified less deep, which comes to the same. -/
theorem inlined_replaces {n : Nat} (tidy : Tidy key (IsDefined definitions) v) (ends : Shallow definitions kept n v) :
    Replaces key definitions kept v (inlined definitions kept n v) := by
  induction n generalizing v with
  | zero =>
    -- here only names that are kept are pointed to
    refine rebuilt_replaces listed tidy fun name pointed free body defined => ?_
    cases (ends name pointed free).symm.trans defined
  | succ n ih =>
    refine rebuilt_replaces listed tidy fun name pointed free body defined => ?_
    have deeper := ends name pointed free body defined
    have same : inlined definitions kept n body = flattened definitions kept body := inlined_same deeper (shallow body)
    obtain ⟨schema, rfl, own⟩ := orderly name body defined
    obtain ⟨flat, made⟩ : ∃ flat, inlined definitions kept n (.map schema) = .map flat := inlined_map n schema
    refine ⟨same, flat, same.symm.trans made, ?_⟩
    rw [← made]
    exact ih own deeper

theorem flattened_replaces (tidy : Tidy key (IsDefined definitions) v) : Replaces key definitions kept v (flattened definitions kept v) :=
  inlined_replaces listed orderly shallow tidy (shallow v)

end Meaning

section Collection

variable (definitions kept) in
/-- Definitions that are simplified, each at most once. All that are wanted or that those here refer to are here or
still to come. -/
structure Collected (wanted pending : List String) (found : Entries) : Prop where
  each : ∀ e ∈ found, ∃ name body, definitions.field? name = some body ∧ e = (.str name, flattened definitions kept body)
  distinct : (labels found).Nodup
  wanted : ∀ name ∈ wanted, IsDefined definitions name → name ∈ pending ∨ name ∈ labels found
  closed : ∀ e ∈ found, ∀ name ∈ references e.2, IsDefined definitions name → name ∈ pending ∨ name ∈ labels found

variable {wanted pending : List String} {found : Entries}

variable (definitions kept) in
theorem Collected.start (wanted : List String) : Collected definitions kept wanted wanted [] :=
  ⟨List.forall_mem_nil _, List.nodup_nil, fun _ member _ => .inl member, List.forall_mem_nil _⟩

theorem Collected.field? (collected : Collected definitions kept wanted pending found) {name : String} (member : name ∈ labels found) :
    ∃ body, definitions.field? name = some body ∧ found.field? name = some (flattened definitions kept body) := by
  obtain ⟨v, stands⟩ := hasField_iff.mp (mem_labels.mp member)
  obtain ⟨e, among, named, rfl⟩ := Entries.mem_of_field? stands
  obtain ⟨label, body, defined, rfl⟩ := collected.each e among
  cases named
  exact ⟨body, defined, stands⟩

theorem Collected.labels_subset (collected : Collected definitions kept wanted pending found) : labels found ⊆ labels definitions := by
  intro name member
  obtain ⟨body, defined, -⟩ := collected.field? member
  exact mem_labels.mpr (hasField_iff.mpr ⟨body, defined⟩)

theorem Collected.length_labels (collected : Collected definitions kept wanted pending found) : (labels found).length = found.length := by
  have each := collected.each
  clear collected
  induction found with
  | nil => rfl
  | cons e rest ih =>
    obtain ⟨⟨name, body, -, rfl⟩, others⟩ := List.forall_mem_cons.mp each
    rw [List.length_cons, ← ih others]
    rfl

/-- No two keys of what is collected have one text. -/
theorem Collected.nodup_keys (collected : Collected definitions kept wanted pending found) : (found.map (·.1.str?)).Nodup := by
  have named : found.map (·.1.str?) = (labels found).map some := by
    have each := collected.each
    clear collected
    induction found with
    | nil => rfl
    | cons e rest ih =>
      obtain ⟨⟨name, body, -, rfl⟩, others⟩ := List.forall_mem_cons.mp each
      exact congrArg (some name :: ·) (ih others)
  rw [named]
  exact collected.distinct.map (Option.some_injective _)

theorem Collected.skip {name : String} (collected : Collected definitions kept wanted (name :: pending) found)
    (done : IsDefined definitions name → name ∈ labels found) : Collected definitions kept wanted pending found := by
  have left {other : String} (defined : IsDefined definitions other) (either : other ∈ name :: pending ∨ other ∈ labels found) :
      other ∈ pending ∨ other ∈ labels found := by
    obtain member | listed := either
    · obtain rfl | later := List.mem_cons.mp member
      · exact .inr (done defined)
      · exact .inl later
    · exact .inr listed
  exact ⟨collected.each, collected.distinct, fun other member defined => left defined (collected.wanted other member defined),
    fun e member other mentioned defined => left defined (collected.closed e member other mentioned defined)⟩

theorem labels_append (name : String) (v : Value) : labels (found ++ [(.str name, v)]) = labels found ++ [name] := by
  rw [labels, List.filterMap_append]
  rfl

/-- A definition is added, and what it refers to is still to come. -/
theorem Collected.add {name : String} {body : Value} (collected : Collected definitions kept wanted (name :: pending) found)
    (defined : definitions.field? name = some body) (new : name ∉ labels found) :
    Collected definitions kept wanted (pending ++ references (flattened definitions kept body))
      (found ++ [(.str name, flattened definitions kept body)]) := by
  have onward {other : String} (either : other ∈ name :: pending ∨ other ∈ labels found) :
      other ∈ pending ++ references (flattened definitions kept body) ∨
        other ∈ labels (found ++ [(.str name, flattened definitions kept body)]) := by
    rw [labels_append, List.mem_append, List.mem_append, List.mem_singleton]
    obtain member | listed := either
    · obtain rfl | later := List.mem_cons.mp member
      · exact .inr (.inr rfl)
      · exact .inl (.inl later)
    · exact .inr (.inl listed)
  refine ⟨List.forall_mem_append.mpr ⟨collected.each, List.forall_mem_singleton.mpr ⟨name, body, defined, rfl⟩⟩, ?_,
    fun other member known => onward (collected.wanted other member known), List.forall_mem_append.mpr ⟨?_, ?_⟩⟩
  · rw [labels_append]
    refine List.nodup_append.mpr ⟨collected.distinct, List.pairwise_singleton _ _, fun other before last single same => ?_⟩
    subst same
    cases List.mem_singleton.mp single
    exact new before
  · exact fun e member other mentioned known => onward (collected.closed e member other mentioned known)
  · exact List.forall_mem_singleton.mpr fun other mentioned _ => .inl (List.mem_append_right _ mentioned)

/-- There is room for all definitions. Those that are collected lead to no others, unless one loops of those that are
met on the way. -/
theorem collects_or_loops {Met : String → Prop} {limit : Nat} {done : Entries} (room : definitions.length ≤ limit + done.length)
    (collected : Collected definitions kept wanted pending done) (met : ∀ name ∈ pending, Met name)
    (onward : ∀ name body, Met name → definitions.field? name = some body → ¬ Loops definitions kept body →
      ∀ other ∈ references (flattened definitions kept body), Met other)
    (ended : ∀ name ∈ labels done, Met name ∧ ∀ body, definitions.field? name = some body → ¬ Loops definitions kept body) :
    (∃ found, collect (inlineAll definitions kept) definitions limit done pending = .ok found ∧ Collected definitions kept wanted [] found ∧
      ∀ name ∈ labels found, Met name ∧ ∀ body, definitions.field? name = some body → ¬ Loops definitions kept body) ∨
    collect (inlineAll definitions kept) definitions limit done pending = .error .endless ∧
      ∃ name body, Met name ∧ definitions.field? name = some body ∧ Loops definitions kept body := by
  induction limit, done, pending using collect.induct definitions with
  | case1 limit done =>
    rw [collect]
    exact .inl ⟨done, rfl, collected, ended⟩
  | case2 limit done name pending undefined ih =>
    rw [collect_skip (.inl undefined)]
    refine ih room (collected.skip fun defined => ?_) (List.forall_mem_cons.mp met).2 ended
    rw [IsDefined, Entries.hasField, undefined] at defined
    cases defined
  | case3 limit done name pending body defined known ih =>
    rw [collect_skip (.inr known)]
    exact ih room (collected.skip fun _ => mem_labels.mpr known) (List.forall_mem_cons.mp met).2 ended
  | case4 done name pending body defined unknown =>
    -- the definitions that are done and this one would be more than there are
    have longer : (name :: labels done).Nodup := List.nodup_cons.mpr ⟨fun member => unknown (mem_labels.mp member), collected.distinct⟩
    have listed : name :: labels done ⊆ labels definitions :=
      List.cons_subset.mpr ⟨mem_labels.mpr (hasField_iff.mpr ⟨body, defined⟩), collected.labels_subset⟩
    have bound := longer.length_le_of_subset listed
    have few := length_labels_le definitions
    rw [List.length_cons, collected.length_labels] at bound
    omega
  | case5 done name pending body defined unknown limit ih =>
    obtain ⟨here, later⟩ := List.forall_mem_cons.mp met
    rw [collect_next defined unknown]
    by_cases loops : Loops definitions kept body
    · right
      rw [inlineAll_endless loops]
      exact ⟨rfl, name, body, here, defined, loops⟩
    · rw [inlineAll_eq loops, Except.ok_bind]
      refine ih _ ?_ (collected.add defined fun member => unknown (mem_labels.mp member))
        (List.forall_mem_append.mpr ⟨later, onward name body here defined loops⟩) ?_
      · rw [List.length_append, List.length_singleton]
        omega
      · rw [labels_append]
        refine List.forall_mem_append.mpr ⟨ended, List.forall_mem_singleton.mpr ⟨here, fun other found => ?_⟩⟩
        cases defined.symm.trans found
        exact loops

theorem collect_collects (shallow : ∀ v, Shallow definitions kept definitions.length v) {limit : Nat} {done : Entries}
    (room : definitions.length ≤ limit + done.length) (collected : Collected definitions kept wanted pending done) :
    ∃ found, collect (inlineAll definitions kept) definitions limit done pending = .ok found ∧ Collected definitions kept wanted [] found := by
  have ends (v : Value) : ¬ Loops definitions kept v := shallow_iff.mp (shallow v)
  have either := collects_or_loops room collected (fun _ _ => trivial) (fun _ _ _ _ _ _ _ => trivial) fun _ _ => ⟨trivial, fun body _ => ends body⟩
  obtain ⟨found, collects, collected, -⟩ | ⟨-, -, body, -, -, loops⟩ := either
  · exact ⟨found, collects, collected⟩
  · exact absurd loops (ends body)

end Collection
end RecordSchema.Document
