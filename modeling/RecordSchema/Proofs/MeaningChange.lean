import RecordSchema.Proofs.DocumentKeywords
import RecordSchema.Proofs.SchemaWalk

/-! What a schema of a document admits, when something about it changes: its remarks, the schemas below it,
or the document around it. Main statements: `Admits.alike`, `admits_rebuilt`, `admits_reroot`. -/

namespace RecordSchema.Document

variable {root schema other : Entries} {keyword : String} {under v : Value}

/-- The schemas directly below a schema. -/
def Below (schema : Entries) (w : Value) : Prop := ∃ e ∈ schema, w ∈ subvalues e.1 e.2

theorem subvalues_of_str? {key : Value} (named : key.str? = some keyword) (v : Value) :
    subvalues key v = subvalues (.str keyword) v := by
  have shape : KeywordShape.ofKey? key = KeywordShape.ofKey? (.str keyword) := congrArg (Option.bind · _) named
  unfold subvalues
  rw [shape]

theorem searched_of_str? {key : Value} (named : key.str? = some keyword) (v : Value) :
    searched key v = searched (.str keyword) v := by
  have shape : KeywordShape.ofKey? key = KeywordShape.ofKey? (.str keyword) := congrArg (Option.bind · _) named
  unfold searched subvalues
  rw [shape]

theorem subvalues_eq_nil {key : Value} (named : key.str? = some keyword) (flat : KeywordShape.ofKeyword? keyword = none) (v : Value) :
    subvalues key v = [] := by
  have shape : KeywordShape.ofKey? key = none := by rw [KeywordShape.ofKey?, named]; exact flat
  unfold subvalues
  rw [shape]

theorem Below.of_field? (found : schema.field? keyword = some under) {w : Value} (inside : w ∈ subvalues (.str keyword) under) :
    Below schema w := by
  obtain ⟨e, member, named, rfl⟩ := Entries.mem_of_field? found
  exact ⟨e, member, by rw [subvalues_of_str? named]; exact inside⟩

theorem Below.schemas_subset {w : Value} (below : Below schema w) : schemas w ⊆ schemas (.map schema) := by
  obtain ⟨e, member, inside⟩ := below
  exact fun made met => mem_schemas_map.mpr (.inr ⟨e, member, List.mem_flatMap.mpr ⟨w, inside, met⟩⟩)

theorem Below.pointers_subset {w : Value} (below : Below schema w) : pointers w ⊆ pointers (.map schema) := by
  intro name pointed
  obtain ⟨made, met, points⟩ := mem_pointers.mp pointed
  exact mem_pointers.mpr ⟨made, below.schemas_subset met, points⟩

/-- A value points to a definition if the schema at its top does, or a value below. -/
theorem mem_pointers_map {name : String} :
    name ∈ pointers (.map schema) ↔ pointer? schema = some name ∨ ∃ w, Below schema w ∧ name ∈ pointers w := by
  rw [mem_pointers]
  constructor
  · rintro ⟨made, met, points⟩
    obtain rfl | ⟨e, member, deeper⟩ := mem_schemas_map.mp met
    · exact .inl points
    · obtain ⟨w, inside, within⟩ := List.mem_flatMap.mp deeper
      exact .inr ⟨w, ⟨e, member, inside⟩, mem_pointers.mpr ⟨made, within, points⟩⟩
  · rintro (own | ⟨w, below, pointed⟩)
    · exact ⟨schema, mem_schemas_map.mpr (.inl rfl), own⟩
    · exact mem_pointers.mp (below.pointers_subset pointed)

section Remarks

/-- Schemas that say the same apart from remarks. -/
def Alike (schema other : Entries) : Prop := ∀ keyword, keyword ∉ remarks → schema.field? keyword = other.field? keyword

theorem Alike.symm (alike : Alike schema other) : Alike other schema := fun keyword telling => (alike keyword telling).symm

theorem Admits.alike (admitted : Admits root (.map schema) v) (alike : Alike schema other) : Admits root (.map other) v := by
  cases admitted with
  | keywords each =>
    refine .keywords fun keyword under found => ?_
    by_cases remark : keyword ∈ remarks
    · exact .plain (not_applicator_of_remark remark) (asserts_remark remark _ _)
    · rw [← alike keyword remark] at found
      refine (each keyword under found).of_lists fun name ⟨named, stands, listed⟩ => ⟨named, ?_, listed⟩
      rw [← alike "properties" (by decide), stands]

theorem admits_alike (alike : Alike schema other) : Admits root (.map schema) v ↔ Admits root (.map other) v :=
  ⟨fun admitted => admitted.alike alike, fun admitted => admitted.alike alike.symm⟩

end Remarks

section Children

variable {C : Value → Value → Prop}

/-- What stands under a keyword, in two schemas: the schemas there correspond. -/
inductive Corresponds (C : Value → Value → Prop) : String → Value → Value → Prop where
  | same {keyword : String} {under : Value} : Corresponds C keyword under under
  | single {keyword : String} {sub made : Value} (shape : KeywordShape.ofKeyword? keyword = some .single) (pair : C sub made) :
      Corresponds C keyword sub made
  | many {keyword : String} {subs others : List Value} (shape : KeywordShape.ofKeyword? keyword = some .many)
      (each : ∀ sub ∈ subs, ∃ made ∈ others, C sub made) : Corresponds C keyword (.list subs) (.list others)
  | named {keyword : String} {subs others : Entries} (shape : KeywordShape.ofKeyword? keyword = some .named)
      (each : ∀ name made, others.field? name = some made → ∃ sub, subs.field? name = some sub ∧ C sub made) :
      Corresponds C keyword (.map subs) (.map others)

/-- Keywords that hold schemas say nothing of data, unless they are known to apply them. -/
theorem asserts_of_shape {shape : KeywordShape} (holds : KeywordShape.ofKeyword? keyword = some shape)
    (free : keyword ∉ applicators) (under v : Value) : Asserts keyword under v := by
  unfold KeywordShape.ofKeyword? at holds
  split at holds
  all_goals first | exact trivial | exact absurd (by decide) free | cases holds

/-- A value that obeys a keyword obeys it with what corresponds, if all that the schemas there admit is admitted. -/
theorem Obeys.corresponding {made : Value} (obeyed : Obeys root schema keyword under v) (pairs : Corresponds C keyword under made)
    (into : ∀ w w', C w w' → ∀ u, Admits root w u → Admits root w' u)
    (lists : ∀ name, Lists schema name → Lists other name) : Obeys root other keyword made v := by
  cases pairs with
  | same => exact obeyed.of_lists lists
  | single shape pair =>
    cases obeyed with
    | additionalProperties each =>
      exact .additionalProperties fun entries same e member name named unlisted =>
        into _ _ pair _ (each entries same e member name named fun listed => unlisted (lists name listed))
    | propertyNames each => exact .propertyNames fun entries same e member => into _ _ pair _ (each entries same e member)
    | items each => exact .items fun items same item member => into _ _ pair _ (each items same item member)
    -- `contains`, `not` and the like are not applied by any schema that is generated
    | plain free _ => exact .plain free (asserts_of_shape shape free _ _)
    | pointer _ _ _ | properties _ | anyOf _ _ => cases shape
  | many shape each =>
    cases obeyed with
    | anyOf member admitted =>
      obtain ⟨made, among, pair⟩ := each _ member
      exact .anyOf among (into _ _ pair _ admitted)
    | plain free _ => exact .plain free (asserts_of_shape shape free _ _)
    | _ => cases shape
  | named shape each =>
    cases obeyed with
    | properties every =>
      refine .properties fun entries same name made w stands there => ?_
      obtain ⟨sub, found, pair⟩ := each name made stands
      exact into _ _ pair _ (every entries same name sub w found there)
    | plain free _ => exact .plain free (asserts_of_shape shape free _ _)
    | _ => cases shape

variable {plain : Entries → Entries}

theorem field?_map (change : Value → Value) (entries : Entries) (name : String) :
    Entries.field? (List.map (fun e => (e.1, change e.2)) entries) name = (entries.field? name).map change := by
  induction entries with
  | nil => rfl
  | cons e rest ih =>
    rw [List.map_cons, Entries.field?, Entries.field?, ih]
    split <;> rfl

/-- What a walk makes of the schemas under a keyword corresponds to them, in both directions. -/
theorem corresponds_rebuilt (plain : Entries → Entries) (keyword : String) (under : Value) :
    Corresponds (fun sub made => sub ∈ subvalues (.str keyword) under ∧ made = rebuilt plain sub) keyword under
        (rebuiltUnder plain (.str keyword) under) ∧
      Corresponds (fun made sub => sub ∈ subvalues (.str keyword) under ∧ made = rebuilt plain sub) keyword
        (rebuiltUnder plain (.str keyword) under) under := by
  have key : KeywordShape.ofKey? (.str keyword) = KeywordShape.ofKeyword? keyword := rfl
  unfold rebuiltUnder subvalues
  rw [key]
  generalize shape : KeywordShape.ofKeyword? keyword = found
  rcases found with _ | _ | _ | _
  · exact ⟨.same, .same⟩
  · exact ⟨.single shape ⟨List.mem_singleton_self _, rfl⟩, .single shape ⟨List.mem_singleton_self _, rfl⟩⟩
  · cases under with
    | list items =>
      refine ⟨.many shape fun sub member => ⟨_, List.mem_map_of_mem member, member, rfl⟩, .many shape fun made member => ?_⟩
      obtain ⟨sub, inside, rfl⟩ := List.mem_map.mp member
      exact ⟨sub, inside, inside, rfl⟩
    | _ => exact ⟨.same, .same⟩
  · cases under with
    | map named =>
      have inside {name : String} {sub : Value} (found : Entries.field? named name = some sub) : sub ∈ named.map Prod.snd := by
        obtain ⟨e, member, -, rfl⟩ := Entries.mem_of_field? found
        exact List.mem_map_of_mem member
      refine ⟨.named shape fun name made found => ?_, .named shape fun name sub found => ?_⟩
      · rw [field?_map] at found
        obtain ⟨sub, stands, rfl⟩ := Option.map_eq_some_iff.mp found
        exact ⟨sub, stands, inside stands, rfl⟩
      · exact ⟨rebuilt plain sub, by rw [field?_map, found]; rfl, inside found, rfl⟩
    | _ => exact ⟨.same, .same⟩

theorem lists_rebuilt (plain : Entries → Entries) (schema : Entries) (name : String) :
    Lists (rebuiltEntries plain schema) name ↔ Lists schema name := by
  unfold Lists
  rw [field?_rebuilt]
  cases schema.field? "properties" with
  | none => simp
  | some under =>
    rw [Option.map_some]
    cases under with
    | map named =>
      have made : rebuiltUnder plain (.str "properties") (.map named) = .map (List.map (fun e => (e.1, rebuilt plain e.2)) named) := rfl
      simp [made, field?_map]
    | _ => exact Iff.rfl

/-- A walk that keeps what the schemas below a schema admit keeps what it admits itself. -/
theorem admits_rebuilt (below : ∀ w, Below schema w → ∀ u, Admits root w u ↔ Admits root (rebuilt plain w) u) :
    Admits root (.map schema) v ↔ Admits root (.map (rebuiltEntries plain schema)) v := by
  constructor
  · intro admitted
    cases admitted with
    | keywords each =>
      refine .keywords fun keyword made found => ?_
      rw [field?_rebuilt] at found
      obtain ⟨under, stands, rfl⟩ := Option.map_eq_some_iff.mp found
      refine (each keyword under stands).corresponding (corresponds_rebuilt plain keyword under).1 ?_
        fun name => (lists_rebuilt plain schema name).mpr
      rintro sub _ ⟨inside, rfl⟩ u
      exact (below sub (.of_field? stands inside) u).mp
  · intro admitted
    cases admitted with
    | keywords each =>
      refine .keywords fun keyword under stands => ?_
      have found : (rebuiltEntries plain schema).field? keyword = some (rebuiltUnder plain (.str keyword) under) := by
        rw [field?_rebuilt, stands]
        rfl
      refine (each keyword _ found).corresponding (corresponds_rebuilt plain keyword under).2 ?_
        fun name => (lists_rebuilt plain schema name).mp
      rintro _ sub ⟨inside, rfl⟩ u
      exact (below sub (.of_field? stands inside) u).mpr

end Children

section Roots

variable {first second : Entries} {Good : Value → Prop}

/-- Pointers in schemas of a kind lead to schemas of that kind in one document, and in another one to schemas that
admit as much. -/
structure Redirects (first second : Entries) (Good : Value → Prop) : Prop where
  below : ∀ schema : Entries, Good (.map schema) → ∀ w, Below schema w → Good w
  leads : ∀ (schema : Entries) (under : Value) (pointer : String) (target : Value), Good (.map schema) → schema.field? "$ref" = some under → under.str? = some pointer →
    Pointer.target? first pointer = some target → Good target ∧ ∃ other, Pointer.target? second pointer = some other ∧
      ∀ u, Admits second target u → Admits second other u

mutual

/-- What a schema admits in one document it admits in the other, by recursion over why it is admitted there. -/
theorem admits_reroot (redirects : Redirects first second Good) : ∀ {w v : Value}, Admits first w v → Good w → Admits second w v
  | _, _, .anything, _ => .anything
  | _, _, .keywords each, good => .keywords fun keyword under found => obeys_reroot redirects (each keyword under found) good found

theorem obeys_reroot (redirects : Redirects first second Good) : ∀ {schema : Entries} {keyword : String} {under v : Value},
    Obeys first schema keyword under v → Good (.map schema) → schema.field? keyword = some under → Obeys second schema keyword under v
  | schema, _, under, v, .pointer text leads admitted, good, found => by
    obtain ⟨fine, other, elsewhere, into⟩ := redirects.leads _ _ _ _ good found text leads
    exact .pointer text elsewhere (into v (admits_reroot redirects admitted fine))
  | schema, _, .map named, _, .properties each, good, found => by
    refine .properties fun entries same name sub w stands there => admits_reroot redirects (each entries same name sub w stands there) ?_
    obtain ⟨e, member, -, rfl⟩ := Entries.mem_of_field? stands
    exact redirects.below _ good _ (.of_field? found (List.mem_map_of_mem member))
  | schema, _, under, _, .additionalProperties each, good, found =>
    .additionalProperties fun entries same e member name named unlisted =>
      admits_reroot redirects (each entries same e member name named unlisted)
        (redirects.below _ good _ (.of_field? found (List.mem_singleton_self _)))
  | _, _, _, _, .propertyNames each, good, found =>
    .propertyNames fun entries same e member => admits_reroot redirects (each entries same e member)
      (redirects.below _ good _ (.of_field? found (List.mem_singleton_self _)))
  | _, _, _, _, .items each, good, found =>
    .items fun items same item member => admits_reroot redirects (each items same item member)
      (redirects.below _ good _ (.of_field? found (List.mem_singleton_self _)))
  | _, _, _, _, .anyOf member admitted, good, found =>
    .anyOf member (admits_reroot redirects admitted (redirects.below _ good _ (.of_field? found member)))
  | _, _, _, _, .plain noSchema asserted, _, _ => .plain noSchema asserted

end

theorem admits_iff_of_redirects (onward : Redirects first second Good) (back : Redirects second first Good) {w : Value} (good : Good w) :
    Admits first w v ↔ Admits second w v :=
  ⟨fun admitted => admits_reroot onward admitted good, fun admitted => admits_reroot back admitted good⟩

end Roots

end RecordSchema.Document
