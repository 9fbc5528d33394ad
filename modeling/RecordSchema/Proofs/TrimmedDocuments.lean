import RecordSchema.Proofs.EnforcedContracts
import RecordSchema.Proofs.TrimmedSchemas

/-! Trimming whole documents. Every schema that is left is within the limits and stays at its place; of its properties and
variants the first ones are left. A document that is within the limits loses nothing but what it requires of unknown
properties. Main statements: `trim_leaves_first`, `trim_unchanged_iff`. -/

namespace RecordSchema.Document
open Entries

variable {counts : Counts} {schema : Entries} {v w document : Value} {path : List Place} {P : Entries → Prop}

theorem throughout_of_forall (each : ∀ schema, P schema) (v : Value) : Throughout P v := by
  induction v using descend_searched with
  | map schema below => exact .map (each schema) below
  | leaf v leaf => exact .leaf leaf

theorem trim_of_copyable (counts : Counts) (copyable : v.isCopyable = true) :
    trim counts.limits v = .ok (changed (trimmed counts) v) := by
  rw [trim, Value.copy, if_pos copyable]
  exact changeAll_eq_pure (throughout_of_forall (fun schema => trimSchema_eq counts _) v)

namespace Composite
variable {Key Fine : Value → Prop} (composite : Composite Key Fine)
include composite

theorem field? {keyword : String} (fine : Fine (.map schema)) (stands : schema.field? keyword = some v) : Fine v := by
  obtain ⟨e, member, -, rfl⟩ := mem_of_field? stands
  exact ((composite.map _).mp fine e member).2

theorem apply {amendment : Amendment} (fine : Fine (.map schema)) (chosen : ∀ v, amendment.choose schema = some v → Fine v) :
    Fine (.map (amendment.apply schema)) := by
  rw [Amendment.apply]
  split
  next v called => exact composite.setField fine (chosen v called) _
  next => exact fine

/-- What trimming leaves of a schema is of the kind that the schema is of. -/
theorem trimmed (counts : Counts) (fine : Fine (.map schema)) : Fine (.map (trimmed counts schema)) := by
  have variants (keyword : String) {schema : Entries} (fine : Fine (.map schema)) :
      Fine (.map ((fewVariants counts.variants keyword).apply schema)) := by
    refine composite.apply fine fun v chosen => ?_
    obtain ⟨members, stands, rfl⟩ := choose_fewVariants.mp chosen
    exact (composite.list _).mpr fun w member => (composite.list _).mp (composite.field? fine stands) w (upTo_subset _ _ member)
  have properties {schema : Entries} (fine : Fine (.map schema)) : Fine (.map ((fewProperties counts.properties).apply schema)) := by
    refine composite.apply fine fun v chosen => ?_
    obtain ⟨properties, stands, rfl⟩ := choose_fewProperties.mp chosen
    exact (composite.map _).mpr fun e member => (composite.map _).mp (composite.field? fine stands) e (upTo_subset _ _ member)
  have known {schema : Entries} (fine : Fine (.map schema)) : Fine (.map ((onlyKnown counts.properties.isSome).apply schema)) := by
    refine composite.apply fine fun v chosen => ?_
    obtain ⟨-, _, -, names, stands, rfl⟩ := choose_onlyKnown.mp chosen
    exact (composite.list _).mpr fun w member => (composite.list _).mp (composite.field? fine stands) w (List.mem_of_mem_filter member)
  have described : Fine (.map (undescribed counts.withoutDescriptions schema)) := by
    unfold undescribed
    split
    · exact composite.dropField fine _
    · exact fine
  exact known (properties (variants "oneOf" (variants "anyOf" described)))

end Composite

/-- A schema within the limits that requires no unknown properties, if properties are counted. -/
def Tidied (counts : Counts) (schema : Entries) : Prop :=
  Within counts schema ∧ (counts.properties.isSome = true → RequiresKnown schema)

theorem throughout_trimmed (counts : Counts) (v : Value) : Throughout (Tidied counts) (changed (trimmed counts) v) :=
  (throughout_of_forall (fun _ => trivial) v : Throughout (fun _ => True) v).changed (grounded_trimmed counts) fun _ _ =>
    ⟨within_trimmed counts _, fun counted => known_trimmed counted _⟩

theorem changed_trimmed_eq_self_iff : changed (trimmed counts) v = v ↔ Throughout (Tidied counts) v := by
  constructor
  · intro same
    rw [← same]
    exact throughout_trimmed counts v
  · intro each
    induction each with
    | map here _ ih => rw [changed_map, changedEntries_of_fixed ih, trimmed_eq_self_iff.mpr here]
    | leaf leaf => exact changed_of_leaf leaf

/-- What stands under a keyword for properties, or for a list of variants, is as long as before. -/
theorem Within.changed (within : Within counts schema) (plain : Entries → Entries) : Within counts (changedEntries plain schema) where
  undescribed removed := (field?_changed_of_flat rfl plain schema).trans (within.undescribed removed)
  variants n counted keyword listed members stands := by
    rw [field?_changed] at stands
    obtain ⟨v, before, same⟩ := Option.map_eq_some_iff.mp stands
    unfold changedUnder at same
    rw [ofKey?_str, shape_of_variants listed] at same
    cases v with
    | list items =>
      cases same
      rw [List.length_map]
      exact within.variants n counted keyword listed items before
    | _ => cases same
  properties n counted properties stands := by
    rw [field?_changed] at stands
    obtain ⟨v, before, same⟩ := Option.map_eq_some_iff.mp stands
    cases v with
    | map entries =>
      cases same
      rw [List.length_map]
      exact within.properties n counted entries before
    | _ => cases same

/-- Within the limits nothing changes but what is required. -/
theorem changed_trimmed_of_within (each : Throughout (Within counts) v) :
    changed (trimmed counts) v = changed (onlyKnown counts.properties.isSome).apply v :=
  changeAll_eq_pure (m := Id) (each.imp fun _ within => trimmed_of_within (within.changed _))

theorem leaves_changed (plain : Entries → Entries) (schema : Entries) (place : Place) :
    leaves counts (changedEntries plain schema) place = leaves counts schema place := by
  unfold leaves
  split
  next => rfl
  next name =>
    rw [field?_changed]
    cases schema.field? "properties" with
    | none => rfl
    | some v =>
      cases v with
      | map properties =>
        show Entries.hasField (upTo counts.properties (List.map (fun e => (e.1, changed plain e.2)) properties)) name =
          Entries.hasField (upTo counts.properties properties) name
        rw [upTo_map, hasField, hasField, field?_map, Option.isSome_map]
      | _ => rfl
  next => rfl

/-- Schemas that are left stay at their places. -/
theorem schemaAt?_trimmed (counts : Counts) (v : Value) (path : List Place) : schemaAt? (changed (trimmed counts) v) path =
    (reached? (fun schema place _ => leaves counts schema place) v path).map fun schema => trimmed counts (changedEntries (trimmed counts) schema) := by
  refine schemaAt?_changed (P := fun _ => True) (throughout_of_forall (fun _ => trivial) v) (fun schema _ place => ?_) path
  rw [child?_trimmed, child?_changed, leaves_changed]
  cases child? schema place with
  | none => rfl
  | some w => cases leaves counts schema place <;> rfl

/-- What is left of a schema: of its properties and its variants the first ones, each trimmed, and of what is required the
properties that are left, if properties are counted. Of the rest nothing but a description is taken. -/
structure LeavesFirst (counts : Counts) (before after : Entries) : Prop where
  properties : ∀ properties, before.field? "properties" = some (.map properties) → ∃ kept, after.field? "properties" = some (.map kept) ∧
    List.Forall₂ (fun e d => d.1 = e.1 ∧ trim counts.limits e.2 = .ok d.2) (upTo counts.properties properties) kept
  variants : ∀ keyword ∈ ["anyOf", "oneOf"], ∀ members, before.field? keyword = some (.list members) → ∃ kept,
    after.field? keyword = some (.list kept) ∧ List.Forall₂ (fun v w => trim counts.limits v = .ok w) (upTo counts.variants members) kept
  required : counts.properties.isSome = true → ∀ properties names, before.field? "properties" = some (.map properties) →
    before.field? "required" = some (.list names) →
      after.field? "required" = some (.list (names.filter fun name => Entries.hasKey (upTo counts.properties properties) name))
  other : ∀ keyword, KeywordShape.ofKeyword? keyword = none → (keyword = "required" → counts.properties = none) →
    (keyword = "description" → counts.withoutDescriptions = false) → after.field? keyword = before.field? keyword

theorem leavesFirst_trimmed (copyable : (Value.map schema).isCopyable = true) :
    LeavesFirst counts schema (trimmed counts (changedEntries (trimmed counts) schema)) where
  properties properties stands := by
    have own := (isCopyable_composite.map _).mp (isCopyable_composite.field? copyable stands)
    refine ⟨(upTo counts.properties properties).map fun e => (e.1, changed (trimmed counts) e.2), ?_, ?_⟩
    · rw [field?_trimmed counts _ (by decide), field?_changed, stands, ← upTo_map]
      rfl
    · rw [List.forall₂_map_right_iff, List.forall₂_same]
      exact fun e member => ⟨rfl, trim_of_copyable counts (own e (upTo_subset _ _ member)).2⟩
  variants keyword listed members stands := by
    have own := (isCopyable_composite.list _).mp (isCopyable_composite.field? copyable stands)
    have under : changedUnder (trimmed counts) (.str keyword) (.list members) = .list (members.map (changed (trimmed counts))) := by
      unfold changedUnder
      rw [ofKey?_str, shape_of_variants listed]
    refine ⟨(upTo counts.variants members).map (changed (trimmed counts)), ?_, ?_⟩
    · rw [field?_trimmed counts _ (variants_apart keyword listed), field?_changed, stands, cut, if_pos listed, Option.map_some, Option.map_some,
        under, shorten, upTo_map]
    · rw [List.forall₂_map_right_iff, List.forall₂_same]
      exact fun v member => trim_of_copyable counts (own v (upTo_subset _ _ member))
  required counted properties names stands listed := by
    have under : (changedEntries (trimmed counts) schema).field? "properties" =
        some (.map (List.map (fun e => (e.1, changed (trimmed counts) e.2)) properties)) := by
      rw [field?_changed, stands]
      rfl
    rw [field?_required_trimmed counted under, field?_changed_of_flat rfl, listed, Option.map_some, stillKnown, upTo_map]
    refine congrArg (some ∘ Value.list) (List.filter_congr fun name _ => ?_)
    rw [Entries.hasKey, Entries.hasKey, List.any_map]
    rfl
  other keyword flat uncounted kept := by
    by_cases required : keyword = "required"
    · subst required
      rw [field?_required_of_uncounted (uncounted rfl), field?_changed_of_flat rfl]
    · by_cases description : keyword = "description"
      · subst description
        rw [field?_description_trimmed, kept rfl, if_neg Bool.false_ne_true, field?_changed_of_flat rfl]
      · have uncut : cut counts keyword = id := by
          have unlisted : keyword ∉ ["anyOf", "oneOf"] := by
            intro listed
            simp only [List.mem_cons, List.not_mem_nil, or_false] at listed
            obtain rfl | rfl := listed <;> cases flat
          have unnamed : keyword ≠ "properties" := by
            rintro rfl
            cases flat
          rw [cut, if_neg unlisted, if_neg unnamed]
        rw [field?_trimmed counts _ (by simp [required, description]), field?_changed_of_flat flat, uncut, Option.map_id, id]

theorem hasKey_of_keys {entries others : Entries} (same : keys entries = keys others) (key : Value) : entries.hasKey key = others.hasKey key := by
  have byKeys (entries : Entries) : entries.hasKey key = (keys entries).any (·.same key) := by
    rw [Entries.hasKey, keys, List.any_map]
    rfl
  rw [byKeys, byKeys, same]

/-- What is required and still there stays required. -/
theorem LeavesFirst.stillRequired {before after properties : Entries} {names : List Value} (first : LeavesFirst counts before after)
    (stands : before.field? "properties" = some (.map properties)) (listed : before.field? "required" = some (.list names)) :
    ∃ kept left, after.field? "properties" = some (.map kept) ∧ after.field? "required" = some (.list left) ∧ left.Sublist names ∧
      ∀ name ∈ names, Entries.hasKey kept name = true → name ∈ left := by
  obtain ⟨kept, remains, pairs⟩ := first.properties properties stands
  have same : keys kept = keys (upTo counts.properties properties) :=
    (List.forall₂_eq_eq_eq ▸ List.forall₂_map_left_iff.mpr (List.forall₂_map_right_iff.mpr (pairs.flip.imp fun _ _ pair => pair.1)))
  cases counted : counts.properties with
  | none =>
    have unchanged := first.other "required" rfl (fun _ => counted) (absurd · (by decide))
    exact ⟨kept, names, remains, unchanged.trans listed, List.Sublist.refl names, fun _ member _ => member⟩
  | some n =>
    refine ⟨kept, _, remains, first.required (by rw [counted]; rfl) properties names stands listed, List.filter_sublist, fun name member known => ?_⟩
    rw [hasKey_of_keys same] at known
    exact List.mem_filter.mpr ⟨member, known⟩

/-- Trimming a JSON document leaves of every schema the first properties and variants, at their positions; no schema that
is left exceeds a limit or requires what it does not have, and doing it again changes nothing. -/
theorem trim_leaves_first (counts : Counts) (json : document.isJson = true) :
    ∃ made, trim counts.limits document = .ok made ∧
      (∀ path after, schemaAt? made path = some after → Tidied counts after) ∧
      (∀ path after, schemaAt? made path = some after ↔ ∃ before,
        reached? (fun schema place _ => leaves counts schema place) document path = some before ∧
          trim counts.limits (.map before) = .ok (.map after)) ∧
      (∀ path before after, reached? (fun schema place _ => leaves counts schema place) document path = some before →
        schemaAt? made path = some after → LeavesFirst counts before after) ∧
      trim counts.limits made = .ok made := by
  have copyable := Value.isCopyable_of_isJson json
  have inner {path : List Place} {before : Entries} (reached : reached? (fun schema place _ => leaves counts schema place) document path = some before) :
      (Value.map before).isCopyable = true := isCopyable_composite.reached copyable reached
  refine ⟨_, trim_of_copyable counts copyable, fun path after stands => ?_, fun path after => ?_, fun path before after reached stands => ?_, ?_⟩
  · exact ((throughout_trimmed counts document).reached stands).here
  · rw [schemaAt?_trimmed, Option.map_eq_some_iff]
    refine exists_congr fun before => and_congr_right fun reached => ?_
    rw [trim_of_copyable counts (inner reached), changed_map, Except.ok.injEq, Value.map.injEq]
  · rw [schemaAt?_trimmed, reached] at stands
    cases stands
    exact leavesFirst_trimmed (inner reached)
  · rw [trim_of_copyable counts (isCopyable_composite.changed (fun _ => isCopyable_composite.trimmed counts) copyable),
      changed_changed (grounded_trimmed counts) (trimmed_trimmed counts)]

/-- A computer with a description, and with three properties; one of them is called description, and can be null. -/
def computer : Value :=
  .map [(.str "description", .str "A computer."),
    (.str "properties", .map [
      (.str "description", .map [(.str "description", .str "What it is for."),
        (.str "anyOf", .list [.map [(.str "type", .str "string")], .map [(.str "type", .str "null")]])]),
      (.str "serial", .map [(.str "type", .str "string")]),
      (.str "owner", .map [(.str "type", .str "string")])]),
    (.str "required", .list [.str "serial", .str "owner"])]

theorem computer_leaves_first : computer.isJson = true ∧ ∃ made, trim (Counts.mk true (some 1) (some 2)).limits computer = .ok made ∧
    schemaAt? made [.named "properties" "description"] = some [(.str "anyOf", .list [.map [(.str "type", .str "string")]])] ∧
    (∀ after, schemaAt? made [] = some after → after.field? "required" = some (.list [.str "serial"])) ∧
    trim (Counts.mk true (some 1) (some 2)).limits made = .ok made := by
  have json : computer.isJson = true := by decide
  obtain ⟨made, done, -, positions, first, again⟩ := trim_leaves_first ⟨true, some 1, some 2⟩ json
  refine ⟨json, made, done, (positions _ _).mpr ⟨_, rfl, by with_unfolding_all rfl⟩, fun after stands => ?_, again⟩
  exact (first [] _ after rfl stands).required rfl _ _ rfl rfl

/-- A JSON document comes out of trimming as it is if and only if no schema exceeds a limit, or requires what it does not
have if properties are counted; the latter is all that is dropped from a document within the limits. Beyond them, too, what
is required and still there stays required. -/
theorem trim_unchanged_iff (counts : Counts) (json : document.isJson = true) (apart : document.all Value.keysApart = true) :
    (trim counts.limits document = .ok document ↔ ∀ path schema, schemaAt? document path = some schema →
      Within counts schema ∧ (counts.properties.isSome = true → RequiresKnown schema)) ∧
    ((∀ path schema, schemaAt? document path = some schema → Within counts schema) →
      trim counts.limits document = .ok (changed (onlyKnown counts.properties.isSome).apply document)) ∧
    ∀ made, trim counts.limits document = .ok made → ∀ path before after,
      reached? (fun schema place _ => leaves counts schema place) document path = some before → schemaAt? made path = some after →
      ∀ properties names, before.field? "properties" = some (.map properties) → before.field? "required" = some (.list names) →
        ∃ kept left, after.field? "properties" = some (.map kept) ∧ after.field? "required" = some (.list left) ∧ left.Sublist names ∧
          ∀ name ∈ names, Entries.hasKey kept name = true → name ∈ left := by
  have copyable := Value.isCopyable_of_isJson json
  have positions {P : Entries → Prop} (each : ∀ path schema, schemaAt? document path = some schema → P schema) : Throughout P document :=
    throughout_of_schemaAt? json apart each
  rw [trim_of_copyable counts copyable, Except.ok.injEq, changed_trimmed_eq_self_iff]
  refine ⟨⟨fun each path schema stands => (each.reached stands).here, positions⟩, fun each => ?_, ?_⟩
  · rw [changed_trimmed_of_within (positions each)]
  · rintro _ ⟨⟩ path before after reached left properties names stands listed
    rw [schemaAt?_trimmed, reached] at left
    cases left
    exact (leavesFirst_trimmed (isCopyable_composite.reached copyable reached)).stillRequired stands listed

/-- A member with a contact of one of two kinds. -/
def member : Value :=
  .map [(.str "type", .str "object"),
    (.str "properties", .map [(.str "name", .map [(.str "type", .str "string")]),
      (.str "contact", .map [(.str "oneOf", .list [.map [(.str "type", .str "string")], .map [(.str "type", .str "integer")]])])]),
    (.str "required", .list [.str "name"])]

theorem member_unchanged : member.isJson = true ∧ member.all Value.keysApart = true ∧
    trim (Counts.mk true (some 2) (some 2)).limits member = .ok member ∧
    ∀ path schema, schemaAt? member path = some schema → Within ⟨true, some 2, some 2⟩ schema ∧ RequiresKnown schema := by
  have json : member.isJson = true := by decide
  have apart : member.all Value.keysApart = true := by decide
  have unchanged : trim (Counts.mk true (some 2) (some 2)).limits member = .ok member := by with_unfolding_all rfl
  refine ⟨json, apart, unchanged, fun path schema stands => ?_⟩
  obtain ⟨within, known⟩ := (trim_unchanged_iff _ json apart).1.mp unchanged path schema stands
  exact ⟨within, known rfl⟩

/-- An account with an address, and with what is required of it. -/
def account (required : List Value) : Value :=
  .map [(.str "properties", .map [(.str "email", .map [])]), (.str "required", .list required)]

/-- A document within the limits changes where an unknown property is required. -/
theorem unknown_unrequired : (account [.str "email", .str "phone"]).isJson = true ∧ (account [.str "email", .str "phone"]).all Value.keysApart = true ∧
    (∀ path schema, schemaAt? (account [.str "email", .str "phone"]) path = some schema → Within ⟨false, none, some 5⟩ schema) ∧
    trim (Counts.mk false none (some 5)).limits (account [.str "email", .str "phone"]) = .ok (account [.str "email"]) ∧
    account [.str "email"] ≠ account [.str "email", .str "phone"] := by
  have each : Throughout (Within ⟨false, none, some 5⟩) (account [.str "email", .str "phone"]) := by
    refine .map ⟨nofun, nofun, ?_⟩ ?_
    · rintro _ ⟨⟩ _ ⟨⟩
      decide
    · have email : Throughout (Within ⟨false, none, some 5⟩) (.map []) := .map ⟨nofun, nofun, nofun⟩ nofun
      simpa [searched, subvalues, KeywordShape.ofKey?, KeywordShape.ofKeyword?, Value.str?] using email
  exact ⟨by decide, by decide, fun path schema stands => (each.reached stands).here, by with_unfolding_all rfl, by simp [account]⟩

end RecordSchema.Document
