import RecordSchema.Document.Trim
import RecordSchema.Proofs.ProfileContracts
import RecordSchema.Proofs.WellFormedTypes

/-! Trimming one schema. It comes to setting a few keywords, one after another; what it leaves is within the limits, and
a schema that is within them and requires no unknown properties is left as it is. Main statements: `trimSchema_eq`,
`trimmed_eq_self_iff`. -/

namespace RecordSchema

/-- Counts of what trimming leaves; where there is none, it leaves all. -/
structure Counts where
  withoutDescriptions : Bool
  variants : Option Nat
  properties : Option Nat

namespace Counts

/-- A count as a limit. -/
def limit (count : Option Nat) : Value := (count.map fun n => Value.int n).getD .null

def limits (counts : Counts) : TrimLimits where
  removeDescriptions := counts.withoutDescriptions
  maxVariants := limit counts.variants
  maxProperties := limit counts.properties

end Counts

namespace Document
open Entries

variable {counts : Counts} {count : Option Nat} {schema : Entries} {keyword name : String} {v : Value}

section First
variable {α : Type}

/-- The first items, as many as are counted. -/
def upTo (count : Option Nat) (items : List α) : List α := (count.map items.take).getD items

theorem length_upTo (items : List α) : ∀ n ∈ count, (upTo count items).length ≤ n := by
  rintro n rfl
  exact List.length_take_le n items

theorem upTo_of_length_le {items : List α} (few : ∀ n ∈ count, items.length ≤ n) : upTo count items = items := by
  cases count with
  | none => rfl
  | some n => exact List.take_of_length_le (few n rfl)

theorem upTo_subset (count : Option Nat) (items : List α) : upTo count items ⊆ items := by
  cases count with
  | none => exact List.Subset.refl items
  | some n => exact List.take_subset n items

theorem upTo_map {β : Type} (f : α → β) (items : List α) : upTo count (items.map f) = (upTo count items).map f := by
  cases count with
  | none => rfl
  | some n => exact List.map_take.symm

theorem getElem?_upTo (items : List α) (index : Nat) :
    (upTo count items)[index]? = if count.all (index < ·) then items[index]? else none := by
  cases count with
  | none => rfl
  | some n => simp [upTo, List.getElem?_take]

/-- The first entry with a name is among the first ones, or there is none with it among them. -/
theorem field?_upTo (entries : Entries) (name : String) :
    field? (upTo count entries) name = if (hasField (upTo count entries) name) then entries.field? name else none := by
  cases count with
  | none =>
    show entries.field? name = if entries.hasField name then _ else _
    rw [hasField]
    cases entries.field? name <;> rfl
  | some n =>
    show Entries.field? (entries.take n) name = if Entries.hasField (entries.take n) name then _ else _
    induction entries generalizing n with
    | nil => simp [Entries.field?]
    | cons e rest ih =>
      obtain ⟨key, v⟩ := e
      cases n with
      | zero => rfl
      | succ n =>
        rw [List.take_succ_cons, hasField, Entries.field?, Entries.field?]
        split
        · rfl
        · exact ih n

end First

/-- Leaves the first members of a list of variants. -/
def fewVariants (count : Option Nat) (keyword : String) : Amendment where
  keyword
  choose schema := ((schema.field? keyword).bind Value.list?).map fun members => .list (upTo count members)

/-- Leaves the first properties. -/
def fewProperties (count : Option Nat) : Amendment where
  keyword := "properties"
  choose schema := ((schema.field? "properties").bind Value.ownEntries?).map fun properties => .map (upTo count properties)

/-- Requires no unknown properties, where properties are counted. -/
def onlyKnown (counted : Bool) : Amendment where
  keyword := "required"
  choose schema := do
    guard counted
    let properties ← (schema.field? "properties").bind Value.ownEntries?
    let names ← (schema.field? "required").bind Value.list?
    return .list (names.filter fun name => properties.hasKey name)

def undescribed (remove : Bool) (schema : Entries) : Entries := if remove then schema.dropField "description" else schema

/-- A schema as trimming leaves it. -/
def trimmed (counts : Counts) (schema : Entries) : Entries :=
  (onlyKnown counts.properties.isSome).apply <| (fewProperties counts.properties).apply <|
    (fewVariants counts.variants "oneOf").apply <| (fewVariants counts.variants "anyOf").apply <|
      undescribed counts.withoutDescriptions schema

section Settled

/-- An amendment that sets what stands there already leaves a schema as it is. -/
theorem Amendment.apply_of_settled {amendment : Amendment}
    (settled : ∀ v, amendment.choose schema = some v → schema.field? amendment.keyword = some v) : amendment.apply schema = schema := by
  cases chosen : amendment.choose schema with
  | none => exact apply_of_none chosen
  | some v => rw [apply_of_some chosen, setField_of_present (settled v chosen)]

theorem choose_fewVariants : (fewVariants count keyword).choose schema = some v ↔
    ∃ members, schema.field? keyword = some (.list members) ∧ .list (upTo count members) = v := by
  simp only [fewVariants, Option.map_eq_some_iff, Option.bind_eq_some_iff]
  constructor
  · rintro ⟨members, ⟨w, stands, list⟩, same⟩
    cases w with
    | list _ => cases list; exact ⟨members, stands, same⟩
    | _ => cases list
  · rintro ⟨members, stands, same⟩
    exact ⟨members, ⟨_, stands, rfl⟩, same⟩

theorem choose_fewProperties : (fewProperties count).choose schema = some v ↔
    ∃ properties, schema.field? "properties" = some (.map properties) ∧ .map (upTo count properties) = v := by
  simp only [fewProperties, Option.map_eq_some_iff, Option.bind_eq_some_iff]
  constructor
  · rintro ⟨properties, ⟨w, stands, own⟩, same⟩
    cases w with
    | map _ => cases own; exact ⟨properties, stands, same⟩
    | _ => cases own
  · rintro ⟨properties, stands, same⟩
    exact ⟨properties, ⟨_, stands, rfl⟩, same⟩

theorem choose_onlyKnown {counted : Bool} : (onlyKnown counted).choose schema = some v ↔ counted = true ∧
    ∃ properties, schema.field? "properties" = some (.map properties) ∧ ∃ names, schema.field? "required" = some (.list names) ∧
      .list (names.filter fun name => Entries.hasKey properties name) = v := by
  cases counted with
  | false => simp [onlyKnown]
  | true =>
    simp only [onlyKnown, guard_true, pure_bind, Option.bind_eq_bind, Option.bind_eq_some_iff, true_and]
    constructor
    · rintro ⟨properties, ⟨u, stands, own⟩, names, ⟨w, listed, list⟩, same⟩
      cases u with
      | map _ =>
        cases w with
        | list _ =>
          cases own
          cases list
          exact ⟨properties, stands, names, listed, Option.some.inj same⟩
        | _ => cases list
      | _ => cases own
    · rintro ⟨properties, stands, names, listed, same⟩
      exact ⟨properties, ⟨_, stands, rfl⟩, names, ⟨_, listed, rfl⟩, congrArg some same⟩

theorem choose_onlyKnown_of_unlisted {counted : Bool} (unlisted : ∀ names, schema.field? "required" ≠ some (.list names)) :
    (onlyKnown counted).choose schema = none := by
  refine Option.eq_none_iff_forall_ne_some.mpr fun v chosen => ?_
  obtain ⟨-, _, -, names, stands, -⟩ := choose_onlyKnown.mp chosen
  exact unlisted names stands

theorem fewVariants_of_few (few : ∀ n ∈ count, ∀ members, schema.field? keyword = some (.list members) → members.length ≤ n) :
    (fewVariants count keyword).apply schema = schema := by
  refine Amendment.apply_of_settled fun v chosen => ?_
  obtain ⟨members, stands, rfl⟩ := choose_fewVariants.mp chosen
  rw [upTo_of_length_le fun n counted => few n counted members stands]
  exact stands

theorem fewProperties_of_few (few : ∀ n ∈ count, ∀ properties, schema.field? "properties" = some (.map properties) → properties.length ≤ n) :
    (fewProperties count).apply schema = schema := by
  refine Amendment.apply_of_settled fun v chosen => ?_
  obtain ⟨properties, stands, rfl⟩ := choose_fewProperties.mp chosen
  rw [upTo_of_length_le fun n counted => few n counted properties stands]
  exact stands

end Settled

section Agreement

theorem trimVariants_eq (n : Nat) (keyword : String) (schema : Entries) :
    trimVariants (.int n) keyword schema = .ok ((fewVariants (some n) keyword).apply schema) := by
  rw [trimVariants, Amendment.apply]
  cases stands : schema.field? keyword with
  | none => simp [fewVariants, stands]
  | some v =>
    cases v with
    | list members =>
      show (if (Quantity.ofInt n).lt (.ofInt members.length) = true then
        Except.ok (schema.setField keyword (.list (members.take n))) else Except.ok schema) = _
      simp only [fewVariants, stands, Option.bind_some, Value.list?, Option.map_some, Quantity.lt_ofInt]
      split
      next => rfl
      next many =>
        have all : upTo (some n) members = members := upTo_of_length_le (by simpa using many)
        rw [all, setField_of_present stands]
    | _ => simp [fewVariants, stands, Value.list?]

theorem trimProperties_eq (n : Nat) (schema : Entries) :
    trimProperties (.int n) schema = .ok ((onlyKnown true).apply ((fewProperties (some n)).apply schema)) := by
  rw [trimProperties]
  cases stands : schema.field? "properties" with
  | none =>
    have unchanged : (fewProperties (some n)).apply schema = schema := Amendment.apply_of_none (by simp [fewProperties, stands])
    rw [unchanged, Amendment.apply_of_none (by simp [onlyKnown, stands])]
  | some v =>
    cases v with
    | map properties =>
      have changed : (fewProperties (some n)).apply schema = schema.setField "properties" (.map (properties.take n)) :=
        Amendment.apply_of_some (by simp [fewProperties, stands, Value.ownEntries?, upTo])
      have kept : takeUpTo (.int n) properties = .ok (properties.take n) := rfl
      dsimp only
      rw [kept, Except.ok_bind, changed, Amendment.apply]
      -- What is required is read beside the properties that are left.
      cases listed : (schema.setField "properties" (.map (properties.take n))).field? "required" with
      | none =>
        rw [choose_onlyKnown_of_unlisted (by simp [listed])]
        rfl
      | some v =>
        cases v with
        | list names =>
          have chosen := choose_onlyKnown.mpr ⟨rfl, _, field?_setField_self .., names, listed, rfl⟩
          rw [chosen]
          rfl
        | _ =>
          rw [choose_onlyKnown_of_unlisted (by simp [listed])]
          rfl
    | _ =>
      have unchanged : (fewProperties (some n)).apply schema = schema :=
        Amendment.apply_of_none (by simp [fewProperties, stands, Value.ownEntries?])
      rw [unchanged, Amendment.apply_of_none (by simp [onlyKnown, stands, Value.ownEntries?])]

/-- Trimming a schema by counts takes nothing else. -/
theorem trimSchema_eq (counts : Counts) (schema : Entries) : trimSchema counts.limits schema = .ok (trimmed counts schema) := by
  obtain ⟨remove, variants, properties⟩ := counts
  have bare (schema : Entries) : (fewVariants none "oneOf").apply ((fewVariants none "anyOf").apply schema) = schema := by
    rw [fewVariants_of_few (by simp), fewVariants_of_few (by simp)]
  have whole (schema : Entries) : (onlyKnown false).apply ((fewProperties none).apply schema) = schema := fewProperties_of_few (by simp)
  have few (m : Nat) (schema : Entries) (next : Entries → Except Fault Entries) :
      (do let schema ← trimVariants (.int m) "anyOf" schema
          let schema ← trimVariants (.int m) "oneOf" schema
          next schema) = next ((fewVariants (some m) "oneOf").apply ((fewVariants (some m) "anyOf").apply schema)) := by
    rw [trimVariants_eq, Except.ok_bind, trimVariants_eq, Except.ok_bind]
  rw [trimmed]
  cases variants with
  | none =>
    rw [bare]
    cases properties with
    | none => exact congrArg Except.ok (whole _).symm
    | some n => exact trimProperties_eq n _
  | some m =>
    cases properties with
    | none => exact (few m _ pure).trans (congrArg Except.ok (whole _).symm)
    | some n => exact (few m _ (trimProperties (.int n))).trans (trimProperties_eq n _)

end Agreement

section Fields

theorem field?_undescribed (remove : Bool) (schema : Entries) (keyword : String) : (undescribed remove schema).field? keyword =
    if remove = true ∧ keyword = "description" then none else schema.field? keyword := by
  unfold undescribed
  cases remove with
  | false => rfl
  | true =>
    by_cases same : keyword = "description"
    · simp [same, field?_dropField_self]
    · simp [same, field?_dropField_of_ne _ same]

/-- What is left of a list of variants. -/
def shorten (count : Option Nat) : Value → Value
  | .list members => .list (upTo count members)
  | v => v

/-- What is left of properties. -/
def narrow (count : Option Nat) : Value → Value
  | .map properties => .map (upTo count properties)
  | v => v

theorem field?_fewVariants (keyword other : String) : ((fewVariants count keyword).apply schema).field? other =
    (schema.field? other).map (if other = keyword then shorten count else id) := by
  rw [Amendment.field?_apply]
  by_cases same : other = keyword
  · subst same
    simp only [fewVariants, if_true]
    cases schema.field? other with
    | none => rfl
    | some v => cases v <;> rfl
  · rw [if_neg same, Option.map_id, id]
    exact if_neg same

theorem field?_fewProperties (other : String) : ((fewProperties count).apply schema).field? other =
    (schema.field? other).map (if other = "properties" then narrow count else id) := by
  rw [Amendment.field?_apply]
  by_cases same : other = "properties"
  · subst same
    simp only [fewProperties, if_true]
    cases schema.field? "properties" with
    | none => rfl
    | some v => cases v <;> rfl
  · rw [if_neg same, Option.map_id, id]
    exact if_neg same

/-- What trimming leaves under a keyword. What is required takes more than that to tell. -/
def cut (counts : Counts) (keyword : String) : Value → Value :=
  if keyword ∈ ["anyOf", "oneOf"] then shorten counts.variants
  else if keyword = "properties" then narrow counts.properties
  else id

theorem shape_of_variants (listed : keyword ∈ ["anyOf", "oneOf"]) : KeywordShape.ofKeyword? keyword = some .many := by
  simp only [List.mem_cons, List.not_mem_nil, or_false] at listed
  obtain rfl | rfl := listed <;> rfl

theorem variants_apart : ∀ keyword ∈ ["anyOf", "oneOf"], keyword ∉ ["required", "description"] := by decide

theorem field?_trimmed_eq (counts : Counts) (schema : Entries) (other : keyword ≠ "required") : (trimmed counts schema).field? keyword =
    ((undescribed counts.withoutDescriptions schema).field? keyword).map (cut counts keyword) := by
  have unrequired (schema : Entries) : ((onlyKnown counts.properties.isSome).apply schema).field? keyword = schema.field? keyword := by
    rw [Amendment.field?_apply]
    exact if_neg other
  rw [trimmed, unrequired, field?_fewProperties, field?_fewVariants, field?_fewVariants, Option.map_map, Option.map_map, cut]
  congr 1
  by_cases properties : keyword = "properties"
  · subst properties
    simp
  · by_cases any : keyword = "anyOf"
    · subst any
      simp
    · by_cases one : keyword = "oneOf" <;> simp [properties, any, one]

theorem field?_trimmed (counts : Counts) (schema : Entries) (other : keyword ∉ ["required", "description"]) :
    (trimmed counts schema).field? keyword = (schema.field? keyword).map (cut counts keyword) := by
  simp only [List.mem_cons, List.not_mem_nil, or_false, not_or] at other
  rw [field?_trimmed_eq counts schema other.1, field?_undescribed, if_neg fun both => other.2 both.2]

theorem field?_description_trimmed (counts : Counts) (schema : Entries) : (trimmed counts schema).field? "description" =
    if counts.withoutDescriptions then none else schema.field? "description" := by
  have uncut : cut counts "description" = id := rfl
  rw [field?_trimmed_eq counts schema (by decide), uncut, Option.map_id, id, field?_undescribed]
  simp only [and_true]

/-- What is still required of properties. -/
def stillKnown (properties : Entries) : Value → Value
  | .list names => .list (names.filter fun name => properties.hasKey name)
  | v => v

theorem field?_onlyKnown {properties : Entries} (stands : schema.field? "properties" = some (.map properties)) :
    ((onlyKnown true).apply schema).field? "required" = (schema.field? "required").map (stillKnown properties) := by
  rw [Amendment.field?_apply]
  simp only [onlyKnown, if_true, stands, guard_true, pure_bind]
  cases schema.field? "required" with
  | none => rfl
  | some v => cases v <;> rfl

/-- Where properties are counted, nothing else is required than those that are left. -/
theorem field?_required_trimmed {properties : Entries} (counted : counts.properties.isSome = true)
    (stands : schema.field? "properties" = some (.map properties)) : (trimmed counts schema).field? "required" =
      (schema.field? "required").map (stillKnown (upTo counts.properties properties)) := by
  rw [trimmed, counted]
  have before : ∀ keyword ∉ ["anyOf", "oneOf", "description"], ((fewVariants counts.variants "oneOf").apply
      ((fewVariants counts.variants "anyOf").apply (undescribed counts.withoutDescriptions schema))).field? keyword =
        schema.field? keyword := by
    intro keyword other
    simp only [List.mem_cons, List.not_mem_nil, or_false, not_or] at other
    obtain ⟨any, one, described⟩ := other
    simp [field?_fewVariants, any, one, field?_undescribed, described]
  generalize (fewVariants counts.variants "oneOf").apply _ = base at before ⊢
  have left : ((fewProperties counts.properties).apply base).field? "properties" = some (.map (upTo counts.properties properties)) := by
    rw [field?_fewProperties, before _ (by decide), stands]
    rfl
  rw [field?_onlyKnown left, field?_fewProperties, before _ (by decide)]
  simp

theorem field?_required_of_uncounted (uncounted : counts.properties = none) : (trimmed counts schema).field? "required" = schema.field? "required" := by
  have unchanged (schema : Entries) : (onlyKnown false).apply schema = schema := Amendment.apply_of_none rfl
  rw [trimmed, uncounted, Option.isSome_none, unchanged, fewProperties_of_few (by simp)]
  simp [field?_fewVariants, field?_undescribed]

end Fields

section Normal

variable (counts) in
/-- A schema with nothing on it that exceeds a limit. -/
structure Within (schema : Entries) : Prop where
  undescribed : counts.withoutDescriptions = true → schema.field? "description" = none
  variants : ∀ n ∈ counts.variants, ∀ keyword ∈ ["anyOf", "oneOf"], ∀ members, schema.field? keyword = some (.list members) → members.length ≤ n
  properties : ∀ n ∈ counts.properties, ∀ properties, schema.field? "properties" = some (.map properties) → properties.length ≤ n

/-- All that is required of a schema with properties are some of these. -/
def RequiresKnown (schema : Entries) : Prop :=
  ∀ properties names, schema.field? "properties" = some (.map properties) → schema.field? "required" = some (.list names) →
    ∀ name ∈ names, Entries.hasKey properties name = true

theorem undescribed_of_absent (remove : Bool) (absent : remove = true → schema.field? "description" = none) :
    undescribed remove schema = schema := by
  cases remove with
  | false => rfl
  | true => exact dropField_of_absent (not_named_of_absent (absent rfl))

theorem onlyKnown_of_known {counted : Bool} (known : counted = true → RequiresKnown schema) : (onlyKnown counted).apply schema = schema := by
  refine Amendment.apply_of_settled fun v chosen => ?_
  obtain ⟨counted, properties, stands, names, listed, rfl⟩ := choose_onlyKnown.mp chosen
  rw [List.filter_eq_self.mpr (known counted properties names stands listed)]
  exact listed

/-- Next to few properties and variants, only what is required changes. -/
theorem trimmed_of_within (within : Within counts schema) : trimmed counts schema = (onlyKnown counts.properties.isSome).apply schema := by
  rw [trimmed, undescribed_of_absent _ within.undescribed, fewVariants_of_few, fewVariants_of_few, fewProperties_of_few within.properties]
  · exact fun n counted => within.variants n counted "anyOf" (by decide)
  · rw [fewVariants_of_few]
    · exact fun n counted => within.variants n counted "oneOf" (by decide)
    · exact fun n counted => within.variants n counted "anyOf" (by decide)

theorem within_trimmed (counts : Counts) (schema : Entries) : Within counts (trimmed counts schema) where
  undescribed removed := by rw [field?_description_trimmed, if_pos removed]
  variants n counted keyword listed members stands := by
    rw [field?_trimmed counts schema (variants_apart keyword listed), cut, if_pos listed] at stands
    obtain ⟨v, -, same⟩ := Option.map_eq_some_iff.mp stands
    cases v with
    | list _ =>
      cases same
      exact length_upTo _ n counted
    | _ => cases same
  properties n counted properties stands := by
    rw [field?_trimmed counts schema (by decide)] at stands
    obtain ⟨v, -, same⟩ := Option.map_eq_some_iff.mp stands
    cases v with
    | map _ =>
      cases same
      exact length_upTo _ n counted
    | _ => cases same

theorem known_trimmed (counted : counts.properties.isSome = true) (schema : Entries) : RequiresKnown (trimmed counts schema) := by
  intro properties names stands listed name member
  rw [field?_trimmed counts schema (by decide)] at stands
  obtain ⟨v, before, same⟩ := Option.map_eq_some_iff.mp stands
  cases v with
  | map all =>
    cases same
    rw [field?_required_trimmed counted before] at listed
    obtain ⟨v, -, same⟩ := Option.map_eq_some_iff.mp listed
    cases v with
    | list _ =>
      cases same
      exact (List.mem_filter.mp member).2
    | _ => cases same
  | _ => cases same

theorem trimmed_eq_self_iff : trimmed counts schema = schema ↔
    Within counts schema ∧ (counts.properties.isSome = true → RequiresKnown schema) := by
  constructor
  · intro same
    rw [← same]
    exact ⟨within_trimmed counts schema, fun counted => known_trimmed counted schema⟩
  · rintro ⟨within, known⟩
    rw [trimmed_of_within within, onlyKnown_of_known known]

theorem trimmed_trimmed (counts : Counts) (schema : Entries) : trimmed counts (trimmed counts schema) = trimmed counts schema :=
  trimmed_eq_self_iff.mpr ⟨within_trimmed counts schema, fun counted => known_trimmed counted schema⟩

end Normal

section Below

/-- Less under a keyword puts no schemas below a schema but those that were there. -/
theorem grounded_of_less {amendment : Amendment} (less : ∀ schema v, amendment.choose schema = some v → ∃ u,
    schema.field? amendment.keyword = some u ∧ searched (.str amendment.keyword) v ⊆ searched (.str amendment.keyword) u) :
    Grounded amendment.apply := by
  refine Amendment.grounded_apply fun schema v chosen w inside => .inr ?_
  obtain ⟨u, stands, part⟩ := less schema v chosen
  obtain ⟨d, member, named, rfl⟩ := mem_of_field? stands
  exact ⟨d, member, by rw [searched_of_str? named]; exact part inside⟩

theorem grounded_fewVariants (many : KeywordShape.ofKeyword? keyword = some .many) : Grounded (fewVariants count keyword).apply := by
  refine grounded_of_less fun schema v chosen => ?_
  obtain ⟨members, stands, rfl⟩ := choose_fewVariants.mp chosen
  have direct (items : List Value) : searched (.str keyword) (.list items) = items := by
    unfold searched subvalues
    rw [ofKey?_str, many]
  refine ⟨_, stands, ?_⟩
  show searched (.str keyword) _ ⊆ searched (.str keyword) _
  rw [direct, direct]
  exact upTo_subset count members

theorem grounded_trimmed (counts : Counts) : Grounded (trimmed counts) := by
  have described : Grounded (undescribed counts.withoutDescriptions) := by
    refine .of_subset fun schema => ?_
    unfold undescribed
    split
    · exact List.filter_subset_self schema
    · exact List.Subset.refl schema
  have properties : Grounded (fewProperties counts.properties).apply := by
    refine grounded_of_less fun schema v chosen => ?_
    obtain ⟨properties, stands, rfl⟩ := choose_fewProperties.mp chosen
    exact ⟨_, stands, List.map_subset Prod.snd (upTo_subset _ properties)⟩
  have known : Grounded (onlyKnown counts.properties.isSome).apply := by
    refine grounded_of_less fun schema v chosen => ?_
    obtain ⟨-, properties, -, names, stands, rfl⟩ := choose_onlyKnown.mp chosen
    exact ⟨_, stands, List.Subset.refl _⟩
  exact (((described.comp (grounded_fewVariants rfl)).comp (grounded_fewVariants rfl)).comp properties).comp known

/-- Where trimming leaves what stands at a place below a schema. -/
def leaves (counts : Counts) (schema : Entries) : Place → Bool
  | .item keyword index => keyword ∉ ["anyOf", "oneOf"] || counts.variants.all (index < ·)
  | .named "properties" name => ((schema.field? "properties").bind Value.ownEntries?).any fun properties =>
    Entries.hasField (upTo counts.properties properties) name
  | _ => true

private theorem filter_const {α : Type} (keep : Bool) (a : Option α) : (a.filter fun _ => keep) = if keep then a else none := by
  cases a <;> cases keep <;> rfl

/-- What trimming leaves below a schema stays at its place. -/
theorem child?_trimmed (counts : Counts) (schema : Entries) (place : Place) :
    child? (trimmed counts schema) place = (child? schema place).filter fun _ => leaves counts schema place := by
  cases shape : KeywordShape.ofKeyword? place.keyword with
  | none => rw [child?_of_unshaped shape, child?_of_unshaped shape, Option.filter_none]
  | some kind =>
    have apart : place.keyword ∉ ["required", "description"] := by
      intro listed
      simp only [List.mem_cons, List.not_mem_nil, or_false] at listed
      obtain same | same := listed <;> (rw [same] at shape; cases shape)
    have stands := field?_trimmed counts schema apart
    by_cases variant : place.keyword ∈ ["anyOf", "oneOf"]
    · have many := shape_of_variants variant
      rw [cut, if_pos variant] at stands
      cases place with
      | item keyword index =>
        rw [Place.keyword] at many variant stands
        rw [child?, child?, if_pos (.inr many), if_pos (.inr many), stands, leaves]
        cases schema.field? keyword with
        | none => rfl
        | some v =>
          cases v with
          | list members => simp [shorten, Value.list?, getElem?_upTo, variant, filter_const]
          | _ => rfl
      | alone keyword | named keyword _ =>
        rw [Place.keyword] at many
        simp [child?, many]
    · by_cases properties : place.keyword = "properties"
      · rw [cut, if_neg variant, if_pos properties] at stands
        cases place with
        | named keyword name =>
          obtain rfl : keyword = "properties" := properties
          have direct (s : Entries) : child? s (.named "properties" name) =
            ((s.field? "properties").bind Value.ownEntries?).bind (·.field? name) := rfl
          rw [Place.keyword] at stands
          rw [direct, direct, stands, leaves]
          cases schema.field? "properties" with
          | none => rfl
          | some v =>
            cases v with
            | map properties => simp [narrow, Value.ownEntries?, field?_upTo, filter_const]
            | _ => rfl
        | alone keyword | item keyword _ =>
          obtain rfl : keyword = "properties" := properties
          rfl
      · rw [cut, if_neg variant, if_neg properties, Option.map_id, id] at stands
        have all : leaves counts schema place = true := by
          unfold leaves
          split
          next => simp_all [Place.keyword]
          next => exact absurd rfl properties
          next => rfl
        rw [child?_of_field? stands, all]
        cases child? schema place <;> rfl

end Below

end Document
end RecordSchema
