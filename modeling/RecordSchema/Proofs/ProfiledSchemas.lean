import RecordSchema.Proofs.RegularSchemas
import RecordSchema.Proofs.StrippedDocuments

/-! Schemas that are changed before or after their references are resolved. What becomes of a schema in the one order is
related to what becomes of it in the other, however deep it is resolved, so both are the same up to the order of keys.
Main statements: `related_resolveTo`, `crossed_reordered`. -/

namespace RecordSchema.Document
open Entries

section Exchange
variable {C : Value → Value → Prop} {options : ResolutionOptions} {definitions others schema other target beside : Entries}
  {plain walk : Entries → Entries} {keyword : String} {depth : Nat} {v w : Value}

variable (definitions) in
/-- Definitions that are schemas, none of which is marked as derived. -/
def DefinesStored : Prop :=
  ∀ name body, definitions.field? name = some body → ∃ schema : Entries, body = .map schema ∧ Keyed schema ∧ schema.field? "readOnly" = none

variable (plain definitions others) in
/-- Definitions that are regular schemas, and what a change makes of them. -/
structure Counterparts : Prop where
  described : ∀ name body, definitions.field? name = some body →
    ∃ schema : Entries, body = .map schema ∧ Regulated body ∧ schema.field? "readOnly" = none
  changed : ∀ name, others.field? name = (definitions.field? name).map (rebuilt plain)

theorem field?_rebuilt_of_flat (flat : KeywordShape.ofKeyword? keyword = none) (walk : Entries → Entries) (schema : Entries) :
    (rebuiltEntries walk schema).field? keyword = schema.field? keyword := by
  have same : rebuiltUnder walk (.str keyword) = id := funext fun _ => rebuiltUnder_of_unshaped flat
  rw [field?_rebuilt, same, Option.map_id, id]

theorem rebuilt_annotated (annotated : Annotated schema) (walk : Entries → Entries) : rebuiltEntries walk schema = schema := by
  refine (List.map_congr_left fun e member => ?_).trans (List.map_id schema)
  obtain ⟨keyword, named, either⟩ := annotated e member
  rw [rebuiltUnder_of_unshaped, id]
  exact (congrArg (Option.bind · _) named).trans (pointer_shape either)

theorem resolveTo_succ (options : ResolutionOptions) (definitions : Entries) (depth : Nat) (v : Value) :
    resolveTo options definitions (depth + 1) v = rebuilt (expand options definitions (resolveTo options definitions depth)) v := rfl

section Graph

variable (walk) in
/-- Where a walk leads, from a value whose keys are text and stand once. -/
def WalksTo (v made : Value) : Prop := made = rebuilt walk v ∧ ∀ inner, v = .map inner → Keyed inner

theorem respects_walksTo (marks : ∀ inner, Keyed inner → isReadOnly (rebuilt walk (.map inner)) = isReadOnly (.map inner)) :
    Respects (WalksTo walk) where
  objects v _ pair := by
    obtain ⟨rfl, -⟩ := pair
    cases v with
    | map inner => rw [rebuilt_map]; rfl
    | list items => rw [rebuilt_list]; rfl
    | _ => rfl
  derived v _ pair := by
    obtain ⟨rfl, keyed⟩ := pair
    cases v with
    | map inner => exact (marks inner (keyed inner rfl)).symm
    | list items => rw [rebuilt_list]; rfl
    | _ => rfl
  closed := ⟨rfl, fun _ same => nomatch same⟩

theorem related_walksTo (keyed : Keyed schema) (below : ∀ w, Below schema w → ∀ inner, w = .map inner → Keyed inner) :
    Related (WalksTo walk) schema (rebuiltEntries walk schema) := by
  refine ⟨keyed, keyed.rebuilt walk, fun keyword => ?_⟩
  rw [field?_rebuilt]
  cases found : schema.field? keyword with
  | none => exact .none
  | some v =>
    have still : rebuiltUnder id (.str keyword) v = v := rebuiltUnder_id fun w _ => rebuilt_id w
    have under : Under (WalksTo walk) keyword (rebuiltUnder id (.str keyword) (rebuiltUnder id (.str keyword) v))
        (rebuiltUnder walk (.str keyword) (rebuiltUnder id (.str keyword) v)) := by
      refine under_rebuilt fun u inside => ?_
      rw [rebuilt_id, rebuilt_id]
      exact ⟨rfl, below u (.of_field? found inside)⟩
    rw [still, still] at under
    exact .some under

end Graph

namespace Exchangeable
variable (exchangeable : Exchangeable plain)
include exchangeable

theorem kept_flat (member : keyword ∈ ["$ref", "readOnly"]) (schema : Entries) :
    (plain (rebuiltEntries plain schema)).field? keyword = schema.field? keyword := by
  have flat : KeywordShape.ofKeyword? keyword = none := by
    revert keyword
    decide
  have listed : keyword ∈ "$ref" :: "readOnly" :: Pointer.definitionsKeys := List.mem_append_left Pointer.definitionsKeys member
  rw [exchangeable.kept _ keyword listed, field?_rebuilt_of_flat flat]

theorem keyed_below (keyed : Keyed schema) : Keyed (plain (rebuiltEntries plain schema)) := exchangeable.keyed (keyed.rebuilt plain)

/-- A change can be exchanged with a walk on the schemas below that does not touch what is derived. -/
theorem rebuilt_comm (keyed : Keyed schema) (below : ∀ w, Below schema w → ∀ inner, w = .map inner → Keyed inner)
    (marks : ∀ inner, Keyed inner → isReadOnly (rebuilt walk (.map inner)) = isReadOnly (.map inner)) (keyword : String) :
    (plain (rebuiltEntries walk schema)).field? keyword = (rebuiltEntries walk (plain schema)).field? keyword := by
  have changed := exchangeable.related (respects_walksTo marks) (related_walksTo keyed below)
  obtain ⟨left, right⟩ | ⟨v, w, left, right, under⟩ := changed.field? keyword
  · rw [right, field?_rebuilt, left, Option.map_none]
  · rw [right, field?_rebuilt, left, Option.map_some, under.of_rebuilt fun _ _ pair => pair.1]

end Exchangeable

section Stored
variable (stored : DefinesStored definitions)
include stored

theorem field?_readOnly_resolveTo (keyed : Keyed schema) (same : resolveTo options definitions depth (.map schema) = .map other) :
    other.field? "readOnly" = schema.field? "readOnly" := by
  induction depth generalizing schema other with
  | zero =>
    cases same
    rfl
  | succ depth ih =>
    rw [resolveTo_succ, rebuilt_map] at same
    obtain rfl := Value.map.inj same
    have own : (rebuiltEntries (expand options definitions (resolveTo options definitions depth)) schema).field? "readOnly" =
        schema.field? "readOnly" := field?_rebuilt_of_flat rfl _ schema
    have here := keyed.rebuilt (expand options definitions (resolveTo options definitions depth))
    generalize rebuiltEntries (expand options definitions (resolveTo options definitions depth)) schema = done at own here
    rw [expand]
    split
    next => exact own
    next name body found =>
      obtain ⟨inner, rfl, innerKeyed, unmarked⟩ := stored name body (target?_eq_some.mp found).2
      obtain ⟨resolved, same⟩ := resolveTo_map options definitions depth inner
      rw [same, asEntries, here.field?_mergeBeside, own, ih innerKeyed same, unmarked]
      simp [upon, yields]

theorem isReadOnly_resolveTo (keyed : Keyed schema) :
    isReadOnly (resolveTo options definitions depth (.map schema)) = isReadOnly (.map schema) := by
  obtain ⟨made, same⟩ := resolveTo_map options definitions depth schema
  rw [same, isReadOnly, isReadOnly, field?_readOnly_resolveTo stored keyed same]

end Stored

section Fields

theorem Related.congr (related : Related C schema other) (keyed : Keyed target)
    (same : ∀ keyword, target.field? keyword = other.field? keyword) : Related C schema target := by
  refine ⟨related.first, keyed, fun keyword => ?_⟩
  rw [same]
  exact related.fields keyword

theorem Annotated.of_fields (annotated : Annotated schema) (keyed : Keyed other)
    (same : ∀ keyword, other.field? keyword = schema.field? keyword) : Annotated other := by
  intro e member
  obtain ⟨name, text⟩ := keyed.text e member
  have named : e.1.str? = some name := congrArg Value.str? text
  have stands := field?_of_mem keyed.distinct member named
  rw [same] at stands
  obtain ⟨f, among, alike, -⟩ := mem_of_field? stands
  obtain ⟨keyword, told, either⟩ := annotated f among
  cases alike.symm.trans told
  exact ⟨name, named, either⟩

/-- Schemas that agree still do so with the same notes on top of them. -/
theorem rel_upon {first second found : Option Value} (flat : ∀ v, found = some v → KeywordShape.ofKeyword? keyword = none)
    (rel : Option.Rel (Under C keyword) first second) :
    Option.Rel (Under C keyword) (upon options keyword found first) (upon options keyword found second) := by
  unfold upon
  split
  · exact rel
  · cases found with
    | none =>
      rw [Option.or_none, Option.or_none, Option.none_or, Option.none_or]
      split <;> exact rel
    | some v =>
      have own : Under C keyword v v := .flat (flat v rfl) v
      split
      · cases rel with
        | none => exact .some own
        | some under => exact .some under
      · exact .some own

theorem Related.merged (exchangeable : Exchangeable plain) {done above : Entries} (related : Related C (plain target) done)
    (keyed : Keyed target) (own : Keyed beside) (annotated : Annotated beside) (alike : Keyed above)
    (same : ∀ keyword, above.field? keyword = (plain beside).field? keyword) :
    Related C (plain (mergeBeside options.isDropped target beside)) (mergeBeside options.isDropped done above) := by
  refine ⟨exchangeable.keyed (keyed.mergeBeside own), related.second.mergeBeside alike, fun keyword => ?_⟩
  rw [exchangeable.merged options keyed own annotated, (exchangeable.keyed own).field?_mergeBeside, alike.field?_mergeBeside, same]
  refine rel_upon (fun v found => ?_) (related.fields keyword)
  obtain ⟨e, member, named, -⟩ := mem_of_field? found
  obtain ⟨text, told, either⟩ := exchangeable.annotated annotated e member
  cases named.symm.trans told
  exact pointer_shape either

end Fields

section Crossing

variable (options definitions others plain) in
/-- What becomes of a value that is resolved and then changed, with what becomes of it in the other order. -/
def Crossed (left right : Value) : Prop := ∃ depth v, Regulated v ∧
  left = rebuilt plain (resolveTo options definitions depth v) ∧ right = resolveTo options others depth (rebuilt plain v)

variable (exchangeable : Exchangeable plain) (counterparts : Counterparts definitions others plain)

include counterparts

theorem Counterparts.target? (same : other.field? "$ref" = schema.field? "$ref") :
    target? others other = (target? definitions schema).map fun found => (found.1, rebuilt plain found.2) := by
  unfold Document.target?
  rw [same]
  cases (schema.field? "$ref").bind Pointer.nameOf? with
  | none => rfl
  | some name =>
    simp only [Option.bind_eq_bind, Option.bind_some, counterparts.changed]
    cases definitions.field? name <;> rfl

theorem Counterparts.regulated (name : String) (body : Value) (found : definitions.field? name = some body) :
    Regulated body ∧ ∃ schema, body = .map schema := by
  obtain ⟨schema, whole, regulated, -⟩ := counterparts.described name body found
  exact ⟨regulated, schema, whole⟩

theorem Counterparts.stored : DefinesStored definitions := by
  intro name body found
  obtain ⟨schema, rfl, regulated, unmarked⟩ := counterparts.described name body found
  exact ⟨schema, rfl, regulated.regular.keyed, unmarked⟩

include exchangeable

theorem Counterparts.stored_changed : DefinesStored others := by
  intro name body found
  rw [counterparts.changed] at found
  obtain ⟨before, defined, rfl⟩ := Option.map_eq_some_iff.mp found
  obtain ⟨schema, rfl, regulated, unmarked⟩ := counterparts.described name before defined
  refine ⟨_, rebuilt_map plain schema, exchangeable.keyed_below regulated.regular.keyed, ?_⟩
  rw [exchangeable.kept_flat (by decide), unmarked]

theorem respects_crossed : Respects (Crossed options definitions others plain) where
  objects _ _ pair := by
    obtain ⟨depth, v, regulated, rfl, rfl⟩ := pair
    cases v with
    | map schema =>
      obtain ⟨made, same⟩ := resolveTo_map options definitions depth schema
      obtain ⟨done, alike⟩ := resolveTo_map options others depth (plain (rebuiltEntries plain schema))
      rw [same, rebuilt_map, rebuilt_map, alike]
      rfl
    | list items => cases regulated.1
    | _ => cases depth <;> rfl
  derived _ _ pair := by
    obtain ⟨depth, v, regulated, rfl, rfl⟩ := pair
    cases v with
    | map schema =>
      have keyed := regulated.regular.keyed
      obtain ⟨made, same⟩ := resolveTo_map options definitions depth schema
      have left := field?_readOnly_resolveTo counterparts.stored keyed same
      rw [rebuilt_map, isReadOnly_resolveTo (counterparts.stored_changed exchangeable) (exchangeable.keyed_below keyed), same, rebuilt_map]
      rw [isReadOnly, isReadOnly, exchangeable.kept_flat (by decide), exchangeable.kept_flat (by decide), left]
    | list items => cases regulated.1
    | _ => cases depth <;> rfl
  closed := ⟨0, .bool false, ⟨rfl, List.forall_mem_nil _⟩, rfl, rfl⟩

/-- What walks make of the schemas below a schema agrees in both orders, if it does for each of them. -/
theorem related_below {first second : Entries → Entries} (regulated : Regulated (.map schema)) (keyed : Keyed other)
    (same : ∀ keyword, other.field? keyword = (plain (rebuiltEntries plain schema)).field? keyword)
    (cross : ∀ u, Regulated u → Crossed options definitions others plain (rebuilt plain (rebuilt first u)) (rebuilt second (rebuilt plain u)))
    (marks : ∀ inner, Keyed inner → isReadOnly (rebuilt second (.map inner)) = isReadOnly (.map inner)) :
    Related (Crossed options definitions others plain) (plain (rebuiltEntries plain (rebuiltEntries first schema)))
      (rebuiltEntries second other) := by
  have own := regulated.regular.keyed
  have below : Related (Crossed options definitions others plain) (rebuiltEntries plain (rebuiltEntries first schema))
      (rebuiltEntries second (rebuiltEntries plain schema)) := by
    refine ⟨(own.rebuilt first).rebuilt plain, (own.rebuilt plain).rebuilt second, fun keyword => ?_⟩
    rw [field?_rebuilt, field?_rebuilt, field?_rebuilt, field?_rebuilt]
    cases found : schema.field? keyword with
    | none => exact .none
    | some v => exact .some (under_rebuilt fun u inside => cross u (regulated.below (.of_field? found inside)))
  have changed := exchangeable.related (respects_crossed exchangeable counterparts) below
  refine changed.congr (keyed.rebuilt second) fun keyword => ?_
  rw [exchangeable.rebuilt_comm (own.rebuilt plain) ?_ marks, field?_rebuilt, same, field?_rebuilt]
  rintro w ⟨e, member, inside⟩ inner rfl
  obtain ⟨before, among, rfl⟩ := List.mem_map.mp member
  rw [subvalues_rebuilt] at inside
  obtain ⟨u, stands, whole⟩ := List.mem_map.mp inside
  obtain ⟨deeper, rfl⟩ := map_of_rebuilt whole
  rw [rebuilt_map] at whole
  obtain rfl := Value.map.inj whole
  exact exchangeable.keyed_below (regulated.below ⟨before, among, stands⟩).regular.keyed

theorem related_unresolved (regulated : Regulated (.map schema)) (keyed : Keyed other)
    (same : ∀ keyword, other.field? keyword = (plain (rebuiltEntries plain schema)).field? keyword) :
    Related (Crossed options definitions others plain) (plain (rebuiltEntries plain schema)) other := by
  have below : Related (Crossed options definitions others plain) (plain (rebuiltEntries plain (rebuiltEntries id schema)))
      (rebuiltEntries id other) := by
    refine related_below exchangeable counterparts regulated keyed same (fun u regulated => ?_) fun inner _ => by rw [rebuilt_id]
    rw [rebuilt_id, rebuilt_id]
    exact ⟨0, u, regulated, rfl, rfl⟩
  rw [rebuiltEntries_id, rebuiltEntries_id] at below
  exact below

/-- A schema that points to a definition agrees in both orders, if the definition does. Only notes stand beside the
pointer, so walks change nothing below the schema. -/
theorem related_pointed {inside further : Value → Value} {first second : Entries → Entries} {name : String} {body resolved done : Entries}
    (regulated : Regulated (.map schema)) (keyed : Keyed other)
    (same : ∀ keyword, other.field? keyword = (plain (rebuiltEntries plain schema)).field? keyword)
    (target : target? definitions schema = some (name, .map body)) (solved : inside (.map body) = .map resolved) (own : Keyed resolved)
    (onward : further (rebuilt plain (.map body)) = .map done) (related : Related C (plain (rebuiltEntries plain resolved)) done) :
    Related C (plain (rebuiltEntries plain (expand options definitions inside (rebuiltEntries first schema))))
      (expand options others further (rebuiltEntries second other)) := by
  have points : target? others other = some (name, rebuilt plain (.map body)) := by
    rw [counterparts.target? ((same _).trans (exchangeable.kept_flat (by decide) schema)), target]
    rfl
  have annotated : Annotated schema := regulated.regular.annotated (hasField_of_target? target)
  rw [rebuilt_annotated annotated] at same
  have alike : Annotated other := (exchangeable.annotated annotated).of_fields keyed same
  rw [rebuilt_annotated annotated, rebuilt_annotated alike, expand, target, expand, points]
  dsimp only
  rw [solved, onward, asEntries, asEntries, rebuiltEntries_mergeBeside regulated.regular.keyed, rebuilt_annotated annotated]
  exact related.merged exchangeable (own.rebuilt plain) regulated.regular.keyed annotated keyed same

/-- What becomes of a schema in the one order agrees with what becomes of it in the other, however deep it is resolved. -/
theorem related_resolveTo (regulated : Regulated (.map schema)) (keyed : Keyed other)
    (same : ∀ keyword, other.field? keyword = (plain (rebuiltEntries plain schema)).field? keyword) :
    ∃ made done : Entries, rebuilt plain (resolveTo options definitions depth (.map schema)) = .map made ∧
      resolveTo options others depth (.map other) = .map done ∧ Related (Crossed options definitions others plain) made done := by
  induction depth generalizing schema other with
  | zero => exact ⟨_, other, rebuilt_map plain schema, rfl, related_unresolved exchangeable counterparts regulated keyed same⟩
  | succ depth ih =>
    rw [resolveTo_succ, resolveTo_succ, rebuilt_map, rebuilt_map, rebuilt_map]
    refine ⟨_, _, rfl, rfl, ?_⟩
    cases target : target? definitions schema with
    | none =>
      have points : target? others other = none := by
        rw [counterparts.target? ((same _).trans (exchangeable.kept_flat (by decide) schema)), target]
        rfl
      rw [expand, target?_rebuilt, target, expand, target?_rebuilt, points]
      refine related_below exchangeable counterparts regulated keyed same (fun u regulated => ⟨depth + 1, u, regulated, rfl, rfl⟩)
        fun inner keyed => ?_
      rw [← resolveTo_succ]
      exact isReadOnly_resolveTo (counterparts.stored_changed exchangeable) keyed
    | some found =>
      obtain ⟨name, body⟩ := found
      obtain ⟨body, rfl, fine, -⟩ := counterparts.described name body (target?_eq_some.mp target).2
      obtain ⟨resolved, solved⟩ := resolveTo_map options definitions depth body
      obtain ⟨made, done, left, right, related⟩ := ih fine (exchangeable.keyed_below fine.regular.keyed) fun _ => rfl
      have own : Regulated (.map resolved) := solved ▸ regulated_resolveTo counterparts.regulated fine
      rw [solved, rebuilt_map] at left
      obtain rfl := Value.map.inj left
      rw [← rebuilt_map] at right
      exact related_pointed exchangeable counterparts regulated keyed same target solved own.regular.keyed right related

/-- Both orders come to the same, up to the order of keys. -/
theorem crossed_reordered (crossed : Crossed options definitions others plain v w) : v.Reordered w := by
  refine reordered_of_simulation (fun v w pair => ?_) crossed
  obtain ⟨depth, u, regulated, rfl, rfl⟩ := pair
  cases u with
  | map schema =>
    rw [rebuilt_map plain schema]
    obtain ⟨made, done, left, right, related⟩ := related_resolveTo exchangeable counterparts regulated
      (exchangeable.keyed_below regulated.regular.keyed) fun _ => rfl
    exact .inr ⟨made, done, left, right, related⟩
  | list items => cases regulated.1
  | _ => exact .inl (by cases depth <;> rfl)

end Crossing
end Exchange

end RecordSchema.Document
