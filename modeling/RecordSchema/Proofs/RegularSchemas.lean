import RecordSchema.Proofs.DefinitionRounds
import RecordSchema.Proofs.FlattenedDocuments
import RecordSchema.Proofs.ProfileChanges

/-! The schemas of documents, as far as walks on them need to know: keys are text and stand once, no list stands in the
place of a schema, no keyword is a format, and there are only notes beside a pointer. All this holds of what is generated,
and of what comes of resolving it. Main statements: `regulated_schemaContent`, `regulated_resolveTo`, `generate_consists`. -/

namespace RecordSchema

namespace Constraint

private theorem keyed_keywords_go {cs : List Constraint} {done made : Entries} (keyed : Document.Keyed done)
    (ended : keywords.go done cs = .ok made) : Document.Keyed made := by
  induction cs generalizing done with
  | nil =>
    cases ended
    exact keyed
  | cons c rest ih => exact ih (keyed.setField _ _) (keywords_go_cons ended)

theorem keyed_told (cs : List Constraint) : Document.Keyed (told cs) := by
  have empty : Document.Keyed [] := ⟨List.forall_mem_nil _, List.nodup_nil⟩
  unfold told
  cases ended : keywords cs with
  | error _ => exact empty
  | ok made => exact keyed_keywords_go empty ended

end Constraint

namespace Document
open Entries Drafting Draft

variable {options : ResolutionOptions} {definitions schema other target beside : Entries} {plain : Entries → Entries}
  {keyword key : String} {v w : Value} {depth : Nat}

variable (schema) in
/-- A schema that walks make no difference on but by its pointer and its notes. -/
structure Regular : Prop where
  keyed : Keyed schema
  formless : schema.field? "format" = none
  unlisted : ∀ w, Below schema w → w.list? = none
  annotated : schema.hasField "$ref" = true → Annotated schema

/-- A value that is no list, and holds regular schemas. -/
def Regulated (v : Value) : Prop := v.list? = none ∧ ∀ schema ∈ schemas v, Regular schema

theorem Regulated.regular (regulated : Regulated (.map schema)) : Regular schema :=
  regulated.2 schema (mem_schemas_map.mpr (.inl rfl))

theorem Regulated.below (regulated : Regulated (.map schema)) (below : Below schema w) : Regulated w :=
  ⟨regulated.regular.unlisted w below, fun made met => regulated.2 made (below.schemas_subset met)⟩

theorem Regulated.of_regular (regular : Regular schema) (below : ∀ w, Below schema w → Regulated w) : Regulated (.map schema) := by
  refine ⟨rfl, fun made met => ?_⟩
  obtain rfl | ⟨e, member, deeper⟩ := mem_schemas_map.mp met
  · exact regular
  · obtain ⟨w, inside, met⟩ := List.mem_flatMap.mp deeper
    exact (below w ⟨e, member, inside⟩).2 made met

section Content

/-- A keyword that is neither a pointer nor a format, with regular schemas under it. -/
def Usual (keyword : String) (v : Value) : Prop :=
  keyword ∉ ["$ref", "format"] ∧ ∀ w ∈ subvalues (.str keyword) v, Regulated w

theorem usual_flat (other : keyword ∉ ["$ref", "format"]) (flat : KeywordShape.ofKeyword? keyword = none) (v : Value) : Usual keyword v := by
  refine ⟨other, ?_⟩
  rw [subvalues_eq_nil rfl flat]
  exact List.forall_mem_nil _

theorem Regulated.of_each (keyed : Keyed schema) (each : schema.Each Usual) : Regulated (.map schema) := by
  have below : ∀ w, Below schema w → Regulated w := by
    rintro w ⟨e, member, inside⟩
    obtain ⟨keyword, named, -, regulated⟩ := each e member
    rw [subvalues_of_str? named] at inside
    exact regulated w inside
  have absent {keyword : String} (member : keyword ∈ ["$ref", "format"]) : schema.field? keyword = none :=
    field?_of_absent (each.absent fun _ usual => usual.1 member)
  refine .of_regular ⟨keyed, absent (by decide), fun w inside => (below w inside).1, fun pointer => ?_⟩ below
  rw [hasField, absent (by decide)] at pointer
  cases pointer

theorem keyed_of_sublist (names : List String) (texts : ∀ e ∈ schema, ∃ name, e.1 = .str name)
    (listed : (labels schema).Sublist names) (distinct : names.Nodup) : Keyed schema := ⟨texts, distinct.sublist listed⟩

theorem told_usual (cs : List Constraint) : (Constraint.told cs).Each Usual := by
  have plain (kind : ConstraintKind) : kind.keyword ∉ ["$ref", "format"] ∧ KeywordShape.ofKeyword? kind.keyword = none := by
    cases kind <;> decide
  exact told_each (fun kind v => usual_flat (plain kind).1 (plain kind).2 v) cs

theorem entry_usual (other : keyword ∉ ["$ref", "format"]) (below : ∀ w ∈ subvalues (.str keyword) v, Regulated w) :
    ∃ text, (entry keyword v).1.str? = some text ∧ Usual text (entry keyword v).2 := ⟨keyword, rfl, other, below⟩

theorem regulated_update (keyed : Keyed schema) (each : schema.Each Usual) (cs : List Constraint) :
    Regulated (.map (schema.update (Constraint.told cs))) :=
  .of_each (keyed.update (Constraint.keyed_told cs).text) (each.update (told_usual cs))

theorem regulated_primitiveContent (kind : Primitive) (cs : List Constraint) : Regulated (.map (primitiveContent kind cs)) := by
  refine regulated_update (keyed_of_sublist ["type"] ?_ ?_ (by decide)) (fun e member => ?_) cs
  · intro e member
    obtain ⟨name, -, rfl⟩ := List.mem_map.mp member
    exact ⟨"type", rfl⟩
  · cases kind.keyword? with
    | none => exact List.nil_sublist _
    | some name => exact List.Sublist.refl _
  · obtain ⟨name, -, rfl⟩ := List.mem_map.mp member
    exact entry_usual (by decide) (List.forall_mem_nil _)

mutual

/-- A type is described by regular schemas. -/
theorem regulated_typeContent : ∀ t : SchemaType, Regulated (.map (typeContent key t))
  | .primitive kind cs => regulated_primitiveContent kind cs
  | .array element cs => by
    have items := regulated_typeContent element
    refine regulated_update (keyed_of_sublist ["type", "items"] ?_ (List.Sublist.refl _) (by decide))
      (List.forall_mem_cons.mpr ⟨?_, List.forall_mem_singleton.mpr ?_⟩) cs
    · exact List.forall_mem_cons.mpr ⟨⟨_, rfl⟩, List.forall_mem_singleton.mpr ⟨_, rfl⟩⟩
    · exact entry_usual (by decide) (List.forall_mem_nil _)
    · exact entry_usual (by decide) (List.forall_mem_singleton.mpr items)
  | .map names value cs => by
    have values := regulated_typeContent value
    have named : namesContent names = [] ∨ ∃ cs, namesContent names = [entry "propertyNames" (.map (primitiveContent .string cs))] := by
      unfold namesContent
      split
      next c rest => exact .inr ⟨c :: rest, rfl⟩
      next => exact .inl rfl
    have first : Entries.Each Usual [entry "type" (.str "object"), entry "additionalProperties" (.map (typeContent key value))] := by
      refine List.forall_mem_cons.mpr ⟨entry_usual (by decide) (List.forall_mem_nil _), List.forall_mem_singleton.mpr ?_⟩
      exact entry_usual (by decide) (List.forall_mem_singleton.mpr values)
    rw [typeContent]
    obtain none | ⟨own, single⟩ := named
    · rw [none, List.append_nil]
      refine regulated_update (keyed_of_sublist ["type", "additionalProperties"] ?_ (List.Sublist.refl _) (by decide)) first cs
      exact List.forall_mem_cons.mpr ⟨⟨_, rfl⟩, List.forall_mem_singleton.mpr ⟨_, rfl⟩⟩
    · rw [single]
      refine regulated_update
        (keyed_of_sublist ["type", "additionalProperties", "propertyNames"] ?_ (List.Sublist.refl _) (by decide)) ?_ cs
      · exact List.forall_mem_cons.mpr ⟨⟨_, rfl⟩, List.forall_mem_cons.mpr ⟨⟨_, rfl⟩, List.forall_mem_singleton.mpr ⟨_, rfl⟩⟩⟩
      · refine first.append (List.forall_mem_singleton.mpr (entry_usual (by decide) ?_))
        exact List.forall_mem_singleton.mpr (regulated_primitiveContent _ _)
  | .union variants cs => by
    refine .of_each ⟨List.forall_mem_singleton.mpr ⟨_, rfl⟩, List.pairwise_singleton _ _⟩ (List.forall_mem_singleton.mpr ?_)
    exact entry_usual (by decide) (regulated_variantsContent variants)
  | .ref name target => by
    have pointing : Annotated (typeContent key (.ref name target)) := List.forall_mem_singleton.mpr ⟨"$ref", rfl, .inl rfl⟩
    have nothing (w : Value) : ¬ Below (typeContent key (.ref name target)) w := not_below (fun _ _ => pointer_shape) pointing w
    refine .of_regular ⟨⟨List.forall_mem_singleton.mpr ⟨_, rfl⟩, List.pairwise_singleton _ _⟩, rfl, ?_, fun _ => pointing⟩ ?_
    · exact fun w inside => absurd inside (nothing w)
    · exact fun w inside => absurd inside (nothing w)

theorem regulated_variantsContent : ∀ types : List SchemaType, ∀ w ∈ variantsContent key types, Regulated w
  | [] => List.forall_mem_nil _
  | t :: rest => List.forall_mem_cons.mpr ⟨regulated_typeContent t, regulated_variantsContent rest⟩

end

/-- Notes make no difference. -/
theorem Regulated.setNote (regulated : Regulated (.map schema)) (note : keyword ∈ notes) (v : Value) :
    Regulated (.map (schema.setField keyword v)) := by
  have noted : Noted schema (schema.setField keyword v) := (Noted.refl schema).setField note v
  have own := regulated.regular
  refine .of_regular ⟨own.keyed.setField keyword v, ?_, fun w inside => own.unlisted w (noted.below inside), fun pointer => ?_⟩
    fun w inside => regulated.below (noted.below inside)
  · rw [noted.alike "format" (by decide)]
    exact own.formless
  · rw [hasField, noted.alike "$ref" (by decide)] at pointer
    exact noted.each (fun _ note _ => .inr note) (own.annotated pointer)

theorem regulated_fieldContent {s : Schema} {f : Field} (bare : f.extra = []) : Regulated (.map (fieldContent key s f)) := by
  unfold fieldContent
  rw [bare]
  exact remarked_of (P := fun schema => Regulated (.map schema)) (regulated_typeContent f.type)
    fun _ _ v note regulated => regulated.setNote note v

theorem textEntry_usual (other : keyword ∉ ["$ref", "format"]) (flat : KeywordShape.ofKeyword? keyword = none) (text : Option String) :
    (textEntry keyword text).Each Usual := by
  intro e member
  rw [textEntry_key member]
  exact ⟨keyword, rfl, usual_flat other flat _⟩

/-- The keywords of a schema whose fields have none of their own. -/
theorem usual_schemaContent {options : DocumentOptions} {s : Schema} (bare : ∀ f ∈ s.shownFields options, f.extra = []) :
    (schemaContent options s).Each Usual := by
  have properties : ∀ w ∈ (propertiesContent options.definitionsKey s (s.shownFields options)).map Prod.snd, Regulated w := by
    intro w member
    obtain ⟨e, listed, rfl⟩ := List.mem_map.mp member
    obtain ⟨f, field, rfl⟩ := List.mem_map.mp listed
    exact regulated_fieldContent (bare f field)
  unfold schemaContent keywordsOf
  refine .append (.append (.append (.append ?_ (textEntry_usual (by decide) rfl _)) (textEntry_usual (by decide) rfl _)) ?_) ?_
  · exact List.forall_mem_singleton.mpr (entry_usual (by decide) (List.forall_mem_nil _))
  · refine List.forall_mem_cons.mpr ⟨entry_usual (by decide) properties, List.forall_mem_singleton.mpr ?_⟩
    exact entry_usual (by decide) (List.forall_mem_nil _)
  · split
    · refine List.forall_mem_singleton.mpr (entry_usual (by decide) (List.forall_mem_singleton.mpr ⟨rfl, ?_⟩))
      exact List.forall_mem_nil _
    · exact List.forall_mem_nil _

theorem keyed_schemaContent (options : DocumentOptions) (s : Schema) : Keyed (schemaContent options s) := by
  have told (keyword : String) (text : Option String) : ∀ e ∈ textEntry keyword text, ∃ name, e.1 = .str name :=
    fun e member => ⟨keyword, textEntry_key member⟩
  refine keyed_of_sublist schemaKeywords ?_ (keywordsOf_sublist options s _) (by decide)
  unfold schemaContent keywordsOf
  simp only [List.forall_mem_append]
  refine ⟨⟨⟨⟨?_, told _ _⟩, told _ _⟩, ?_⟩, ?_⟩
  · exact List.forall_mem_singleton.mpr ⟨_, rfl⟩
  · exact List.forall_mem_cons.mpr ⟨⟨_, rfl⟩, List.forall_mem_singleton.mpr ⟨_, rfl⟩⟩
  · split
    · exact List.forall_mem_singleton.mpr ⟨_, rfl⟩
    · exact List.forall_mem_nil _

/-- A schema whose fields have no keywords of their own is described by regular schemas. -/
theorem regulated_schemaContent {options : DocumentOptions} {s : Schema} (bare : ∀ f ∈ s.shownFields options, f.extra = []) :
    Regulated (.map (schemaContent options s)) := .of_each (keyed_schemaContent options s) (usual_schemaContent bare)

/-- Other keywords do not stand at the top of a whole schema. -/
theorem field?_schemaContent_of_other {options : DocumentOptions} (s : Schema) (other : keyword ∉ schemaKeywords) :
    (schemaContent options s).field? keyword = none := by
  refine field?_of_absent fun e member named => other ?_
  exact (keywordsOf_sublist options s _).subset (List.mem_filterMap.mpr ⟨e, member, named⟩)

end Content

section Walks

variable {m : Type → Type} [Monad m] {change : Entries → m Entries}

private theorem rebuildItems_unlisted {vs : List Value}
    (each : ∀ w ∈ vs, w.list? = none ∧ rebuild false change w = rebuild true change w) :
    rebuildItems false change vs = rebuildItems true change vs := by
  induction vs with
  | nil => rfl
  | cons v rest ih =>
    obtain ⟨⟨-, here⟩, later⟩ := List.forall_mem_cons.mp each
    rw [rebuildItems, rebuildItems, here, ih later]

private theorem rebuildNamed_unlisted {es : Entries}
    (each : ∀ w ∈ es.map Prod.snd, w.list? = none ∧ rebuild false change w = rebuild true change w) :
    rebuildNamed false change es = rebuildNamed true change es := by
  induction es with
  | nil => rfl
  | cons e rest ih =>
    obtain ⟨⟨-, here⟩, later⟩ := List.forall_mem_cons.mp each
    obtain ⟨key, v⟩ := e
    rw [rebuildNamed, rebuildNamed, here, ih later]

private theorem rebuildEntries_unlisted {entries : Entries}
    (each : ∀ e ∈ entries, ∀ w ∈ subvalues e.1 e.2, w.list? = none ∧ rebuild false change w = rebuild true change w) :
    rebuildEntries false change entries = rebuildEntries true change entries := by
  induction entries with
  | nil => rfl
  | cons e rest ih =>
    obtain ⟨key, v⟩ := e
    obtain ⟨here, later⟩ := List.forall_mem_cons.mp each
    rw [rebuildEntries.eq_def, rebuildEntries.eq_def true]
    dsimp only
    rw [ih later]
    unfold subvalues at here
    dsimp only at here
    revert here
    generalize KeywordShape.ofKey? key = shape
    intro here
    rcases shape with _ | _ | _ | _
    · rfl
    · obtain ⟨noList, same⟩ := here v (List.mem_singleton_self v)
      cases v with
      | list items => cases noList
      | _ =>
        dsimp only
        rw [same]
    · cases v with
      | list vs =>
        dsimp only
        rw [rebuildItems_unlisted here]
      | _ => rfl
    · cases v with
      | map es =>
        dsimp only
        rw [rebuildNamed_unlisted here]
      | _ => rfl

/-- Whether a walk goes through lists where one schema should stand makes no difference where none does. -/
theorem rebuild_unlisted (noList : v.list? = none) (below : ∀ schema ∈ schemas v, ∀ w, Below schema w → w.list? = none) :
    rebuild false change v = rebuild true change v := by
  induction v using descend with
  | map entries inner =>
    have same : rebuildEntries false change entries = rebuildEntries true change entries := by
      refine rebuildEntries_unlisted fun e member w inside => ?_
      have here : Below entries w := ⟨e, member, inside⟩
      have own := below entries (mem_schemas_map.mpr (.inl rfl)) w here
      exact ⟨own, inner e member w inside own fun schema met => below schema (here.schemas_subset met)⟩
    rw [rebuild, rebuild, same]
  | list items _ => cases noList
  | leaf v noMap noItems =>
    cases v with
    | map entries => exact absurd rfl (noMap entries)
    | list items => exact absurd rfl (noItems items)
    | _ => rfl

theorem Regular.rebuilt (regular : Regular schema) (plain : Entries → Entries) : Regular (rebuiltEntries plain schema) where
  keyed := regular.keyed.rebuilt plain
  formless := by
    rw [field?_rebuilt, regular.formless]
    rfl
  unlisted w below := by
    obtain ⟨e, member, inside⟩ := below
    obtain ⟨before, among, rfl⟩ := List.mem_map.mp member
    rw [subvalues_rebuilt] at inside
    obtain ⟨u, stands, rfl⟩ := List.mem_map.mp inside
    exact list?_rebuilt (regular.unlisted u ⟨before, among, stands⟩) plain
  annotated pointer := by
    rw [hasField, field?_rebuilt, Option.isSome_map] at pointer
    exact List.forall_mem_map.mpr fun e member => regular.annotated pointer e member

theorem Regular.mergeBeside (first : Regular target) (second : Regular beside) (annotated : Annotated beside) :
    Regular (mergeBeside options.isDropped target beside) where
  keyed := first.keyed.mergeBeside second.keyed
  formless := by
    rw [second.keyed.field?_mergeBeside, first.formless, second.formless]
    exact upon_none _ _
  unlisted w below := by
    obtain ⟨e, member, inside⟩ := below
    obtain before | ⟨b, stands, text, same⟩ := mem_mergeBeside member
    · exact first.unlisted w ⟨e, before, inside⟩
    · obtain ⟨keyword, named, either⟩ := annotated b stands
      rw [subvalues_eq_nil (text.trans named) (pointer_shape either)] at inside
      cases inside
  annotated pointer := by
    rw [hasField, field?_mergeBeside fun _ => rfl] at pointer
    intro e member
    obtain before | ⟨b, stands, text, same⟩ := mem_mergeBeside member
    · exact first.annotated pointer e before
    · obtain ⟨keyword, named, either⟩ := annotated b stands
      exact ⟨keyword, text.trans named, either⟩

theorem hasField_of_target? {name : String} {body : Value} (target : target? definitions schema = some (name, body)) :
    schema.hasField "$ref" = true := by
  obtain ⟨under, found, -⟩ := Option.bind_eq_some_iff.mp (target?_eq_some.mp target).1
  exact hasField_iff.mpr ⟨under, found⟩

/-- What comes of resolving holds regular schemas again. -/
theorem regulated_resolveTo (defined : ∀ name body, definitions.field? name = some body → Regulated body ∧ ∃ schema, body = .map schema)
    (regulated : Regulated v) : Regulated (resolveTo options definitions depth v) := by
  induction depth generalizing v with
  | zero => exact regulated
  | succ depth ih =>
    refine ⟨list?_rebuilt regulated.1 _, rebuild_schemas fun schema met below => ?_⟩
    have own := regulated.2 schema met
    have here := own.rebuilt (expand options definitions (resolveTo options definitions depth))
    have points : target? definitions (rebuiltEntries (expand options definitions (resolveTo options definitions depth)) schema) =
        target? definitions schema := target?_rebuilt _ schema
    generalize rebuiltEntries (expand options definitions (resolveTo options definitions depth)) schema = done at below here points
    intro made inside
    cases target : target? definitions done with
    | none =>
      rw [expand, target] at inside
      obtain rfl | ⟨e, member, deeper⟩ := mem_schemas_map.mp inside
      · exact here
      · exact below e member made deeper
    | some found =>
      obtain ⟨name, body⟩ := found
      obtain ⟨fine, schema', rfl⟩ := defined name body (target?_eq_some.mp target).2
      obtain ⟨resolved, same⟩ := resolveTo_map options definitions depth schema'
      have first : Regulated (.map resolved) := same ▸ ih fine
      have annotated : Annotated done := here.annotated (hasField_of_target? target)
      rw [expand, target] at inside
      dsimp only at inside
      rw [same] at inside
      obtain rfl | ⟨e, member, deeper⟩ := mem_schemas_map.mp inside
      · exact first.regular.mergeBeside here annotated
      · obtain before | ⟨b, beside, text, same⟩ := mem_mergeBeside member
        · exact first.2 made (mem_schemas_map.mpr (.inr ⟨e, before, deeper⟩))
        · obtain ⟨keyword, named, stands⟩ := mem_schemasUnder deeper
          rw [same] at stands
          exact below b beside made (stands b.1 (text.symm.trans named))

/-- On regular schemas, a change that fits does not fail. -/
theorem changeAll_of_fits {change : Entries → Except Fault Entries} (fits : Fits change plain) (regulated : Regulated v) :
    changeAll change v = .ok (rebuilt plain v) := by
  rw [changeAll, rebuild_unlisted regulated.1 fun schema met => (regulated.2 schema met).unlisted]
  refine rebuild_eq_pure fun schema met => ?_
  have regular := (regulated.2 schema met).rebuilt plain
  exact fits.agrees _ regular.keyed regular.formless

end Walks

section Documents
variable {catalogs : Catalogs} {options : DocumentOptions} {s t u : Schema} {document : Entries}

/-- The schema by which a target is described in a document, if it has one. -/
def describedBy? : Target → Option Schema
  | .schema s => some s
  | .lookalike _ _ _ (.ok s) _ => some s
  | .lookalike _ _ _ (.error _) _ => none

theorem describedBy?_eq (found : Target) : describedBy? found = found.described? := by
  cases found with
  | schema t => rfl
  | lookalike _ _ _ forDocument _ => cases forDocument <;> rfl

variable (catalogs options s) in
/-- The schemas that a document describes: its own, and what the references of those lead to. -/
inductive Covers : Schema → Prop where
  | own : Covers s
  | next {t u : Schema} {name : String} {found : Target} (covers : Covers t) (leads : LeadsFrom catalogs options t name found)
      (described : describedBy? found = some u) : Covers u

variable (catalogs options s) in
/-- What holds of a draft between two rounds of writing: all that is recorded or written is covered. -/
structure Covered (draft : Draft) : Prop where
  key : draft.definitionsKey = options.definitionsKey
  unambiguous : draft.Unambiguous
  recorded : ∀ label found u, draft.recorded? label = some (some found) → describedBy? found = some u → Covers catalogs options s u
  written : ∀ e ∈ draft.written, ∃ t, Covers catalogs options s t ∧ e.2 = .map (schemaContent options t)

/-- One round, whatever is the first that is missing. -/
theorem writeUpTo_next {limit : Nat} {draft after : Draft} {name : Option Name} {target : Option Target}
    {rest : List (Option Name × Option Target)} (missing : draft.missing = (name, target) :: rest)
    (ended : Makes (writeUpTo catalogs options (limit + 1)) draft ⟨⟩ after) :
    ∃ found t keywords middle, target = some found ∧ describedBy? found = some t ∧
      Makes (ofSchema catalogs options t) (draft.begin (labelOf name)) keywords middle ∧
      Makes (writeUpTo catalogs options limit) (middle.write (labelOf name) (.map keywords)) ⟨⟩ after := by
  rw [writeUpTo_succ] at ended
  obtain ⟨_, _, got, taken⟩ := makes_bind.mp ended
  obtain ⟨value, state⟩ := makes_get.mp got
  simp only [value, state, missing] at taken
  obtain ⟨⟨⟩, _, round, remaining⟩ := makes_bind.mp taken
  obtain ⟨found, t, keywords, middle, same, told, described, rfl⟩ := writeOne_makes round
  exact ⟨found, t, keywords, middle, same, (describedBy?_eq found).trans told, described, remaining⟩

/-- While a schema that is covered is described, nothing else comes into the draft than what is covered. -/
theorem Covered.grow {draft middle : Draft} {keywords : Entries} (covered : Covered catalogs options s draft)
    (covers : Covers catalogs options s t) (described : Makes (ofSchema catalogs options t) draft keywords middle) :
    Covered catalogs options s middle := by
  have growth := ofSchema_grows described
  refine ⟨growth.key.trans covered.key, growth.unambiguous covered.unambiguous, fun label found u recorded told => ?_, ?_⟩
  · obtain old | ⟨name, target, -, same, leads⟩ := growth.fresh label (some found) recorded
    · exact covered.recorded label found u old told
    · cases same
      exact .next covers leads told
  · rw [growth.written]
    exact covered.written

/-- Between two rounds, and after the last one, all that is recorded or written is covered. -/
theorem writeUpTo_covered {limit : Nat} {draft after : Draft} (covered : Covered catalogs options s draft)
    (ended : Makes (writeUpTo catalogs options limit) draft ⟨⟩ after) : Covered catalogs options s after := by
  induction limit generalizing draft with
  | zero =>
    obtain ⟨-, rfl⟩ := makes_pure.mp ended
    exact covered
  | succ limit ih =>
    cases missing : draft.missing with
    | nil =>
      rw [writeUpTo] at ended
      obtain ⟨_, _, got, taken⟩ := makes_bind.mp ended
      obtain ⟨rfl, rfl⟩ := makes_get.mp got
      simp only [missing] at taken
      obtain ⟨-, rfl⟩ := makes_pure.mp taken
      exact covered
    | cons entry rest =>
      obtain ⟨name, target⟩ := entry
      obtain ⟨found, t, keywords, middle, rfl, told, described, remaining⟩ := writeUpTo_next missing ended
      have listed : (name, some found) ∈ draft.targets :=
        (not_written_of_missing (missing ▸ List.mem_cons_self)).1
      have covers : Covers catalogs options s t :=
        covered.recorded _ found t (covered.unambiguous.recorded? listed) told
      have begun : Covered catalogs options s (draft.begin (labelOf name)) :=
        ⟨covered.key, covered.unambiguous, covered.recorded, covered.written⟩
      have grown := begun.grow covers described
      have written : Covered catalogs options s (middle.write (labelOf name) (.map keywords)) := by
        refine ⟨grown.key, grown.unambiguous, grown.recorded, fun e member => ?_⟩
        obtain before | new := List.mem_append.mp member
        · exact grown.written e (List.mem_filter.mp before).1
        · cases List.mem_singleton.mp new
          exact ⟨t, covers, congrArg Value.map (ofSchema_content described covered.key)⟩
      exact ih written remaining

/-- A document consists of the description of its schema and of definitions, each of which describes one that the
document covers. -/
theorem generate_consists (generated : generate catalogs options s = .ok document) :
    ∃ definitions, document = withDefinitions options.definitionsKey (schemaContent options s) definitions ∧
      ∀ d ∈ definitions, ∃ t, Covers catalogs options s t ∧ d.2 = .map (schemaContent options t) := by
  obtain ⟨body, first, after, described, writing, same⟩ := complete_makes generated
  have empty : Covered catalogs options s { definitionsKey := options.definitionsKey } :=
    ⟨rfl, List.nodup_nil, fun _ _ _ recorded => (nomatch recorded), List.forall_mem_nil _⟩
  have covered := writeUpTo_covered (empty.grow .own described) writing
  obtain rfl := ofSchema_content described rfl
  refine ⟨after.definitions, same, fun d member => ?_⟩
  obtain ⟨⟨name, target⟩, -, told⟩ := List.mem_filterMap.mp member
  obtain ⟨definition, found, rfl⟩ := Option.map_eq_some_iff.mp told
  obtain ⟨before, later, written, -⟩ := List.lookup_eq_some_iff.mp found
  exact covered.written (labelOf name, definition) (written ▸ List.mem_append_right _ List.mem_cons_self)

end Documents

end Document
end RecordSchema
