import RecordSchema.Proofs.DataKeywords
import RecordSchema.Proofs.DerivedOmission
import RecordSchema.Proofs.ProfiledSchemas

/-! Documents that are fit to a profile before or after their references are resolved. The parts of a document that is
changed are its parts changed, so what holds of schemas holds of documents. Main statements: `Assembled.reordered`,
`enforce_resolve_comm`. -/

namespace RecordSchema.Document
open Entries

section Assembly
variable {options : ResolutionOptions} {key : String} {document schema body definitions : Entries} {plain : Entries → Entries}

theorem Keyed.field?_filter (keyed : Keyed schema) (p : Value × Value → Bool) (name : String) :
    Entries.field? (schema.filter p) name = (schema.field? name).filter fun v => p (.str name, v) := by
  induction schema with
  | nil => rfl
  | cons e rest ih =>
    obtain ⟨key, v⟩ := e
    obtain ⟨own, rfl⟩ := keyed.text (key, v) List.mem_cons_self
    have later := ih keyed.tail
    rw [List.filter_cons, Entries.field?]
    by_cases same : own = name
    · subst same
      rw [keyed.absent_later] at later
      rw [Value.str?, if_pos rfl, Option.filter_some]
      split
      · rw [Entries.field?, Value.str?, if_pos rfl]
      · exact later
    · have apart : ¬ (Value.str own).str? = some name := fun text => same (Option.some.inj text)
      rw [if_neg apart, ← later]
      split
      · rw [Entries.field?, if_neg apart]
      · rfl

theorem plain_of_keyless (absent : ∀ key ∈ Pointer.definitionsKeys, document.field? key = none) :
    ∀ e ∈ document, holdsDefinitions e = false := by
  refine fun e member => Bool.eq_false_iff.mpr fun holds => ?_
  obtain ⟨key, listed, named⟩ := key_of_holdsDefinitions holds
  exact not_named_of_absent (absent key listed) e member named

/-- A document without definitions is all root. -/
theorem parts_of_keyless (absent : ∀ key ∈ Pointer.definitionsKeys, document.field? key = none) :
    Parts.ofEntries document = ⟨none, [], document⟩ := Parts.foldl_add_of_plain (plain_of_keyless absent) {}

/-- The definitions of a document in which no key stands twice. -/
theorem held_of_keyed (keyed : Keyed document) (listed : key ∈ Pointer.definitionsKeys)
    (only : ∀ other ∈ Pointer.definitionsKeys, other ≠ key → document.field? other = none)
    (under : document.field? key = some (.map definitions)) :
    document.filter holdsDefinitions = [(.str key, .map definitions)] := by
  have known : isDefinitionsKey (.str key) = true := isDefinitionsKey_of_listed rfl listed
  have each : ∀ e ∈ document.filter holdsDefinitions, e = (.str key, .map definitions) := by
    intro e inside
    obtain ⟨member, holds⟩ := List.mem_filter.mp inside
    obtain ⟨own, among, named⟩ := key_of_holdsDefinitions holds
    have stands := field?_of_mem keyed.distinct member named
    obtain rfl : own = key := Classical.byContradiction fun differ => by rw [only own among differ] at stands; cases stands
    obtain ⟨name, text⟩ := keyed.text e member
    rw [text] at named
    cases named
    exact Prod.ext text (Option.some.inj (stands.symm.trans under))
  have stands : (.str key, .map definitions) ∈ document.filter holdsDefinitions := by
    obtain ⟨e, member, named, same⟩ := mem_of_field? under
    obtain ⟨name, text⟩ := keyed.text e member
    rw [text] at named
    cases named
    have whole : e = (.str key, .map definitions) := Prod.ext text same
    exact List.mem_filter.mpr ⟨whole ▸ member, Bool.and_eq_true_iff.mpr ⟨known, rfl⟩⟩
  have once : (labels (document.filter holdsDefinitions)).Nodup := keyed.distinct.sublist (List.filter_sublist.filterMap _)
  rw [List.eq_replicate_of_mem each] at stands once ⊢
  generalize (document.filter holdsDefinitions).length = count at stands once
  have same : labels (List.replicate count (.str key, .map definitions)) = List.replicate count key := List.filterMap_replicate_of_some rfl
  rw [same, List.nodup_replicate] at once
  obtain ⟨filled, -⟩ := List.mem_replicate.mp stands
  obtain rfl : count = 1 := by omega
  rfl

/-- A document that has the keywords of a schema, and definitions, falls into these parts. -/
theorem parts_of_fields (keyed : Keyed document) (listed : key ∈ Pointer.definitionsKeys)
    (absent : ∀ other ∈ Pointer.definitionsKeys, schema.field? other = none)
    (fields : ∀ keyword, document.field? keyword = (schema.setField key (.map definitions)).field? keyword) :
    (Parts.ofEntries document).definitions = Entries.update [] definitions ∧ Keyed (Parts.ofEntries document).root ∧
      ∀ keyword, (Parts.ofEntries document).root.field? keyword = schema.field? keyword := by
  have only : ∀ other ∈ Pointer.definitionsKeys, other ≠ key → document.field? other = none := by
    intro other member differ
    rw [fields, field?_setField_of_ne _ _ differ, absent other member]
  have here : document.field? key = some (.map definitions) := by rw [fields, field?_setField_self]
  rw [parts_of_one (held_of_keyed keyed listed only here)]
  refine ⟨rfl, keyed.sublist List.filter_sublist, fun keyword => ?_⟩
  rw [keyed.field?_filter, fields]
  by_cases same : keyword = key
  · subst same
    have known : isDefinitionsKey (.str keyword) = true := isDefinitionsKey_of_listed rfl listed
    rw [field?_setField_self, absent keyword listed, Option.filter_some, holdsDefinitions, known]
    rfl
  · rw [field?_setField_of_ne _ _ same]
    cases found : schema.field? keyword with
    | none => rfl
    | some v =>
      obtain ⟨e, member, named, value⟩ := mem_of_field? found
      have text : (Value.str keyword).str? = e.1.str? := named.symm
      have plainly : holdsDefinitions (.str keyword, v) = false :=
        (holdsDefinitions_alike text value.symm).trans (plain_of_keyless absent e member)
      rw [Option.filter_some, plainly]
      rfl

variable (key body definitions) in
/-- A regular schema without pointer, and the definitions that are put under a key of it. -/
structure Assembled : Prop where
  listed : key ∈ Pointer.definitionsKeys
  root : Regulated (.map body)
  absent : ∀ keyword ∈ "$ref" :: Pointer.definitionsKeys, body.field? keyword = none
  described : ∀ d ∈ definitions, ∃ schema : Entries, d.2 = .map schema ∧ Regulated d.2 ∧ schema.field? "readOnly" = none

namespace Assembled
variable (assembled : Assembled key body definitions)
include assembled

theorem parts : (Parts.ofEntries (withDefinitions key body definitions)).definitions = Entries.update [] definitions ∧
    (Parts.ofEntries (withDefinitions key body definitions)).root = body := by
  have absent : ∀ other ∈ Pointer.definitionsKeys, body.field? other = none :=
    fun other member => assembled.absent other (List.mem_cons_of_mem _ member)
  cases definitions with
  | nil =>
    rw [withDefinitions, List.isEmpty_nil, if_pos rfl, parts_of_keyless absent]
    exact ⟨rfl, rfl⟩
  | cons d rest =>
    have bare : Bare key body := fun e member =>
      ⟨not_named_of_absent (absent key assembled.listed) e member, plain_of_keyless absent e member⟩
    obtain ⟨held, left⟩ := bare.reattach (isDefinitionsKey_of_listed rfl assembled.listed) (d :: rest)
    rw [withDefinitions, List.isEmpty_cons, if_neg Bool.false_ne_true, parts_of_one held, left]
    exact ⟨rfl, rfl⟩

theorem regulated : Regulated (.map (withDefinitions key body definitions)) := by
  unfold withDefinitions
  split
  · exact assembled.root
  have own := assembled.root.regular
  have apart {keyword : String} (other : keyword ∈ ["$ref", "format"]) : keyword ≠ key := by
    have free : keyword ∉ Pointer.definitionsKeys := by
      revert keyword
      decide
    rintro rfl
    exact free assembled.listed
  have below (w : Value) (inside : Below (body.setField key (.map definitions)) w) : Regulated w := by
    obtain ⟨e, member, inside⟩ := inside
    obtain before | ⟨named, same⟩ := mem_setField member
    · exact assembled.root.below ⟨e, before, inside⟩
    · rw [same, subvalues_definitions (isDefinitionsKey_of_listed named assembled.listed)] at inside
      obtain ⟨d, among, rfl⟩ := List.mem_map.mp inside
      obtain ⟨-, -, fine, -⟩ := assembled.described d among
      exact fine
  refine .of_regular ⟨own.keyed.setField _ _, ?_, fun w inside => (below w inside).1, fun pointer => ?_⟩ below
  · rw [field?_setField_of_ne _ _ (apart (by decide)), own.formless]
  · rw [hasField, field?_setField_of_ne _ _ (apart (by decide)), assembled.absent "$ref" List.mem_cons_self] at pointer
    cases pointer

theorem counterparts (plain : Entries → Entries) :
    Counterparts (Entries.update [] definitions) (Entries.update [] (definitions.eachValue fun _ => rebuilt plain)) plain where
  described name body found := by
    obtain none | ⟨d, member, -, rfl⟩ := Entries.field?_update found
    · cases none
    · exact assembled.described d member
  changed name := by
    have reads : ReadsText fun _ => rebuilt plain := fun _ _ _ => rfl
    rw [← field?_eachValue reads, eachValue_update reads]
    rfl

variable (exchangeable : Exchangeable plain)
include exchangeable

/-- The parts of the document once it is changed are the parts changed. -/
theorem parts_changed : (Parts.ofEntries (plain (rebuiltEntries plain (withDefinitions key body definitions)))).definitions =
      Entries.update [] (definitions.eachValue fun _ => rebuilt plain) ∧
    Keyed (Parts.ofEntries (plain (rebuiltEntries plain (withDefinitions key body definitions)))).root ∧
    ∀ keyword, (Parts.ofEntries (plain (rebuiltEntries plain (withDefinitions key body definitions)))).root.field? keyword =
      (plain (rebuiltEntries plain body)).field? keyword := by
  have own := assembled.root.regular.keyed
  have keyed := exchangeable.keyed_below own
  have absent : ∀ other ∈ Pointer.definitionsKeys, (plain (rebuiltEntries plain body)).field? other = none := by
    intro other member
    have listed : other ∈ "$ref" :: "readOnly" :: Pointer.definitionsKeys := List.mem_append_right ["$ref", "readOnly"] member
    rw [exchangeable.kept _ other listed, field?_rebuilt, assembled.absent other (List.mem_cons_of_mem _ member)]
    rfl
  cases definitions with
  | nil =>
    rw [withDefinitions, List.isEmpty_nil, if_pos rfl, parts_of_keyless absent]
    exact ⟨rfl, keyed, fun _ => rfl⟩
  | cons d rest =>
    rw [withDefinitions, List.isEmpty_cons, if_neg Bool.false_ne_true, rebuiltEntries_setField]
    have under : rebuiltUnder plain (.str key) (.map (d :: rest)) = .map (eachValue (fun _ => rebuilt plain) (d :: rest)) := by
      unfold rebuiltUnder
      rw [definitions_shape (isDefinitionsKey_of_listed rfl assembled.listed)]
      rfl
    rw [under]
    have fields := exchangeable.attached assembled.listed (own.rebuilt plain) (.map (eachValue (fun _ => rebuilt plain) (d :: rest)))
    have whole := exchangeable.keyed ((own.rebuilt plain).setField key (.map (eachValue (fun _ => rebuilt plain) (d :: rest))))
    exact parts_of_fields whole assembled.listed absent fields

/-- Resolving a document and changing what comes of it comes to resolving the changed document, up to the order of keys. -/
theorem reordered : (rebuilt plain (resolveEntries options (withDefinitions key body definitions))).Reordered
    (resolveEntries options (plain (rebuiltEntries plain (withDefinitions key body definitions)))) := by
  obtain ⟨defined, stands⟩ := assembled.parts
  obtain ⟨changed, keyed, same⟩ := assembled.parts_changed exchangeable
  have counterparts := assembled.counterparts plain
  obtain ⟨made, done, left, right, related⟩ := related_resolveTo exchangeable counterparts assembled.root keyed same
  rw [resolveEntries, resolveEntries, defined, stands, changed, left, right]
  exact related.reordered fun e _ u _ w pair => crossed_reordered exchangeable counterparts pair

end Assembled
end Assembly

section Profiles

/-- Resolves a document, and fits what comes of it to a profile. -/
def enforceResolved (options : ResolutionOptions) (name : String) (document : Value) : Except (Failing ProfileError) Value := do
  Profiles.builtIn.enforce name (← Failing.ofFault (resolve options document))

/-- Fits a document to a profile, and resolves what comes of it. -/
def resolveEnforced (options : ResolutionOptions) (name : String) (document : Value) : Except (Failing ProfileError) Value := do
  Failing.ofFault (resolve options (← Profiles.builtIn.enforce name document))

variable {catalogs : Catalogs} {options : DocumentOptions} {s : Schema} {document : Entries} {resolution : ResolutionOptions}
  {name : String} {profile : Profile} {v : Value}

theorem enforce_of_copyable (found : Profiles.builtIn.get? name = some profile) (copyable : v.isCopyable = true) :
    Profiles.builtIn.enforce name v = Failing.ofFault (profile.change v) := by
  rw [Profiles.enforce, found, Value.copy, if_pos copyable]
  rfl

theorem enforce_of_uncopyable (builtIn : Profiles.builtIn.contains name = true) (uncopyable : v.isCopyable = false) :
    Profiles.builtIn.enforce name v = .error (.fault .wrongType) := by
  obtain ⟨profile, found⟩ := Option.isSome_iff_exists.mp builtIn
  rw [Profiles.enforce, found, Value.copy, uncopyable, if_neg Bool.false_ne_true]
  rfl

theorem isCopyable_resolveEntries (copyable : (Value.map document).isCopyable = true) :
    (resolveEntries resolution document).isCopyable = true :=
  isCopyable_composite.resolveTo (fun _ _ => isCopyable_composite.definition copyable) (isCopyable_composite.root copyable)

/-- A document that is generated is assembled of regular schemas, if no field has keywords of its own. -/
theorem generate_assembled (listed : options.definitionsKey ∈ Pointer.definitionsKeys)
    (bare : ∀ t, Covers catalogs options s t → ∀ f ∈ t.shownFields options, f.extra = [])
    (generated : generate catalogs options s = .ok document) :
    ∃ body definitions, document = withDefinitions options.definitionsKey body definitions ∧
      Assembled options.definitionsKey body definitions := by
  obtain ⟨definitions, same, each⟩ := generate_consists generated
  refine ⟨schemaContent options s, definitions, same, listed, regulated_schemaContent (bare s .own), fun keyword member => ?_,
    fun d member => ?_⟩
  · refine field?_schemaContent_of_other s ?_
    revert keyword
    decide
  · obtain ⟨t, covers, whole⟩ := each d member
    exact ⟨_, whole, whole ▸ regulated_schemaContent (bare t covers), field?_schemaContent_of_other t (by decide)⟩

/-- A document that is generated can be fit to a profile before or after it is resolved. If it can be copied, both orders
come to the same, up to the order of keys, also where references are left. If it holds what cannot be copied, it is not fit to
a profile before it is resolved; once it is, a definition that was not put in is gone. -/
theorem enforce_resolve_comm (listed : options.definitionsKey ∈ Pointer.definitionsKeys)
    (bare : ∀ t, Covers catalogs options s t → ∀ f ∈ t.shownFields options, f.extra = [])
    (generated : generate catalogs options s = .ok document) (builtIn : Profiles.builtIn.contains name = true)
    (resolution : ResolutionOptions) :
    ((Value.map document).isCopyable = true → ∃ first second, enforceResolved resolution name (.map document) = .ok first ∧
      resolveEnforced resolution name (.map document) = .ok second ∧ first.Reordered second) ∧
    ((Value.map document).isCopyable = false → resolveEnforced resolution name (.map document) = .error (.fault .wrongType)) := by
  refine ⟨fun copyable => ?_, fun uncopyable => ?_⟩
  · obtain ⟨profile, found, kind⟩ := fits_of_builtIn builtIn
    have resolved := resolve_of_copyable resolution copyable
    have still : (resolveEntries resolution document).isCopyable = true := isCopyable_resolveEntries copyable
    rw [enforceResolved, resolved, resolveEnforced, enforce_of_copyable found copyable]
    show ∃ first second, Profiles.builtIn.enforce name (resolveEntries resolution document) = .ok first ∧ _
    rw [enforce_of_copyable found still]
    obtain same | ⟨change, plain, same, fits⟩ := kind
    · rw [same]
      exact ⟨_, _, rfl, congrArg Failing.ofFault resolved, .refl _⟩
    · obtain ⟨body, definitions, rfl, assembled⟩ := generate_assembled listed bare generated
      have counterparts := assembled.counterparts plain
      obtain ⟨defined, root⟩ := assembled.parts
      have regulated : Regulated (resolveEntries resolution (withDefinitions options.definitionsKey body definitions)) := by
        rw [resolveEntries, defined, root]
        exact regulated_resolveTo counterparts.regulated assembled.root
      have changed : (Value.map (plain (rebuiltEntries plain (withDefinitions options.definitionsKey body definitions)))).isCopyable = true := by
        rw [← rebuilt_map]
        exact isCopyable_composite.rebuilt (fun _ => fits.exchangeable.copyable) copyable
      rw [same, changeAll_of_fits fits regulated, changeAll_of_fits fits assembled.regulated, rebuilt_map]
      exact ⟨_, _, rfl, congrArg Failing.ofFault (resolve_of_copyable resolution changed), assembled.reordered fits.exchangeable⟩
  · rw [resolveEnforced, enforce_of_uncopyable builtIn uncopyable]
    rfl

open ReferenceClosure (requiredField)

/-- Measures a chapter. -/
def measuring : Hook := ⟨fun v => (v, .success (.int 0)), 1, "function", some "chapters", some "measure", some "measure"⟩

/-- A chapter, which leads to the one that follows. How long it is is derived. -/
def chapter : Schema :=
  { DerivedOmission.recordOf 1 "Chapter" [requiredField "title" (.primitive .string []),
      { requiredField "next" (.ref "Chapter" none) with description := .str "What follows." },
      { requiredField "length" (.primitive .integer []) with required := false, derived := true }] with
    derivedHooks := [⟨"chapters.measure", .derived, measuring, some (.text "length"), false⟩] }

theorem chapter_covers {t : Schema} (covers : Covers {} {} chapter t) : t = chapter := by
  have shown : chapter.shownReferences {} = [(.text "Chapter", none)] := rfl
  induction covers with
  | own => rfl
  | next _ leads described ih =>
    subst ih
    obtain ⟨r, member, rfl, resolved⟩ := leads
    rw [shown] at member
    cases List.mem_singleton.mp member
    cases resolved
    cases described
    rfl

/-- Chapters lead to chapters without end. They are cut where no more depth is allowed, and are the same in both orders. -/
theorem chapter_comm : (∀ t, Covers {} {} chapter t → ∀ f ∈ t.shownFields {}, f.extra = []) ∧
    Profiles.builtIn.contains "strict_output" = true ∧
    ∃ document, generate {} {} chapter = .ok document ∧ (Value.map document).isCopyable = true ∧
      ∃ first second, enforceResolved { maxDepth := 2 } "strict_output" (.map document) = .ok first ∧
        resolveEnforced { maxDepth := 2 } "strict_output" (.map document) = .ok second ∧ first.Reordered second := by
  have bare : ∀ t, Covers {} {} chapter t → ∀ f ∈ t.shownFields {}, f.extra = [] := by
    intro t covers
    obtain rfl := chapter_covers covers
    decide
  have builtIn : Profiles.builtIn.contains "strict_output" = true := by decide +kernel
  obtain ⟨document, generated, copyable⟩ : ∃ document, generate {} {} chapter = .ok document ∧ (Value.map document).isCopyable = true :=
    ⟨_, by with_unfolding_all rfl, rfl⟩
  exact ⟨bare, builtIn, document, generated, copyable,
    (enforce_resolve_comm (by decide) bare generated builtIn { maxDepth := 2 }).1 copyable⟩

open DerivedOmission (sketch sketch_built)

/-- An album, whose cover is a sketch. -/
def album : Schema := DerivedOmission.recordOf 4 "Album" [requiredField "cover" (.ref "Sketch" (some (.schema sketch)))]

theorem album_built : album.IsBuilt := by
  have assembly : Schema.Assembly {} {} 4 (.list [.tuple [.str "cover", .schema sketch]]) { name := "Album" } album :=
    ⟨_, album.fields, [], [], rfl, by with_unfolding_all rfl, rfl, rfl, rfl⟩
  exact ⟨_, _, _, _, _, assembly.build_eq rfl rfl rfl⟩

/-- An example of the sketch cannot be copied. It stands in a definition, which is not put in where no depth is allowed. -/
theorem album_unenforced : album.IsBuilt ∧ sketch.IsBuilt ∧ (∀ f ∈ album.fields ++ sketch.fields, f.extra = []) ∧
    ∃ document, generate {} {} album = .ok document ∧
      (enforceResolved { maxDepth := 0 } "strict_output" (.map document)).Returns ∧
      resolveEnforced { maxDepth := 0 } "strict_output" (.map document) = .error (.fault .wrongType) := by
  refine ⟨album_built, sketch_built, by decide, _, by with_unfolding_all rfl, ⟨_, by with_unfolding_all rfl⟩, ?_⟩
  with_unfolding_all rfl

end Profiles
end RecordSchema.Document
