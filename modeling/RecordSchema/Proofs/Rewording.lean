import RecordSchema.Proofs.References
import RecordSchema.Proofs.Related
import RecordSchema.Validation.Verdict

/-! Schemas in other words. They demand the same, and differ at most in the messages of constraints and in their own
number. Where the names in them lead to schemas in other words again, so do all their references. Main statement:
`lookup?_reworded`.

The usual words for a constraint tell its bound. Where that has too many digits to be written, they cannot be told, while
words of the author's own can. So each relation says which faults are excused that a schema ends with in other words. -/

namespace RecordSchema

variable {lost : Fault → Prop}

/-- Constraints that demand the same. What they say where they are violated can be told of both, or of neither for
one reason, unless the second one has an excuse. -/
structure Constraint.Reworded (lost : Fault → Prop) (c d : Constraint) : Prop where
  kind : d.kind = c.kind
  bound : d.bound = c.bound
  told : Except.RelatedUnless lost Eq (fun _ _ => True) c.violationText d.violationText

theorem Constraint.Reworded.refl (c : Constraint) : c.Reworded lost c :=
  ⟨rfl, rfl, .both (.of_eq (fun _ => rfl) (fun _ => trivial) _)⟩

theorem Constraint.Reworded.check {c d : Constraint} (same : c.Reworded lost d) (v : Value) : d.check v = c.check v := by
  unfold Constraint.check
  rw [same.kind, same.bound]

/-- Types that differ at most in the messages of their outermost constraints. -/
inductive SchemaType.Reworded (lost : Fault → Prop) : SchemaType → SchemaType → Prop where
  | primitive {kind : Primitive} {cs ds : List Constraint} (own : List.Forall₂ (Constraint.Reworded lost) cs ds) :
    Reworded lost (.primitive kind cs) (.primitive kind ds)
  | array {element : SchemaType} {cs ds : List Constraint} (own : List.Forall₂ (Constraint.Reworded lost) cs ds) :
    Reworded lost (.array element cs) (.array element ds)
  | map {key value : SchemaType} {cs ds : List Constraint} (own : List.Forall₂ (Constraint.Reworded lost) cs ds) :
    Reworded lost (.map key value cs) (.map key value ds)
  | union {variants : List SchemaType} {cs ds : List Constraint} (own : List.Forall₂ (Constraint.Reworded lost) cs ds) :
    Reworded lost (.union variants cs) (.union variants ds)
  | ref (name : Name) (target : Option Target) : Reworded lost (.ref name target) (.ref name target)

namespace SchemaType

private theorem sameConstraints (cs : List Constraint) : List.Forall₂ (Constraint.Reworded lost) cs cs :=
  List.forall₂_same.mpr fun c _ => .refl c

theorem Reworded.refl (t : SchemaType) : t.Reworded lost t := by
  cases t with
  | primitive kind cs => exact .primitive (sameConstraints cs)
  | array element cs => exact .array (sameConstraints cs)
  | map key value cs => exact .map (sameConstraints cs)
  | union variants cs => exact .union (sameConstraints cs)
  | ref name target => exact .ref name target

variable {t u : SchemaType}

theorem Reworded.describe (same : t.Reworded lost u) : u.describe = t.describe := by
  cases same <;> simp only [SchemaType.describe]

theorem Reworded.references (same : t.Reworded lost u) : u.references = t.references := by
  cases same <;> simp only [SchemaType.references]

end SchemaType

/-- Fields that differ at most in the messages of their constraints. -/
inductive Field.Reworded (lost : Fault → Prop) (f : Field) : Field → Prop where
  | intro {type : SchemaType} (types : f.type.Reworded lost type) : Reworded lost f { f with type }

theorem Field.Reworded.refl (f : Field) : f.Reworded lost f := by
  cases f
  exact .intro (.refl _)

/-- Schemas that differ at most in the messages of their fields, and in their own number. -/
inductive Schema.Reworded (lost : Fault → Prop) (s : Schema) : Schema → Prop where
  | intro {serial : Nat} {fields : List Field} (each : List.Forall₂ (Field.Reworded lost) s.fields fields) :
    Reworded lost s { s with serial, fields }

inductive Target.Reworded (lost : Fault → Prop) : Target → Target → Prop where
  | schema {s t : Schema} (schemas : s.Reworded lost t) : Reworded lost (.schema s) (.schema t)
  | lookalike (serial : Nat) (thing : Value) (forData forDocument : Except Fault Schema) (gaps : Gaps) :
    Reworded lost (.lookalike serial thing forData forDocument gaps) (.lookalike serial thing forData forDocument gaps)

/-- Catalogs that hold such schemas, under the same names. -/
def Catalog.Reworded (lost : Fault → Prop) (c d : Catalog) : Prop :=
  List.Forall₂ (fun e f => f.1 = e.1 ∧ Option.Rel (Schema.Reworded lost) e.2 f.2) c.entries d.entries

def Catalogs.Reworded (lost : Fault → Prop) (catalogs others : Catalogs) : Prop :=
  List.Forall₂ (fun c d => d.1 = c.1 ∧ c.2.Reworded lost d.2) catalogs.listed others.listed

/-- Scopes of such schemas. -/
structure Scope.Reworded (lost : Fault → Prop) (scope other : Scope) : Prop where
  owner : Option.Rel (Schema.Reworded lost) scope.owner other.owner
  catalog : other.catalog = scope.catalog

section Fields
variable {fs gs : List Field}

theorem names_reworded (each : List.Forall₂ (Field.Reworded lost) fs gs) : gs.map (·.name) = fs.map (·.name) :=
  each.map_eq fun _ _ fields => by cases fields; rfl

theorem field?_reworded (each : List.Forall₂ (Field.Reworded lost) fs gs) (name : String) :
    Option.Rel (Field.Reworded lost) (fs.find? (·.name.label = name)) (gs.find? (·.name.label = name)) := by
  induction each with
  | nil => exact .none
  | @cons f _ _ _ first _ ih =>
    cases first with
    | intro types =>
      rw [List.find?_cons, List.find?_cons]
      cases decide (f.name.label = name) with
      | true => exact .some (.intro types)
      | false => exact ih

theorem filter_reworded (each : List.Forall₂ (Field.Reworded lost) fs gs) {p : Field → Bool}
    (blind : ∀ f g, f.Reworded lost g → p g = p f) : List.Forall₂ (Field.Reworded lost) (fs.filter p) (gs.filter p) :=
  List.rel_filter (fun f g same => iff_of_eq (congrArg (· = true) (blind f g same).symm)) each

end Fields

namespace Schema

theorem Reworded.refl (s : Schema) : s.Reworded lost s := by
  cases s
  exact .intro (List.forall₂_same.mpr fun f _ => .refl f)

variable {s t : Schema} (same : s.Reworded lost t)
include same

theorem Reworded.fields : List.Forall₂ (Field.Reworded lost) s.fields t.fields := by
  cases same with
  | intro each => exact each

theorem Reworded.regularFields : List.Forall₂ (Field.Reworded lost) s.regularFields t.regularFields :=
  filter_reworded same.fields fun _ _ fields => by cases fields; rfl

theorem Reworded.derivedFields : List.Forall₂ (Field.Reworded lost) s.derivedFields t.derivedFields :=
  filter_reworded same.fields fun _ _ fields => by cases fields; rfl

theorem Reworded.name : t.name = s.name := by cases same; rfl

theorem Reworded.catalog : t.catalog = s.catalog := by cases same; rfl

theorem Reworded.references : t.references = s.references :=
  same.fields.flatMap_eq fun _ _ fields => by cases fields with | intro types => exact types.references

end Schema

theorem Target.Reworded.refl : ∀ t : Target, t.Reworded lost t
  | .schema s => .schema (.refl s)
  | .lookalike serial thing forData forDocument gaps => .lookalike serial thing forData forDocument gaps

theorem Catalog.Reworded.refl (c : Catalog) : c.Reworded lost c := List.forall₂_same.mpr fun e _ => ⟨rfl, .refl .refl e.2⟩

theorem Catalogs.Reworded.refl (catalogs : Catalogs) : catalogs.Reworded lost catalogs :=
  List.forall₂_same.mpr fun c _ => ⟨rfl, .refl c.2⟩

namespace Scope

variable {now later : Catalogs}

theorem inCatalog?_reworded (catalogs : now.Reworded lost later) (catalog : Option CatalogId) (name : String) :
    Option.Rel (Schema.Reworded lost) (inCatalog? now catalog name) (inCatalog? later catalog name) := by
  refine Option.Rel.bind (.refl (fun _ => rfl) catalog) fun id _ same => ?_
  cases same
  have listed := lookup_related catalogs id
  unfold Catalogs.get
  generalize now.listed.lookup id = c, later.listed.lookup id = d at listed
  cases listed with
  | none => exact .none
  | some entries => exact Option.Rel.bind (lookup_related entries name) fun _ _ schemas => schemas

variable {scope other : Scope}

theorem named?_reworded (catalogs : now.Reworded lost later) (scopes : scope.Reworded lost other) (name : String) :
    Option.Rel (Schema.Reworded lost) (named? now scope name) (named? later other name) := by
  obtain ⟨owner, catalog⟩ := scope
  obtain ⟨otherOwner, otherCatalog⟩ := other
  obtain ⟨owners, same⟩ := scopes
  cases same
  cases owners with
  | none => exact inCatalog?_reworded catalogs catalog name
  | some schemas =>
    simp only [named?, schemas.name, schemas.catalog]
    split
    · exact .some schemas
    · exact (inCatalog?_reworded catalogs _ name).or (inCatalog?_reworded catalogs catalog name)

/-- A reference leads to the same schema in other words, if it leads anywhere. -/
theorem lookup?_reworded (catalogs : now.Reworded lost later) (scopes : scope.Reworded lost other) (name : Name)
    (target : Option Target) :
    Option.Rel (Target.Reworded lost) (scope.lookup? now name target) (other.lookup? later name target) :=
  Option.Rel.or (.refl .refl target) ((named?_reworded catalogs scopes name.label).map fun _ _ => .schema)

theorem Reworded.ofSchema {s t : Schema} (same : s.Reworded lost t) (catalog : Option CatalogId) :
    Reworded lost ⟨some s, s.catalog.or catalog⟩ ⟨some t, t.catalog.or catalog⟩ :=
  ⟨.some same, by rw [same.catalog]⟩

end Scope

/-- Violations of one kind at one place, that name the same constraint and the same hook. Only where a constraint is
violated they can be worded differently. -/
structure Violation.Reworded (v w : Violation) : Prop where
  path : w.path = v.path
  kind : w.kind = v.kind
  named : w.constraint = v.constraint
  hook : w.hook = v.hook
  message : v.kind ≠ .constraintViolated → w.message = v.message

theorem Violation.Reworded.refl (v : Violation) : v.Reworded v := ⟨rfl, rfl, rfl, rfl, fun _ => rfl⟩

theorem sameViolations (violations : List Violation) : List.Forall₂ Violation.Reworded violations violations :=
  List.forall₂_same.mpr fun v _ => .refl v

/-- Violations as they are told by checks of one mode: no constraint is checked with the shape, so that its violations are
told in the same words. -/
def Mode.SameWords : Mode → Violation → Violation → Prop
  | .shape => Eq
  | .full _ => Violation.Reworded

theorem Mode.sameWords_refl (mode : Mode) (v : Violation) : mode.SameWords v v := by
  cases mode with
  | shape => rfl
  | full => exact .refl v

/-- What is excused in a check of one mode. -/
def Mode.Excuses (lost : Fault → Prop) : Mode → Fault → Prop
  | .shape => fun _ => False
  | .full _ => lost

/-- Reports on one value, in other words. -/
structure Checked.Reworded (mode : Mode) (c d : Checked) : Prop where
  value : d.value = c.value
  violations : List.Forall₂ mode.SameWords c.violations d.violations

section Reports
variable {mode : Mode} {c d : Checked} {x y : Except Fault Checked}

theorem Checked.Reworded.refl (c : Checked) : c.Reworded mode c := ⟨rfl, List.forall₂_same.mpr fun v _ => mode.sameWords_refl v⟩

theorem Checked.Reworded.isClean (same : c.Reworded mode d) : d.isClean = c.isClean := same.violations.isEmpty_eq

/-- Of the shape alone the reports are the same. -/
theorem Checked.eq_of_reworded (both : Except.RelatedUnless (Mode.shape.Excuses lost) Eq (Checked.Reworded .shape) x y) : y = x := by
  have related := both.related fun _ impossible => impossible
  cases related with
  | error reasons => rw [reasons]
  | @ok c d same =>
    obtain ⟨v, violations⟩ := c
    obtain ⟨w, others⟩ := d
    obtain ⟨rfl, words⟩ := same
    have told : violations = others := List.forall₂_eq_eq_eq ▸ words
    rw [told]

end Reports

/-- A failure that is excused as a fault; what authors have written is no excuse. -/
def Failing.Excuses {ε : Type} (lost : Fault → Prop) : Failing ε → Prop
  | .fault f => lost f
  | .reason _ => False

theorem Failing.ofFault_related {ε α β : Type} {E : Failing ε → Failing ε → Prop} {R : α → β → Prop} {x : Except Fault α}
    {y : Except Fault β} (reasons : ∀ e, E e e) (both : Except.RelatedUnless lost Eq R x y) :
    Except.RelatedUnless (Excuses lost) E R (ofFault x) (ofFault y) := by
  cases both with
  | lost excused => exact .lost excused
  | both related =>
    cases related with
    | error same => exact .error (same ▸ reasons _)
    | ok values => exact .ok values

namespace Validation

/-- The same data, or the same violations in other words. -/
inductive Verdict.Reworded : Verdict → Verdict → Prop where
  | accepted (data : Entries) (container : Option Container) :
    Reworded (.accepted data container) (.accepted data container)
  | rejected {violations others : List Violation} (each : List.Forall₂ Violation.Reworded violations others) :
    Reworded (.rejected violations) (.rejected others)

theorem Verdict.Reworded.refl : ∀ verdict : Verdict, verdict.Reworded verdict
  | .accepted data container => .accepted data container
  | .rejected violations => .rejected (sameViolations violations)

end Validation

end RecordSchema
