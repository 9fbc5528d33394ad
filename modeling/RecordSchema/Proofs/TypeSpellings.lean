import Mathlib.Data.List.Forall2
import RecordSchema.Normal.Type
import RecordSchema.Proofs.ExpressionData
import RecordSchema.Proofs.Outcome
import RecordSchema.Spelling

/-! The spellings of a type. Whether constraints come as keywords of a helper, at the end of a tagged expression or beside
a plain one, the type is read first, the constraints are read the same, and they are attached to it. Main statement:
`spellings_agree`. -/

namespace RecordSchema

/-- A type that authors can spell in several ways. A scalar has several names, as a tag and by itself. -/
inductive Spelled where
  | array (element : Expr)
  | map (key value : Expr)
  | union (variants : List Expr)
  | scalar (kind : Primitive) (tag name : String) (tagged : Primitive.ofName? (Text.lower tag) = some kind)
      (named : Primitive.ofName? (Text.lower (String.ofList (Text.trim name.toList))) = some kind)

namespace Spelled

/-- The type as a helper spells it, with constraints by keywords. -/
def helper? (keywords : Keywords) : Spelled → Option Expr
  | .array element => Helper.array.spelling? [element] keywords
  | .map key value => Helper.map.spelling? [key, value] keywords
  | .union variants => Helper.union.spelling? variants keywords
  | .scalar kind _ _ _ _ => (Helper.scalar kind).spelling? [] keywords

/-- The type spelled with a tag, and with constraints at the end. -/
def tagged (constraints : Expr) : Spelled → Expr
  | .array element => .tuple [.str "array", element, constraints]
  | .map key value => .tuple [.str "map", key, value, constraints]
  | .union variants => .tuple [.str "union", .list variants, constraints]
  | .scalar _ tag _ _ _ => .tuple [.str tag, constraints]

/-- The type without constraints, as short as it can be spelled. -/
def plain : Spelled → Expr
  | .array element => .list [element]
  | .map key value => .map [(key, value)]
  | .union variants => .tuple [.str "union", .list variants]
  | .scalar _ _ name _ _ => .str name

/-- The same type but for how its parts are spelled. -/
inductive Alike : Spelled → Spelled → Prop where
  | array {e f : Expr} (element : SchemaType.normalize e = SchemaType.normalize f) : Alike (.array e) (.array f)
  | map {k l e f : Expr} (key : SchemaType.normalize k = SchemaType.normalize l)
      (value : SchemaType.normalize e = SchemaType.normalize f) : Alike (.map k e) (.map l f)
  | union {es fs : List Expr} (variants : List.Forall₂ (fun e f => SchemaType.normalize e = SchemaType.normalize f) es fs) :
      Alike (.union es) (.union fs)
  | scalar {kind : Primitive} {tag name otherTag otherName : String} {tagged named otherTagged otherNamed} :
      Alike (.scalar kind tag name tagged named) (.scalar kind otherTag otherName otherTagged otherNamed)

end Spelled

namespace Constraint

variable {given : Expr} {keywords : Keywords}

/-- The constraints of a mapping are read entry by entry. -/
theorem ofExpr_of_entries {entries : List (Expr × Expr)} (maps : given.entries? = some entries) :
    ofExpr given .null = ofEntries [] entries := by
  have holds := Expr.isTrue_of_entries maps
  have silent : Messages.ofExpr .null = .ok [] := rfl
  cases entries with
  | nil => rw [ofExpr, holds]; rfl
  | cons entry rest => rw [ofExpr, holds, silent, maps]; rfl

/-- Constraints under known names can be read, whatever their bounds. -/
theorem ofKeywords_returns (known : ∀ k ∈ keywords, (ConstraintKind.ofName? k.1).isSome = true) :
    ∃ constraints, ofKeywords keywords = .ok constraints := by
  induction keywords with
  | nil => exact ⟨[], rfl⟩
  | cons k rest ih =>
    obtain ⟨name, bound⟩ := k
    obtain ⟨here, others⟩ := List.forall_mem_cons.mp known
    obtain ⟨kind, named⟩ := Option.isSome_iff_exists.mp here
    obtain ⟨constraints, read⟩ := ih others
    have kindOf : ConstraintKind.ofExpr (.str name) = .ok kind := by
      have hashable : (Expr.str name).toValue.isHashable = true := rfl
      have text : (Expr.str name).str? = some name := rfl
      rw [ConstraintKind.ofExpr, hashable, text, Option.bind_some, named]
      rfl
    refine ⟨⟨kind, settle kind bound.toValue, .null⟩ :: constraints, ?_⟩
    rw [ofKeywords, List.map_cons, ofEntries, ofPair, kindOf]
    show (ofKeywords rest >>= _) = _
    rw [read]
    rfl

end Constraint

namespace SchemaType

variable {given : Expr} {constraints : List Constraint}

theorem normalize_bare (e : Expr) : normalize e = ofExpr e := by
  show (ofExpr e >>= fun t => t.attach [] >>= pure) = ofExpr e
  cases ofExpr e <;> rfl

/-- Constraints beside an expression are attached to what it denotes. -/
theorem normalize_of_read (read : Constraint.ofExpr given .null = .ok constraints) (e : Expr) :
    normalize e given = (do (← ofExpr e).attach constraints) := by
  unfold normalize
  rw [read]
  show (ofExpr e >>= fun t => t.attach constraints >>= pure) = (ofExpr e >>= fun t => t.attach constraints)
  simp

theorem attachTrailing_of_read (read : Constraint.ofExpr given .null = .ok constraints)
    (maps : given.entries?.isSome = true) (t : SchemaType) : attachTrailing t (some given) = t.attach constraints := by
  obtain ⟨entries, stands⟩ := Option.isSome_iff_exists.mp maps
  cases given with
  | map _ | view _ =>
    show (do t.attach (← Constraint.ofExpr _ .null)) = _
    rw [read]
    rfl
  | _ => cases stands

/-- The members that stand for scalars lead back to them. -/
theorem ofExpr_member (kind : Primitive) : ofExpr (.member kind.member) = .ok (.primitive kind []) := by
  have found : Primitive.ofMember? kind.member = some kind := by cases kind <;> decide +kernel
  unfold ofExpr
  rw [found]

theorem ofExpr_named {kind : Primitive} {name : String}
    (named : Primitive.ofName? (Text.lower (String.ofList (Text.trim name.toList))) = some kind) :
    ofExpr (.str name) = .ok (.primitive kind []) := by
  show ofName name name = _
  rw [ofName, named]

/-- Expressions that denote the same types one by one do so together. -/
theorem ofExprs_eq {es fs : List Expr} (same : List.Forall₂ (fun e f => normalize e = normalize f) es fs) :
    ofExprs es = ofExprs fs := by
  induction same with
  | nil => rfl
  | cons first _ ih =>
    rw [normalize_bare, normalize_bare] at first
    rw [ofExprs, ofExprs, first, ih]

/-- A tag for a scalar is none of the other tags. -/
theorem ofExpr_scalar_tagged {kind : Primitive} {tag : String} (named : Primitive.ofName? (Text.lower tag) = some kind) :
    ofExpr (.tuple [.str tag, given]) = attachTrailing (.primitive kind []) (some given) := by
  unfold ofExpr
  have text : (Expr.str tag).str? = some tag := rfl
  dsimp only
  rw [text]
  dsimp only
  split
  next same => rw [same] at named; cases named
  next same => rw [same] at named; cases named
  next same => rw [same] at named; cases named
  next same => rw [same] at named; cases named
  next => rw [named]; rfl

end SchemaType

namespace Spelled
open SchemaType

variable {given : Expr} {constraints : List Constraint} {keywords : Keywords}

theorem ofExpr_tagged (read : Constraint.ofExpr given .null = .ok constraints) (maps : given.entries?.isSome = true) (t : Spelled) :
    ofExpr (t.tagged given) = (do (← ofExpr t.plain).attach constraints) := by
  have trailing := attachTrailing_of_read read maps
  cases t with
  | array element =>
    show (ofExpr element >>= fun t => attachTrailing (.array t []) (some given)) =
      (ofExpr element >>= fun t => pure (.array t [])) >>= (attach · constraints)
    simp [trailing]
  | map key value =>
    show (do attachTrailing (.map (← ofExpr key) (← ofExpr value) []) (some given)) =
      (do return .map (← ofExpr key) (← ofExpr value) []) >>= (attach · constraints)
    simp [trailing]
  | union variants =>
    cases variants with
    | nil => rfl
    | cons e rest =>
      show (do attachTrailing (.union (← ofExprs (e :: rest)) []) (some given)) =
        (do attachTrailing (.union (← ofExprs (e :: rest)) []) none) >>= (attach · constraints)
      simp only [trailing, bind_assoc]
      rfl
  | scalar kind tag name tagged named =>
    rw [Spelled.tagged, Spelled.plain, ofExpr_scalar_tagged tagged, trailing, ofExpr_named named, Except.ok_bind]

/-- A helper spells the type by its tag, or by its kind. -/
theorem helper?_eq (known : ∀ k ∈ keywords, (ConstraintKind.ofName? k.1).isSome = true) (t : Spelled) :
    ∃ base, t.helper? keywords = some (.constrained base keywords) ∧ ofExpr base = ofExpr t.plain := by
  -- No keyword is taken for a parameter, since parameters have names that are not those of constraints.
  have free (parameter : String) (other : ConstraintKind.ofName? parameter = none) : keywords.lookup parameter = none := by
    rw [List.lookup_eq_none_iff]
    intro k member
    have named := known k member
    rw [bne_iff_ne]
    rintro rfl
    rw [other] at named
    cases named
  cases t with
  | array element =>
    refine ⟨.tuple [.str "array", element], ?_, rfl⟩
    simp [helper?, Helper.spelling?, Helper.parameters, Helper.bind?, free "element" (by decide)]
  | map key value =>
    refine ⟨.tuple [.str "map", key, value], ?_, rfl⟩
    simp [helper?, Helper.spelling?, Helper.parameters, Helper.bind?, free "key" (by decide), free "value" (by decide)]
  | union variants =>
    exact ⟨.tuple [.str "union", .list variants], rfl, rfl⟩
  | scalar kind tag name tagged named =>
    exact ⟨.member kind.member, rfl, (ofExpr_member kind).trans (ofExpr_named named).symm⟩

/-- How the parts of a type are spelled makes no difference. -/
theorem Alike.plain_eq {t u : Spelled} (alike : t.Alike u) : ofExpr t.plain = ofExpr u.plain := by
  cases alike with
  | @array e f element =>
    show (do return SchemaType.array (← ofExpr e) []) = (do return SchemaType.array (← ofExpr f) [])
    rw [← normalize_bare, element, normalize_bare]
  | @map k l e f key value =>
    show (do return SchemaType.map (← ofExpr k) (← ofExpr e) []) = (do return SchemaType.map (← ofExpr l) (← ofExpr f) [])
    rw [← normalize_bare k, ← normalize_bare e, key, value, normalize_bare, normalize_bare]
  | @union es fs variants =>
    cases variants with
    | nil => rfl
    | @cons e f es fs first rest =>
      show (do attachTrailing (.union (← ofExprs (e :: es)) []) none) = (do attachTrailing (.union (← ofExprs (f :: fs)) []) none)
      rw [ofExprs_eq (.cons first rest)]
  | @scalar _ _ _ _ _ _ named _ otherNamed => exact (ofExpr_named named).trans (ofExpr_named otherNamed).symm

end Spelled

/-- A type spelled by a helper, with a tag and plainly, with the same constraints as keywords, at the end and beside it, is read
as the same type, or fails in the same way; so it is whatever the spelling of its parts. -/
theorem spellings_agree {keywords : Keywords} (known : ∀ k ∈ keywords, (ConstraintKind.ofName? k.1).isSome = true)
    {given : Expr} (maps : given.entries? = some (keywords.map fun k => (.str k.1, k.2))) (t : Spelled) :
    (∃ e, t.helper? keywords = some e ∧ SchemaType.normalize e = SchemaType.normalize t.plain given) ∧
    SchemaType.normalize (t.tagged given) = SchemaType.normalize t.plain given ∧
    ∀ u, t.Alike u → SchemaType.normalize t.plain given = SchemaType.normalize u.plain given := by
  obtain ⟨constraints, keyed⟩ := Constraint.ofKeywords_returns known
  have read : Constraint.ofExpr given .null = .ok constraints := (Constraint.ofExpr_of_entries maps).trans keyed
  obtain ⟨base, helped, same⟩ := Spelled.helper?_eq known t
  refine ⟨⟨_, helped, ?_⟩, ?_, fun u alike => ?_⟩
  · rw [SchemaType.normalize_bare, SchemaType.normalize_of_read read, ← same]
    show (SchemaType.ofExpr base >>= fun t => Constraint.ofKeywords keywords >>= fun c => t.attach c) = _
    rw [keyed]
    rfl
  · rw [SchemaType.normalize_bare, SchemaType.normalize_of_read read, Spelled.ofExpr_tagged read (by rw [maps]; rfl)]
  · rw [SchemaType.normalize_of_read read, SchemaType.normalize_of_read read, alike.plain_eq]

namespace Spelled

def nonEmpty : Expr := .map [(.str "min_items", .data (.int 1))]

/-- At least one name. -/
def names : SchemaType := .array (.primitive .string []) [⟨.minItems, .int 1, .null⟩]

/-- A list of names, spelled by a helper, with a tag, in brackets, and in brackets with the type of the host. -/
theorem names_agree :
    (∃ e, Helper.array.spelling? [.str "string"] [("min_items", .data (.int 1))] = some e ∧ SchemaType.normalize e = .ok names) ∧
      SchemaType.normalize (.tuple [.str "array", .str "string", nonEmpty]) = .ok names ∧
      SchemaType.normalize (.list [.str "string"]) nonEmpty = .ok names ∧
      SchemaType.normalize (.list [.hostType .str]) nonEmpty = .ok names := by
  have known : ∀ k ∈ [("min_items", Expr.data (.int 1))], (ConstraintKind.ofName? k.1).isSome = true := by decide
  obtain ⟨⟨e, helped, byHelper⟩, byTag, alike⟩ := spellings_agree known (rfl : nonEmpty.entries? = _) (.array (.str "string"))
  have same : Alike (.array (.str "string")) (.array (.hostType .str)) := .array (by with_unfolding_all rfl)
  have plain : SchemaType.normalize (.list [.str "string"]) nonEmpty = .ok names := by with_unfolding_all rfl
  exact ⟨⟨e, helped, byHelper.trans plain⟩, byTag.trans plain, plain, (alike _ same).symm.trans plain⟩

end Spelled
end RecordSchema
