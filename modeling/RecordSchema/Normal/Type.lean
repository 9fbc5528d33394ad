import RecordSchema.Normal.Constraints
import RecordSchema.Normal.Lookalike

/-! From expressions to types. The spellings of a type are its name, a host type, a list of one
element, a map of one entry, a tuple that starts with a tag, a spelling with constraints by
keywords, a built schema, and a type itself, which is checked and kept. -/

namespace RecordSchema

namespace Primitive

/-- The scalar that a name in lower case stands for. -/
def ofName? : String → Option Primitive
  | "string" | "str" => some .string
  | "integer" | "int" => some .integer
  | "float" | "number" => some .float
  | "boolean" | "bool" => some .boolean
  | "any" => some .any
  | "null" | "none" => some .null
  | _ => none

end Primitive

namespace SchemaType

/-- The type that a name stands for; case and white space around it do not count. -/
def ofName (written name : String) : Normalized SchemaType :=
  match Primitive.ofName? (Text.lower (String.ofList (Text.trim name.toList))) with
  | some kind => .ok (.primitive kind [])
  | none => (NormalizeError.unknownTypeName written).raise

/-- Adds the constraints that end a tagged expression. -/
def attachTrailing (t : SchemaType) : Option Expr → Normalized SchemaType
  | none | some .null => .ok t
  | some e =>
    match e.entries? with
    | none => (NormalizeError.constraintsForm e.toValue).raise
    | some _ => do t.attach (← Constraint.ofExpr e .null)

mutual

/-- The type that an expression denotes. -/
def ofExpr : Expr → Normalized SchemaType
  | .type t => do
    t.verify
    return t
  | .constrained base keywords => do
    let t ← ofExpr base
    t.attach (← Constraint.ofKeywords keywords)
  | .member m =>
    match Primitive.ofMember? m with
    | some kind => .ok (.primitive kind [])
    | none => ofName m.text m.label
  | .str name => ofName name name
  | .null => .ok (.primitive .null [])
  | .hostType t =>
    match t.primitive? with
    | some kind => .ok (.primitive kind [])
    | none => (NormalizeError.unsupported (Expr.hostType t).toValue).raise
  | .list [element] => return .array (← ofExpr element) []
  | .list items => (NormalizeError.arrayShorthand (Expr.list items).toValue).raise
  | .map [(key, value)] => return .map (← ofExpr key) (← ofExpr value) []
  | .map entries => (NormalizeError.mapShorthand (Expr.map entries).toValue).raise
  | .tuple (head :: arguments) =>
    let whole := (Expr.tuple (head :: arguments)).toValue
    match head.str? with
    | none => (NormalizeError.untagged whole).raise
    | some tag =>
      match Text.lower tag with
      | "array" =>
        match arguments with
        | [element] => return .array (← ofExpr element) []
        | [element, trailing] => do
          attachTrailing (.array (← ofExpr element) []) (some trailing)
        | _ => (NormalizeError.arrayForm whole).raise
      | "map" =>
        match arguments with
        | [key, value] => return .map (← ofExpr key) (← ofExpr value) []
        | [key, value, trailing] => do
          attachTrailing (.map (← ofExpr key) (← ofExpr value) []) (some trailing)
        | _ => (NormalizeError.mapForm whole).raise
      | "union" =>
        match arguments with
        | .list variants :: trailing | .tuple variants :: trailing =>
          match trailing with
          | _ :: _ :: _ => (NormalizeError.unionForm whole).raise
          | _ => do
            if variants.isEmpty then NormalizeError.emptyUnion.raise
            attachTrailing (.union (← ofExprs variants) []) trailing.head?
        | _ => (NormalizeError.unionForm whole).raise
      | "ref" =>
        match arguments with
        | [name] =>
          match name.name? with
          | none => (NormalizeError.referenceForm whole).raise
          | some name =>
            if name.label.isEmpty then (NormalizeError.referenceForm whole).raise
            else .ok (.ref name none)
        | _ => (NormalizeError.referenceForm whole).raise
      | lower =>
        match Primitive.ofName? lower, arguments with
        | none, _ => (NormalizeError.unknownTag head.text).raise
        | some _, _ :: _ :: _ => (NormalizeError.scalarForm lower whole).raise
        | some kind, trailing => attachTrailing (.primitive kind []) trailing.head?
  | .tuple [] => (NormalizeError.untagged (.tuple [])).raise
  | .schema s => .ok (.ref s.name (some (.schema s)))
  | .object serial attributes =>
    match Lookalike.target? serial attributes with
    | some (name, target) => .ok (.ref name (some target))
    | none => (NormalizeError.unsupported (Expr.object serial attributes).toValue).raise
  | e => (NormalizeError.unsupported e.toValue).raise

def ofExprs : List Expr → Normalized (List SchemaType)
  | [] => .ok []
  | e :: rest => do return (← ofExpr e) :: (← ofExprs rest)

end

/-- Gives messages to the outermost constraints that have none; a reference has no constraints. -/
def withMessages (t : SchemaType) (messages : Messages) : SchemaType :=
  t.withConstraints (t.constraints.map messages.apply)

/-- The type that an expression denotes, with further constraints and messages. -/
def normalize (e : Expr) (constraints messages : Expr := .null) : Normalized SchemaType := do
  let extra ← Constraint.ofExpr constraints messages
  let t ← (← ofExpr e).attach extra
  if messages.isTrue then return t.withMessages (← Messages.ofExpr messages) else return t

/-- Whether `normalize` gives the very type that it is given: a type without anything added. -/
def isKept (e constraints messages : Expr) : Bool :=
  match e, Constraint.ofExpr constraints messages with
  | .type (.ref _ _), .ok [] => true
  | .type _, .ok [] => !messages.isTrue
  | _, _ => false

end SchemaType
end RecordSchema
