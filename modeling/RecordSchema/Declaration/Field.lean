import RecordSchema.Declaration.Error
import RecordSchema.Normal.Type

/-! Declarations of fields: a name, a type and options. Options are either about the field or
constraints on its type. -/

namespace RecordSchema

namespace Declaration

/-- Options about the field. -/
def fieldOptions : List String :=
  ["required", "optional", "default", "description", "example", "examples", "extra", "messages"]

/-- Options by what they are about, each part in the order in which they are given. -/
structure Options where
  about : List (Expr × Expr) := []
  constraints : List (Expr × Expr) := []

namespace Options

/-- Sorts options by what they are about. -/
def ofEntries (field : String) : List (Expr × Expr) → Built Options
  | [] => .ok {}
  | (key, e) :: rest => do
    let isAbout := key.str?.any fieldOptions.contains
    let isConstraint := (key.str?.bind ConstraintKind.ofName?).isSome
    if !isAbout && !isConstraint then (DeclarationError.unknownOption field key.text).raise
    let options ← ofEntries field rest
    if isAbout then return { options with about := (key, e) :: options.about }
    else return { options with constraints := (key, e) :: options.constraints }

def option? (options : Options) (name : String) : Option Expr := fieldOf? options.about name

def isOn (options : Options) (name : String) : Bool := (options.option? name).any Expr.isTrue

def description (options : Options) : Value :=
  ((options.option? "description").map Expr.toValue).getD .null

/-- A single example, followed by those of a list. -/
def examples (options : Options) (field : String) : Built (List Value) := do
  let single := (options.option? "example").toList.map Expr.toValue
  match options.option? "examples" with
  | none => return single
  | some e =>
    match e.toValue.sequence? with
    | none => (DeclarationError.examplesForm field).raise
    | some items => return single ++ items

/-- Further keywords for documents. -/
def extra (options : Options) (field : String) : Built Entries :=
  match options.option? "extra" with
  | none => .ok []
  | some e =>
    if !e.isTrue then .ok []
    else match e.toValue.entries? with
      | none => (DeclarationError.extraForm field).raise
      | some entries => .ok entries

end Options

/-- Reads a type that was declared for something. -/
def type (declared : Declared) (e constraints messages : Expr) : Built SchemaType :=
  (SchemaType.normalize e constraints messages).mapError
    (Failing.map (DeclarationError.type declared))

/-- The parts of a field definition; positions count from one. -/
def parts (position : Nat) (definition : Expr) : Built (Name × Expr × List (Expr × Expr)) :=
  let form := (DeclarationError.definitionForm position definition.toValue).raise
  let named (e : Expr) : Built Name :=
    match e.name? with
    | none => (DeclarationError.definitionName position e.toValue).raise
    | some name =>
      if name.label.isEmpty then (DeclarationError.definitionName position e.toValue).raise
      else .ok name
  match definition.sequence? with
  | some [name, type] => do return (← named name, type, [])
  | some [name, type, options] => do
    let name ← named name
    match options, options.entries? with
    | .null, _ => return (name, type, [])
    | _, some entries => return (name, type, entries)
    | _, none => (DeclarationError.optionsForm name.shown options.className).raise
  | _ => form

/-- A field is required unless it says otherwise or has a default. -/
def field (name : Name) (type : Expr) (given : List (Expr × Expr)) : Built Field := do
  let shown := name.shown
  let options ← Options.ofEntries shown given
  let messages := (options.option? "messages").getD .null
  let type ← Declaration.type (.field shown) type (.map options.constraints) messages
  let default := options.option? "default"
  if options.isOn "optional" && options.isOn "required" then
    (DeclarationError.requiredAndOptional shown).raise
  let required := match options.option? "required" with
    | some e => e.isTrue
    | none => !options.isOn "optional" && default.isNone
  if required && default.isSome then (DeclarationError.requiredWithDefault shown).raise
  let examples ← options.examples shown
  let extra ← options.extra shown
  return {
    name, type, required, default := default.map Expr.toValue,
    description := options.description, examples, derived := false, extra }

/-- Fields in order; `taken` are the names before them. -/
def fields (schema : String) (taken : List String) (position : Nat) :
    List Expr → Built (List Field)
  | [] => .ok []
  | definition :: rest => do
    let (name, type, options) ← parts position definition
    if taken.contains name.label then (DeclarationError.duplicateField schema name.shown).raise
    let f ← field name type options
    return f :: (← fields schema (name.label :: taken) (position + 1) rest)

end Declaration
end RecordSchema
