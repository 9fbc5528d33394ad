import RecordSchema.Declaration.Field
import RecordSchema.Declaration.HookReference

/-! Declarations of derived fields: a name, a type, a hook and options. -/

namespace RecordSchema

/-- A derived field before it is built. Examples, further keywords and constraints are checked
when it is. -/
structure DerivedDeclaration where
  name : Name
  type : Expr
  hook : Expr
  description : Value
  examples : Expr
  extra : Expr
  constraints : Expr

namespace DerivedDeclaration

/-- Options as a map: a mapping, or pairs one after another. -/
def optionEntries (e : Expr) : Built (List (Expr × Expr)) :=
  match e.entries? with
  | some entries => .ok entries
  | none =>
    match e.elements? with
    | none => .error (.fault .wrongType)
    | some items => (pairs items).map entriesOfPairs
where
  pairs : List Expr → Built (List (Expr × Expr))
    | [] => .ok []
    | item :: rest =>
      match item.elements? with
      | some [key, value] => do
        if !key.toValue.isHashable then .error (.fault .wrongType)
        return (key, value) :: (← pairs rest)
      | some _ => .error (.fault .badValue)
      | none => .error (.fault .wrongType)

/-- Options that a computed field cannot have. -/
def forbiddenOptions : List String := ["required", "optional", "default"]

/-- Reads the tuple form of a declaration; positions count from one. -/
def ofParts (position : Nat) (name type hook : Expr) (options : Option Expr) :
    Built DerivedDeclaration := do
  let given ← match options with
    | none => pure []
    | some e => optionEntries e
  match name.name? with
  | none => (DeclarationError.derivedName position name.toValue).raise
  | some name =>
    if name.label.isEmpty then (DeclarationError.derivedName position name.toValue).raise
    let options ← Declaration.Options.ofEntries name.shown given
    if let some option := forbiddenOptions.find? fun o => (options.option? o).isSome then
      (DeclarationError.derivedOption name.shown option).raise
    let examples ← options.examples name.shown
    let extra ← options.extra name.shown
    return {
      name, type, hook, description := options.description,
      examples := .tuple (Expr.ofValues examples), extra := .map (Expr.ofEntries extra),
      constraints := .map options.constraints }

def ofExpr (position : Nat) : Expr → Built DerivedDeclaration
  | .derivedField name type hook description examples extra constraints =>
    .ok { name, type, hook, description := description.toValue, examples, extra, constraints }
  | e =>
    match e.sequence? with
    | some [name, type, hook] => ofParts position name type hook none
    | some [name, type, hook, options] => ofParts position name type hook (some options)
    | _ => (DeclarationError.derivedForm position e.toValue).raise

/-- The field and its hook. Constraints that are empty or false are none. -/
def build (d : DerivedDeclaration) (modules : Modules) (schema : String) (namespaceOf : Expr)
    (position : Nat) : Built (Field × PlacedHook) := do
  let type ← Declaration.type (.derivedField d.name.shown) d.type d.constraints .null
  let examples ← match d.examples.toValue.elements? with
    | some items => pure items
    | none => .error (.fault .wrongType)
  let extra ← (optionEntries d.extra).map Expr.toEntries
  let hook ← HookReference.resolve modules d.hook namespaceOf
  let field : Field :=
    { name := d.name, type, required := false, default := none, description := d.description,
      examples, derived := true, extra }
  return (field, hook.placed schema .derived position (some d.name))

end DerivedDeclaration

namespace Declaration

/-- Derived fields in order; `taken` are the names before them. -/
def derivedFields (modules : Modules) (schema : String) (namespaceOf : Expr)
    (taken : List String) (position : Nat) : List Expr → Built (List (Field × PlacedHook))
  | [] => .ok []
  | e :: rest => do
    let d ← DerivedDeclaration.ofExpr position e
    if taken.contains d.name.label then
      (DeclarationError.derivedCollision schema d.name.shown).raise
    let built ← d.build modules schema namespaceOf position
    let others ←
      derivedFields modules schema namespaceOf (d.name.label :: taken) (position + 1) rest
    return built :: others

/-- Cross-field hooks in order. -/
def crossFieldHooks (modules : Modules) (schema : String) (namespaceOf : Expr) (position : Nat) :
    List Expr → Built (List PlacedHook)
  | [] => .ok []
  | e :: rest => do
    let hook ← HookReference.resolve modules e namespaceOf
    let placed := hook.placed schema .crossField position none
    return placed :: (← crossFieldHooks modules schema namespaceOf (position + 1) rest)

end Declaration
end RecordSchema
