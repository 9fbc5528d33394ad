import RecordSchema.Declaration.Error
import RecordSchema.Host.Attribute
import RecordSchema.Value.Access

/-! References to hooks: a hook itself, a bare name in a namespace, or a path into a module. -/

namespace RecordSchema

/-- Modules that hooks can be taken from, each with its attributes, and the hooks that they can
answer with when they are asked for attributes that they do not have. -/
structure Modules where
  listed : List (String × List (String × Expr)) := []
  hooks : List Hook := []

namespace Modules

/-- The attributes of a module. -/
def contents? (modules : Modules) (name : String) : Option (List (String × Expr)) :=
  modules.listed.lookup name

/-- What an expression stands for: among data, a hook stands as a thing with its number. -/
def restore (modules : Modules) : Expr → Expr
  | .data (.foreign thing) =>
    match modules.hooks.find? fun h => h.toValue.equal (.foreign thing) with
    | some hook => .hook hook
    | none => .data (.foreign thing)
  | e => e

end Modules

namespace HookReference

/-- The hook that an expression is, if it can be called. -/
def callable? : Expr → Option Hook
  | .hook hook => some hook
  | .hostType t => some (Host.hookOfType t)
  | _ => none

/-- What a namespace holds under a name: a mapping in its entries, and everything else in its
attributes. Null counts as nothing, and holds nothing. -/
def inNamespace? (name : String) (namespaceOf : Expr) : Option Expr :=
  let found := match namespaceOf, namespaceOf.entries? with
    | .null, _ => none
    | _, some entries => fieldOf? entries name
    | e, none => Host.attribute? e name
  match found with
  | some .null => none
  | found => found

/-- Splits at the first colon, or else at the last point. -/
def splitPath (path : List Char) : List Char × List Char :=
  if path.contains ':' then
    let moduleName := path.takeWhile (· ≠ ':')
    (moduleName, path.drop (moduleName.length + 1))
  else
    let backwards := path.reverse.takeWhile (· ≠ '.')
    (path.take (path.length - backwards.length - 1), backwards.reverse)

/-- The name before the last point. -/
def parent (moduleName : List Char) : List Char :=
  moduleName.take (moduleName.length - (moduleName.reverse.takeWhile (· ≠ '.')).length - 1)

/-- What a module answers when it is asked for an attribute that it does not have: if it has a
function for that, what this one returns, or the exception that it raises. -/
def answer? (modules : Modules) (contents : List (String × Expr)) (name : String) :
    Except Raised (Option Expr) :=
  match contents.lookup "__getattr__" with
  | none => .ok none
  | some e =>
    match callable? e with
    | none => .error (.unable e.className "is not callable")
    | some hook =>
      match (hook.run (.str name)).2 with
      | .other answer => .ok (some (modules.restore (.ofValue answer)))
      | .success value => .ok (some (.data (.record (.options "Success" []) [("value", value)])))
      | .failure reason =>
        .ok (some (.data (.record (.options "Failure" [])
          [("reason", reason), ("fault", .bool false)])))
      | .raised "AttributeError" _ => .ok none
      | .raised className text => .error ⟨className, text⟩

/-- The attribute of a module. -/
def attribute? (modules : Modules) (contents : List (String × Expr)) (name : String) :
    Except Raised (Option Expr) :=
  match Host.moduleAttribute? contents name with
  | some e => .ok (some e)
  | none => answer? modules contents name

/-- How the import of a module within another fails. One that says where others are to be found must
name the places in something that can be gone through. -/
def innerReport (modules : Modules) (contents : List (String × Expr)) (name outer : List Char) :
    Except Raised String := do
  let missing := "No module named " ++ Text.quote (String.ofList name)
  match ← attribute? modules contents "__path__" with
  | none => return missing ++ "; " ++ Text.quote (String.ofList outer) ++ " is not a package"
  | some .null => return missing
  | some places =>
    let _ ← places.toValue.iterate
    return missing

/-- Why a module cannot be imported. The outermost part that is missing is named. -/
def importReport (modules : Modules) (moduleName : List Char) : Except Raised String :=
  go moduleName.length moduleName
where
  go : Nat → List Char → Except Raised String
    | 0, name => missing name
    | fuel + 1, name =>
      let outer := parent name
      if outer.isEmpty then missing name
      else match modules.contents? (String.ofList outer) with
        | some contents => innerReport modules contents name outer
        | none => go fuel outer
  missing (name : List Char) : Except Raised String :=
    .ok ("No module named " ++ Text.quote (String.ofList name))

/-- Follows a path of attributes from what was found last, which is an attribute of the origin. -/
def follow? (modules : Modules) (origin : Expr) : List String → Expr → Option Expr
  | [], e => some e
  | name :: rest, e => do
    follow? modules e rest (modules.restore (← Host.attributeFrom? origin e name))

/-- Ends the resolution with an exception. A failed import is reported. -/
def ofRaised (path moduleName : String) (e : Raised) : Built Expr :=
  if ["ImportError", "ModuleNotFoundError"].contains e.className then
    match e.text with
    | .ok text => (DeclarationError.hookModule path moduleName text).raise
    | .error fault => .error (.fault fault)
  else .error (.fault e.fault)

/-- The target of a path into a module. -/
def import? (modules : Modules) (path : String) : Built Expr := do
  let (moduleName, attributes) := splitPath path.toList
  if moduleName.isEmpty || attributes.isEmpty then (DeclarationError.hookPath path).raise
  if moduleName.head? = some '.' then .error (.fault .wrongType)
  let name := String.ofList moduleName
  let member := String.ofList attributes
  match modules.contents? name with
  | none =>
    match importReport modules moduleName with
    | .ok report => (DeclarationError.hookModule path name report).raise
    | .error e => ofRaised path name e
  | some contents =>
    let names := member.splitOn "."
    match attribute? modules contents (names.headD "") with
    | .error e => .error (.fault e.fault)
    | .ok found =>
      match found.bind (follow? modules .null names.tail) with
      | none => (DeclarationError.hookMember path name member).raise
      | some target => return target

/-- The hook that a reference means. -/
def resolve (modules : Modules) (reference namespaceOf : Expr) : Built Hook := do
  if let some hook := callable? reference then return hook
  match reference.name? with
  | none => (DeclarationError.hookForm reference.toValue).raise
  | some name =>
    let label := name.label
    if label.isEmpty then (DeclarationError.hookForm reference.toValue).raise
    let target ← match inNamespace? label namespaceOf with
      | some target => pure target
      | none =>
        if !label.contains ':' && !label.contains '.' then
          (DeclarationError.hookUndefined name.shown).raise
        else import? modules label
    match callable? target with
    | some hook => return hook
    | none => (DeclarationError.hookNotCallable name.shown target.className).raise

end HookReference
end RecordSchema
