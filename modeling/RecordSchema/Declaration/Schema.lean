import RecordSchema.Declaration.Derived
import RecordSchema.Options.Base
import RecordSchema.Options.Schema
import RecordSchema.Validation.Check

/-! Building schemas. Declarations are read in order, then references are checked, then defaults;
whatever is found to be wrong ends the building. -/

namespace RecordSchema

namespace SchemaType

mutual

/-- The references in a type, in order. -/
def references : SchemaType → List (Name × Option Target)
  | .primitive _ _ => []
  | .array element _ => references element
  | .map key value _ => references key ++ references value
  | .union variants _ => referencesOf variants
  | .ref name target => [(name, target)]

def referencesOf : List SchemaType → List (Name × Option Target)
  | [] => []
  | t :: rest => references t ++ referencesOf rest

end

end SchemaType

namespace Schema

/-- References in the fields of a schema, in order. -/
def references (s : Schema) : List (Name × Option Target) :=
  s.fields.flatMap fun f => f.type.references

/-- A reference that leads nowhere is left to the catalog, if there is one. -/
def requireReferences (catalogs : Catalogs) (s : Schema) : Built Unit :=
  let isLost (reference : Name × Option Target) : Bool :=
    (Scope.lookup? catalogs ⟨some s, none⟩ reference.1 reference.2).isNone && s.catalog.isNone
  match s.references.find? isLost with
  | some (name, _) => (DeclarationError.unresolvedReference s.name name.shown).raise
  | none => .ok ()

/-- Checks the defaults of fields by their types, in order. -/
def requireDefaults (catalogs : Catalogs) (s : Schema) : List Field → Built Unit
  | [] => .ok ()
  | f :: rest => do
    if let some default := f.default then
      let c ← Failing.ofFault (Validation.checkSingle catalogs f.type default (some s))
      if !c.isClean then (DeclarationError.invalidDefault f.name.shown default c.violations).raise
    s.requireDefaults catalogs rest

/-- The layout of the container for a schema. -/
def containerClass (name : String) (s : Schema) : Except Fault ContainerClass :=
  ContainerClass.ofFields name (s.fields.map fun f => (f.name, f.description))

/-- Builds a schema from declarations of fields. -/
def build (catalogs : Catalogs) (modules : Modules) (serial : Nat) (definitions : Expr)
    (options : SchemaOptions) : Built Schema := do
  let definitions ← match definitions.elements? with
    | some definitions => pure definitions
    | none => .error (.fault .wrongType)
  let fields ← Declaration.fields options.name [] 1 definitions
  let hooks ←
    Declaration.crossFieldHooks modules options.name options.hookNamespace 1 options.crossFieldHooks
  let derived ←
    Declaration.derivedFields modules options.name options.hookNamespace
      (fields.map (·.name.label)) 1 options.derivedFields
  let s : Schema :=
    { serial, name := options.name, fields := fields ++ derived.map Prod.fst,
      crossFieldHooks := hooks, derivedHooks := derived.map Prod.snd, title := options.title,
      description := options.description, strict := options.strict, container := none,
      catalog := options.catalog }
  s.requireReferences catalogs
  s.requireDefaults catalogs s.regularFields
  if options.materialize then
    return { s with container := some (← Failing.ofFault (s.containerClass s.name)) }
  return s

/-- Builds a schema with options given on top of a base. Only options of a schema can be one. -/
def declareWith (catalogs : Catalogs) (modules : Modules) (serial : Nat) (definitions : Expr)
    (base : Options.Base SchemaOptions) (given : Options.Given) : Built Schema :=
  match Options.Taker.schema.takeOwn given base {} SchemaOptions.override with
  | .error (.unfit causes) => (DeclarationError.invalidOptions causes).raise
  | .error fault => .error (.fault fault)
  | .ok options => build catalogs modules serial definitions options

end Schema
end RecordSchema
