import RecordSchema.Normal.Error

/-! Why declarations do not make a schema, and how that is reported. -/

namespace RecordSchema

/-- What a type was declared for. -/
inductive Declared where
  | field (name : String)
  | derivedField (name : String)
  deriving DecidableEq, Repr

inductive DeclarationError where
  | invalidOptions (causes : List Cause)
  | type (declared : Declared) (e : NormalizeError)
  | definitionForm (position : Nat) (e : Value)
  | definitionName (position : Nat) (e : Value)
  | optionsForm (field className : String)
  | unknownOption (field option : String)
  | duplicateField (schema field : String)
  | requiredAndOptional (field : String)
  | requiredWithDefault (field : String)
  | examplesForm (field : String)
  | extraForm (field : String)
  | derivedForm (position : Nat) (e : Value)
  | derivedName (position : Nat) (e : Value)
  | derivedOption (field option : String)
  | derivedCollision (schema field : String)
  | hookForm (e : Value)
  | hookUndefined (name : String)
  | hookNotCallable (name className : String)
  | hookPath (path : String)
  | hookModule (path moduleName report : String)
  | hookMember (path moduleName member : String)
  | unresolvedReference (schema target : String)
  | invalidDefault (field : String) (default : Value) (violations : List Violation)

namespace DeclarationError

def message : DeclarationError → String
  | .invalidOptions _ => "Invalid build options"
  | .type (.field name) e => "Field '" ++ name ++ "': " ++ e.message
  | .type (.derivedField name) e => "Derived field '" ++ name ++ "': " ++ e.message
  | .definitionForm position e =>
    "Field definition #" ++ toString position ++
      " must be (name, type) or (name, type, options), got " ++ e.literal ++ "."
  | .definitionName position e =>
    "Field definition #" ++ toString position ++ ": name must be a non-empty string, got " ++
      e.literal ++ "."
  | .optionsForm field className =>
    "Field '" ++ field ++ "': options must be a mapping, got " ++ className ++ "."
  | .unknownOption field option => "Field '" ++ field ++ "': unknown option '" ++ option ++ "'."
  | .duplicateField schema field =>
    "Schema '" ++ schema ++ "': duplicate field name '" ++ field ++ "'."
  | .requiredAndOptional field =>
    "Field '" ++ field ++ "': cannot be both required and optional."
  | .requiredWithDefault field =>
    "Field '" ++ field ++ "': a required field cannot declare a default."
  | .examplesForm field => "Field '" ++ field ++ "': 'examples' must be a list."
  | .extraForm field => "Field '" ++ field ++ "': 'extra' must be a mapping."
  | .derivedForm position e =>
    "Derived field #" ++ toString position ++
      " must be (name, type, hook) or (name, type, hook, options), got " ++ e.literal ++ "."
  | .derivedName position e =>
    "Derived field #" ++ toString position ++ ": name must be a non-empty string, got " ++
      e.literal ++ "."
  | .derivedOption field option =>
    "Derived field '" ++ field ++ "': option '" ++ option ++ "' is not allowed."
  | .derivedCollision schema field =>
    "Schema '" ++ schema ++ "': derived field '" ++ field ++ "' collides with another field."
  | .hookForm e => "Hook must be a callable or a name, got " ++ e.literal ++ "."
  | .hookUndefined name => "Hook '" ++ name ++ "' is not defined in the hook namespace."
  | .hookNotCallable name className =>
    "Hook '" ++ name ++ "' resolved to a non-callable " ++ className ++ "."
  | .hookPath path =>
    "Hook reference '" ++ path ++ "' is not an importable 'module:function' path."
  | .hookModule path moduleName report =>
    "Hook reference '" ++ path ++ "': cannot import module '" ++ moduleName ++ "': " ++ report
  | .hookMember path moduleName member =>
    "Hook reference '" ++ path ++ "': '" ++ moduleName ++ "' has no attribute '" ++ member ++ "'."
  | .unresolvedReference schema target =>
    "Schema '" ++ schema ++ "' references '" ++ target ++
      "', which is neither the schema itself, an embedded registry, " ++
      "nor resolvable without a catalog."
  | .invalidDefault field default violations =>
    "Field '" ++ field ++ "': default " ++ default.literal ++ " is invalid: " ++
      "; ".intercalate (violations.map Violation.format)

/-- Whether the error is about a type expression. -/
def isNormalization : DeclarationError → Bool
  | .type .. => true
  | _ => false

end DeclarationError

/-- What building gives. -/
abbrev Built (α : Type) := Except (Failing DeclarationError) α

def DeclarationError.raise {α : Type} (e : DeclarationError) : Built α := .error (.reason e)

end RecordSchema
