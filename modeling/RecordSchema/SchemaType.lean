import RecordSchema.Constraint
import RecordSchema.Container
import RecordSchema.Hook

/-! Types and schemas. A type describes a value; a schema describes a map by its fields, and is
itself the target of references in types. -/

namespace RecordSchema

/-- Kinds of scalars; `any` admits every value. -/
inductive Primitive where
  | string | integer | float | boolean | any | null
  deriving DecidableEq, Repr

namespace Primitive

def all : List Primitive := [.string, .integer, .float, .boolean, .any, .null]

def label : Primitive → String
  | .string => "string"
  | .integer => "integer"
  | .float => "float"
  | .boolean => "boolean"
  | .any => "any"
  | .null => "null"

/-- The kind as a member of its enumeration. -/
def member (kind : Primitive) : Member := ⟨"PrimitiveKind", kind.label.toUpper, kind.label⟩

def ofMember? (m : Member) : Option Primitive := all.find? (·.member = m)

/-- Whether a value has the shape of the scalar. Booleans are not numbers, and integers serve as
floating-point numbers. -/
def admits : Primitive → Value → Bool
  | .any, _ => true
  | .null, .null => true
  | .string, .str _ | .string, .member _ => true
  | .boolean, .bool _ => true
  | .integer, .int _ => true
  | .float, .int _ | .float, .float _ | .float, .nan _ => true
  | _, _ => false

end Primitive

/-- A catalog is known by its number; what it holds can change after a schema refers to it. -/
abbrev CatalogId := Nat

/-- What a thing lacks that looks like a schema, as the faults that come of it where the part is
needed. -/
structure Gaps where
  strict : Option Fault := none
  hooks : Option Fault := none

mutual

/-- The type of a value. A reference names a schema and can carry it; a union is tried in order. -/
inductive SchemaType where
  | primitive (kind : Primitive) (constraints : List Constraint)
  | array (element : SchemaType) (constraints : List Constraint)
  | map (key value : SchemaType) (constraints : List Constraint)
  | union (variants : List SchemaType) (constraints : List Constraint)
  | ref (name : Name) (target : Option Target)

/-- What a reference carries: a schema, or a thing that looks like one. Such a thing is read as a
schema for data and for documents, as far as it has what is needed there. Things are told apart by
serial numbers, too. -/
inductive Target where
  | schema (s : Schema)
  | lookalike (serial : Nat) (thing : Value) (forData forDocument : Except Fault Schema)
      (gaps : Gaps)

/-- A declared field. A derived field is computed and never supplied. -/
structure Field where
  name : Name
  type : SchemaType
  required : Bool
  default : Option Value
  description : Value
  examples : List Value
  derived : Bool
  extra : Entries

/-- A built schema. Schemas are told apart by their serial numbers, not by what they declare. -/
structure Schema where
  serial : Nat
  name : String
  fields : List Field
  crossFieldHooks : List PlacedHook
  derivedHooks : List PlacedHook
  title : Option String
  description : Option String
  strict : Bool
  container : Option ContainerClass
  catalog : Option CatalogId

end

namespace SchemaType

def constraints : SchemaType → List Constraint
  | .primitive _ cs | .array _ cs | .map _ _ cs | .union _ cs => cs
  | .ref _ _ => []

/-- The type with other constraints; a reference has none. -/
def withConstraints : SchemaType → List Constraint → SchemaType
  | .primitive kind _, cs => .primitive kind cs
  | .array element _, cs => .array element cs
  | .map key value _, cs => .map key value cs
  | .union variants _, cs => .union variants cs
  | .ref name target, _ => .ref name target

mutual

/-- The type in short, without constraints. -/
def describe : SchemaType → String
  | .primitive kind _ => kind.label
  | .array element _ => "array[" ++ describe element ++ "]"
  | .map key value _ => "map[" ++ describe key ++ ", " ++ describe value ++ "]"
  | .union variants _ => bracketed "union[" "]" (describeAll variants)
  | .ref name _ => "ref[" ++ name.shown ++ "]"

def describeAll : List SchemaType → List String
  | [] => []
  | t :: rest => describe t :: describeAll rest

end

end SchemaType

namespace Schema

def regularFields (s : Schema) : List Field := s.fields.filter (!·.derived)

def derivedFields (s : Schema) : List Field := s.fields.filter (·.derived)

def fieldNames (s : Schema) : List String := s.fields.map (·.name.label)

def requiredFields (s : Schema) : List String :=
  (s.fields.filter fun f => f.required && !f.derived).map (·.name.label)

def field? (s : Schema) (name : String) : Option Field := s.fields.find? (·.name.label = name)

/-- The text of a schema with fields of these names. -/
def textOf (name : String) (fields : List Value) (strict : Bool) : String :=
  bracketed "FieldRegistry(" ")"
    ["name=" ++ Text.quote name, "fields=" ++ (Value.list fields).literal,
     "strict=" ++ boolText strict]

/-- The schema in short. -/
def literal (s : Schema) : String :=
  textOf s.name (s.fields.map fun f => f.name.toValue) s.strict

end Schema

/-! Declarations among data. -/

def ConstraintKind.ofMember? (m : Member) : Option ConstraintKind := all.find? (·.member = m)

def Constraint.toValue (c : Constraint) : Value :=
  .record .constraint [("kind", .member c.kind.member), ("value", c.bound), ("message", c.message)]

/-- What a field without a default has in its place. -/
def Value.noDefault : Value := .foreign ⟨"_Missing", "", "MISSING", 0, none⟩

def HookStage.toValue (stage : HookStage) : Value :=
  .member ⟨"HookKind", stage.label.toUpper, stage.label⟩

def PlacedHook.toValue (placed : PlacedHook) : Value :=
  .record .placedHook
    [("identity", .str placed.identity), ("kind", placed.kind.toValue),
     ("func", placed.hook.toValue), ("field_name", (placed.fieldName.map Name.toValue).getD .null),
     ("anonymous", .bool placed.anonymous)]

def ContainerClass.toValue (layout : ContainerClass) : Value :=
  .foreign ⟨"ModelMetaclass", layout.name, "<class " ++ Text.quote layout.name ++ ">", 0, none⟩

/-- A catalog among data, where it does not matter what it holds. -/
def CatalogId.toValue (id : CatalogId) : Value :=
  .foreign ⟨"SchemaCatalog", "", "<SchemaCatalog>", id, none⟩

mutual

def SchemaType.toValue : SchemaType → Value
  | .primitive kind cs =>
    .record .primitive [("kind", .member kind.member), ("constraints", ofConstraints cs)]
  | .array element cs =>
    .record .array [("element", element.toValue), ("constraints", ofConstraints cs)]
  | .map key value cs =>
    .record .map
      [("key", key.toValue), ("value", value.toValue), ("constraints", ofConstraints cs)]
  | .union variants cs =>
    .record .union
      [("variants", .tuple (typesToValues variants)), ("constraints", ofConstraints cs)]
  | .ref name none => .record .reference [("target_id", name.toValue), ("target", .null)]
  | .ref name (some target) =>
    .record .reference [("target_id", name.toValue), ("target", target.toValue)]
where
  ofConstraints (cs : List Constraint) : Value := .tuple (cs.map Constraint.toValue)

def typesToValues : List SchemaType → List Value
  | [] => []
  | t :: rest => t.toValue :: typesToValues rest

def Target.toValue : Target → Value
  | .schema s => s.toValue
  | .lookalike _ thing _ _ _ => thing

/-- A field with its parts. -/
def Field.toValue : Field → Value
  | ⟨name, type, required, default, description, examples, derived, extra⟩ =>
    .record .field
      [("name", name.toValue), ("type", type.toValue), ("required", .bool required),
       ("default", default.getD .noDefault), ("description", description),
       ("examples", .tuple examples), ("derived", .bool derived), ("extra", .map extra)]

def fieldsToValues : List Field → List Value
  | [] => []
  | f :: rest => f.toValue :: fieldsToValues rest

/-- A schema with its parts. -/
def Schema.toValue : Schema → Value
  | ⟨serial, name, fields, crossFieldHooks, derivedHooks, title, description, strict, container,
      catalog⟩ =>
    let names := fields.map fun f => f.name.toValue
    .record (.schema serial (Schema.textOf name names strict))
      [("name", .str name), ("fields", .tuple (fieldsToValues fields)),
       ("cross_field_hooks", .tuple (crossFieldHooks.map PlacedHook.toValue)),
       ("derived_hooks", .tuple (derivedHooks.map PlacedHook.toValue)),
       ("title", (title.map Value.str).getD .null),
       ("description", (description.map Value.str).getD .null), ("strict", .bool strict),
       ("container", (container.map ContainerClass.toValue).getD .null),
       ("catalog", (catalog.map CatalogId.toValue).getD .null)]

end

def Target.serial : Target → Nat
  | .schema s => s.serial
  | .lookalike serial _ _ _ _ => serial

end RecordSchema
