import RecordSchema.Fault
import RecordSchema.Text.Identifier
import RecordSchema.Value.Equality
import RecordSchema.Value.Extent
import RecordSchema.Value.Plain

/-! Containers: records with one attribute for each field of a schema. Attribute names are
identifiers and distinct; the name of the field is kept beside its label. -/

namespace RecordSchema

/-- An attribute of a container, its label and the field that it holds. -/
structure Slot where
  label : String
  field : Name
  description : Value

/-- The layout of a container. -/
structure ContainerClass where
  name : String
  slots : List Slot

/-- A container with the fields that were put into it, in the order of its attributes. -/
structure Container where
  layout : ContainerClass
  packed : List (Slot × Value)

namespace ContainerClass

/-- Words of the host language that cannot name an attribute. -/
def reservedWords : List String :=
  ["False", "None", "True", "and", "as", "assert", "async", "await", "break", "class", "continue",
    "def", "del", "elif", "else", "except", "finally", "for", "from", "global", "if", "import",
    "in", "is", "lambda", "nonlocal", "not", "or", "pass", "raise", "return", "try", "while",
    "with", "yield"]

/-- Attributes that every container has by itself. -/
def ownAttributes : List String :=
  ["construct", "copy", "dict", "from_orm", "json", "model_computed_fields", "model_config",
    "model_construct", "model_copy", "model_dump", "model_dump_json", "model_extra",
    "model_fields", "model_fields_set", "model_json_schema", "model_parametrized_name",
    "model_post_init", "model_rebuild", "model_validate", "model_validate_json",
    "model_validate_strings", "mro", "parse_file", "parse_obj", "parse_raw", "register", "schema",
    "schema_json", "update_forward_refs", "validate"]

def isAttributeName (name : String) : Bool :=
  Text.isIdentifier name && !reservedWords.contains name && !ownAttributes.contains name &&
    !name.startsWith "_"

/-- The name itself where it can name an attribute, otherwise a numbered one. -/
def labelFor (name : String) (index : Nat) : String :=
  if isAttributeName name then name else "field_" ++ toString index

/-- Appends low lines until the name is not taken. One more try than there are taken names is
enough, as the tries are distinct. -/
def freshName (taken : List String) (name : String) : String :=
  go (taken.length + 1) name
where
  go : Nat → String → String
    | 0, name => name
    | fuel + 1, name => if taken.contains name then go fuel (name ++ "_") else name

/-- Names the attributes of fields, given in order with their descriptions. -/
def assign (index : Nat) (taken : List String) : List (Name × Value) → List Slot
  | [] => []
  | (name, description) :: rest =>
    let label := freshName taken (labelFor name.label index)
    ⟨label, name, description⟩ :: assign (index + 1) (label :: taken) rest

/-- The label that stands for the settings of a container itself. -/
def settingsLabel : String := "Config"

/-- The layout for fields. No attribute can stand where a container has its settings, and the name
of a container holds no null character. -/
def ofFields (name : String) (fields : List (Name × Value)) : Except Fault ContainerClass :=
  let slots := assign 0 [] fields
  if slots.any (·.label = settingsLabel) then .error .reservedName
  else if name.toList.contains '\x00' then .error .badValue
  else .ok ⟨name, slots⟩

/-- What keeps an entry out of a container: a key that is not text, or names no field. -/
def cause? (layout : ContainerClass) (key : Value) : Option Cause :=
  match key.str? with
  | some name =>
    if layout.slots.any (·.field.label = name) then none else some ⟨.unknownEntry, [.name name]⟩
  | none => some ⟨.keyType, [key.refusedStep]⟩

/-- Puts data into a container. -/
def pack (layout : ContainerClass) (data : Entries) : Except (List Cause) Container :=
  match data.filterMap fun (key, _) => layout.cause? key with
  | [] => .ok ⟨layout, layout.slots.filterMap fun slot =>
      (data.field? slot.field.label).map fun value => (slot, value)⟩
  | causes => .error causes

/-- Puts a value into a container; only a mapping can be. -/
def packValue (layout : ContainerClass) (data : Value) : Except (List Cause) Container :=
  match data.unfolded.entries? with
  | some entries => layout.pack entries
  | none => .error [⟨.notRecord, []⟩]

end ContainerClass

namespace Container

/-- All attributes with their values; those that were not set hold null. -/
def attributes (c : Container) : List (Slot × Value) :=
  c.layout.slots.map fun slot =>
    (slot, ((c.packed.find? (·.1.label = slot.label)).map Prod.snd).getD .null)

/-- The data that was put in, as plain data in the order of the attributes. -/
def unpack (c : Container) : Except Fault Entries :=
  Value.plainEntries (c.packed.map fun (slot, value) => (slot.field.toValue, value))

end Container
end RecordSchema
