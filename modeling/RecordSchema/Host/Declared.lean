import RecordSchema.Host.Class

/-! The classes of declarations: types, constraints, schemas, options and what else requests can
name. -/

namespace RecordSchema.Host

def typesModule : String := "schema_engine.types.canonical"

/-- What is of no further interest than by its class. -/
def something (className : String) : Value := .foreign ⟨className, "", "", 0, none⟩

/-- What all enumerations have in common. -/
def enumClass : HostClass where
  name := "Enum"
  moduleName := "enum"
  kind := "EnumType"
  functions := [
    (.alone, "__dir__ __repr__ __str__"),
    (.refuses "__format__() argument must be str, not dict", "__format__"),
    (.gives "NoneType", "__init__ _missing_"),
    (.refuses "isinstance() arg 2 must be a type, a tuple of types, or a union", "__new__"),
    (.gives "tuple", "__reduce_ex__"),
    (.refuses
      ("Enum._generate_next_value_() missing 2 required positional arguments: 'count' and " ++
        "'last_values'"),
      "_generate_next_value_")]
  holds := [
    ("_member_map_", .map []), ("_value2member_map_", .map []), ("_member_names_", .list []),
    ("_unhashable_values_", .list []), ("_use_args_", .bool true),
    ("_member_type_", .hostType .str), ("__weakref__", .null)]

/-- The class of enumerations themselves. -/
def enumKindClass : HostClass where
  name := "EnumType"
  moduleName := "enum"
  bases := ["type", "object"]
  making :=
    .refuses "EnumType.__new__() missing 2 required positional arguments: 'bases' and 'classdict'"
  functions := [
    (.alone, "__bool__ __iter__ __len__ __reversed__ __repr__"),
    (keyed, "__getattr__ __getitem__ __delattr__"),
    (.refuses "EnumType.__setattr__() missing 1 required positional argument: 'value'",
      "__setattr__"),
    (.refuses "EnumType.__prepare__() missing 1 required positional argument: 'bases'",
      "__prepare__"),
    (.refuses "EnumType._create_() missing 1 required positional argument: 'names'", "_create_"),
    (.refuses
      "EnumType._convert_() missing 2 required positional arguments: 'module' and 'filter'",
      "_convert_"),
    (.refuses "EnumType._get_mixins_() missing 1 required positional argument: 'bases'",
      "_get_mixins_"),
    (.refuses "EnumType._find_data_type_() missing 1 required positional argument: 'bases'",
      "_find_data_type_"),
    (.refuses "EnumType._find_data_repr_() missing 1 required positional argument: 'bases'",
      "_find_data_repr_"),
    (.refuses
      ("EnumType._find_new_() missing 2 required positional arguments: 'member_type' and " ++
        "'first_enum'"),
      "_find_new_"),
    (.refuses
      "EnumType._check_for_existing_members_() missing 1 required positional argument: 'bases'",
      "_check_for_existing_members_")]
  holds := [("__members__", .view [])]

/-- The class of an enumeration of texts; its members are texts with names. -/
def enumerationClass (name moduleName : String) (members : List Member) : HostClass where
  name := name
  moduleName := moduleName
  bases := ["Enum", "str", "object"]
  kind := "EnumType"
  making := .custom fun v =>
    .raising "ValueError" (showing v (" is not a valid " ++ name))
  holds := members.map fun m => (m.symbol, .member m)

/-- Functions that every class of records has. The parts of a record are fixed when it is made. -/
def recordFunctions (name : String) (making : Taking) : List (Taking × String) :=
  let filling : Taking := match making with
    | .gives _ => .gives "NoneType"
    | other => other
  [(filling, "__init__"), (.alone, "__repr__"),
   (.refuses (name ++ ".__setattr__() missing 1 required positional argument: 'value'"),
    "__setattr__"),
   (.refuses "super(type, obj): obj must be an instance or subtype of type", "__delattr__")]

/-- Functions of the classes of records that are equal when their parts are. -/
def equalityFunctions : List (Taking × String) :=
  [(.gives "NotImplementedType", "__eq__"), (.alone, "__hash__")]

/-- How the parts of a class of records are declared. -/
def recordTables : List (String × Value) :=
  [("__slots__", .tuple []), ("__match_args__", .tuple []), ("__dataclass_fields__", .map []),
   ("__annotations__", .map []), ("__dataclass_params__", something "_DataclassParams")]

def recordClass (kind : RecordKind) (making : Taking) (functions : List (Taking × String)) :
    HostClass where
  name := kind.className
  moduleName := typesModule
  making := making
  functions := functions ++ recordFunctions kind.className making ++ equalityFunctions
  holds := recordTables

def modelClass : HostClass where
  name := "BaseModel"
  moduleName := "pydantic.main"
  functions := [
    (.alone,
      "construct copy dict from_orm json model_construct model_copy model_dump model_dump_json " ++
      "model_json_schema model_parametrized_name model_rebuild model_validate " ++
      "model_validate_json model_validate_strings parse_file parse_obj parse_raw schema " ++
      "schema_json update_forward_refs validate __init__ __iter__ __repr__ __str__ __copy__ " ++
      "__getstate__ __repr_args__ _iter"),
    (.gives "NoneType", "model_post_init __setstate__ __pydantic_init_subclass__"),
    (.gives "BaseModel", "__deepcopy__"),
    (.gives "NotImplementedType", "__eq__"),
    (keyed, "__getattr__ __delattr__"),
    (.refuses "BaseModel.__setattr__() missing 1 required positional argument: 'value'",
      "__setattr__"),
    (.refuses
      ("BaseModel.__get_pydantic_core_schema__() missing 1 required positional argument: " ++
        "'handler'"),
      "__get_pydantic_core_schema__"),
    (.refuses
      ("BaseModel.__get_pydantic_json_schema__() missing 1 required positional argument: " ++
        "'handler'"),
      "__get_pydantic_json_schema__"),
    (.alone, "__class_getitem__ _calculate_keys _copy_and_set_values _get_value")]
  nulls := ["model_extra", "__hash__", "__pydantic_post_init__", "__weakref__"]
  holds := [
    ("__pydantic_fields__", .map []), ("__pydantic_computed_fields__", .map []),
    ("__pydantic_core_schema__", .map []), ("__pydantic_generic_metadata__", .map []),
    ("__pydantic_setattr_handlers__", .map []), ("__private_attributes__", .map []),
    ("__annotations__", .map []), ("__class_vars__", .set []), ("__slots__", .tuple []),
    ("__pydantic_custom_init__", .bool false), ("__pydantic_complete__", .bool true),
    ("__pydantic_root_model__", .bool false),
    ("__pydantic_decorators__", something "DecoratorInfos"),
    ("__pydantic_validator__", something "SchemaValidator"),
    ("__pydantic_serializer__", something "SchemaSerializer"),
    ("__abstractmethods__", something "frozenset"), ("_abc_impl", something "_abc._abc_data")]

/-- How models are shown. -/
def representationClass : HostClass where
  name := "Representation"
  moduleName := "pydantic._internal._repr"
  functions := [
    (.alone, "__repr_name__ __rich_repr__"),
    (.gives "str", "__repr_recursion__"),
    (.gives "generator", "__pretty__"),
    (.raises "AttributeError" "'dict' object has no attribute 'join'", "__repr_str__")]

/-- Whether values of a class are models. -/
def isModel (c : HostClass) : Bool := c.bases.contains "BaseModel"

/-- Whether models of a class never change, so that they serve as keys. -/
def isLasting (c : HostClass) : Bool :=
  ["BuildOptions", "GenerateOptions", "ResolveOptions", "FlattenOptions"].contains c.name

def modelMaking : Taking :=
  .refuses "BaseModel.__init__() takes 1 positional argument but 2 were given"

def violationClass : HostClass where
  name := "ValidationError"
  moduleName := "schema_engine.pipeline.result"
  bases := ["BaseModel", "Representation", "object"]
  making := modelMaking
  functions := [(.alone, "format"), (.gives "ValidationError", "with_prefix")]

/-- The class of options of one kind. -/
def optionsClass (name moduleName : String) (functions : List (Taking × String)) : HostClass where
  name := name
  moduleName := moduleName
  bases := ["BaseModel", "Representation", "object"]
  making := modelMaking
  functions := functions

/-- What comes of asking a map for a part that it does not have. -/
def withoutPart (name : String) : Taking :=
  .raises "AttributeError" ("'dict' object has no attribute " ++ Text.quote name)

def optionsClasses : List HostClass :=
  [optionsClass "BuildOptions" "schema_engine.registry.builder"
     [(keyed, "preset"), (withoutPart "strict_default", "from_settings"), (.alone, "merged")],
   optionsClass "GenerateOptions" "schema_engine.json_schema.generator"
     [(withoutPart "definitions_key", "from_settings")],
   optionsClass "ResolveOptions" "schema_engine.json_schema.resolver"
     [(withoutPart "resolve_max_depth", "from_settings")],
   optionsClass "FlattenOptions" "schema_engine.json_schema.resolver" []]

def settingsBaseClass : HostClass where
  name := "BaseSettings"
  moduleName := "pydantic_settings.main"
  functions := [
    (.gives "NoneType", "__init__"),
    (.refuses
      ("BaseSettings.settings_customise_sources() missing 4 required positional arguments: " ++
        "'init_settings', 'env_settings', 'dotenv_settings', and 'file_secret_settings'"),
      "settings_customise_sources")]

def settingsClass : HostClass where
  name := "Settings"
  moduleName := "schema_engine.config"
  bases := ["BaseSettings", "BaseModel", "Representation", "object"]
  making := .gives "Settings"
  functions := [
    (.refuses "'<' not supported between instances of 'dict' and 'int'", "non_negative_depth"),
    (withoutPart "strip", "normalise_profile")]

def schemaMaking : Taking :=
  .refuses "FieldRegistry.__init__() missing 1 required positional argument: 'fields'"

def schemaClass : HostClass where
  name := "FieldRegistry"
  moduleName := "schema_engine.registry.models"
  making := schemaMaking
  functions := [(.gives "NoneType", "get_field"), (.gives "bool", "has_field")] ++
    recordFunctions "FieldRegistry" schemaMaking
  holds := recordTables

def catalogClass : HostClass where
  name := "SchemaCatalog"
  moduleName := "schema_engine.registry.catalog"
  making := .refuses "SchemaCatalog.__init__() takes 1 positional argument but 2 were given"
  functions := [
    (.raises "AttributeError" "'dict' object has no attribute 'name'", "register"),
    (keyed, "unregister get __contains__"),
    (.alone, "get_all names __len__ __init__")]

def profilesClass : HostClass where
  name := "ProfileRegistry"
  moduleName := "schema_engine.json_schema.profiles"
  making := .refuses "ProfileRegistry.__init__() takes 1 positional argument but 2 were given"
  functions := [
    (.refuses
      "ProfileRegistry.register() missing 1 required positional argument: 'transform_fn'",
      "register"),
    (withoutPart "lower", "unregister get __contains__"),
    (.alone, "names __len__ __init__")]

def draftClass : HostClass where
  name := "ReferenceStore"
  moduleName := "schema_engine.json_schema.reference_store"
  making := .gives "ReferenceStore"
  functions := [
    (.gives "NoneType", "__init__"),
    (withoutPart "replace", "ref_path"),
    (.refuses
      "ReferenceStore.add_reference() missing 1 required positional argument: 'registry'",
      "add_reference"),
    (keyed, "has_reference registry begin_definition"),
    (.refuses
      "ReferenceStore.add_definition() missing 1 required positional argument: 'schema'",
      "add_definition"),
    (.alone, "pending __len__")]

/-- The parts that values of a class keep for themselves. -/
def keptBy : String → List (String × Value)
  | "SchemaCatalog" => [("_registries", .map []), ("__dict__", .map [])]
  | "ProfileRegistry" => [("_profiles", .map []), ("__dict__", .map [])]
  | "ReferenceStore" =>
    [("_definitions_key", .str ""), ("definitions_key", .str ""), ("_registries", .map []),
     ("_definitions", .map []), ("definitions", .map []), ("_in_progress", .set []),
     ("__dict__", .map [])]
  | _ => []

def derivedFieldClass : HostClass :=
  { recordClass .derivedField
      (.refuses
        "DerivedFieldDef.__init__() missing 2 required positional arguments: 'type' and 'hook'") []
    with moduleName := schemaClass.moduleName }

def classes : List HostClass :=
  [objectClass, strClass, intClass, boolClass, floatClass, listClass, tupleClass, dictClass,
   setClass, bytesClass, nullClass, viewClass, attributesClass, functionClass, moduleClass,
   builtinClass, wrapperClass, methodClass, slotClass, boundClass, partClass, typeClass, anyClass,
   anyKindClass, enumClass, enumKindClass, modelClass, representationClass, violationClass,
   settingsBaseClass, settingsClass, schemaClass, catalogClass, profilesClass, draftClass,
   derivedFieldClass,
   enumerationClass "PrimitiveKind" typesModule (Primitive.all.map (·.member)),
   enumerationClass "ConstraintKind" typesModule (ConstraintKind.all.map (·.member)),
   enumerationClass "ErrorKind" violationClass.moduleName (ViolationKind.all.map (·.member)),
   recordClass .primitive (.gives "Primitive") [(.alone, "describe")],
   recordClass .array (.gives "Array") [(.alone, "describe")],
   recordClass .map
     (.refuses "MapType.__init__() missing 1 required positional argument: 'value'")
     [(.alone, "describe")],
   recordClass .union (.gives "Union") [(.alone, "describe")],
   recordClass .reference (.gives "SchemaRef") [(.alone, "describe")],
   recordClass .constraint
     (.refuses "Constraint.__init__() missing 1 required positional argument: 'value'")
     [(.alone, "__str__")],
   recordClass .constrained (.gives "TypeSpec") []] ++ optionsClasses

/-- The class of this name. One that is not known has what all values have. -/
def classNamed (name : String) : HostClass :=
  (classes.find? (·.name = name)).getD { name }

end RecordSchema.Host
