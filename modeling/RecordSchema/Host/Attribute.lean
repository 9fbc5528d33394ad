import RecordSchema.Host.Declared

/-! Attributes: what a value has under a name. The value's own attributes come first, then what its
class has, then what the classes have from which that one inherits. -/

namespace RecordSchema

namespace HostClass

/-- What a class has under a name of its own. -/
inductive Found where
  | method (t : Taking)
  | wrapper (t : Taking)
  | shared (t : Taking)
  | function (t : Taking)
  | data (v : Value)
  | part
  | null

def inGroups? (name : String) (groups : List (Taking × String)) : Option Taking :=
  (groups.find? fun (_, names) => (names.splitOn " ").contains name).map Prod.fst

def own? (c : HostClass) (name : String) : Option Found :=
  if c.nulls.contains name then some .null
  else if c.parts.contains name then some .part
  else ((c.holds.lookup name).map .data).or <| ((inGroups? name c.functions).map .function).or <|
    ((inGroups? name c.methods).map .method).or <|
    ((inGroups? name c.wrappers).map .wrapper).or ((inGroups? name c.shared).map .shared)

/-- The first class that has something under a name, from the class itself outwards. -/
def find? (c : HostClass) (name : String) : Option (HostClass × Found) :=
  (c :: c.bases.map Host.classNamed).findSome? fun d => (d.own? name).map (d, ·)

end HostClass

namespace Host

def function (className : String) (moduleName : Option String) (owner name : String) (t : Taking) :
    Expr :=
  let qualified := owner ++ "." ++ name
  .hook {
    run v := (v, t.reply qualified v), className, moduleName, qualifiedName := some qualified,
    name := some name }

/-- Functions that belong to the class in which they are found, whatever the value. -/
def isFixed (name : String) : Bool := ["__new__", "__prepare__", "maketrans"].contains name

/-- What a value of a class has by a class that it inherits from. -/
def bound (c d : HostClass) (name : String) : HostClass.Found → Expr
  | .method t => function "builtin_function_or_method" none c.name name t
  | .wrapper t => function "method-wrapper" none d.name name t
  | .shared t =>
    function "builtin_function_or_method" none (if isFixed name then d.name else c.name) name t
  | .function t => function "method" (some d.moduleName) d.name name t
  | .data v => .ofValue v
  | .part => .data (.foreign ⟨"getset_descriptor", name, "", 0, none⟩)
  | .null => .null

/-- What comes of calling a function of a class with a map in place of a value of the class. -/
def misapplied (d : HostClass) (name refusal : String) : Taking :=
  if d.bases.isEmpty then (HostClass.inGroups? name onMap).getD (.refuses refusal)
  else .refuses refusal

/-- What a class itself has by a class that it inherits from. Its methods need a value first. -/
def unbound (c d : HostClass) (name : String) : HostClass.Found → Expr
  | .method _ => function "method_descriptor" none d.name name <| misapplied d name <|
      "descriptor " ++ Text.quote name ++ " for " ++ Text.quote d.name ++
        " objects doesn't apply to a 'dict' object"
  | .wrapper _ => function "wrapper_descriptor" none d.name name <| misapplied d name <|
      "descriptor " ++ Text.quote name ++ " requires a " ++ Text.quote d.name ++
        " object but received a 'dict'"
  | .function t => function "function" (some d.moduleName) d.name name t
  | found => bound c d name found

/-- A host type as hook. -/
def hookOfType (t : HostType) : Hook where
  run v := (v, construct t v)
  className := t.kindName
  moduleName := some (if t = .any then "typing" else "builtins")
  qualifiedName := some t.className
  name := some t.className

/-- The class of a value as an expression. -/
def classExpr (className : String) : Expr :=
  match HostType.all.find? (·.className = className) with
  | some t => .hostType t
  | none =>
    let c := classNamed className
    .hook {
      run v := (v, c.making.reply c.name v), className := "type", moduleName := some c.moduleName,
      qualifiedName := some c.name, name := some c.name }

/-- The class of a hook that is neither function nor class. -/
def classOfInstance (h : Hook) : Expr :=
  .hook {
    run v := (v, (classNamed h.className).making.reply h.className v), className := "type",
    moduleName := h.moduleName, qualifiedName := some h.className, name := some h.className }

/-- Parts of a hook that is neither function nor class. -/
def partsOfInstance (h : Hook) : List (String × Expr) :=
  [("__class__", classOfInstance h), ("__dict__", .map []), ("__doc__", .null),
   ("__module__", .data ((h.moduleName.map Value.str).getD .null))]

/-- Parts of functions: their names and places. Those of plain functions have more. -/
def partsOfFunction (h : Hook) : List (String × Expr) :=
  let text (s : Option String) : Expr := .data ((s.map Value.str).getD .null)
  [("__name__", text h.name), ("__qualname__", text h.qualifiedName)] ++
    if h.className = "function" then
      [("__module__", text h.moduleName), ("__doc__", .null), ("__defaults__", .null),
       ("__kwdefaults__", .null), ("__annotations__", .map []), ("__dict__", .map []),
       ("__globals__", .map []), ("__builtins__", .map []), ("__closure__", .tuple []),
       ("__code__", .data (.foreign ⟨"code", "", "<code>", 0, none⟩))]
    else [("__text_signature__", .str "")] ++
      if h.className = "builtin_function_or_method" then [("__module__", .null)] else []

/-- Parts of classes. -/
def partsOfClass (c : HostClass) : List (String × Expr) :=
  [("__name__", .str c.name), ("__qualname__", .str c.name), ("__module__", .str c.moduleName),
   ("__bases__", .tuple []), ("__mro__", .tuple []), ("__dict__", .view []),
   ("__base__", (c.bases.head?.map classExpr).getD .null),
   ("__doc__", if c.nulls.contains "__doc__" then .null else .str ""),
   ("__flags__", .data (.int 0)), ("__basicsize__", .data (.int 0)),
   ("__itemsize__", .data (.int 0)), ("__weakrefoffset__", .data (.int 0)),
   ("__dictoffset__", .data (.int 0)),
   ("__text_signature__", if c.isSigned then .str "" else .null)] ++
    if c.isBuiltIn then [] else [("__annotations__", .map [])]

/-- The class of containers of one layout. -/
def classOfContainer (layout : ContainerClass) : Expr :=
  .hook {
    run v := (v, modelMaking.reply layout.name v), className := "ModelMetaclass",
    moduleName := some "schema_engine.pipeline.materializer", qualifiedName := some layout.name,
    name := some layout.name }

/-- Parts of a schema. -/
def partsOfSchema (s : Schema) : List (String × Expr) :=
  let text (t : Option String) : Expr := .data ((t.map Value.str).getD .null)
  [("name", .str s.name), ("title", text s.title), ("description", text s.description),
   ("strict", .data (.bool s.strict)), ("materialized", .data (.bool s.container.isSome)),
   ("fields", .tuple []), ("cross_field_hooks", .tuple []), ("derived_hooks", .tuple []),
   ("regular_fields", .tuple []), ("derived_fields", .tuple []), ("field_names", .list []),
   ("required_fields", .list []), ("container", (s.container.map classOfContainer).getD .null),
   ("catalog", .data ((s.catalog.map fun _ => something "SchemaCatalog").getD .null))]

/-- Parts of data. -/
def partsOfValue : Value → List (String × Value)
  | .bool b => partsOfInt (if b then 1 else 0)
  | .int n => partsOfInt n
  | .float x => [("real", .float x), ("imag", .float (.zero false))]
  | .nan serial => [("real", .nan serial), ("imag", .float (.zero false))]
  | .member m =>
    [("name", .str m.symbol), ("value", .str m.label), ("_name_", .str m.symbol),
     ("_value_", .str m.label), ("_sort_order_", .int 0), ("__dict__", .map [])]
  | .violation v => v.parts ++ ("location", .str (Path.location v.path)) :: partsOfModel
  | .record .reference parts => parts ++ [("constraints", .tuple [])]
  | .record (.options className _) parts =>
    if isModel (classNamed className) then parts ++ partsOfModel else parts
  | .record _ parts => parts
  | .foreign thing =>
    if thing.className = "getset_descriptor" then
      [("__name__", .str thing.name), ("__qualname__", .str thing.name), ("__doc__", .str "")]
    else if Host.classes.any (·.name = thing.className) then keptBy thing.className
    else [("__dict__", .map [])]
  | _ => []
where
  partsOfModel : List (String × Value) :=
    [("model_config", .map []), ("model_fields", .map []), ("model_computed_fields", .map []),
     ("model_fields_set", .set []), ("__fields_set__", .set []),
     ("__pydantic_fields_set__", .set []), ("__pydantic_extra__", .null),
     ("__pydantic_private__", .null), ("__dict__", .map [])]
  partsOfInt (n : Int) : List (String × Value) :=
    [("real", .int n), ("imag", .int 0), ("numerator", .int n), ("denominator", .int 1)]

/-- Parts of a member of an enumeration that can be called. -/
def partsOfMember (m : Member) : List (String × Expr) :=
  [("__objclass__", classExpr m.enumeration),
   ("_new_member_", function "builtin_function_or_method" none "str" "__new__" <|
      .refuses "str.__new__(X): X is not a type object (dict)"),
   ("_value_repr_", function "method-wrapper" none "str" "__repr__" lone)]

/-- How models serve as keys, by a function without a place of its own. -/
def keyOfModel : Expr :=
  function "method" (some "pydantic._internal._model_construction") "make_hash_func.<locals>"
    "hash_func" .alone

/-- The parts that a value has by itself. -/
def parts (e : Expr) : List (String × Expr) :=
  match e with
  | .object _ attributes =>
    attributes ++ [("__dict__", .map (attributes.map fun (name, e) => (.str name, e)))]
  | .derivedField _ t h description examples extra constraints =>
    [("type", t), ("hook", h), ("description", description), ("examples", examples),
     ("extra", extra), ("constraints", constraints)] ++ ofValue e
  | .constrained base _ => ("base", base) :: ofValue e
  | .hook h =>
    if h.className = "type" then partsOfClass (classNamed h.functionName)
    else if h.qualifiedName.isNone then partsOfInstance h
    else partsOfFunction h
  | .hostType t => partsOfClass (classNamed t.className)
  | .schema s => partsOfSchema s
  | .member m => partsOfMember m ++ ofValue e
  | e =>
    if isLasting (classNamed e.className) then ("__hash__", keyOfModel) :: ofValue e else ofValue e
where
  ofValue (e : Expr) : List (String × Expr) :=
    (partsOfValue e.toValue).map fun (name, v) => (name, Expr.ofValue v)

/-- What every value of a class has. -/
def common? (c : HostClass) (name : String) : Option Expr :=
  if name = "__class__" then some (classExpr c.name)
  else if name = "__doc__" && !c.nulls.contains name then some (.str "")
  else if name = "__module__" && !c.isBuiltIn then some (.str c.moduleName)
  else none

/-- What a value of a class has by its class. -/
def byClass? (c : HostClass) (name : String) : Option Expr :=
  (common? c name).or ((c.find? name).map fun (d, found) => bound c d name found)

/-- What a class has, by itself or as a value of the class of classes. -/
def ofClass? (c : HostClass) (name : String) : Option Expr :=
  if name = "__class__" then some (classExpr c.kind)
  else ((c.find? name).map fun (d, found) => unbound c d name found).or <|
    ((classNamed c.kind).find? name).map fun (d, found) =>
      bound { d with name := c.name } d name found

/-- A hook as a method of its class, which calls it. -/
def callOf (owner : String) (h : Hook) : Expr :=
  .hook { h with
    className := "method-wrapper", moduleName := none, name := some "__call__",
    qualifiedName := some (owner ++ ".__call__") }

/-- The class that a qualified name begins with. -/
def ownerName (h : Hook) : String := ((h.qualifiedName.getD "").splitOn ".").headD ""

/-- What binds a function of a class to a value, which must be one of the class. -/
def bindingOf (h : Hook) : Expr :=
  let owner := classNamed (ownerName h)
  function "method-wrapper" none h.className "__get__" <|
    if owner.name = "dict" || owner.bases.isEmpty then
      .gives (if h.className = "wrapper_descriptor" then "method-wrapper"
        else "builtin_function_or_method")
    else .refuses ("descriptor " ++ Text.quote h.functionName ++ " for " ++
      Text.quote owner.name ++ " objects doesn't apply to a 'dict' object")

/-- The attribute of an expression under a name. A function gives itself to be called. -/
def attribute? (e : Expr) (name : String) : Option Expr :=
  match (parts e).lookup name, e with
  | some found, _ => some found
  | none, .hostType t =>
    if name = "__call__" then some (callOf "type" (hookOfType t))
    else ofClass? (classNamed t.className) name
  | none, .hook h =>
    if h.className = "type" then
      let c := classNamed h.functionName
      if name = "__call__" && (c.find? name).isNone then some (callOf "type" h)
      else ofClass? c name
    else if name = "__call__" then some (callOf h.className h)
    else if name = "__get__" && ["method_descriptor", "wrapper_descriptor"].contains h.className
    then some (bindingOf h)
    else byClass? (classNamed h.className) name
  | none, e => byClass? (classNamed e.className) name

/-- What a function of a value or class belongs to: the value or class that it was taken from, or
for one that belongs to the class of a value that class. -/
def belongsTo? (h : Hook) (origin : Expr) : Option Expr :=
  if ["method", "method-wrapper"].contains h.className then some origin
  else if h.className = "builtin_function_or_method" then
    match (classNamed (ownerName h)).find? h.functionName with
    | some (_, .shared _) => some (classExpr (ownerName h))
    | _ => some origin
  else none

/-- The attribute of an expression that is itself an attribute of the origin. -/
def attributeFrom? (origin e : Expr) (name : String) : Option Expr :=
  match name, e with
  | "__self__", .hook h => belongsTo? h origin
  | "__objclass__", .hook h =>
    if ["method-wrapper", "method_descriptor", "wrapper_descriptor"].contains h.className then
      some (classExpr (ownerName h))
    else none
  | "__func__", .hook h =>
    if h.className = "method" then some (.hook { h with className := "function" }) else none
  | name, e => attribute? e name

/-- The attribute that a module with these contents has by itself. -/
def moduleAttribute? (contents : List (String × Expr)) (name : String) : Option Expr :=
  let own : List (String × Expr) :=
    contents ++
      [("__name__", .str ""), ("__doc__", .null), ("__loader__", .null), ("__spec__", .null),
       ("__package__", .null), ("__annotations__", .map []),
       ("__dict__", .map (contents.map fun (name, e) => (.str name, e)))]
  (own.lookup name).or (byClass? moduleClass name)

end Host
end RecordSchema
