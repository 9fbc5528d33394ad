import RecordSchema.Hook
import RecordSchema.Host.Construct

/-! Classes of the host: what the values of a class offer as functions, and what comes of calling
those with a map, as hooks are called. None of them answers with a success, so a schema that takes
one as hook accepts nothing. -/

namespace RecordSchema

/-- What comes of a call with a map as the only argument. -/
inductive Taking where
  | gives (className : String)
  /-- A method that takes no arguments. -/
  | nothing
  /-- A function that takes nothing but the value that it belongs to. -/
  | alone
  | refuses (text : String)
  | raises (className text : String)
  | custom (run : Value → Reply)

/-- A class, the classes that it inherits from in the order of look-up, and its own functions:
methods, the functions behind operators, those that belong to the class and not to a value, and
those that are written in the host language itself. Each group is a line of names. -/
structure HostClass where
  name : String
  moduleName : String := "builtins"
  bases : List String := ["object"]
  /-- What comes of calling the class. -/
  making : Taking := .nothing
  methods : List (Taking × String) := []
  wrappers : List (Taking × String) := []
  shared : List (Taking × String) := []
  functions : List (Taking × String) := []
  /-- Names under which there is null. -/
  nulls : List String := []
  /-- Names of the parts that every value of the class has. -/
  parts : List String := []
  /-- What the class and all of its values have in common, which is data. -/
  holds : List (String × Value) := []
  /-- Whether the class says in a text how it is called. -/
  isSigned : Bool := false
  /-- The class of the class itself. -/
  kind : String := "type"

/-- Whether the class is one of the host's own. -/
def HostClass.isBuiltIn (c : HostClass) : Bool := ["builtins", "types"].contains c.moduleName

namespace Taking

/-- The reply of a function of this name. -/
def reply (function : String) : Taking → Value → Reply
  | .gives className, _ => .ofClass className
  | .nothing, _ => .raising "TypeError" (function ++ "() takes no arguments (1 given)")
  | .alone, _ =>
    .raising "TypeError" (function ++ "() takes 1 positional argument but 2 were given")
  | .refuses text, _ => .raising "TypeError" text
  | .raises className text, _ => .raising className text
  | .custom run, v => run v

end Taking

namespace Host

/-- Joins the keys of a map; the first key that is none of the parts decides. -/
def joinWith (part : Value → Bool) (expected answer : String) (position : Nat) :
    List Value → Reply
  | [] => .ofClass answer
  | v :: rest =>
    if part v then joinWith part expected answer (position + 1) rest
    else refusal ("sequence item " ++ toString position ++ ": expected " ++ expected ++ ", " ++
      v.fullClassName ++ " found")

def joining (v : Value) : Reply :=
  match v.elements? with
  | some items => joinWith (·.str?.isSome) "str instance" "str" 0 items
  | none => refusal "can only join an iterable"

def joiningBytes (v : Value) : Reply :=
  match v.elements? with
  | some items =>
    joinWith (fun | .bytes _ => true | _ => false) "a bytes-like object" "bytes" 0 items
  | none => refusal "can only join an iterable"

/-- Keys of a table of characters are characters or their codes. -/
def characterTable : List Value → Reply
  | [] => .ofClass "dict"
  | v :: rest =>
    match v.str?, v.integer? with
    | some text, _ =>
      if text.length = 1 then characterTable rest
      else .raising "ValueError" "string keys in translate table must be of length 1"
    | none, some _ => characterTable rest
    | none, none => refusal "keys in translate table must be strings or integers"

def tabulating (v : Value) : Reply :=
  match v.ownEntries? with
  | some entries => characterTable (entries.map Prod.fst)
  | none => refusal "if you give only one argument to maketrans it must be a dict"

def searching (v : Value) : Reply := .raising "ValueError" (showing v " is not in list")

def bytesOf (v : Value) : Reply :=
  match v.elements? with
  | some items => bytesOfItems "int" items
  | none => refusal ("cannot convert " ++ Text.quote v.fullClassName ++ " object to bytes")

/-- The separator of bytes in text must be one character, which a map is not even with one key. -/
def separating (v : Value) : Reply :=
  match v.ownEntries? with
  | some [_] => refusal "sep must be str or bytes."
  | _ => .raising "ValueError" "sep must be length 1."

/-- A truth value out of bytes. -/
def truthOf (v : Value) : Reply :=
  match bytesOf v with
  | .other _ => .ofClass "bool"
  | reply => reply

def lone : Taking := .refuses "expected 0 arguments, got 1"

def pairwise : Taking := .refuses " expected 2 arguments, got 1"

def counting : Taking := .refuses "'dict' object cannot be interpreted as an integer"

def keyed : Taking := .refuses "unhashable type: 'dict'"

def attributeName : Taking := .refuses "attribute name must be string, not 'dict'"

/-! The classes of plain values, of attributes, and of functions and classes themselves. -/

def objectClass : HostClass where
  name := "object"
  isSigned := true
  bases := []
  making := .refuses "object() takes no arguments"
  methods := [
    (counting, "__reduce_ex__"),
    (.nothing, "__reduce__ __getstate__ __sizeof__ __dir__"),
    (.refuses "__format__() argument must be str, not dict", "__format__")]
  wrappers := [
    (lone, "__repr__ __hash__ __str__"),
    (attributeName, "__getattribute__ __delattr__"),
    (pairwise, "__setattr__"),
    (.gives "NotImplementedType", "__lt__ __le__ __eq__ __ne__ __gt__ __ge__"),
    (.gives "NoneType", "__init__")]
  shared := [
    (.refuses "object.__new__(X): X is not a type object (dict)", "__new__"),
    (.gives "NotImplementedType", "__subclasshook__"),
    (.nothing, "__init_subclass__")]

/-- What comes of calling the functions of all values with a map as the value. -/
def onMap : List (Taking × String) := [
  (.gives "list", "__dir__"),
  (.gives "NoneType", "__init__ __getstate__"),
  (.gives "str", "__repr__ __str__"),
  (.gives "int", "__hash__ __sizeof__"),
  (.refuses "cannot pickle 'dict' object", "__reduce__"),
  (.refuses "object.__reduce_ex__() takes exactly one argument (0 given)", "__reduce_ex__"),
  (.refuses "object.__format__() takes exactly one argument (0 given)", "__format__"),
  (.refuses "expected 1 argument, got 0",
    "__delattr__ __getattribute__ __lt__ __le__ __eq__ __ne__ __gt__ __ge__"),
  (.refuses " expected 2 arguments, got 0", "__setattr__")]

def strClass : HostClass where
  name := "str"
  methods := [
    (.refuses "encode() argument 'encoding' must be str, not dict", "encode"),
    (.refuses "replace expected at least 2 arguments, got 1", "replace"),
    (.refuses "must be str or None, not dict", "split rsplit"),
    (.custom joining, "join"),
    (.gives "str", "translate format format_map"),
    (.nothing,
      "capitalize casefold title lower swapcase upper isascii islower isupper istitle " ++
      "isspace isdecimal isdigit isnumeric isalpha isalnum isidentifier isprintable " ++
      "__sizeof__ __getnewargs__"),
    (counting, "center expandtabs ljust rjust splitlines zfill"),
    (.refuses "must be str, not dict", "count find partition index rfind rindex rpartition"),
    (.refuses "lstrip arg must be None or str", "lstrip"),
    (.refuses "rstrip arg must be None or str", "rstrip"),
    (.refuses "strip arg must be None or str", "strip"),
    (.refuses "startswith first arg must be str or a tuple of str, not dict", "startswith"),
    (.refuses "endswith first arg must be str or a tuple of str, not dict", "endswith"),
    (.refuses "removeprefix() argument must be str, not dict", "removeprefix"),
    (.refuses "removesuffix() argument must be str, not dict", "removesuffix"),
    (.refuses "__format__() argument must be str, not dict", "__format__")]
  wrappers := [
    (lone, "__repr__ __hash__ __str__ __iter__ __len__"),
    (attributeName, "__getattribute__"),
    (.gives "NotImplementedType", "__lt__ __le__ __eq__ __ne__ __gt__ __ge__ __rmod__"),
    (.gives "str", "__mod__"),
    (.refuses "string indices must be integers, not 'dict'", "__getitem__"),
    (.refuses "can only concatenate str (not \"dict\") to str", "__add__"),
    (counting, "__mul__ __rmul__"),
    (.refuses "'in <string>' requires string as left operand, not dict", "__contains__")]
  shared := [
    (.refuses "str.__new__(X): X is not a type object (dict)", "__new__"),
    (.custom tabulating, "maketrans")]

def intClass : HostClass where
  name := "int"
  parts := ["real", "imag", "numerator", "denominator"]
  methods := [
    (.nothing,
      "conjugate bit_length bit_count as_integer_ratio __trunc__ __floor__ __ceil__ " ++
      "__getnewargs__ __sizeof__"),
    (counting, "to_bytes __round__"),
    (.refuses "__format__() argument must be str, not dict", "__format__")]
  wrappers := [
    (lone,
      "__repr__ __hash__ __neg__ __pos__ __abs__ __bool__ __invert__ __int__ " ++
      "__float__ __index__"),
    (attributeName, "__getattribute__"),
    (.gives "NotImplementedType",
      "__lt__ __le__ __eq__ __ne__ __gt__ __ge__ __add__ __radd__ __sub__ __rsub__ " ++
      "__mul__ __rmul__ __mod__ __rmod__ __divmod__ __rdivmod__ __pow__ __rpow__ " ++
      "__lshift__ __rlshift__ __rshift__ __rrshift__ __and__ __rand__ __xor__ " ++
      "__rxor__ __or__ __ror__ __floordiv__ __rfloordiv__ __truediv__ __rtruediv__")]
  shared := [
    (.refuses "int.__new__(X): X is not a type object (dict)", "__new__"),
    (.custom bytesOf, "from_bytes")]

def boolClass : HostClass where
  name := "bool"
  bases := ["int", "object"]
  wrappers := [
    (lone, "__repr__"),
    (.gives "NotImplementedType", "__and__ __rand__ __xor__ __rxor__ __or__ __ror__")]
  shared := [
    (.refuses "bool.__new__(X): X is not a type object (dict)", "__new__"),
    (.custom truthOf, "from_bytes")]

def floatClass : HostClass where
  name := "float"
  isSigned := true
  parts := ["real", "imag"]
  methods := [
    (.nothing,
      "conjugate __trunc__ __floor__ __ceil__ as_integer_ratio hex is_integer " ++
      "__getnewargs__"),
    (counting, "__round__"),
    (.refuses "__format__() argument must be str, not dict", "__format__")]
  wrappers := [
    (lone, "__repr__ __hash__ __neg__ __pos__ __abs__ __bool__ __int__ __float__"),
    (attributeName, "__getattribute__"),
    (.gives "NotImplementedType",
      "__lt__ __le__ __eq__ __ne__ __gt__ __ge__ __add__ __radd__ __sub__ __rsub__ " ++
      "__mul__ __rmul__ __mod__ __rmod__ __divmod__ __rdivmod__ __pow__ __rpow__ " ++
      "__floordiv__ __rfloordiv__ __truediv__ __rtruediv__")]
  shared := [
    (.refuses "float.__new__(X): X is not a type object (dict)", "__new__"),
    (.refuses "bad argument type for built-in operation", "fromhex"),
    (.refuses "__getformat__() argument must be str, not dict", "__getformat__")]

def listClass : HostClass where
  name := "list"
  isSigned := true
  making := .gives "list"
  nulls := ["__hash__"]
  methods := [
    (.refuses "list indices must be integers or slices, not dict", "__getitem__"),
    (.nothing, "__reversed__ __sizeof__ clear copy reverse"),
    (.gives "NoneType", "append extend"),
    (.refuses "insert expected 2 arguments, got 1", "insert"),
    (counting, "pop"),
    (.raises "ValueError" "list.remove(x): x not in list", "remove"),
    (.custom searching, "index"),
    (.gives "int", "count"),
    (.refuses "sort() takes no positional arguments", "sort")]
  wrappers := [
    (lone, "__repr__ __iter__ __len__"),
    (attributeName, "__getattribute__"),
    (.gives "NotImplementedType", "__lt__ __le__ __eq__ __ne__ __gt__ __ge__"),
    (.gives "NoneType", "__init__"),
    (pairwise, "__setitem__"),
    (.refuses "list indices must be integers or slices, not dict", "__delitem__"),
    (.refuses "can only concatenate list (not \"dict\") to list", "__add__"),
    (counting, "__mul__ __rmul__ __imul__"),
    (.gives "bool", "__contains__"),
    (.gives "list", "__iadd__")]
  shared := [
    (.refuses "list.__new__(X): X is not a type object (dict)", "__new__"),
    (.gives "GenericAlias", "__class_getitem__")]

def tupleClass : HostClass where
  name := "tuple"
  isSigned := true
  making := .gives "tuple"
  methods := [
    (.nothing, "__getnewargs__"),
    (.raises "ValueError" "tuple.index(x): x not in tuple", "index"),
    (.gives "int", "count")]
  wrappers := [
    (lone, "__repr__ __hash__ __iter__ __len__"),
    (attributeName, "__getattribute__"),
    (.gives "NotImplementedType", "__lt__ __le__ __eq__ __ne__ __gt__ __ge__"),
    (.refuses "tuple indices must be integers or slices, not dict", "__getitem__"),
    (.refuses "can only concatenate tuple (not \"dict\") to tuple", "__add__"),
    (counting, "__mul__ __rmul__"),
    (.gives "bool", "__contains__")]
  shared := [
    (.refuses "tuple.__new__(X): X is not a type object (dict)", "__new__"),
    (.gives "GenericAlias", "__class_getitem__")]

def dictClass : HostClass where
  name := "dict"
  making := .gives "dict"
  nulls := ["__hash__"]
  methods := [
    (keyed, "__getitem__ __contains__ get setdefault pop"),
    (.nothing, "__sizeof__ popitem keys items values clear copy __reversed__"),
    (.gives "NoneType", "update")]
  wrappers := [
    (lone, "__repr__ __iter__ __len__"),
    (attributeName, "__getattribute__"),
    (.gives "NotImplementedType", "__lt__ __le__ __gt__ __ge__"),
    (.gives "bool", "__eq__ __ne__"),
    (.gives "NoneType", "__init__"),
    (.gives "dict", "__or__ __ror__ __ior__"),
    (pairwise, "__setitem__"),
    (keyed, "__delitem__")]
  shared := [
    (.refuses "dict.__new__(X): X is not a type object (dict)", "__new__"),
    (.gives "dict", "fromkeys"),
    (.gives "GenericAlias", "__class_getitem__")]

def setClass : HostClass where
  name := "set"
  making := .gives "set"
  nulls := ["__hash__"]
  methods := [
    (keyed, "__contains__ add discard remove"),
    (.nothing, "clear copy pop __reduce__ __sizeof__"),
    (.gives "set", "difference intersection symmetric_difference union"),
    (.gives "NoneType", "difference_update intersection_update symmetric_difference_update update"),
    (.gives "bool", "isdisjoint issubset issuperset")]
  wrappers := [
    (lone, "__repr__ __iter__ __len__"),
    (attributeName, "__getattribute__"),
    (.gives "NotImplementedType",
      "__lt__ __le__ __eq__ __ne__ __gt__ __ge__ __sub__ __rsub__ __and__ __rand__ " ++
      "__xor__ __rxor__ __or__ __ror__ __isub__ __iand__ __ixor__ __ior__"),
    (.gives "NoneType", "__init__")]
  shared := [
    (.refuses "set.__new__(X): X is not a type object (dict)", "__new__"),
    (.gives "GenericAlias", "__class_getitem__")]

def bytesClass : HostClass where
  name := "bytes"
  methods := [
    (.nothing,
      "__getnewargs__ __bytes__ capitalize isalnum isalpha isascii isdigit islower " ++
      "isspace istitle isupper lower swapcase title upper"),
    (counting, "center expandtabs ljust rjust splitlines zfill"),
    (.refuses "argument should be integer or bytes-like object, not 'dict'",
      "count find index rfind rindex"),
    (.refuses "decode() argument 'encoding' must be str, not dict", "decode"),
    (.refuses "endswith first arg must be bytes or a tuple of bytes, not dict", "endswith"),
    (.custom separating, "hex"),
    (.custom joiningBytes, "join"),
    (.refuses "a bytes-like object is required, not 'dict'",
      "lstrip partition removeprefix removesuffix rpartition rsplit rstrip split " ++
      "strip translate"),
    (.refuses "replace expected at least 2 arguments, got 1", "replace"),
    (.refuses "startswith first arg must be bytes or a tuple of bytes, not dict", "startswith")]
  wrappers := [
    (lone, "__repr__ __hash__ __str__ __iter__ __len__"),
    (attributeName, "__getattribute__"),
    (.gives "NotImplementedType", "__lt__ __le__ __eq__ __ne__ __gt__ __ge__ __rmod__"),
    (.gives "bytes", "__mod__"),
    (.refuses "byte indices must be integers or slices, not dict", "__getitem__"),
    (.refuses "can't concat dict to bytes", "__add__"),
    (counting, "__mul__ __rmul__"),
    (.refuses "a bytes-like object is required, not 'dict'", "__contains__")]
  shared := [
    (.refuses "bytes.__new__(X): X is not a type object (dict)", "__new__"),
    (.refuses "fromhex() argument must be str, not dict", "fromhex"),
    (.refuses "maketrans expected 2 arguments, got 1", "maketrans")]

def nullClass : HostClass where
  name := "NoneType"
  nulls := ["__doc__"]
  wrappers := [
    (lone, "__repr__ __bool__")]
  shared := [
    (.refuses "NoneType.__new__(X): X is not a type object (dict)", "__new__")]

def viewClass : HostClass where
  name := "mappingproxy"
  making := .gives "mappingproxy"
  nulls := ["__doc__", "__hash__"]
  methods := [
    (keyed, "get"),
    (.nothing, "keys values items copy __reversed__")]
  wrappers := [
    (lone, "__repr__ __str__ __iter__ __len__"),
    (attributeName, "__getattribute__"),
    (.refuses "'<' not supported between instances of 'dict' and 'dict'", "__lt__"),
    (.refuses "'<=' not supported between instances of 'dict' and 'dict'", "__le__"),
    (.gives "bool", "__eq__ __ne__"),
    (.refuses "'>' not supported between instances of 'dict' and 'dict'", "__gt__"),
    (.refuses "'>=' not supported between instances of 'dict' and 'dict'", "__ge__"),
    (.gives "dict", "__or__ __ror__"),
    (.refuses "'|=' is not supported by mappingproxy; use '|' instead", "__ior__"),
    (keyed, "__getitem__ __contains__")]
  shared := [
    (.refuses "mappingproxy.__new__(X): X is not a type object (dict)", "__new__"),
    (.gives "GenericAlias", "__class_getitem__")]

def attributesClass : HostClass where
  name := "SimpleNamespace"
  moduleName := "types"
  making := .refuses "no positional arguments expected"
  nulls := ["__hash__"]
  methods := [
    (.nothing, "__reduce__")]
  wrappers := [
    (lone, "__repr__"),
    (attributeName, "__getattribute__ __delattr__"),
    (pairwise, "__setattr__"),
    (.gives "NotImplementedType", "__lt__ __le__ __eq__ __ne__ __gt__ __ge__"),
    (.refuses "no positional arguments expected", "__init__")]
  shared := [
    (.refuses "types.SimpleNamespace.__new__(X): X is not a type object (dict)", "__new__")]

def functionClass : HostClass where
  name := "function"
  isSigned := true
  making := .refuses "function() missing required argument 'globals' (pos 2)"
  wrappers := [
    (lone, "__repr__ __call__"),
    (.gives "method", "__get__")]
  shared := [
    (.refuses "function.__new__(X): X is not a type object (dict)", "__new__")]

def moduleClass : HostClass where
  name := "module"
  isSigned := true
  making := .refuses "module() argument 'name' must be str, not dict"
  methods := [
    (.refuses "__dir__() takes no arguments (1 given)", "__dir__")]
  wrappers := [
    (lone, "__repr__"),
    (attributeName, "__getattribute__ __delattr__"),
    (pairwise, "__setattr__"),
    (.refuses "module() argument 'name' must be str, not dict", "__init__")]
  shared := [
    (.refuses "module.__new__(X): X is not a type object (dict)", "__new__")]

def builtinClass : HostClass where
  name := "builtin_function_or_method"
  making := .refuses "cannot create 'builtin_function_or_method' instances"
  methods := [
    (.nothing, "__reduce__")]
  wrappers := [
    (lone, "__repr__ __hash__ __call__"),
    (attributeName, "__getattribute__"),
    (.gives "NotImplementedType", "__lt__ __le__ __eq__ __ne__ __gt__ __ge__")]

def wrapperClass : HostClass where
  name := "method-wrapper"
  making := .refuses "cannot create 'method-wrapper' instances"
  methods := [
    (.nothing, "__reduce__")]
  wrappers := [
    (lone, "__repr__ __hash__ __call__"),
    (attributeName, "__getattribute__"),
    (.gives "NotImplementedType", "__lt__ __le__ __eq__ __ne__ __gt__ __ge__")]

def methodClass : HostClass where
  name := "method_descriptor"
  making := .refuses "cannot create 'method_descriptor' instances"
  methods := [
    (.nothing, "__reduce__")]
  wrappers := [
    (lone, "__repr__ __call__"),
    (attributeName, "__getattribute__")]

def slotClass : HostClass where
  name := "wrapper_descriptor"
  making := .refuses "cannot create 'wrapper_descriptor' instances"
  methods := [
    (.nothing, "__reduce__")]
  wrappers := [
    (lone, "__repr__ __call__"),
    (attributeName, "__getattribute__")]

/-- What stands in a class for a part of its values. -/
def partClass : HostClass where
  name := "getset_descriptor"
  making := .refuses "cannot create 'getset_descriptor' instances"
  wrappers := [
    (lone, "__repr__"),
    (attributeName, "__getattribute__ __delete__"),
    (.refuses "descriptor doesn't apply to a 'dict' object", "__get__"),
    (pairwise, "__set__")]
  parts := ["__objclass__"]

def typeClass : HostClass where
  name := "type"
  making := .gives "type"
  methods := [
    (.nothing, "mro __subclasses__ __dir__ __sizeof__"),
    (.gives "bool", "__instancecheck__"),
    (.refuses "issubclass() arg 1 must be a class", "__subclasscheck__")]
  wrappers := [
    (lone, "__repr__ __call__"),
    (attributeName, "__getattribute__ __delattr__"),
    (pairwise, "__setattr__"),
    (.gives "NoneType", "__init__"),
    (.gives "NotImplementedType", "__or__ __ror__")]
  shared := [
    (.refuses "type.__new__(X): X is not a type object (dict)", "__new__"),
    (.gives "dict", "__prepare__")]

/-- The class of values of any class, which has no values, and its own class. -/
def anyClass : HostClass where
  name := "Any"
  moduleName := "typing"
  kind := "_AnyMeta"
  functions :=
    [(.refuses "super(type, obj): obj must be an instance or subtype of type", "__new__")]
  parts := ["__weakref__"]

def anyKindClass : HostClass where
  name := "_AnyMeta"
  moduleName := "typing"
  bases := ["type", "object"]
  making := .refuses "type.__new__() takes exactly 3 arguments (1 given)"
  nulls := ["__doc__"]
  functions := [(.refuses "typing.Any cannot be used with isinstance()", "__instancecheck__")]
  shared := [(.gives "dict", "__prepare__")]

def boundClass : HostClass where
  name := "method"
  isSigned := true
  making := .refuses "method expected 2 arguments, got 1"
  methods := [
    (.nothing, "__reduce__")]
  wrappers := [
    (lone, "__repr__ __hash__ __call__"),
    (attributeName, "__getattribute__ __delattr__"),
    (pairwise, "__setattr__"),
    (.gives "method", "__get__"),
    (.gives "NotImplementedType", "__lt__ __le__ __eq__ __ne__ __gt__ __ge__")]
  shared := [
    (.refuses "method.__new__(X): X is not a type object (dict)", "__new__")]

end Host
end RecordSchema
