import RecordSchema.Text.Quoted

/-! Types of the host language. They stand for types of data, they are data themselves, and they can
be called. -/

namespace RecordSchema

inductive HostType where
  | str | int | float | bool | none | bytes | any | object
  deriving DecidableEq, Repr

namespace HostType

def all : List HostType := [.str, .int, .float, .bool, .none, .bytes, .any, .object]

def className : HostType → String
  | .str => "str"
  | .int => "int"
  | .float => "float"
  | .bool => "bool"
  | .none => "NoneType"
  | .bytes => "bytes"
  | .any => "Any"
  | .object => "object"

/-- What the types themselves are called. -/
def kindName : HostType → String
  | .any => "_AnyMeta"
  | _ => "type"

def literal : HostType → String
  | .any => "typing.Any"
  | t => "<class " ++ Text.quote t.className ++ ">"

end HostType
end RecordSchema
