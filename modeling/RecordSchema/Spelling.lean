import RecordSchema.Expr

/-! Helpers by which authors spell types: a type expression and keywords for its constraints.
Arguments are bound to the parameters of a helper by their order and then by name; keywords that
are left over are constraints. -/

namespace RecordSchema

/-- Arguments by name, in order. -/
abbrev Keywords := List (String × Expr)

/-- A helper makes a type expression. A union takes any number of variants. -/
inductive Helper where
  | scalar (kind : Primitive)
  | null
  | array
  | map
  | union
  | ref
  deriving DecidableEq, Repr

namespace Helper

def ofName? : String → Option Helper
  | "string" => some (.scalar .string)
  | "integer" => some (.scalar .integer)
  | "number" => some (.scalar .float)
  | "boolean" => some (.scalar .boolean)
  | "any_type" => some (.scalar .any)
  | "null" => some .null
  | "array" => some .array
  | "map_of" => some .map
  | "union" => some .union
  | "ref" => some .ref
  | _ => none

/-- The names of the parameters, in order. -/
def parameters : Helper → List String
  | .array => ["element"]
  | .map => ["key", "value"]
  | .ref => ["name"]
  | _ => []

/-- The arguments of parameters, and the keywords that name none of them. There is none if a
parameter is given twice or not at all, or if there are too many arguments. -/
def bind? : List String → List Expr → Keywords → Option (List Expr × Keywords)
  | [], [], keywords => some ([], keywords)
  | [], _ :: _, _ => none
  | name :: rest, e :: others, keywords => do
    if (keywords.lookup name).isSome then none
    let (arguments, keywords) ← bind? rest others keywords
    return (e :: arguments, keywords)
  | name :: rest, [], keywords => do
    let e ← keywords.lookup name
    let (arguments, keywords) ← bind? rest [] (keywords.filter (·.1 ≠ name))
    return (e :: arguments, keywords)

/-- A reference by name; whatever counts as false is no name. -/
def reference? (name : Expr) : Option Expr :=
  if name.isTrue then name.name?.map fun name => .type (.ref name none)
  else some (.type (.ref "" none))

/-- The expression that a helper makes of its arguments. -/
def spelling? (helper : Helper) (arguments : List Expr) (keywords : Keywords) : Option Expr := do
  if helper = .union then
    return .constrained (.tuple [.str "union", .list arguments]) keywords
  match helper, ← bind? helper.parameters arguments keywords with
  | .scalar kind, ([], constraints) => return .constrained (.member kind.member) constraints
  | .null, ([], []) => return .constrained (.member Primitive.null.member) []
  | .array, ([element], constraints) =>
    return .constrained (.tuple [.str "array", element]) constraints
  | .map, ([key, value], constraints) =>
    return .constrained (.tuple [.str "map", key, value]) constraints
  | .ref, ([name], []) => reference? name
  | _, _ => none

end Helper
end RecordSchema
