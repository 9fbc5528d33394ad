import RecordSchema.SchemaType

/-! Expressions: what authors write where types, constraints, options and hooks are declared. An
expression is data in which declarations can stand, and it can be read as data again. -/

namespace RecordSchema

/-- The scalar that a host type stands for. -/
def HostType.primitive? : HostType → Option Primitive
  | .str => some .string
  | .int => some .integer
  | .float => some .float
  | .bool => some .boolean
  | .none => some .null
  | .any | .object => some .any
  | .bytes => Option.none

/-- An expression. One that is `constrained` is a type expression with constraints by keywords. Data
stands as `data` where it has no parts that could be declarations. -/
inductive Expr where
  | data (v : Value)
  | list (items : List Expr)
  | tuple (items : List Expr)
  | set (items : List Expr)
  | map (entries : List (Expr × Expr))
  | view (entries : List (Expr × Expr))
  | type (type : SchemaType)
  | constrained (base : Expr) (keywords : List (String × Expr))
  | constraint (c : Constraint)
  | schema (s : Schema)
  | catalog (id : CatalogId) (names : List String)
  | hook (hook : Hook)
  | derivedField (name : String) (type hook description examples extra constraints : Expr)
  | object (serial : Nat) (attributes : List (String × Expr))

namespace Expr

@[match_pattern] abbrev null : Expr := .data .null

@[match_pattern] abbrev str (s : String) : Expr := .data (.str s)

@[match_pattern] abbrev member (m : Member) : Expr := .data (.member m)

@[match_pattern] abbrev hostType (t : HostType) : Expr := .data (.hostType t)

mutual

/-- The expression as data. -/
def toValue : Expr → Value
  | .data v => v
  | .list items => .list (toValues items)
  | .tuple items => .tuple (toValues items)
  | .set items => .set (toValues items)
  | .map entries => .map (toEntries entries)
  | .view entries => .view (toEntries entries)
  | .type t => t.toValue
  | .constrained base keywords =>
    .record .constrained
      [("base", toValue base), ("constraints", .tuple (Value.tuplesOf (toParts keywords)))]
  | .constraint c => c.toValue
  | .schema s => s.toValue
  | .catalog id names => .foreign ⟨"SchemaCatalog", "", "<SchemaCatalog>", id, some names⟩
  | .hook h => h.toValue
  | .derivedField name t h description examples extra constraints =>
    .record .derivedField
      [("name", .str name), ("type", toValue t), ("hook", toValue h),
       ("description", toValue description), ("examples", toValue examples),
       ("extra", toValue extra), ("constraints", toValue constraints)]
  | .object _ attributes => .record .attributes (toParts attributes)

def toValues : List Expr → List Value
  | [] => []
  | e :: rest => toValue e :: toValues rest

def toEntries : List (Expr × Expr) → List (Value × Value)
  | [] => []
  | (k, e) :: rest => (toValue k, toValue e) :: toEntries rest

def toParts : List (String × Expr) → List (String × Value)
  | [] => []
  | (name, e) :: rest => (name, toValue e) :: toParts rest

end

mutual

/-- Data as an expression. -/
def ofValue : Value → Expr
  | .list items => .list (ofValues items)
  | .tuple items => .tuple (ofValues items)
  | .set items => .set (ofValues items)
  | .map entries => .map (ofEntries entries)
  | .view entries => .view (ofEntries entries)
  | v => .data v

def ofValues : List Value → List Expr
  | [] => []
  | v :: rest => ofValue v :: ofValues rest

def ofEntries : List (Value × Value) → List (Expr × Expr)
  | [] => []
  | (k, v) :: rest => (ofValue k, ofValue v) :: ofEntries rest

end

def literal (e : Expr) : String := e.toValue.literal

def text (e : Expr) : String := e.toValue.text

def isTrue (e : Expr) : Bool := e.toValue.isTrue

def className (e : Expr) : String := e.toValue.className

/-- Text, or the label of a member of an enumeration of texts. -/
def str? (e : Expr) : Option String := e.toValue.str?

def name? (e : Expr) : Option Name := e.toValue.name?

/-- Items of a list or tuple. -/
def sequence? : Expr → Option (List Expr)
  | .list items | .tuple items => some items
  | _ => none

/-- Entries of a mapping. -/
def entries? : Expr → Option (List (Expr × Expr))
  | .map entries | .view entries => some entries
  | _ => none

/-- What iteration over an expression yields. -/
def elements? : Expr → Option (List Expr)
  | .list items | .tuple items | .set items => some items
  | .map entries | .view entries => some (entries.map Prod.fst)
  | e => e.toValue.elements?.map fun vs => ofValues vs

end Expr

/-- Replaces the value of an equal key, which keeps its place and spelling, or adds an entry. -/
def putEntry : List (Expr × Expr) → Expr → Expr → List (Expr × Expr)
  | [], key, e => [(key, e)]
  | (k, v) :: rest, key, e =>
    if k.toValue.same key.toValue then (k, e) :: rest else (k, v) :: putEntry rest key e

/-- The entries of a mapping, given one after another. -/
def entriesOfPairs (pairs : List (Expr × Expr)) : List (Expr × Expr) :=
  pairs.foldl (fun done (key, e) => putEntry done key e) []

/-- The entry of a mapping under a text key. -/
def fieldOf? (entries : List (Expr × Expr)) (name : String) : Option Expr :=
  (entries.find? fun (k, _) => k.str? = some name).map Prod.snd

end RecordSchema
