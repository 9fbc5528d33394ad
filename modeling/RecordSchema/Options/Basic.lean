import RecordSchema.Expr
import RecordSchema.Options.Integer
import RecordSchema.Value.Extent

/-! Options given by name. Each declared option is read by a rule that may convert what is given;
all that is wrong is reported, in the order of declaration, before options that are not declared. -/

namespace RecordSchema.Options

/-- Options as they are given. -/
abbrev Given := List (String × Expr)

/-- How an option is read. -/
abbrev Reader (α : Type) := Expr → Except CauseKind α

/-- Text, or bytes that encode text. -/
def text : Reader String := fun e => e.toValue.readText

def nonEmptyText : Reader String := fun e => do
  let s ← text e
  if s.isEmpty then throw .stringTooShort else return s

/-- Null, or what the reader accepts. -/
def optional {α : Type} (reader : Reader α) : Reader (Option α)
  | .null => .ok none
  | e => (reader e).map some

def flagWords : List (String × Bool) :=
  [("true", true), ("t", true), ("yes", true), ("y", true), ("on", true), ("1", true),
   ("false", false), ("f", false), ("no", false), ("n", false), ("off", false), ("0", false)]

/-- A word for a truth value, in any case. -/
def flagOfWord (word : String) : Except CauseKind Bool :=
  match flagWords.lookup (word.map fun c => if c.isUpper then c.toLower else c) with
  | some b => .ok b
  | none => .error .boolParsing

def flagOfInt : Int → Except CauseKind Bool
  | 0 => .ok false
  | 1 => .ok true
  | _ => .error .boolParsing

/-- The integer that a number equals. Only numbers strictly between the ends of a machine word are
read. -/
def integerOfFloat (x : Binary64) : Except CauseKind Int :=
  match x.quantity, x.toInt? with
  | .finite _, some n =>
    if -Word.bound < n ∧ n < Word.bound then .ok n else .error .intParsingSize
  | .finite _, none => .error .intFromFloat
  | _, _ => .error .notFinite

/-- A truth value, a word for one, or the number 0 or 1. -/
def flag : Reader Bool := fun e =>
  match e.toValue.decoded?, e.toValue with
  | some s, _ => flagOfWord s
  | none, .bytes _ => .error .boolParsing
  | none, .bool b => .ok b
  | none, .int n => if Word.holds n then flagOfInt n else .error .boolType
  | none, .float x =>
    match integerOfFloat x with
    | .ok n => flagOfInt n
    | .error _ => .error .boolType
  | none, _ => .error .boolType

/-- An integer, a number equal to one, a truth value, or digits. -/
def int : Reader Int := fun e =>
  match e.toValue.decoded?, e.toValue with
  | some s, _ => integerOfText s
  | none, .bytes _ => .error .intParsing
  | none, .int n => .ok n
  | none, .bool b => .ok (if b then 1 else 0)
  | none, .float x => integerOfFloat x
  | none, .nan _ => .error .notFinite
  | none, _ => .error .intType

def natural : Reader Nat := fun e => do
  match ← int e with
  | .ofNat n => return n
  | .negSucc _ => throw .belowMinimum

/-- Items of what is neither text nor a mapping. -/
def list : Reader (List Expr) := fun e =>
  match e.elements? with
  | some items =>
    if e.entries?.isSome || e.toValue.decoded?.isSome then .error .listType
    else match e.toValue with
      | .bytes _ => .error .listType
      | _ => .ok items
  | none => .error .listType

def catalog : Reader CatalogId
  | .catalog id _ => .ok id
  | _ => .error .instanceType

def any : Reader Expr := .ok

/-- The option under a name, read if it is given, and else the fallback, with what is wrong. -/
def read {α : Type} (given : Given) (name : String) (reader : Reader α) (fallback : α) :
    α × List Cause :=
  match given.reverse.lookup name with
  | none => (fallback, [])
  | some e =>
    match reader e with
    | .ok value => (value, [])
    | .error kind => (fallback, [⟨kind, [.name name]⟩])

/-- Options that are not declared. -/
def unknown (declared : List String) (given : Given) : List Cause :=
  (given.map Prod.fst).filterMap fun name =>
    if declared.contains name then none else some ⟨.unknownEntry, [.name name]⟩

/-- The options, if nothing is wrong with them. -/
def settle {α : Type} (options : α) (causes : List Cause) : Except (List Cause) α :=
  if causes.isEmpty then .ok options else .error causes

/-- The operations that take options, most of them beside parameters of their own. -/
inductive Taker where
  | alone
  | schema
  | merge
  | preset
  | settings
  | fromSettings
  | generation
  | change
  deriving DecidableEq, Repr

/-- The names of the parameters, which no option can have. -/
def Taker.parameters : Taker → List String
  | .alone => []
  | .schema => ["field_defs", "options", "self"]
  | .merge => ["self"]
  | .preset => ["cls", "name"]
  | .settings => ["__pydantic_self__"]
  | .fromSettings => ["cls", "settings"]
  | .generation => ["registry", "options"]
  | .change => ["document", "options"]

/-- Reads the options of an operation. -/
def Taker.take {α : Type} (taker : Taker) (given : Given)
    (reading : Given → Except (List Cause) α) : Except Fault α :=
  if given.any fun (name, _) => taker.parameters.contains name then .error .wrongType
  else (reading given).mapError .unfit

/-- Options among data, under the name of their class. Those that were told are not left to their
defaults. -/
def toValue (className : String) (told : List String) (parts : List (String × Value)) : Value :=
  .record (.options className ((parts.map Prod.fst).filter (!told.contains ·))) parts

/-- The names of options that are given. -/
def names (given : Given) : List String := given.map Prod.fst

def ofText (text : Option String) : Value := (text.map Value.str).getD .null

def ofCatalog (id : Option CatalogId) : Value := (id.map CatalogId.toValue).getD .null

/-- A key for definitions as a member of its enumeration. -/
def ofDefinitionsKey (key : String) : Value :=
  .member ⟨"DefinitionsKey", if key = "$defs" then "DEFS" else "DEFINITIONS", key⟩

/-- The key of a document under which definitions stand. -/
def definitionsKey : Reader String := fun e =>
  match e.toValue.decoded? with
  | some "definitions" => .ok "definitions"
  | some "$defs" => .ok "$defs"
  | _ => .error .notListed

end RecordSchema.Options
