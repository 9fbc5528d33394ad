import RecordSchema.Options.Basic

/-! Settings: defaults for options, read from the environment and from overrides. -/

namespace RecordSchema

structure Settings where
  debug : Bool := false
  strictDefault : Bool := false
  materializeDefault : Bool := false
  definitionsKey : String := "definitions"
  resolveMaxDepth : Nat := 10
  defaultProfile : String := "generic"
  deriving DecidableEq, Repr

namespace Settings

def declared : List String :=
  ["debug", "strict_default", "materialize_default", "definitions_key", "resolve_max_depth",
   "default_profile"]

/-- A depth below zero is refused after it is read. -/
def depth : Options.Reader Nat := fun e => do
  match ← Options.int e with
  | .ofNat n => return n
  | .negSucc _ => throw .refused

/-- Profile names are trimmed and in lower case. -/
def profile : Options.Reader String := fun e => do
  return Text.lower (String.ofList (Text.trim (← Options.text e).toList))

def ofGiven (given : Options.Given) : Except (List Cause) Settings :=
  let (debug, c₁) := Options.read given "debug" Options.flag false
  let (strictDefault, c₂) := Options.read given "strict_default" Options.flag false
  let (materializeDefault, c₃) := Options.read given "materialize_default" Options.flag false
  let (definitionsKey, c₄) :=
    Options.read given "definitions_key" Options.definitionsKey "definitions"
  let (resolveMaxDepth, c₅) := Options.read given "resolve_max_depth" depth 10
  let (defaultProfile, c₆) := Options.read given "default_profile" profile "generic"
  Options.settle
    { debug, strictDefault, materializeDefault, definitionsKey, resolveMaxDepth, defaultProfile }
    (c₁ ++ c₂ ++ c₃ ++ c₄ ++ c₅ ++ c₆ ++ Options.unknown declared given)

def toValue (s : Settings) (told : List String) : Value :=
  Options.toValue "Settings" told
    [("debug", .bool s.debug), ("strict_default", .bool s.strictDefault),
     ("materialize_default", .bool s.materializeDefault),
     ("definitions_key", Options.ofDefinitionsKey s.definitionsKey),
     ("resolve_max_depth", .int s.resolveMaxDepth), ("default_profile", .str s.defaultProfile)]

end Settings
end RecordSchema
