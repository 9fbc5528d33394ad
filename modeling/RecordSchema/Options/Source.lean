import RecordSchema.Options.Arguments
import RecordSchema.Options.Settings
import RecordSchema.Value.Access

/-! Sources of settings: the environment, overrides, which win over it, and the arguments of a
command, which win over both. -/

namespace RecordSchema.Settings

/-- How settings are found: what the variables of the environment start with, whether case counts,
whether empty variables are as good as none, which text stands for null, and whether members of an
enumeration go by their names as well. -/
structure Source where
  start : String := "SCHEMA_ENGINE_"
  caseCounts : Bool := false
  ignoresEmpty : Bool := false
  nullText : Option String := none
  namesMembers : Bool := false

namespace Source

/-- Parameters that say where settings are taken from, and which no setting is. -/
def parameters : List String :=
  ["_case_sensitive", "_nested_model_default_partial_update", "_env_prefix", "_env_prefix_target",
   "_env_file", "_env_file_encoding", "_env_file_depth", "_env_ignore_empty",
   "_env_nested_delimiter", "_env_nested_max_split", "_env_parse_none_str", "_env_parse_enums",
   "_cli_prog_name", "_cli_parse_args", "_cli_settings_source", "_cli_parse_none_str",
   "_cli_hide_none_type", "_cli_avoid_json", "_cli_enforce_required",
   "_cli_use_class_docs_for_groups", "_cli_exit_on_error", "_cli_prefix", "_cli_flag_prefix_char",
   "_cli_implicit_flags", "_cli_ignore_unknown_args", "_cli_kebab_case", "_cli_shortcuts",
   "_cli_show_env_vars", "_secrets_dir", "_build_sources"]

/-- What a parameter says; null is as good as nothing. -/
def parameter? (given : Options.Given) (name : String) : Option Expr :=
  (given.lookup name).filter fun e =>
    match e with
    | .null => false
    | _ => true

def flag (given : Options.Given) (name : String) (unsaid : Bool := false) : Bool :=
  ((parameter? given name).map Expr.isTrue).getD unsaid

/-- Text, unless nothing is said. -/
def requireText : Option Expr → Except Fault Unit
  | none => .ok ()
  | some e => if e.str?.isSome then .ok () else .error .wrongType

/-- One path or several, unless nothing is said. None of them leads anywhere. -/
def requirePaths : Option Expr → Except Fault Unit
  | none => .ok ()
  | some e =>
    if e.str?.isSome then .ok ()
    else do
      let paths ← e.toValue.iterate.mapError Raised.fault
      if paths.all (·.str?.isSome) then return else throw .wrongType

/-- A number, unless nothing is said; what counts as false is as good as zero. -/
def requireNumber : Option Expr → Except Fault Unit
  | none => .ok ()
  | some e => if !e.isTrue || e.toValue.quantity?.isSome then .ok () else .error .wrongType

/-- Whether variables start with what they are said to start with. -/
def targetsVariables : Option Expr → Bool
  | none => true
  | some e => e.str?.any ["variable", "all"].contains

def ofGiven (given : Options.Given) : Except Fault Source := do
  let start := parameter? given "_env_prefix"
  requireText start
  requireNumber (parameter? given "_env_nested_max_split")
  requirePaths (parameter? given "_env_file")
  requirePaths (parameter? given "_secrets_dir")
  return {
    start :=
      if targetsVariables (parameter? given "_env_prefix_target") then
        (start.bind Expr.str?).getD "SCHEMA_ENGINE_"
      else ""
    caseCounts := flag given "_case_sensitive"
    ignoresEmpty := flag given "_env_ignore_empty"
    nullText := (parameter? given "_env_parse_none_str").bind Expr.str?
    namesMembers := flag given "_env_parse_enums" }

/-- Whether two names are one. -/
def agree (source : Source) (name other : String) : Bool :=
  if source.caseCounts then name = other else Text.lower name = Text.lower other

/-- The member of an enumeration that a setting calls by name. -/
def member? (source : Source) (setting value : String) : Option String :=
  if source.namesMembers && setting = "definitions_key" then
    [("DEFINITIONS", "definitions"), ("DEFS", "$defs")].lookup value
  else none

/-- What a text says about a setting. -/
def valueOf (source : Source) (setting value : String) : Expr :=
  match source.member? setting value with
  | some member => .str member
  | none => if source.nullText = some value then .null else .str value

/-- What the environment says. Of variables whose names are one the last counts. -/
def read (source : Source) (environment : List (String × String)) : Options.Given :=
  environment.filterMap fun (name, value) =>
    if source.ignoresEmpty && value.isEmpty then none
    else (declared.find? fun setting => source.agree (source.start ++ setting) name).map
      fun setting => (setting, source.valueOf setting value)

/-- The arguments of a command that are to be read. -/
def arguments : Option Expr → Except Fault (List String)
  | none => .ok []
  | some e =>
    match e.toValue with
    | .list items | .tuple items => do
      if items.all (·.str?.isSome) then return items.filterMap Value.str? else throw .wrongType
    | .bool _ => .ok []
    | v => if v.equal (.bool false) then .ok [] else .error (.raised "SettingsError")

/-- What the arguments of a command say. Members of an enumeration always go by their names. -/
def readArguments (source : Source) (given : Options.Given) : Except Fault Options.Given := do
  let rules : Options.ArgumentRules := {
    caseCounts := source.caseCounts
    passesOver := flag given "_cli_ignore_unknown_args"
    ends := flag given "_cli_exit_on_error" true }
  let nullText :=
    source.nullText.or ((parameter? given "_cli_parse_none_str").bind Expr.str?)
  let source := { source with nullText := nullText.or (some "null"), namesMembers := true }
  let said ← rules.read declared (← arguments (parameter? given "_cli_parse_args"))
  return said.map fun (setting, value) => (setting, source.valueOf setting value)

end Source

/-- What an environment can hold: variables with a name, and no zero character in them. -/
def requireSettable (name value : String) : Except Fault Unit :=
  if name.contains '\x00' || value.contains '\x00' || name.contains '=' then .error .badValue
  else if name.isEmpty then .error (.raised "OSError")
  else .ok ()

/-- Sets a variable, which keeps its place among the others. -/
def setVariable (name value : String) : List (String × String) → List (String × String)
  | [] => [(name, value)]
  | (other, old) :: rest =>
    if other = name then (name, value) :: rest else (other, old) :: setVariable name value rest

/-- Overrides under the names of the settings that they are for, in any case. Of several for one
setting the first counts. -/
def overrides (given : Options.Given) : Options.Given :=
  let isFor (setting name : String) : Bool := Text.lower name = setting
  let unknown := given.filter fun (name, _) => !declared.any (isFor · name)
  (declared.filterMap fun setting =>
    (given.find? fun (name, _) => isFor setting name).map fun (_, e) => (setting, e)) ++ unknown

/-- What is given by variables of the environment, which are set one after another, by overrides and
by arguments. -/
def collect (environment : List (String × String)) (given : Options.Given) :
    Except Fault Options.Given := do
  let source ← Source.ofGiven given
  let listed := environment.foldl (fun done (name, value) => setVariable name value done) []
  let plain := given.filter fun (name, _) => !Source.parameters.contains name
  return source.read listed ++ overrides plain ++ (← source.readArguments given)

/-- Sources that are given as such, with something beside them. Only if there are none of them
settings can be made, and then nothing is given. -/
def ofSources (sources : Expr) : Except Fault Options.Given := do
  match ← sources.toValue.iterate.mapError Raised.fault with
  | [sources, _] => if sources.isTrue then throw .wrongType else return []
  | _ => throw .badValue

/-- Settings from all sources, and the names of those that are given. -/
def load (environment : List (String × String)) (given : Options.Given) :
    Except Fault (Settings × List String) := do
  environment.forM fun (name, value) => requireSettable name value
  let said ← match Source.parameter? given "_build_sources" with
    | some sources => ofSources sources
    | none => collect environment given
  return (← Options.Taker.settings.take given fun _ => ofGiven said, Options.names said)

end RecordSchema.Settings
