import RecordSchema.Options.Basic

/-! Options among the arguments of a command. An option goes by `--name value` or by
`--name=value`. -/

namespace RecordSchema.Options

/-- How arguments are read: whether the case of names counts, whether arguments that say nothing
about an option are passed over, and whether others end the command. -/
structure ArgumentRules where
  caseCounts : Bool := false
  passesOver : Bool := false
  ends : Bool := true

namespace ArgumentRules

/-- What comes of arguments that cannot be read. -/
def refusal (rules : ArgumentRules) : Fault :=
  .raised (if rules.ends then "SystemExit" else "SettingsError")

/-- The name after two dashes, if it is the name of an option. -/
def named? (rules : ArgumentRules) (names : List String) (argument : List Char) : Option String :=
  match argument with
  | '-' :: '-' :: rest =>
    let name := String.ofList rest
    names.find? (· = if rules.caseCounts then name else Text.lower name)
  | _ => none

/-- An option with its value in one argument. -/
def joined? (rules : ArgumentRules) (names : List String) (argument : String) :
    Option (String × String) :=
  let left := argument.toList.takeWhile (· ≠ '=')
  match argument.toList.drop left.length with
  | _ :: value => (rules.named? names left).map (·, String.ofList value)
  | [] => none

/-- Digits after a minus sign, with or without a fraction. -/
def isNegative : List Char → Bool
  | '-' :: rest =>
    let whole := rest.takeWhile Char.isDigit
    match rest.drop whole.length with
    | [] => !whole.isEmpty
    | '.' :: fraction => !fraction.isEmpty && fraction.all Char.isDigit
    | _ => false
  | _ => false

/-- Whether an argument can be the value of an option, rather than an option itself. -/
def isPlain (rules : ArgumentRules) (names : List String) (argument : String) : Bool :=
  match argument.toList with
  | '-' :: rest =>
    rest.isEmpty || ((rules.joined? names argument).isNone &&
      (isNegative argument.toList || rest.contains ' '))
  | _ => true

/-- The options among arguments, in order. -/
def read (rules : ArgumentRules) (names : List String) :
    List String → Except Fault (List (String × String))
  | [] => .ok []
  | argument :: rest =>
    match rules.joined? names argument, rules.named? names argument.toList with
    | some option, _ => do return option :: (← read rules names rest)
    | none, none => if rules.passesOver then read rules names rest else .error rules.refusal
    | none, some name =>
      match rest with
      | [] => .error rules.refusal
      | value :: rest =>
        if rules.isPlain names value then do return (name, value) :: (← read rules names rest)
        else .error rules.refusal

end ArgumentRules
end RecordSchema.Options
