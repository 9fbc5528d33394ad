import RecordSchema.Options.Basic

/-! Bases: what options are given on top of. Anything at hand can be named as a base. Where it is no
record of the options that are asked for, it serves as long as none of them is consulted. -/

namespace RecordSchema.Options

/-- Options that are known beforehand: none, those that are asked for, or something else, with its
parts if it is a record of other options. -/
inductive Base (α : Type) where
  | absent
  | own (options : α)
  | other (parts : Option Given)

/-- Something else as a base. What counts as false is as good as none. -/
def Base.ofValue {α : Type} (v : Value) : Base α :=
  if !v.isTrue then .absent
  else match v with
    | .record (.options _ _) parts => .other (some (parts.map fun (name, v) => (name, .data v)))
    | _ => .other none

/-- Sets an option, which keeps its place among the others. -/
def put (name : String) (e : Expr) : Given → Given
  | [] => [(name, e)]
  | (other, old) :: rest =>
    if other = name then (name, e) :: rest else (other, old) :: put name e rest

/-- Options with those given in place of their own. -/
def update (options given : Given) : Given :=
  given.foldl (fun done (name, e) => put name e done) options

/-- Reads the options of an operation on top of a base. There are none if nothing is given on top of
something else. -/
def Taker.takeOn {α : Type} (taker : Taker) (given : Given) (base : Base α) (fallback : α)
    (override : α → Given → Except (List Cause) α) : Except Fault (Option α) :=
  match base, given with
  | .absent, given => some <$> taker.take given (override fallback)
  | .own options, given => some <$> taker.take given (override options)
  | .other _, [] => return none
  | .other none, given => do
    taker.take given fun _ => .ok ()
    throw .missingPart
  | .other (some parts), given =>
    some <$> taker.take given fun given => override fallback (update parts given)

/-- Reads the options of an operation that has no use for anything else as a base. -/
def Taker.takeOwn {α : Type} (taker : Taker) (given : Given) (base : Base α) (fallback : α)
    (override : α → Given → Except (List Cause) α) : Except Fault α :=
  match base with
  | .absent => taker.take given (override fallback)
  | .own options => taker.take given (override options)
  | .other _ => do
    taker.take given fun _ => .ok ()
    throw .missingPart

end RecordSchema.Options
