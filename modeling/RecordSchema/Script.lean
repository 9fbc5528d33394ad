import RecordSchema.Hook
import RecordSchema.Value.Access

/-! Scripts: hooks that are written down instead of compiled. A script works on the fields like any
hook does; it ends with a reply, or with an exception where a term has no value.

The data that a script works on can be put into itself. So terms have values in which `back` to the
label of the data stands for the data as it is at the moment; they are closed when they are
compared, written or answered with. -/

namespace RecordSchema

namespace Script

inductive Term where
  | literal (v : Value)
  | fields
  | field (key : Value)
  | has (key : Value)
  | fieldOr (key : Value) (fallback : Term)
  | withEntry (base : Term) (key : Value) (value : Term)
  | withoutEntry (base : Term) (key : Value)
  | add (left right : Term)
  | mul (left right : Term)
  | less (left right : Term)
  | concat (parts : List Term)
  | keys (base : Term)
  | count (base : Term)
  | equal (left right : Term)
  | negate (operand : Term)

inductive Statement where
  | set (key : Value) (value : Term)
  | delete (key : Value)
  | onlyIf (condition : Term) (body : List Statement)
  | succeed (value : Term)
  | fail (reason : Term)
  | answer (value : Term)
  | raise (className : String) (arguments : List Value)

/-- The data of a script: a map or list under a label, or a value that cannot be changed. -/
structure Held where
  label : Nat
  body : Value

namespace Held

/-- The data of a script, under its own label if it has one. -/
def ofValue (v : Value) : Held :=
  match v with
  | .ring label body => ⟨label, body⟩
  | v => ⟨v.lastNumber + 1, v⟩

/-- The data for what comes after the script. -/
def toValue (held : Held) : Value := Value.ringed held.label held.body

/-- A value for what comes after the script. -/
def close (held : Held) (v : Value) : Value := Value.replace held.label held.toValue v

/-- The value itself, or what it stands for. -/
def reach (held : Held) : Value → Value
  | .back l => if l = held.label then held.body else .back l
  | v => v.unfolded

end Held

/-- What a term comes to. The state is the last number that is in use. -/
abbrev Computing := StateT Nat (Except Raised)

/-- A number that is not in use. -/
def fresh : Computing Nat := modifyGet fun n => (n + 1, n + 1)

/-- A number as floating-point number. -/
def toFloat : Value → Except Raised Binary64
  | .float x => .ok x
  | .nan _ => .ok .nan
  | .int n =>
    match Binary64.ofInt? n with
    | some x => .ok x
    | none => .error ⟨"OverflowError", .ok "int too large to convert to float"⟩
  | _ => .error (.wrongType "numbers expected")

/-- A result. Each one that is no number is one of its own. -/
def ofFloat : Binary64 → Computing Value
  | .nan => return .nan (.made (← fresh))
  | x => return .float x

/-- Integers stay integers; with a floating-point number both become one. -/
def arithmetic (onInts : Int → Int → Int) (onFloats : Binary64 → Binary64 → Binary64) :
    Value → Value → Computing Value
  | .int a, .int b => return .int (onInts a b)
  | a, b => do
    if a.number?.isNone || b.number?.isNone then throw (.wrongType "numbers expected")
    let x ← toFloat a
    let y ← toFloat b
    ofFloat (onFloats x y)

def compare (a b : Value) : Except Raised Value :=
  match a.number?, b.number? with
  | some x, some y => .ok (.bool (x.lt y))
  | _, _ => .error (.wrongType "numbers expected")

/-- The text of a value. Integers with too many digits have none. -/
def textOf (v : Value) : Except Raised String :=
  if v.hasText then .ok v.text else .error (.badValue Value.tooLongText)

/-- A new map or list. It gets a label if the data is in it, as it could come to be in the data. -/
def new (held : Held) (v : Value) : Computing Value := do
  if v.mentions held.label then return .ring (← fresh) v else return v

def areEqual (v w : Value) : Except Raised Value :=
  match v.equal? w with
  | some b => .ok (.bool b)
  | none => .error ⟨"RecursionError", .ok "maximum recursion depth exceeded in comparison"⟩

mutual

/-- The value of a term on data. -/
def Term.eval (held : Held) : Term → Computing Value
  | .literal v => return v
  | .fields => return .back held.label
  | .field key => held.body.item key
  | .has key => do return .bool (← held.toValue.unfolded.contains key)
  | .fieldOr key fallback => do
    let ask ← held.body.asked
    let fallback ← fallback.eval held
    ask key fallback
  | .withEntry base key value => do
    let base ← base.eval held
    let v ← value.eval held
    let entries ← (held.reach base).mappingEntries
    key.requireKey
    new held (.map (entries.put key v))
  | .withoutEntry base key => do
    let entries ← (held.reach (← base.eval held)).listedEntries
    new held (.map (entries.filter fun (k, _) => !k.equal key))
  | .add left right => do
    let left ← left.eval held
    let right ← right.eval held
    arithmetic (· + ·) Binary64.add left right
  | .mul left right => do
    let left ← left.eval held
    let right ← right.eval held
    arithmetic (· * ·) Binary64.mul left right
  | .less left right => do
    let left ← left.eval held
    let right ← right.eval held
    compare left right
  | .concat parts => do return .str (String.join (← evalTexts held parts))
  | .keys base => do new held (.list (← (held.reach (← base.eval held)).iterate))
  | .count base => do return .int (← (held.reach (← base.eval held)).count)
  | .equal left right => do
    let left ← left.eval held
    let right ← right.eval held
    areEqual (held.close left) (held.close right)
  | .negate operand => do return .bool !(held.reach (← operand.eval held)).isTrue

def evalTexts (held : Held) : List Term → Computing (List String)
  | [] => return []
  | term :: rest => do
    let v ← term.eval held
    let text ← textOf (held.close v)
    return text :: (← evalTexts held rest)

end

/-- What a script has come to: its data, the last number in use, and a reply if there is one. -/
structure State where
  held : Held
  last : Nat
  reply : Option Reply := none

namespace State

def raising (state : State) (e : Raised) : State :=
  { state with reply := some (.raised e.className e.text) }

/-- Goes on with the value of a term, or ends with the exception that it comes to. -/
def withValue (state : State) (term : Term) (next : State → Value → State) : State :=
  match (term.eval state.held).run state.last with
  | .ok (v, last) => next { state with last } v
  | .error e => state.raising e

/-- Replies with the value of a term. -/
def replyWith (state : State) (term : Term) (reply : Value → Reply) : State :=
  state.withValue term fun state v =>
    { state with reply := some (reply (state.held.close v)) }

/-- Goes on with changed data, or ends with the exception that kept it from being changed. -/
def change (state : State) : Except Raised Value → State
  | .ok body => { state with held := { state.held with body } }
  | .error e => state.raising e

end State

mutual

/-- Runs a statement. -/
def Statement.run (state : State) : Statement → State
  | .set key value =>
    state.withValue value fun state v => state.change (state.held.body.withItem key v)
  | .delete key => state.change (state.held.body.withoutItem key)
  | .onlyIf condition body =>
    match (condition.eval state.held).run state.last with
    | .ok (v, last) =>
      let state := { state with last }
      if (state.held.reach v).isTrue then runAll state body else state
    | .error e => state.raising e
  | .succeed value => state.replyWith value .success
  | .fail reason => state.replyWith reason .failure
  | .answer value => state.replyWith value .other
  | .raise className arguments => state.raising (Raised.ofArguments className arguments)

/-- Runs statements in order until one comes to a reply. -/
def runAll (state : State) : List Statement → State
  | [] => state
  | statement :: rest =>
    let state := statement.run state
    if state.reply.isSome then state else runAll state rest

end

/-- The hook that a script is. Without a reply it answers with nothing. -/
def run (body : List Statement) (data : Value) : Value × Reply :=
  let held := Held.ofValue data
  let state := runAll { held, last := max held.label data.lastNumber } body
  (state.held.toValue, state.reply.getD (.other .null))

end Script

namespace Hook

/-- A function under a qualified name, of which the last part is its own. -/
def ofFunction (serial : Nat) (body : List Script.Statement) (moduleName : Option String)
    (qualifiedName : String) (name : Option String) : Hook where
  run := Script.run body
  serial := serial
  className := "function"
  moduleName := moduleName
  qualifiedName := some qualifiedName
  name := some (name.getD ((qualifiedName.splitOn ".").getLastD qualifiedName))

/-- An object that can be called; it has no name of its own. -/
def ofInstance (serial : Nat) (body : List Script.Statement) (moduleName : Option String)
    (className : String) : Hook where
  run := Script.run body
  serial := serial
  className := className
  moduleName := moduleName
  qualifiedName := none
  name := none

end Hook
end RecordSchema
