import RecordSchema.Fault
import RecordSchema.Text.Occurrence
import RecordSchema.Value.Literal

/-! Hooks: functions that authors attach to a schema. A hook sees the fields collected so far, as a
map, and can change them in place. Calling it comes to a success or a failure, unless it raises an
exception of which no text can be had. -/

namespace RecordSchema

/-- What a hook comes to by itself. -/
inductive Reply where
  | success (value : Value)
  | failure (reason : Value)
  /-- It returned something else. -/
  | other (answer : Value)
  /-- It raised an exception of this class. Asking for its text is an operation of its own. -/
  | raised (className : String) (text : Except Fault String)

/-- An exception with a text. -/
def Reply.raising (className text : String) : Reply := .raised className (.ok text)

/-- A return of something of which no more is known than its class. -/
def Reply.ofClass (className : String) : Reply := .other (.foreign ⟨className, "", "", 0, none⟩)

/-- A function on data. The first part of its result is what it leaves of the data. Hooks are told
apart by their serial numbers. -/
structure Hook where
  run : Value → Value × Reply
  serial : Nat := 0
  className : String
  moduleName : Option String
  qualifiedName : Option String
  name : Option String

/-- The stage that a hook belongs to. -/
inductive HookStage where
  | crossField
  | derived
  deriving DecidableEq, Repr

def HookStage.label : HookStage → String
  | .crossField => "cross_field"
  | .derived => "derived"

/-- A hook in its place. A derived hook computes the field that it names. -/
structure PlacedHook where
  identity : String
  kind : HookStage
  hook : Hook
  fieldName : Option Name
  anonymous : Bool

/-- The outcome of a call. A fault is a failure that the hook did not report itself. -/
inductive Outcome where
  | success (value : Value)
  | failure (reason : Value) (fault : Bool)

namespace Hook

/-- The hook among data. -/
def toValue (hook : Hook) : Value :=
  let name := hook.name.getD hook.className
  .foreign ⟨hook.className, name, "<" ++ name ++ ">", hook.serial, none⟩

def isAnonymous (hook : Hook) : Bool :=
  match hook.qualifiedName with
  | none => true
  | some name =>
    Text.occursIn "<lambda>".toList name.toList || Text.occursIn "<locals>".toList name.toList

/-- The name of the function, or of its class. -/
def functionName (hook : Hook) : String := hook.name.getD hook.className

/-- The name under which failures are reported: that of the function, or for an anonymous one its
place in the schema, counted from one. -/
def identity (hook : Hook) (schema : String) (kind : HookStage) (position : Int)
    (fieldName : Option Name) : String :=
  match hook.isAnonymous, hook.qualifiedName, kind with
  | false, some name, _ =>
    let moduleName := match hook.moduleName with
      | none | some "" => "<unknown>"
      | some moduleName => moduleName
    moduleName ++ "." ++ name
  | _, _, .derived =>
    schema ++ ".<derived field '" ++ (fieldName.map Name.shown).getD "None" ++ "' #" ++
      toString position ++ ">"
  | _, _, .crossField => schema ++ ".<cross-field hook #" ++ toString position ++ ">"

def placed (hook : Hook) (schema : String) (kind : HookStage) (position : Int)
    (fieldName : Option Name) : PlacedHook where
  identity := hook.identity schema kind position fieldName
  kind := kind
  hook := hook
  fieldName := fieldName
  anonymous := hook.isAnonymous

/-- Calls a hook. Gives the data as the hook leaves it, and the outcome. -/
def invoke (hook : Hook) (data : Value) : Except Fault (Value × Outcome) :=
  match hook.run data with
  | (left, .success value) => return (left, .success value)
  | (left, .failure reason) => return (left, .failure reason false)
  | (left, .other answer) =>
    let message := "hook returned " ++ answer.className ++ ", expected Success or Failure"
    return (left, .failure (.str message) true)
  | (left, .raised className text) => do
    return (left, .failure (.str ("hook raised " ++ className ++ ": " ++ (← text))) true)

end Hook
end RecordSchema
