import RecordSchema.Text.Template
import RecordSchema.Value.Access

/-! Reports on violations that are given as data, where also other things can stand: places of any
values, and texts among the violations. -/

namespace RecordSchema.Report

/-- Integers, and truth values, are indices. -/
def indexText? : Value → Option String
  | .int n => some ("[" ++ toString n ++ "]")
  | .bool b => some ("[" ++ boolText b ++ "]")
  | _ => none

def innerText (v : Value) : String := (indexText? v).getD ("." ++ v.text)

/-- The text of a path of any values. -/
def location : List Value → String
  | [] => "<root>"
  | v :: rest => (indexText? v).getD v.text ++ String.join (rest.map innerText)

/-- The path of a violation that is seen from further out: nothing stands for no change. -/
def pathUnder (outer : Value) (v : Violation) : Except Fault (List Value) := do
  let own := v.path.map Step.toValue
  if outer.isTrue then return (← outer.iterate.mapError Raised.fault) ++ own else return own

def templateFault : Text.TemplateError → Fault
  | .form => .badValue
  | .place => .raised "IndexError"
  | .name => .missingKey

/-- A line of a report: a violation, or a text, which is taken as a template. -/
def line (v : Value) : Except Fault String :=
  match v, v.str? with
  | .violation v, _ => .ok v.format
  | _, some text => ((Text.Template.expand text.toList).mapError templateFault).map String.ofList
  | .hostType .str, none => .error .wrongType
  | _, none => .error (v.lacks "format").fault

/-- The report on everything that a value yields. -/
def format (v : Value) : Except Fault String := do
  if !v.isTrue then return "no errors"
  return "\n".intercalate (← (← v.iterate.mapError Raised.fault).mapM line)

end RecordSchema.Report
