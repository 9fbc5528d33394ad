import RecordSchema.Number.Decimal
import RecordSchema.Pattern.Basic
import RecordSchema.Text.Quoted
import RecordSchema.Value.Basic

/-! Values as text: in full, as they stand inside of other values and in messages, and plainly. -/

namespace RecordSchema

/-- Text between brackets, parted by commas. -/
def bracketed (opening closing : String) (parts : List String) : String :=
  opening ++ ", ".intercalate parts ++ closing

/-- A tuple with one part keeps a comma. -/
def tupleText : List String → String
  | [part] => "(" ++ part ++ ",)"
  | parts => bracketed "(" ")" parts

/-- Text or null. -/
def optionText : Option String → String
  | none => "None"
  | some text => Text.quote text

def boolText (b : Bool) : String := if b then "True" else "False"

def Step.literal : Step → String
  | .name text => Text.quote text
  | .index n => toString n

/-- The parts of a violation, each with its name. Its kind shows as a member. -/
def Violation.shownParts (v : Violation) : List String :=
  ["path=" ++ bracketed "[" "]" (v.path.map Step.literal), "kind=" ++ v.kind.member.literal,
   "message=" ++ Text.quote v.message, "constraint=" ++ optionText v.constraint,
   "hook=" ++ optionText v.hook]

namespace Value

/-- A part of a record. -/
def part (parts : List (String × Value)) (name : String) : Value := (parts.lookup name).getD .null

/-- A compiled pattern with its flags, of which it shows no more than the beginning. Patterns for
text need not say that they are. -/
def patternText (parts : List (String × Value)) : String :=
  let bits := (((part parts "flags").integer?).getD 0).toNat
  let (source, implied) := match part parts "pattern" with
    | .str s => (Text.quote s, [Pattern.Flag.unicode])
    | .bytes content => (Text.quoteBytes content, [])
    | _ => ("", [])
  let flags := (Pattern.Flags.ofBits bits).filter (!implied.contains ·)
  let shown := if flags.isEmpty then "" else ", " ++ "|".intercalate (flags.map fun f => "re." ++ f.label)
  "re.compile(" ++ String.ofList (source.toList.take 200) ++ shown ++ ")"

mutual

/-- The value as it stands inside of other values. Rings around it, which are given by their labels
and with what stands for them, are not written again. -/
def literalWithin (rings : List (Nat × String)) : Value → String
  | .null => "None"
  | .bool b => boolText b
  | .int n => toString n
  | .float x => x.render
  | .nan _ => "nan"
  | .str s => Text.quote s
  | .member m => m.literal
  | .bytes content => Text.quoteBytes content
  | .list items => bracketed "[" "]" (literals rings items)
  | .tuple items => tupleText (literals rings items)
  | .set [] => "set()"
  | .set items => bracketed "\x7b" "\x7d" (literals rings items)
  | .map entries => bracketed "\x7b" "\x7d" (entryLiterals rings entries)
  | .view entries => bracketed "mappingproxy(\x7b" "\x7d)" (entryLiterals rings entries)
  | .record (.schema _ text) _ => text
  | .record .compiled parts => patternText parts
  | .record .attributes parts => bracketed "namespace(" ")" (partLiterals rings .attributes parts)
  | .record kind parts => bracketed (kind.className ++ "(") ")" (partLiterals rings kind parts)
  | .violation v => bracketed "ValidationError(" ")" v.shownParts
  | .hostType t => t.literal
  | .foreign thing => thing.text
  | .ring label body =>
    match rings.lookup label with
    | some shown => shown
    | none => literalWithin ((label, ellipsis body) :: rings) body
  | .back label => (rings.lookup label).getD "..."
where
  /-- What stands for data inside of itself. -/
  ellipsis : Value → String
    | .list _ => "[...]"
    | _ => "\x7b...\x7d"

def literals (rings : List (Nat × String)) : List Value → List String
  | [] => []
  | v :: rest => literalWithin rings v :: literals rings rest

def entryLiterals (rings : List (Nat × String)) : List (Value × Value) → List String
  | [] => []
  | (k, v) :: rest =>
    (literalWithin rings k ++ ": " ++ literalWithin rings v) :: entryLiterals rings rest

def partLiterals (rings : List (Nat × String)) (kind : RecordKind) :
    List (String × Value) → List String
  | [] => []
  | (name, v) :: rest =>
    if kind.hides name then partLiterals rings kind rest
    else (name ++ "=" ++ literalWithin rings v) :: partLiterals rings kind rest

end

/-- The value as it stands inside of other values. -/
def literal (v : Value) : String := literalWithin [] v

/-- The value as text. Text, members, views, constraints, options and violations differ from their
literal. -/
def text : Value → String
  | .str s => s
  | .member m => m.text
  | .view entries => (Value.map entries).literal
  | .record .constraint parts =>
    ((part parts "kind").str?.getD "") ++ "=" ++ (part parts "value").literal
  | .record (.options name unset) parts =>
    " ".intercalate (partLiterals [] (.options name unset) parts)
  | .violation v => " ".intercalate v.shownParts
  | v => v.literal

/-- The text that a value holds: text itself, or bytes that encode text. -/
def decoded? : Value → Option String
  | .bytes content => String.fromUTF8? ⟨content.toArray⟩
  | v => v.str?

/-- The step to the value of an entry with this key; booleans count as numbers. -/
def step (key : Value) : Step :=
  match key.str?, key.integer? with
  | some s, _ => .name s
  | none, some n => .index n
  | none, none => .name key.text

/-- The step to the value of an entry with this key, with booleans as text. -/
def keyStep (key : Value) : Step :=
  match key.str?, key with
  | some s, _ => .name s
  | none, .int n => .index n
  | none, key => .name key.text

end Value
end RecordSchema
