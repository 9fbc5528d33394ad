import RecordSchema.Number.Word
import RecordSchema.Text.Word

/-! Templates: text in which fields stand in braces. Doubled braces are text. Nothing is there to
fill a field with, so a template with a field has no text; why not depends on the first field. -/

namespace RecordSchema.Text

/-- Why a template has no text. -/
inductive TemplateError where
  /-- A brace without its counterpart, or a field that is not well formed. -/
  | form
  /-- A field that asks for an argument by its place. -/
  | place
  /-- A field that asks for an argument by its name. -/
  | name
  deriving DecidableEq, Repr

namespace Template

/-- The name of a field, the character that ends it, and what follows. In square brackets everything
but the bracket itself belongs to the name. -/
def fieldName? (inBrackets : Bool) : List Char → Option (List Char × Char × List Char)
  | [] => none
  | c :: rest =>
    if inBrackets then do
      let (name, last, rest) ← fieldName? (c ≠ ']') rest
      return (c :: name, last, rest)
    else if c = '{' then none
    else if c = '}' || c = ':' || c = '!' then some ([], c, rest)
    else do
      let (name, last, rest) ← fieldName? (c = '[') rest
      return (c :: name, last, rest)

/-- Whether a format has an end: the brace that closes one more than are opened in it. -/
def isClosed : Nat → List Char → Bool
  | _, [] => false
  | depth, '{' :: rest => isClosed (depth + 1) rest
  | 0, '}' :: _ => true
  | depth + 1, '}' :: rest => isClosed depth rest
  | depth, _ :: rest => isClosed depth rest

/-- Whether a field is closed after the character that ended its name. -/
def endsWell : Char → List Char → Bool
  | '}', _ => true
  | ':', rest => isClosed 0 rest
  | '!', _ :: '}' :: _ => true
  | '!', _ :: ':' :: rest => isClosed 0 rest
  | _, _ => false

/-- What a field asks for. Its first name ends before a point or bracket; without one, and with
digits for it, the argument is known by its place. -/
def request (name : List Char) : TemplateError :=
  let first := name.takeWhile fun c => c ≠ '.' && c ≠ '['
  match first.mapM fun c => digitValue? c.toNat with
  | some digits => if Word.holds (digits.foldl (10 * · + ·) 0 : Nat) then .place else .form
  | none => .name

/-- Why a field, given without its opening brace, cannot be filled. -/
def refusal (field : List Char) : TemplateError :=
  match fieldName? false field with
  | some (name, last, rest) => if endsWell last rest then request name else .form
  | none => .form

/-- The text of a template. -/
def expand : List Char → Except TemplateError (List Char)
  | [] => .ok []
  | '{' :: '{' :: rest => do return '{' :: (← expand rest)
  | '}' :: '}' :: rest => do return '}' :: (← expand rest)
  | '{' :: rest => .error (if rest.isEmpty then .form else refusal rest)
  | '}' :: _ => .error .form
  | c :: rest => do return c :: (← expand rest)

end Template
end RecordSchema.Text
