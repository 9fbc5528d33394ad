import RecordSchema.Value.Basic

/-! Pointers: how a document refers to its own definitions. A tilde and a slash in a name are
escaped, and reading undoes this. Main statement: `unescape_escape`. -/

namespace RecordSchema.Pointer

/-- The keys of a document under which definitions can stand. -/
def definitionsKeys : List String := ["definitions", "$defs"]

def escape : List Char → List Char
  | [] => []
  | '~' :: rest => '~' :: '0' :: escape rest
  | '/' :: rest => '~' :: '1' :: escape rest
  | c :: rest => c :: escape rest

def unescape : List Char → List Char
  | [] => []
  | '~' :: '1' :: rest => '/' :: unescape rest
  | '~' :: '0' :: rest => '~' :: unescape rest
  | c :: rest => c :: unescape rest

/-- Only a tilde changes how what follows is read. -/
theorem unescape_cons {c : Char} (notTilde : c ≠ '~') (rest : List Char) :
    unescape (c :: rest) = c :: unescape rest := by
  rw [unescape.eq_def]
  split <;> simp_all

theorem unescape_escape (name : List Char) : unescape (escape name) = name := by
  fun_induction escape name with
  | case1 => rfl
  | case2 rest ih => simp [unescape, ih]
  | case3 rest ih => simp [unescape, ih]
  | case4 c rest notTilde _ ih => rw [unescape_cons notTilde, ih]

/-- What the pointers to definitions under a key start with. -/
def start (key : String) : String := "#/" ++ key ++ "/"

/-- The pointer to a definition. -/
def ofName (key name : String) : String := start key ++ String.ofList (escape name.toList)

/-- What follows the start of a pointer, if there is something. It stands on one line, of which a
line break at the very end is no part. -/
def line? (text : List Char) : Option (List Char) :=
  let line := text.takeWhile (· ≠ '\n')
  let rest := text.drop line.length
  if line.isEmpty || rest.length > 1 then none else some line

def afterStart? (start text : List Char) : Option (List Char) :=
  if start.isPrefixOf text then some (text.drop start.length) else none

/-- The definition that a pointer means. -/
def name? (pointer : String) : Option String := do
  let rest ← definitionsKeys.findSome? fun key => afterStart? (start key).toList pointer.toList
  let line ← line? rest
  return String.ofList (unescape line)

/-- The definition that a value means, if it is a pointer. -/
def nameOf? : Value → Option String
  | .str pointer => name? pointer
  | _ => none

end RecordSchema.Pointer
