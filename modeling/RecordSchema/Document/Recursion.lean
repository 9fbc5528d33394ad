import RecordSchema.Document.Subschema

/-! Recursion among definitions: a definition is recursive if its references lead back to it. -/

namespace RecordSchema.Document

/-- The definitions that a definition refers to. -/
def successors (definitions : Entries) (name : String) : List String :=
  match definitions.field? name with
  | none => []
  | some body => (references body).filter definitions.hasField

/-- Adds the names that are not among those found. -/
def addNames (found : List String) : List String → List String
  | [] => found
  | name :: rest =>
    if found.contains name then addNames found rest else addNames (found ++ [name]) rest

/-- The names found after a number of steps along references. -/
def reachedIn (definitions : Entries) : Nat → List String → List String
  | 0, found => found
  | steps + 1, found =>
    reachedIn definitions steps (addNames found (found.flatMap (successors definitions)))

/-- The definitions that a definition leads to, in one step or more. There are no more of them than
definitions, and a round that finds none is the last. -/
def reachedFrom (definitions : Entries) (name : String) : List String :=
  reachedIn definitions definitions.length (addNames [] (successors definitions name))

def isRecursive (definitions : Entries) (name : String) : Bool :=
  (reachedFrom definitions name).contains name

/-- The recursive definitions. -/
def recursive (definitions : Entries) : List String :=
  (Entries.keys definitions).filterMap fun key =>
    key.str?.filter (isRecursive definitions)

end RecordSchema.Document
