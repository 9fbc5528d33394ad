import RecordSchema.Fault
import RecordSchema.Value.Basic

/-! Copies of data. Views cannot be copied. A copy is equal to what it was made from, unless that
holds something that equals nothing but itself. -/

namespace RecordSchema

namespace Value

mutual

/-- Whether a value can be copied; views cannot, as they belong to what they look at. -/
def isCopyable : Value → Bool
  | .view _ => false
  | .list items | .tuple items | .set items => areCopyable items
  | .map entries => areCopyableEntries entries
  | .record _ parts => areCopyableParts parts
  | .ring _ body => isCopyable body
  | _ => true

def areCopyable : List Value → Bool
  | [] => true
  | v :: rest => isCopyable v && areCopyable rest

def areCopyableEntries : List (Value × Value) → Bool
  | [] => true
  | (k, v) :: rest => isCopyable k && isCopyable v && areCopyableEntries rest

def areCopyableParts : List (String × Value) → Bool
  | [] => true
  | (_, v) :: rest => isCopyable v && areCopyableParts rest

end

mutual

/-- Whether what is held in a place is equal to a copy of it. Functions and types are their own
copies, and so is a number that is none, which is the same in its place. -/
def equalsCopyInPlace : Value → Bool
  | .foreign thing => ["function", "type"].contains thing.className
  | .record (.schema _ _) _ => false
  | .list items | .tuple items | .set items => equalCopiesInPlace items
  | .map entries | .view entries => equalEntriesInPlace entries
  | .record kind parts => equalPartsInPlace kind parts
  | _ => true

def equalCopiesInPlace : List Value → Bool
  | [] => true
  | v :: rest => equalsCopyInPlace v && equalCopiesInPlace rest

def equalEntriesInPlace : List (Value × Value) → Bool
  | [] => true
  | (k, v) :: rest => equalsCopyInPlace k && equalsCopyInPlace v && equalEntriesInPlace rest

def equalPartsInPlace (kind : RecordKind) : List (String × Value) → Bool
  | [] => true
  | (name, v) :: rest =>
    (kind.hides name || equalsCopyInPlace v) && equalPartsInPlace kind rest

end

/-- Whether a value is equal to a copy of it. -/
def equalsCopy : Value → Bool
  | .nan _ => false
  | v => v.equalsCopyInPlace

def copy (v : Value) : Except Fault Value := if v.isCopyable then .ok v else .error .wrongType

end Value

end RecordSchema
