import RecordSchema.Value.Basic

/-! Data that holds itself. A ring is a map or list in which `back` to the label of the ring stands
for the whole; unfolding puts the whole into those places. What is put in refers to nothing outside
of itself, so labels need no renaming. Each label belongs to one map or list, so where it is met
again that is the same one. -/

namespace RecordSchema.Value

mutual

/-- Whether a label occurs: as that of a ring, or where something refers back to it. -/
def mentions (label : Nat) : Value → Bool
  | .back l => l = label
  | .ring l body => l = label || mentions label body
  | .list items | .tuple items => itemsMention label items
  | .map entries | .view entries => entriesMention label entries
  | .record _ parts => partsMention label parts
  | _ => false

def itemsMention (label : Nat) : List Value → Bool
  | [] => false
  | v :: rest => mentions label v || itemsMention label rest

def entriesMention (label : Nat) : List (Value × Value) → Bool
  | [] => false
  | (_, v) :: rest => mentions label v || entriesMention label rest

def partsMention (label : Nat) : List (String × Value) → Bool
  | [] => false
  | (_, v) :: rest => mentions label v || partsMention label rest

end

/-- A ring, unless there is no way back into it. -/
def ringed (label : Nat) (body : Value) : Value :=
  if body.mentions label then .ring label body else body

mutual

/-- The value with another in the places that refer back to a label. -/
def replace (label : Nat) (whole : Value) : Value → Value
  | .back l => if l = label then whole else .back l
  | .ring l body => ringed l (replace label whole body)
  | .list items => .list (replaceItems label whole items)
  | .tuple items => .tuple (replaceItems label whole items)
  | .map entries => .map (replaceEntries label whole entries)
  | .view entries => .view (replaceEntries label whole entries)
  | .record kind parts => .record kind (replaceParts label whole parts)
  | v => v

def replaceItems (label : Nat) (whole : Value) : List Value → List Value
  | [] => []
  | v :: rest => replace label whole v :: replaceItems label whole rest

def replaceEntries (label : Nat) (whole : Value) : List (Value × Value) → List (Value × Value)
  | [] => []
  | (k, v) :: rest => (k, replace label whole v) :: replaceEntries label whole rest

def replaceParts (label : Nat) (whole : Value) : List (String × Value) → List (String × Value)
  | [] => []
  | (name, v) :: rest => (name, replace label whole v) :: replaceParts label whole rest

end

/-- The map or list that a ring is, with the ring in the places that refer back to it. -/
def unfolded : Value → Value
  | .ring label body => replace label (.ring label body) body
  | v => v

/-- The items of a list or tuple, also of one that holds itself. -/
def items? (v : Value) : Option (List Value) := v.unfolded.sequence?

/-- The entries of a map or view, also of one that holds itself. -/
def mapping? (v : Value) : Option Entries := v.unfolded.entries?

def isMapping (v : Value) : Bool := v.mapping?.isSome

/-- Whether a value holds nothing that holds itself. -/
def hasEnd (v : Value) : Bool :=
  v.all fun
    | .ring _ _ | .back _ => false
    | _ => true

/-- How deep data is followed that has no end. -/
def deepest : Nat := 1000

mutual

/-- The highest number among the labels and the marks of what was made. -/
def lastNumber : Value → Nat
  | .nan (.made n) => n
  | .back l => l
  | .ring l body => max l (lastNumber body)
  | .list items | .tuple items | .set items => lastOfItems items
  | .map entries | .view entries => lastOfEntries entries
  | .record _ parts => lastOfParts parts
  | _ => 0

def lastOfItems : List Value → Nat
  | [] => 0
  | v :: rest => max (lastNumber v) (lastOfItems rest)

def lastOfEntries : List (Value × Value) → Nat
  | [] => 0
  | (k, v) :: rest => max (max (lastNumber k) (lastNumber v)) (lastOfEntries rest)

def lastOfParts : List (String × Value) → Nat
  | [] => 0
  | (_, v) :: rest => max (lastNumber v) (lastOfParts rest)

end

end RecordSchema.Value
