import RecordSchema.Normal.Error

/-! Constraints as authors write them, and which constraints a type can carry. -/

namespace RecordSchema

namespace ConstraintKind

/-- The kind that a name stands for. -/
def ofExpr (e : Expr) : Normalized ConstraintKind :=
  if !e.toValue.isHashable then .error (.fault .wrongType)
  else match e.str?.bind ofName? with
    | some kind => .ok kind
    | none => (NormalizeError.unknownConstraint e.text).raise

/-- Whether an expression names a constraint. -/
def isName (e : Expr) : Except Fault Bool :=
  if e.toValue.isHashable then .ok (e.str?.bind ofName?).isSome else .error .wrongType

end ConstraintKind

/-- Messages by kind, those given later first. -/
abbrev Messages := List (ConstraintKind × Value)

namespace Messages

def ofEntries (done : Messages) : List (Expr × Expr) → Normalized Messages
  | [] => .ok done
  | (name, message) :: rest => do
    ofEntries ((← ConstraintKind.ofExpr name, message.toValue) :: done) rest

/-- The entries of what is no mapping: what its attribute `items` gives when it is called. Types of
text give empty text, and all others nothing that could be gone through. -/
def listed (e : Expr) : Normalized Messages :=
  match e with
  | .object _ attributes =>
    match attributes.lookup "items" with
    | none => .error (.fault .missingPart)
    | some (.hostType .str) | some (.hostType .bytes) => .ok []
    | some _ => .error (.fault .wrongType)
  | _ => .error (.fault .missingPart)

/-- Messages by constraint names; nothing at all means none. -/
def ofExpr (e : Expr) : Normalized Messages :=
  if !e.isTrue then .ok []
  else match e.entries? with
    | some entries => ofEntries [] entries
    | none => listed e

/-- Gives a constraint without a message the one for its kind. -/
def apply (messages : Messages) (c : Constraint) : Constraint :=
  match c.message, messages.lookup c.kind with
  | .null, some message => { c with message }
  | _, _ => c

end Messages

namespace Constraint

/-- Choices are kept as a tuple, and a compiled pattern as what it was compiled from. -/
def settle (kind : ConstraintKind) (bound : Value) : Value :=
  match kind, bound.unfolded with
  | .choices, .list items | .choices, .set items => .tuple items
  | .pattern, .record .compiled parts => Value.part parts "pattern"
  | _, _ => bound

def ofPair (messages : Messages) (name bound : Expr) : Normalized Constraint := do
  let kind ← ConstraintKind.ofExpr name
  return ⟨kind, settle kind bound.toValue, (messages.lookup kind).getD .null⟩

/-- A constraint that is built already, or a pair of a name and a bound. -/
def ofItem (messages : Messages) : Expr → Normalized Constraint
  | .constraint c => .ok (messages.apply c)
  | e =>
    match e.elements? with
    | some [name, bound] => ofPair messages name bound
    | some _ => .error (.fault .badValue)
    | none => .error (.fault .wrongType)

def ofItems (messages : Messages) : List Expr → Normalized (List Constraint)
  | [] => .ok []
  | e :: rest => do return (← ofItem messages e) :: (← ofItems messages rest)

def ofEntries (messages : Messages) : List (Expr × Expr) → Normalized (List Constraint)
  | [] => .ok []
  | (name, bound) :: rest => do
    return (← ofPair messages name bound) :: (← ofEntries messages rest)

/-- Constraints by a mapping or a list. Where there are none the messages are not looked at. -/
def ofExpr (e messages : Expr) : Normalized (List Constraint) :=
  if !e.isTrue then .ok []
  else do
    let messages ← Messages.ofExpr messages
    match e.entries? with
    | some entries => ofEntries messages entries
    | none =>
      match e.elements? with
      | some items => ofItems messages items
      | none => .error (.fault .wrongType)

/-- Constraints by keywords. -/
def ofKeywords (keywords : List (String × Expr)) : Normalized (List Constraint) :=
  ofEntries [] (keywords.map fun (name, e) => (.str name, e))

/-- Checks the bound of a constraint on a type that can carry constraints of its kind. -/
def requireBound (type : String) (c : Constraint) : Normalized Unit :=
  if c.kind.isSizeBound then
    match c.bound with
    | .int n => if 0 ≤ n then .ok () else (NormalizeError.badSize c.kind type c.bound).raise
    | _ => (NormalizeError.badSize c.kind type c.bound).raise
  else if c.kind.isComparison then
    if c.bound.number?.isSome then .ok () else (NormalizeError.badNumber c.kind type c.bound).raise
  else if c.kind = .pattern then
    match c.bound.str? with
    | none => (NormalizeError.badPattern type c.bound).raise
    | some pattern =>
      match Pattern.parse pattern with
      | .ok _ => .ok ()
      | .error (.invalid error) =>
        (NormalizeError.invalidPattern type (error.message pattern)).raise
      | .error (.exceeds limit) => .error (.fault (limitFault limit))
  else
    match c.bound with
    | .tuple (_ :: _) => .ok ()
    | _ => (NormalizeError.badChoices type c.bound).raise

/-- Pairs of a least and a greatest size. -/
def sizePairs : List (ConstraintKind × ConstraintKind) :=
  [(.minLength, .maxLength), (.minItems, .maxItems), (.minEntries, .maxEntries)]

/-- The bound given last for a kind. -/
def lastBound? (kind : ConstraintKind) : List Constraint → Option Value
  | [] => none
  | c :: rest => (lastBound? kind rest).or (if c.kind = kind then some c.bound else none)

/-- The last least size must not exceed the last greatest size. -/
def requireOrder (type : String) (constraints : List Constraint) : Normalized Unit :=
  go sizePairs
where
  go : List (ConstraintKind × ConstraintKind) → Normalized Unit
    | [] => .ok ()
    | (low, high) :: rest =>
      match lastBound? low constraints, lastBound? high constraints with
      | some least, some most =>
        match least.quantity?, most.quantity? with
        | some a, some b =>
          if b.lt a then (NormalizeError.crossedBounds low high least most type).raise else go rest
        | _, _ => .error (.fault .wrongType)
      | _, _ => go rest

end Constraint

namespace SchemaType

/-- Whether a type can carry constraints of a kind. -/
def allows : SchemaType → ConstraintKind → Bool
  | .primitive .string _, kind => [.minLength, .maxLength, .pattern, .choices].contains kind
  | .primitive .integer _, kind | .primitive .float _, kind => kind.isComparison || kind = .choices
  | .primitive .boolean _, kind | .primitive .any _, kind => kind = .choices
  | .primitive .null _, _ => false
  | .array _ _, kind => kind = .minItems || kind = .maxItems
  | .map _ _ _, kind => kind = .minEntries || kind = .maxEntries
  | .union _ _, _ => false
  | .ref _ _, _ => false

/-- Checks constraints, in order, on a type of this shape. -/
def requireConstraints (t : SchemaType) : List Constraint → Normalized Unit
  | [] => .ok ()
  | c :: rest => do
    if !t.allows c.kind then (NormalizeError.misplacedConstraint c.kind t.describe).raise
    c.requireBound t.describe
    t.requireConstraints rest

/-- Adds constraints to a type. -/
def attach (t : SchemaType) (extra : List Constraint) : Normalized SchemaType :=
  match extra, t with
  | [], _ => .ok t
  | _, .ref name _ => (NormalizeError.constrainedReference name (extra.map Constraint.kind)).raise
  | _, _ => do
    t.requireConstraints extra
    Constraint.requireOrder t.describe (t.constraints ++ extra)
    return t.withConstraints (t.constraints ++ extra)

mutual

/-- Checks a type at every level. -/
def verify : SchemaType → Normalized Unit
  | .ref name _ => if name.label.isEmpty then NormalizeError.emptyReference.raise else .ok ()
  | .primitive kind cs => verifyOwn (.primitive kind cs)
  | .array element cs => do
    verifyOwn (.array element cs)
    verify element
  | .map key value cs => do
    verifyOwn (.map key value cs)
    verify key
    verify value
  | .union variants cs => do
    verifyOwn (.union variants cs)
    if variants.isEmpty then NormalizeError.emptyUnion.raise
    verifyAll variants
where
  verifyOwn (t : SchemaType) : Normalized Unit := do
    t.requireConstraints t.constraints
    Constraint.requireOrder t.describe t.constraints

def verifyAll : List SchemaType → Normalized Unit
  | [] => .ok ()
  | t :: rest => do
    verify t
    verifyAll rest

end

end SchemaType
end RecordSchema
