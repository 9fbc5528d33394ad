/-! Text patterns: what a parsed pattern consists of, the width of the texts it matches, and when
its look-behinds are well formed. -/

namespace RecordSchema.Pattern

/-- Modes that a pattern can switch on for all or a part of itself. -/
inductive Flag where
  | ignoreCase | multiline | dotAll | verbose | ascii | unicode | locale | template
  deriving DecidableEq

namespace Flag

/-- The flags in the order of their bits. -/
def all : List Flag :=
  [.template, .ignoreCase, .locale, .multiline, .dotAll, .unicode, .verbose, .ascii]

def bit : Flag → Nat
  | .template => 1
  | .ignoreCase => 2
  | .locale => 4
  | .multiline => 8
  | .dotAll => 16
  | .unicode => 32
  | .verbose => 64
  | .ascii => 256

def label : Flag → String
  | .template => "TEMPLATE"
  | .ignoreCase => "IGNORECASE"
  | .locale => "LOCALE"
  | .multiline => "MULTILINE"
  | .dotAll => "DOTALL"
  | .unicode => "UNICODE"
  | .verbose => "VERBOSE"
  | .ascii => "ASCII"

end Flag

/-- Flags of which only one can be in force. -/
def Flag.isAlphabet : Flag → Bool
  | .ascii | .unicode | .locale => true
  | _ => false

abbrev Flags := List Flag

/-- The flags that a number stands for. -/
def Flags.ofBits (bits : Nat) : Flags := Flag.all.filter fun flag => bits &&& flag.bit ≠ 0

/-- Switches flags on, then others off; a new alphabet replaces the one in force. -/
def Flags.adjust (flags added removed : Flags) : Flags :=
  let kept := if added.any Flag.isAlphabet then flags.filter (!·.isAlphabet) else flags
  (added ++ kept).filter (!removed.contains ·)

/-- A part of a character set. -/
inductive Member where
  | code (code : Nat)
  | range (first last : Nat)
  | digit (negated : Bool)
  | blank (negated : Bool)
  | word (negated : Bool)
  deriving DecidableEq

/-- A place that a pattern can demand without consuming text. -/
inductive Anchor where
  | textStart | textEnd | lineStart | lineEnd | wordEdge | wordInside
  deriving DecidableEq

/-- Order in which the numbers of repetitions are tried; a possessive repetition tries one only. -/
inductive Eagerness where
  | greedy | lazy | possessive
  deriving DecidableEq

/-- Least and greatest number of characters, each cut off at a limit. -/
structure Width where
  least : Nat
  most : Nat
  deriving DecidableEq

namespace Width

/-- Stands for any greater number of characters or repetitions, and for no bound. -/
def limit : Nat := 4294967295

/-- The least number stays below the limit, so a width that was cut off is not fixed. -/
def cut (least most : Nat) : Width := ⟨min least (limit - 1), min most limit⟩

def fixed (n : Nat) : Width := cut n n

def add (a b : Width) : Width := cut (a.least + b.least) (a.most + b.most)

def either (a b : Width) : Width := ⟨min a.least b.least, max a.most b.most⟩

/-- The width of no text at all, which every other width replaces. -/
def none : Width := ⟨limit - 1, 0⟩

def times (w : Width) (least : Nat) (most : Option Nat) : Width :=
  cut (w.least * least) (w.most * most.getD limit)

def isFixed (w : Width) : Bool := w.most == w.least

end Width

/-- A parsed pattern. Sequences end in `empty` and alternatives in `refused`. Groups are numbered
from one by their opening parentheses. A look-behind carries the width of its body. -/
inductive Node where
  | empty
  | seq (first rest : Node)
  | refused
  | alt (first rest : Node)
  | any
  | char (negated : Bool) (code : Nat)
  | set (negated : Bool) (members : List Member)
  | anchor (place : Anchor)
  | scope (added removed : Flags) (body : Node)
  | group (number : Nat) (body : Node)
  | atomic (body : Node)
  | repeated (eagerness : Eagerness) (least : Nat) (most : Option Nat) (body : Node)
  | backreference (number : Nat)
  | conditional (number : Nat) (present absent : Node)
  | look (behind : Option Width) (negated : Bool) (body : Node)

namespace Node

def ofList : List Node → Node
  | [] => .empty
  | node :: rest => .seq node (ofList rest)

/-- The items of a sequence. -/
def toList : Node → List Node
  | .seq first rest => first :: rest.toList
  | _ => []

/-- The first alternative is tried first. -/
def ofAlternatives : List (List Node) → Node
  | [] => .refused
  | items :: rest => .alt (ofList items) (ofAlternatives rest)

@[simp] theorem toList_ofList (items : List Node) : (ofList items).toList = items := by
  induction items with
  | nil => rfl
  | cons node rest ih => simp [ofList, toList, ih]

end Node

/-- Widths of closed groups. -/
abbrev GroupWidths := List (Nat × Width)

/-- The width of a pattern among closed groups; a back reference is as wide as its group. -/
def Node.width (groups : GroupWidths) : Node → Width
  | .empty | .anchor _ | .look .. => .fixed 0
  | .any | .char .. | .set .. => .fixed 1
  | .seq first rest => (first.width groups).add (rest.width groups)
  | .refused => .none
  | .alt first rest => (first.width groups).either (rest.width groups)
  | .scope _ _ body | .group _ body | .atomic body => body.width groups
  | .repeated _ least most body => (body.width groups).times least most
  | .backreference number => (groups.lookup number).getD (.fixed 0)
  | .conditional _ present absent => (present.width groups).either (absent.width groups)

/-- Why a pattern that can be parsed cannot be used. -/
inductive Unusable where
  | variableLookBehind
  | repetitionInTemplate (eagerness : Eagerness)
  deriving DecidableEq

/-- The first part of a pattern that cannot be used. -/
def Node.unusable? (flags : Flags) : Node → Option Unusable
  | .empty | .refused | .any | .char .. | .set .. | .anchor _ | .backreference _ => none
  | .seq first rest | .alt first rest | .conditional _ first rest =>
    (first.unusable? flags).orElse fun _ => rest.unusable? flags
  | .scope added removed body => body.unusable? (flags.adjust added removed)
  | .group _ body | .atomic body | .look none _ body => body.unusable? flags
  | .repeated eagerness _ _ body =>
    if flags.contains .template then some (.repetitionInTemplate eagerness)
    else body.unusable? flags
  | .look (some width) _ body =>
    if width.isFixed then body.unusable? flags else some .variableLookBehind

/-- Look-behinds of this width or more are out of reach. -/
def lookBehindReach : Nat := 2147483648

/-- Whether a look-behind looks farther back than it can. -/
def Node.looksTooFar : Node → Bool
  | .empty | .refused | .any | .char .. | .set .. | .anchor _ | .backreference _ => false
  | .seq first rest | .alt first rest | .conditional _ first rest =>
    first.looksTooFar || rest.looksTooFar
  | .scope _ _ body | .group _ body | .atomic body | .repeated _ _ _ body
  | .look none _ body => body.looksTooFar
  | .look (some width) _ body => lookBehindReach ≤ width.least || body.looksTooFar

end RecordSchema.Pattern
