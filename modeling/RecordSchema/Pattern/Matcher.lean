import RecordSchema.Pattern.Lead

/-! Backtracking search. A node is run with what is to be matched after it; alternatives and
repetitions are tried in order, and the first way through the whole pattern counts. An attempt
leaves a trail behind also when it fails: a possessive repetition goes on where the last attempt at
its body settled, and marks that are not restored stay. -/

namespace RecordSchema.Pattern

/-- What attempts leave behind: the place where they last settled, and the marks of groups. Group
`n` begins at mark `2 * n - 2` and ends at mark `2 * n - 1`. -/
structure Trail where
  place : Nat
  marks : Array (Option Nat)

namespace Trail

def settle (t : Trail) (place : Nat) : Trail := { t with place }

/-- Sets a mark. Marks passed over are blank. -/
def mark (t : Trail) (i place : Nat) : Trail :=
  let marks := t.marks ++ Array.replicate (i + 1 - t.marks.size) none
  { t with marks := marks.setIfInBounds i (some place) }

/-- Goes back to earlier marks. Outside of loops no earlier mark can have moved, so it is enough to
drop the later ones. -/
def restore (t : Trail) (saved : Array (Option Nat)) (inLoop : Bool) : Trail :=
  { t with marks := if inLoop then saved else t.marks.extract 0 saved.size }

/-- Where a group begins and ends. A group that was opened again has no end before its start. -/
def extent? (t : Trail) (number : Nat) : Option (Nat × Nat) :=
  match t.marks[2 * number - 2]?, t.marks[2 * number - 1]? with
  | some (some first), some (some last) => if first ≤ last then some (first, last) else none
  | _, _ => none

/-- Whether some group ends before it begins, since it was opened again and not closed. -/
def isCrossed (t : Trail) : Bool :=
  (List.range (t.marks.size / 2)).any fun group =>
    match t.marks[2 * group]?, t.marks[2 * group + 1]? with
    | some (some first), some (some last) => last < first
    | _, _ => false

end Trail

/-- The end of an attempt. -/
structure Outcome where
  succeeds : Bool
  trail : Trail

/-- A failure settles at a place. -/
def Outcome.orBack (o : Outcome) (place : Nat) : Outcome :=
  if o.succeeds then o else ⟨false, o.trail.settle place⟩

/-- What comes first in what is still to be matched, if it is a test that case does not blur. -/
inductive Head where
  | char (code : Nat)
  | set (set : CharSet)
  | other

namespace Head

def ofTest : CharTest → Head
  | .code false code => .char code
  | .set s => if s.folded then .other else .set s
  | _ => .other

/-- Whether a certain character has to come that does not. -/
def refusesChar (text : Array Char) (place : Nat) : Head → Bool
  | .char code => !text[place]?.any (·.toNat == code)
  | _ => false

/-- Whether the text cannot go on as it has to. -/
def refuses (text : Array Char) (place : Nat) : Head → Bool
  | .set s => !text[place]?.any (s.holds ·.toNat)
  | head => head.refusesChar text place

end Head

/-- What is still to be matched, from a place with a trail. -/
structure Continuation where
  head : Head
  run : Nat → Trail → Outcome

namespace Continuation

/-- Nothing is left. -/
def done : Continuation := ⟨.other, fun place t => ⟨true, t.settle place⟩⟩

/-- Hides what comes first. -/
def hidden (next : Continuation) : Continuation := { next with head := .other }

end Continuation

def isWordAt (flags : Flags) (text : Array Char) (place : Nat) : Bool :=
  match text[place]? with
  | none => false
  | some c => if flags.contains .ascii then Text.isAsciiWord c.toNat else Text.isWord c.toNat

namespace Anchor

def holds (flags : Flags) (text : Array Char) (place : Nat) : Anchor → Bool
  | .textStart => place == 0
  | .textEnd => place == text.size
  | .lineStart =>
    place == 0 || flags.contains .multiline && text[place - 1]? == some '\n'
  | .lineEnd =>
    place == text.size ||
    text[place]? == some '\n' && (flags.contains .multiline || place + 1 == text.size)
  | .wordEdge => !text.isEmpty && edge
  | .wordInside => !text.isEmpty && !edge
where
  edge : Bool :=
    (place != 0 && isWordAt flags text (place - 1)) != isWordAt flags text place

end Anchor

/-- Consumes one character that passes the test. -/
def consume (text : Array Char) (test : CharTest) (next : Continuation) : Continuation :=
  ⟨.ofTest test, fun place t =>
    if text[place]?.any (test.accepts ·.toNat) then next.run (place + 1) t else ⟨false, t⟩⟩

/-- Consumes the text of an earlier extent again. -/
def consumeAgain (text : Array Char) (lower : Nat → Nat) (first last : Nat) (next : Continuation)
    (place : Nat) (t : Trail) : Outcome :=
  let width := last - first
  let agrees := (List.range width).all fun i =>
    match text[first + i]?, text[place + i]? with
    | some a, some b => lower a.toNat == lower b.toNat
    | _, _ => false
  if agrees then next.run (place + width) t else ⟨false, t⟩

/-! Repetitions of one character: the characters are counted first. -/

/-- How many characters from a place on pass the test, at most `bound`. -/
def countFrom (text : Array Char) (test : CharTest) (place bound : Nat) : Nat :=
  (((text.extract place (place + bound)).toList).takeWhile (test.accepts ·.toNat)).length

/-- Bounds of a repetition. -/
structure Bounds where
  least : Nat
  most : Option Nat

namespace Bounds

def admits (b : Bounds) (count : Nat) : Bool := b.most.all (count ≤ ·)

/-- The trail after `n` characters from a place were counted. -/
def counted (test : CharTest) (place n : Nat) (t : Trail) : Trail :=
  t.settle (if test.settles then place + n else place)

/-- Tries what comes next after `least + extra` characters, then after fewer. Where the next
character is known, only the places before it are tried. -/
def giveBack (b : Bounds) (text : Array Char) (inLoop : Bool) (next : Continuation)
    (saved : Array (Option Nat)) (place : Nat) : Nat → Trail → Outcome
  | extra, t =>
    let here := place + b.least + extra
    let o := if next.head.refusesChar text here then ⟨false, t⟩ else
      let o := next.run here (t.settle here)
      if o.succeeds then o else ⟨false, o.trail.restore saved inLoop⟩
    match extra with
    | 0 => o
    | extra + 1 => if o.succeeds then o else b.giveBack text inLoop next saved place extra o.trail

/-- Tries what comes next, then takes a further character, at most `fuel` times. -/
def takeMore (b : Bounds) (text : Array Char) (test : CharTest) (inLoop : Bool)
    (next : Continuation) (saved : Array (Option Nat)) (place : Nat) :
    Nat → Nat → Trail → Outcome
  | 0, _, t => ⟨false, t⟩
  | fuel + 1, count, t =>
    if b.admits count then
      let here := place + count
      let o := next.run here (t.settle here)
      if o.succeeds then o
      else
        let t := (o.trail.restore saved inLoop).settle here
        if text[here]?.any (test.accepts ·.toNat) then
          b.takeMore text test inLoop next saved place fuel (count + 1) (counted test here 1 t)
        else ⟨false, t⟩
    else ⟨false, t⟩

/-- Runs a repetition of one character. -/
def runChar (b : Bounds) (text : Array Char) (test : CharTest) (eagerness : Eagerness)
    (inLoop : Bool) (next : Continuation) (place : Nat) (t : Trail) : Outcome :=
  if text.size < place + b.least then ⟨false, t⟩
  else
    let bound := match eagerness with
      | .lazy => b.least
      | _ => b.most.getD text.size
    let count := countFrom text test place bound
    let saved := t.marks
    let t := counted test place count t
    if count < b.least then ⟨false, t⟩
    else match eagerness with
      | .greedy => b.giveBack text inLoop next saved place (count - b.least) t
      | .lazy => b.takeMore text test inLoop next saved place (text.size + 2) count t
      | .possessive => next.run (place + count) t

end Bounds

/-! Repetitions of other bodies: the body is run with the rest of the repetition after it. -/

/-- Repetitions of a body. Above the least number a further one is tried only if the last one
moved on, so the steps are at most the least number and one for each character and both ends. -/
structure Repetition where
  bounds : Bounds
  body : Continuation → Continuation

namespace Repetition

def mayContinue (r : Repetition) (count : Nat) (last : Option Nat) (place : Nat) : Bool :=
  r.bounds.admits (count + 1) && last != some place

/-- Runs the body once, then the continuation given. -/
def once (r : Repetition) (rest : Nat → Trail → Outcome) (place : Nat) (t : Trail) : Outcome :=
  (r.body ⟨.other, rest⟩).run place (t.settle place)

/-- Tries a further repetition before what comes next. -/
def greedy (r : Repetition) (next : Continuation) :
    Nat → Nat → Option Nat → Nat → Trail → Outcome
  | 0, _, _, _, t => ⟨false, t⟩
  | fuel + 1, count, last, place, t =>
    if count < r.bounds.least then
      (r.once (r.greedy next fuel (count + 1) last) place t).orBack place
    else if r.mayContinue count last place then
      let o := r.once (r.greedy next fuel (count + 1) (some place)) place t
      if o.succeeds then o
      else (next.run place ((o.trail.restore t.marks true).settle place)).orBack place
    else (next.run place (t.settle place)).orBack place

/-- Tries what comes next before a further repetition. -/
def lazy (r : Repetition) (inLoop : Bool) (next : Continuation) :
    Nat → Nat → Option Nat → Nat → Trail → Outcome
  | 0, _, _, _, t => ⟨false, t⟩
  | fuel + 1, count, last, place, t =>
    if count < r.bounds.least then
      (r.once (r.lazy inLoop next fuel (count + 1) last) place t).orBack place
    else
      let o := next.run place (t.settle place)
      if o.succeeds then o
      else
        let t := (o.trail.restore t.marks inLoop).settle place
        if r.mayContinue count last place then
          (r.once (r.lazy inLoop next fuel (count + 1) (some place)) place t).orBack place
        else ⟨false, t⟩

/-- Each repetition is settled before the next begins. What comes next begins where the last attempt
settled, even if it failed. -/
def possessive (r : Repetition) (next : Continuation) (start : Nat) :
    Nat → Nat → Option Nat → Trail → Outcome
  | 0, _, _, t => ⟨false, t⟩
  | fuel + 1, count, last, t =>
    let attempt (t : Trail) : Outcome := (r.body .done).run t.place t
    if count < r.bounds.least then
      let o := attempt t
      if o.succeeds then r.possessive next start fuel (count + 1) last o.trail
      else o.orBack start
    else if r.mayContinue count last t.place then
      let o := attempt t
      if o.succeeds then r.possessive next start fuel (count + 1) (some t.place) o.trail
      else next.run o.trail.place (o.trail.restore t.marks true)
    else next.run t.place t

def run (r : Repetition) (eagerness : Eagerness) (size : Nat) (inLoop : Bool)
    (next : Continuation) (place : Nat) (t : Trail) : Outcome :=
  let fuel := r.bounds.least + size + 2
  match eagerness with
  | .greedy => r.greedy next fuel 0 none place t
  | .lazy => r.lazy inLoop next fuel 0 none place t
  | .possessive => r.possessive next place fuel 0 none (t.settle place)

end Repetition

/-- Runs a node, within a loop or not, and then what comes after it. -/
def Node.run (text : Array Char) : Node → Flags → Bool → Continuation → Continuation
  | .empty, _, _, next => next
  | .seq first rest, flags, inLoop, next =>
    first.run text flags inLoop (rest.run text flags inLoop next)
  | .refused, _, _, _ => ⟨.other, fun _ t => ⟨false, t⟩⟩
  | .alt first rest, flags, inLoop, next =>
    let one := first.run text flags inLoop next.hidden
    let others := rest.run text flags inLoop next
    ⟨.other, fun place t =>
      if one.head.refuses text place then others.run place t
      else
        let o := one.run place (t.settle place)
        if o.succeeds then o else others.run place (o.trail.restore t.marks inLoop)⟩
  | .any, flags, _, next =>
    consume text (if flags.contains .dotAll then .every else .noLineFeed) next
  | .char negated code, flags, _, next => consume text (flags.codeTest negated code) next
  | .set negated members, flags, _, next =>
    consume text (.set (flags.charSet negated members)) next
  | .anchor demand, flags, _, next =>
    ⟨.other, fun place t => if demand.holds flags text place then next.run place t else ⟨false, t⟩⟩
  | .scope added removed body, flags, inLoop, next =>
    body.run text (flags.adjust added removed) inLoop next
  | .group number body, flags, inLoop, next =>
    let inner := body.run text flags inLoop
      ⟨.other, fun place t => next.run place (t.mark (2 * number - 1) place)⟩
    ⟨.other, fun place t => inner.run place (t.mark (2 * number - 2) place)⟩
  | .atomic body, flags, inLoop, next =>
    let inner := body.run text flags inLoop .done
    ⟨.other, fun place t =>
      let o := inner.run place (t.settle place)
      if o.succeeds then next.run o.trail.place o.trail else o.orBack place⟩
  | .repeated eagerness least most body, flags, inLoop, next =>
    let bounds : Bounds := ⟨least, most⟩
    match body.charTest? flags with
    | some test => ⟨.other, bounds.runChar text test eagerness inLoop next⟩
    | none =>
      let bodyInLoop := inLoop || eagerness != .possessive
      ⟨.other, Repetition.run ⟨bounds, body.run text flags bodyInLoop⟩ eagerness text.size inLoop
        next⟩
  | .backreference number, flags, _, next =>
    ⟨.other, fun place t =>
      match t.extent? number with
      | none => ⟨false, t⟩
      | some (first, last) => consumeAgain text flags.caseRule.lower first last next place t⟩
  | .conditional number present absent, flags, inLoop, next =>
    let whenAbsent := absent.run text flags inLoop next
    let whenPresent := present.run text flags inLoop (match absent with
      | .empty => next
      | _ => next.hidden)
    ⟨.other, fun place t =>
      (if (t.extent? number).isSome then whenPresent else whenAbsent).run place t⟩
  | .look behind negated body, flags, inLoop, next =>
    let inner := body.run text flags inLoop .done
    let back := (behind.map Width.least).getD 0
    ⟨.other, fun place t =>
      if place < back then if negated then next.run place t else ⟨false, t⟩
      else
        let o := inner.run (place - back) (t.settle (place - back))
        match o.succeeds, negated with
        | true, false => next.run place o.trail
        | false, true => next.run place (o.trail.restore t.marks inLoop)
        | _, _ => ⟨false, o.trail⟩⟩

/-- What a search comes to. A match with a crossed group is of no use. -/
inductive Finding where
  | nothing
  | found
  | crossed
  deriving DecidableEq, Repr

/-- The first match of the node that begins at one of the places. -/
def Node.matchFrom (node : Node) (flags : Flags) (text : Array Char) (starts : List Nat) :
    Finding :=
  let whole := node.run text flags false .done
  match starts.findSome? fun start =>
      let o := whole.run start ⟨start, #[]⟩
      if o.succeeds then some o.trail else none with
  | none => .nothing
  | some trail => if trail.isCrossed then .crossed else .found

/-- Looks for a match of a pattern of some width anywhere in the text. -/
def Node.search (node : Node) (flags : Flags) (width : Width) (text : String) : Finding :=
  let chars := text.toList.toArray
  node.matchFrom flags chars ((node.lead flags width).starts width.least chars)

end RecordSchema.Pattern
