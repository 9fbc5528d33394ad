import RecordSchema.Pattern.Alternatives
import RecordSchema.Pattern.Error
import RecordSchema.Text.Blank
import RecordSchema.Text.CharacterName
import RecordSchema.Text.Identifier
import RecordSchema.Text.Word

/-! Reading patterns. The text is cut into characters and escape pairs, which are then read from
left to right; a defect is reported where the reader stands. Main definitions: `Pattern.parse` and,
for patterns of bytes, `Pattern.parseBytes`. -/

namespace RecordSchema.Pattern

/-- A piece of the text: a character, a backslash with the character after it, or a backslash at
the end. -/
inductive Piece where
  | plain (c : Char)
  | escape (c : Char)
  | dangling
  deriving DecidableEq

structure Token where
  position : Nat
  piece : Piece

def Piece.written : Piece → String
  | .plain c => c.toString
  | .escape c => "\\" ++ c.toString
  | .dangling => "\\"

def Token.written (t : Token) : String := t.piece.written

def tokens (position : Nat) : List Char → List Token
  | [] => []
  | ['\\'] => [⟨position, .dangling⟩]
  | '\\' :: c :: rest => ⟨position, .escape c⟩ :: tokens (position + 2) rest
  | c :: rest => ⟨position, .plain c⟩ :: tokens (position + 1) rest

/-- What the reader knows. Group zero, the whole pattern, counts among the groups. -/
structure Reader where
  rest : List Token
  size : Nat
  /-- A pattern for bytes knows no escapes by code point, and other alphabets. -/
  forBytes : Bool := false
  flags : Flags := []
  names : List (String × Nat) := []
  groups : Nat := 1
  closed : GroupWidths := []
  /-- Number of groups before the outermost look-behind that is open. -/
  lookBehindGroups : Option Nat := none
  /-- Groups asked for by conditions, with the place of the first condition, the latest first. -/
  conditions : List (Nat × Nat) := []
  /-- How deep the next piece stands. -/
  level : Nat := 0

abbrev Parser := StateT Reader (Except Failure)

namespace Parser

/-- Where the next piece stands. -/
def position : Parser Nat := do
  let r ← get
  return (r.rest.head?.map Token.position).getD r.size

def failAt {α : Type} (defect : Defect) (position : Nat) : Parser α :=
  throw (.invalid ⟨defect, some position⟩)

/-- Fails `back` characters before the next piece. -/
def fail {α : Type} (defect : Defect) (back : Nat) : Parser α := do
  failAt defect ((← position) - back)

/-- A backslash at the end is a defect as soon as it comes next. -/
def setRest (rest : List Token) : Parser PUnit := do
  match rest.head? with
  | some ⟨position, .dangling⟩ => failAt .danglingBackslash position
  | _ => modify ({ · with rest })

def next? : Parser (Option Token) := return (← get).rest.head?

def get? : Parser (Option Token) := do
  match (← get).rest with
  | [] => return none
  | t :: rest => setRest rest; return some t

def nextIs (c : Char) : Parser Bool := return (← next?).any (·.piece == .plain c)

/-- Passes over the character if it comes next. -/
def accept (c : Char) : Parser Bool := do
  if ← nextIs c then discard get?; return true else return false

/-- At most `n` characters of a class. -/
def takeWhile (accepts : Char → Bool) : Nat → Parser (List Char)
  | 0 => return []
  | n + 1 => do
    match ← next? with
    | some ⟨_, .plain c⟩ =>
      if accepts c then discard get?; return c :: (← takeWhile accepts n) else return []
    | _ => return []

/-- The digits that come next. -/
def digits : Parser (List Char) := do takeWhile Char.isDigit (← get).rest.length

def isOctal (c : Char) : Bool := '0' ≤ c && c ≤ '7'

def isHex (c : Char) : Bool := c.isDigit || 'a' ≤ c && c ≤ 'f' || 'A' ≤ c && c ≤ 'F'

def digitOf (c : Char) : Nat :=
  if c.isDigit then c.toNat - 48 else if c.toNat ≥ 97 then c.toNat - 87 else c.toNat - 55

def number (base : Nat) (digits : List Char) : Nat :=
  digits.foldl (fun n c => base * n + digitOf c) 0

/-- A name up to its terminator. -/
def name (terminator : Char) (what : String) : Parser String := do
  let rec go : Nat → String → Parser String
    | 0, taken => unterminated taken
    | fuel + 1, taken => do
      match ← get? with
      | none => unterminated taken
      | some t =>
        if t.piece = .plain terminator then
          if taken.isEmpty then fail (.missingName what) 1 else return taken
        else go fuel (taken ++ t.written)
  go ((← get).rest.length + 1) ""
where
  unterminated (taken : String) : Parser String :=
    if taken.isEmpty then fail (.missingName what) 0
    else fail (.unterminatedName terminator) taken.length

/-- Fails unless the name, just passed with its terminator, is an identifier. -/
def requireIdentifier (name : String) : Parser PUnit := do
  if !Text.isIdentifier name then fail (.badGroupName name) (name.length + 1)

def isClosed (r : Reader) (group : Nat) : Bool := (r.closed.lookup group).isSome

/-- Inside a look-behind only groups closed before it can be referred to. -/
def requireOutsideLookBehind (group : Nat) : Parser PUnit := do
  let r ← get
  match r.lookBehindGroups with
  | none => return
  | some bound =>
    if !isClosed r group then fail .openGroup 0
    if bound ≤ group then fail .groupInSameLookBehind 0

/-! Escapes -/

def controlEscape? : Char → Option Nat
  | 'a' => some 7 | 'b' => some 8 | 'f' => some 12 | 'n' => some 10
  | 'r' => some 13 | 't' => some 9 | 'v' => some 11 | '\\' => some 92
  | _ => none

def classEscape? : Char → Option Member
  | 'd' => some (.digit false) | 'D' => some (.digit true)
  | 's' => some (.blank false) | 'S' => some (.blank true)
  | 'w' => some (.word false) | 'W' => some (.word true)
  | _ => none

def anchorEscape? : Char → Option Anchor
  | 'A' => some .textStart | 'Z' => some .textEnd
  | 'b' => some .wordEdge | 'B' => some .wordInside
  | _ => none

/-- A code point given by exactly `width` hexadecimal digits after the letter `c`. -/
def hexEscape (t : Token) (c : Char) (width : Nat) : Parser Nat := do
  let digits ← takeWhile isHex width
  let written := t.written ++ String.ofList digits
  if digits.length ≠ width then failAt (.incompleteEscape written) t.position
  let code := number 16 digits
  if c = 'U' ∧ code > 0x10FFFF then failAt (.badEscape written) t.position
  return code

/-- A character given by its name. -/
def namedEscape (t : Token) : Parser Nat := do
  if !(← accept '\x7b') then fail .missingBrace 0
  let name ← name '\x7d' "character name"
  match Text.CharacterName.code? name with
  | some code => return code
  | none => failAt (.unknownCharacter name) t.position

/-- The escapes with the same meaning inside and outside of a set. -/
def codeEscape? (t : Token) (c : Char) : Parser (Option Nat) := do
  if c = 'x' then return some (← hexEscape t c 2)
  if (← get).forBytes then return none
  match c with
  | 'u' => return some (← hexEscape t c 4)
  | 'U' => return some (← hexEscape t c 8)
  | 'N' => return some (← namedEscape t)
  | _ => return none

/-- An escaped character that has no other meaning stands for itself, unless it is a letter. -/
def selfEscape (t : Token) (c : Char) : Parser Nat := do
  if Text.isAsciiLetter c.toNat then failAt (.badEscape t.written) t.position
  return c.toNat

def memberEscape (t : Token) (c : Char) : Parser Member := do
  if let some code := controlEscape? c then return .code code
  if let some member := classEscape? c then return member
  if let some code ← codeEscape? t c then return .code code
  if isOctal c then
    let digits := c :: (← takeWhile isOctal 2)
    let code := number 8 digits
    if code > 0o377 then failAt (.octalTooLarge ("\\" ++ String.ofList digits)) t.position
    return .code code
  if c.isDigit then failAt (.badEscape t.written) t.position
  return .code (← selfEscape t c)

/-- A back reference, or three octal digits. -/
def numericEscape (t : Token) (c : Char) : Parser Node := do
  let second ← takeWhile Char.isDigit 1
  if let [d] := second then
    if isOctal c && isOctal d then
      if let [e] ← takeWhile isOctal 1 then
        let code := number 8 [c, d, e]
        if code > 0o377 then failAt (.octalTooLarge (String.ofList ['\\', c, d, e])) t.position
        return .char false code
  let group := number 10 (c :: second)
  let r ← get
  if r.groups ≤ group then failAt (.badReference group) (t.position + 1)
  if !isClosed r group then failAt .openGroup t.position
  requireOutsideLookBehind group
  return .backreference group

def escape (t : Token) (c : Char) : Parser Node := do
  if let some member := classEscape? c then return .set false [member]
  if let some place := anchorEscape? c then return .anchor place
  if let some code := controlEscape? c then return .char false code
  if let some code ← codeEscape? t c then return .char false code
  if c = '0' then return .char false (number 8 (← takeWhile isOctal 2))
  if c.isDigit then return ← numericEscape t c
  return .char false (← selfEscape t c)

/-! Sets -/

def member (t : Token) : Parser Member :=
  match t.piece with
  | .plain c => return .code c.toNat
  | .escape c => memberEscape t c
  | .dangling => failAt .danglingBackslash t.position

/-- The members up to the closing bracket, which is a member itself when it comes first. -/
def setMembers (start : Nat) : Nat → List Member → Parser (List Member)
  | 0, _ => failAt .unterminatedSet start
  | fuel + 1, taken => do
    match ← get? with
    | none => failAt .unterminatedSet start
    | some t =>
      if t.piece = .plain ']' ∧ !taken.isEmpty then return taken.reverse
      let first ← member t
      if !(← accept '-') then return ← setMembers start fuel (first :: taken)
      match ← get? with
      | none => failAt .unterminatedSet start
      | some u =>
        if u.piece = .plain ']' then return (.code '-'.toNat :: first :: taken).reverse
        let last ← member u
        let bad := fail (.badRange t.written u.written) (t.written.length + 1 + u.written.length)
        match first, last with
        | .code a, .code z =>
          if z < a then bad else setMembers start fuel (.range a z :: taken)
        | _, _ => bad

def charSet (t : Token) : Parser Node := do
  let negated ← accept '^'
  return .ofMembers negated (← setMembers t.position ((← get).rest.length + 1) [])

/-! Repetitions -/

/-- How many digits a number in a pattern can have. -/
def longestNumber : Nat := 4300

/-- A number of repetitions, which stays below the limit. -/
def repetitions (digits : List Char) : Parser Nat := do
  if longestNumber < digits.length then throw (.exceeds .digits)
  let n := number 10 digits
  if Width.limit ≤ n then throw (.exceeds .repetitions)
  return n

/-- The bounds in braces, or `none` if the braces stand for themselves. -/
def bounds? (t : Token) : Parser (Option (Nat × Option Nat)) := do
  if ← nextIs '\x7d' then return none
  let before ← get
  let low ← digits
  let high ← if ← accept ',' then digits else pure low
  if !(← accept '\x7d') then
    set before
    return none
  let least ← repetitions low
  if high.isEmpty then return some (least, none)
  let most ← repetitions high
  if most < least then failAt .leastAboveMost (t.position + 1)
  return some (least, some most)

def eagerness : Parser Eagerness := do
  if ← accept '?' then return .lazy
  if ← accept '+' then return .possessive
  return .greedy

/-- Repeats the item before the quantifier, of a group without effect the body. -/
def repeatLast (t : Token) (least : Nat) (most : Option Nat) : List Node → Parser (List Node)
  | [] | .anchor _ :: _ => failAt .nothingToRepeat t.position
  | .repeated .. :: _ => failAt .multipleRepeat t.position
  | item :: items =>
    return .repeated (← eagerness) least most (.ofList (Node.unwrap [item])) :: items

/-! Flags -/

def flag? : Char → Option Flag
  | 'i' => some .ignoreCase | 'L' => some .locale | 'm' => some .multiline | 's' => some .dotAll
  | 'x' => some .verbose | 'a' => some .ascii | 't' => some .template | 'u' => some .unicode
  | _ => none

def flagOf? : Piece → Option Flag
  | .plain c => Parser.flag? c
  | _ => none

/-- Reports a piece that is no flag. -/
def notFlag {α : Type} (t : Token) (otherwise : Defect) : Parser α :=
  let isLetter := match t.piece with
    | .plain c => Text.isLetter c.toNat
    | _ => false
  fail (if isLetter then .unknownFlag else otherwise) t.written.length

/-- Flags switched on, and the character that ends them. -/
def flagsOn : Nat → Flag → Flags → Parser (Flags × Char)
  | 0, _, _ => fail .missingFlagEnd 0
  | fuel + 1, flag, taken => do
    let forBytes := (← get).forBytes
    if flag = .locale && !forBytes then fail .localeFlag 0
    if flag = .unicode && forBytes then fail .unicodeFlag 0
    let taken := flag :: taken
    if flag.isAlphabet && taken.any (fun f => f.isAlphabet && f != flag) then
      fail .incompatibleFlags 0
    match ← get? with
    | none => fail .missingFlagEnd 0
    | some t =>
      match t.piece with
      | .plain ')' => return (taken, ')')
      | .plain ':' => return (taken, ':')
      | .plain '-' => return (taken, '-')
      | piece =>
        match flagOf? piece with
        | some flag => flagsOn fuel flag taken
        | none => notFlag t .missingFlagEnd

/-- Flags switched off, up to the colon. -/
def flagsOff : Nat → Flag → Flags → Parser Flags
  | 0, _, _ => fail .missingColon 0
  | fuel + 1, flag, taken => do
    if flag.isAlphabet then fail .alphabetFlagOff 0
    let taken := flag :: taken
    match ← get? with
    | none => fail .missingColon 0
    | some t =>
      if t.piece = .plain ':' then return taken
      match flagOf? t.piece with
      | some flag => flagsOff fuel flag taken
      | none => notFlag t .missingColon

/-- Flags of a group, or `none` if they are for the whole pattern. The first piece is passed. -/
def groupFlags (first : Option Flag) : Parser (Option (Flags × Flags)) := do
  let fuel := (← get).rest.length + 1
  let (added, ending) ← match first with
    | some flag => flagsOn fuel flag []
    | none => pure ([], '-')
  if ending = ')' then
    modify fun r => { r with flags := added ++ r.flags }
    return none
  if added.contains .template then fail .globalFlagOn 1
  let removed ← if ending = '-' then
      match ← get? with
      | none => fail .missingFlag 0
      | some t =>
        match flagOf? t.piece with
        | none => notFlag t .missingFlag
        | some flag => flagsOff fuel flag []
    else pure []
  if removed.contains .template then fail .globalFlagOff 1
  if added.any removed.contains then fail .flagOnAndOff 1
  return some (added, removed)

/-! Groups -/

/-- A natural number in the digits of any script, between white space, with an optional sign and
low lines between digits. Only zero can have a minus sign. -/
def naturalNumber? (text : String) : Option Nat := do
  let (negative, digits) := match Text.trim text.toList with
    | '+' :: rest => (false, rest)
    | '-' :: rest => (true, rest)
    | rest => (false, rest)
  let n ← go 0 false digits
  let digitCount := (digits.filter (· != '_')).length
  if digitCount ≤ longestNumber && !(negative && n != 0) then some n else none
where
  go : Nat → Bool → List Char → Option Nat
    | n, afterDigit, [] => if afterDigit then some n else none
    | n, afterDigit, c :: rest =>
      if c = '_' then if afterDigit then go n false rest else none
      else do go (10 * n + (← Text.digitValue? c.toNat)) true rest

def groupLimit : Nat := 1073741823

/-- The group that a condition asks for, by name or number. -/
def conditionGroup : Parser Nat := do
  let name ← name ')' "group name"
  let back := name.length + 1
  let group ← if Text.isIdentifier name then
      match (← get).names.lookup name with
      | none => fail (.unknownGroupName name) back
      | some group => pure group
    else
      match naturalNumber? name with
      | none => fail (.badGroupName name) back
      | some 0 => fail .badGroupNumber back
      | some group =>
        if groupLimit ≤ group then fail (.badReference group) back
        let place := (← position) - back
        modify fun r =>
          if (r.conditions.lookup group).isSome then r
          else { r with conditions := (group, place) :: r.conditions }
        pure group
  requireOutsideLookBehind group
  return group

/-- Opens a group and gives its number. -/
def openGroup (name : Option String) : Parser Nat := do
  let r ← get
  let number := r.groups
  match name with
  | none => set { r with groups := number + 1 }
  | some name =>
    if let some previous := r.names.lookup name then
      fail (.redefinedGroup name number previous) (name.length + 1)
    set { r with groups := number + 1, names := (name, number) :: r.names }
  return number

def closeGroup (number : Nat) (body : Node) : Parser PUnit :=
  modify fun r => { r with closed := (number, body.width r.closed) :: r.closed }

def requireGroupEnd (start : Token) : Parser PUnit := do
  if !(← accept ')') then failAt .unterminatedGroup start.position

def namedReference : Parser Node := do
  let name ← name ')' "group name"
  requireIdentifier name
  let r ← get
  match r.names.lookup name with
  | none => fail (.unknownGroupName name) (name.length + 1)
  | some group =>
    if !isClosed r group then fail .openGroup (name.length + 1)
    requireOutsideLookBehind group
    return .backreference group

/-- Passes over a comment. -/
def comment (start : Token) : Nat → Parser PUnit
  | 0 => failAt .unterminatedComment start.position
  | fuel + 1 => do
    match ← get? with
    | none => failAt .unterminatedComment start.position
    | some t => if t.piece = .plain ')' then return else comment start fuel

/-- Passes over the rest of the line. -/
def lineComment : Nat → Parser PUnit
  | 0 => return
  | fuel + 1 => do
    match ← get? with
    | none => return
    | some t => if t.piece = .plain '\n' then return else lineComment fuel

/-- What stands between an opening parenthesis and the body of its group. -/
inductive Opening where
  | item (node : Node)
  | nothing
  | globalFlags
  | group (name : Option String)
  | scope (added removed : Flags)
  | atomic
  | look (behind negated : Bool)
  | conditional (group : Nat)

def extension (start t : Token) : Parser Opening := do
  match t.piece with
  | .plain 'P' =>
    if ← accept '<' then
      let name ← name '>' "group name"
      requireIdentifier name
      return .group (some name)
    if ← accept '=' then return .item (← namedReference)
    match ← get? with
    | none => fail .unexpectedEnd 0
    | some u => fail (.unknownExtension ("P" ++ u.written)) (u.written.length + 2)
  | .plain ':' => return .scope [] []
  | .plain '#' =>
    comment start ((← get).rest.length + 1)
    return .nothing
  | .plain '=' => return .look false false
  | .plain '!' => return .look false true
  | .plain '<' =>
    match ← get? with
    | none => fail .unexpectedEnd 0
    | some u =>
      match u.piece with
      | .plain '=' => return .look true false
      | .plain '!' => return .look true true
      | _ => fail (.unknownExtension ("<" ++ u.written)) (u.written.length + 2)
  | .plain '(' => return .conditional (← conditionGroup)
  | .plain '>' => return .atomic
  | piece =>
    let first := flagOf? piece
    if first.isNone && piece != .plain '-' then
      fail (.unknownExtension t.written) (t.written.length + 1)
    match ← groupFlags first with
    | none => return .globalFlags
    | some (added, removed) => return .scope added removed

def opening (start : Token) : Parser Opening := do
  if !(← accept '?') then return .group none
  match ← get? with
  | none => fail .unexpectedEnd 0
  | some t => extension start t

/-! Expressions. Every call passes a piece or descends one level, so a few calls for each piece of
the pattern are enough fuel. -/

def globalVerbose : Parser Bool := return (← get).flags.contains .verbose

/-- How deep pieces can stand. A group lies two levels deeper than what is around it, an alternative
of a condition one. -/
def deepest : Nat := 980

/-- Reads a part that lies deeper. -/
def deeper {α : Type} (levels : Nat) (part : Parser α) : Parser α := do
  let level := (← get).level
  if deepest < level + levels then throw (.exceeds .nesting)
  modify ({ · with level := level + levels })
  let a ← part
  modify ({ · with level })
  return a

mutual

/-- Alternatives up to a closing parenthesis or the end. Only the first at the outermost level can
begin with flags for the whole pattern. -/
def alternatives (fuel : Nat) (verbose outermost first : Bool) : Parser (List (List Node)) := do
  match fuel with
  | 0 => fail .unterminatedGroup 0
  | fuel + 1 =>
    let items ← items fuel verbose (outermost && first) []
    if !(← accept '|') then return [items]
    let verbose ← if outermost then globalVerbose else pure verbose
    return items :: (← alternatives fuel verbose outermost false)

/-- The alternatives of a group, up to its closing parenthesis. -/
def body (fuel : Nat) (verbose : Bool) : Parser Node := do
  match fuel with
  | 0 => fail .unterminatedGroup 0
  | fuel + 1 => return .ofList (Node.join (← deeper 2 (alternatives fuel verbose false false)))

/-- Items up to a bar, a closing parenthesis or the end; those passed are in reverse. -/
def items (fuel : Nat) (verbose first : Bool) (passed : List Node) : Parser (List Node) := do
  match fuel with
  | 0 => fail .unterminatedGroup 0
  | fuel + 1 =>
    match ← next? with
    | none => return Node.unwrap passed.reverse
    | some t =>
      if t.piece = .plain '|' ∨ t.piece = .plain ')' then return Node.unwrap passed.reverse
      discard get?
      let proceed (node : Node) := items fuel verbose first (node :: passed)
      let repeating (least : Nat) (most : Option Nat) : Parser (List Node) := do
        items fuel verbose first (← repeatLast t least most passed)
      match t.piece with
      | .dangling => failAt .danglingBackslash t.position
      | .escape c => proceed (← escape t c)
      | .plain c =>
        if verbose && [' ', '\t', '\n', '\r', '\x0b', '\x0c'].contains c then
          return ← items fuel verbose first passed
        if verbose && c = '#' then
          lineComment ((← get).rest.length + 1)
          return ← items fuel verbose first passed
        match c with
        | '[' => proceed (← charSet t)
        | '?' => repeating 0 (some 1)
        | '*' => repeating 0 none
        | '+' => repeating 1 none
        | '\x7b' =>
          match ← bounds? t with
          | none => proceed (.char false c.toNat)
          | some (least, most) => repeating least most
        | '.' => proceed .any
        | '^' => proceed (.anchor .lineStart)
        | '$' => proceed (.anchor .lineEnd)
        | '(' =>
          match ← opening t with
          | .nothing => items fuel verbose first passed
          | .item node => proceed node
          | .globalFlags =>
            if !first || !passed.isEmpty then failAt .flagsNotAtStart t.position
            items fuel (← globalVerbose) first passed
          | .group name =>
            let number ← openGroup name
            let body ← body fuel verbose
            requireGroupEnd t
            closeGroup number body
            proceed (.group number body)
          | .scope added removed =>
            let inner := (verbose || added.contains .verbose) && !removed.contains .verbose
            let body ← body fuel inner
            requireGroupEnd t
            proceed (.scope added removed body)
          | .atomic =>
            let body ← body fuel verbose
            requireGroupEnd t
            proceed (.atomic body)
          | .look behind negated =>
            let outer := (← get).lookBehindGroups
            if behind && outer.isNone then
              modify fun r => { r with lookBehindGroups := some r.groups }
            let body ← body fuel verbose
            if behind then modify ({ · with lookBehindGroups := outer })
            requireGroupEnd t
            let width := body.width (← get).closed
            proceed (.look (if behind then some width else none) negated body)
          | .conditional group =>
            let present ← deeper 1 (items fuel verbose false [])
            let absent ← if ← accept '|' then
                let absent ← deeper 1 (items fuel verbose false [])
                if ← nextIs '|' then fail .tooManyBranches 0
                pure absent
              else pure []
            requireGroupEnd t
            proceed (.conditional group (.ofList present) (.ofList absent))
        | c => proceed (.char false c.toNat)

end

/-- Whether two alphabets are in force for the whole pattern. -/
def alphabetsConflict (r : Reader) : Bool :=
  r.flags.contains .ascii && r.flags.contains (if r.forBytes then .locale else .unicode)

/-- The whole pattern: nothing may be left over, and conditions ask for groups that exist. -/
def whole (fuel : Nat) : Parser Node := do
  setRest (← get).rest
  let node := Node.ofList (Node.join (← alternatives fuel (← globalVerbose) true true))
  let r ← get
  if alphabetsConflict r then throw (.exceeds .alphabets)
  if (← next?).isSome then fail .unbalancedParenthesis 0
  match r.conditions.reverse.find? fun (group, _) => r.groups ≤ group with
  | some (group, place) => failAt (.badReference group) place
  | none => return node

end Parser

/-- A pattern ready to be searched for. -/
structure Compiled where
  node : Node
  flags : Flags
  width : Width

/-- Reads a pattern, with flags that are on from the start; what can be parsed must also be
usable. -/
def compile (text : String) (forBytes : Bool) (flags : Flags) : Except Failure Compiled := do
  let pieces := tokens 0 text.toList
  let (node, reader) ← (Parser.whole (5 * pieces.length + 8)).run
    { rest := pieces, size := text.length, forBytes, flags }
  match node.unusable? reader.flags with
  | some reason => throw (.invalid ⟨.unusable reason, none⟩)
  | none =>
    if node.looksTooFar then throw (.exceeds .lookBehind)
    return ⟨node, reader.flags, node.width reader.closed⟩

/-- Reads a pattern for text. -/
def parse (text : String) (flags : Flags := []) : Except Failure Compiled :=
  compile text false flags

/-- Reads a pattern for bytes, each of which stands for the character of its code. -/
def parseBytes (bytes : List UInt8) (flags : Flags := []) : Except Failure Compiled :=
  compile (String.ofList (bytes.map fun b => Char.ofNat b.toNat)) true flags

end RecordSchema.Pattern
