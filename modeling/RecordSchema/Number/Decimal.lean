import RecordSchema.Number.Binary64

/-! Decimal text of binary floating-point numbers: the fewest digits that read back, laid out
positionally or with an exponent. -/

namespace RecordSchema

/-- `digits · 10 ^ exponent`. -/
structure Decimal where
  digits : Nat
  exponent : Int
  deriving DecidableEq

/-- How digits are laid out as text. -/
structure Decimal.Layout where
  /-- Least power of ten of the leading digit that is written without an exponent. -/
  positionalFrom : Int
  /-- First power of ten of the leading digit that is written with an exponent again. -/
  positionalBelow : Int
  /-- What follows an integer written without an exponent. -/
  integerEnd : String
  exponentDigits : Nat

namespace Decimal

/-- Floats are positional from 0.0001 up to below 10^16, integers keep `.0`, and an exponent has
a sign and two digits. -/
def Layout.float : Layout := ⟨-4, 16, ".0", 2⟩

/-- The power of ten at which the leading digit of `n / d` stands, for positive `n` and `d`. -/
def leadingPower (n d : Nat) : Int :=
  let guess := (Binary64.floorLog2 n d * 30103) / 100000
  let reaches (e : Int) : Bool := d * Nat.pow 10 e.toNat ≤ n * Nat.pow 10 (-e).toNat
  if reaches (guess + 1) then guess + 1 else if reaches guess then guess else guess - 1

/-- The reals that round to `mantissa · 2 ^ exponent`, as quarters of a unit of the last place:
the midpoints to the neighbours, which belong to the interval when the mantissa is even. Below a
power of two the neighbour is nearer. -/
def roundingQuarters (mantissa : Nat) (exponent : Int) : Nat × Nat :=
  let isPower := mantissa = Nat.pow 2 (Binary64.precision - 1)
  let lower := if isPower ∧ exponent > Binary64.leastExponent then 1 else 2
  (4 * mantissa - lower, 4 * mantissa + 2)

/-- The first of the grids with 1, 2, … digits that has a point in the rounding interval gives
the digits; of two points the nearer is taken, of two equally near the even one. -/
def shortest (mantissa : Nat) (exponent : Int) : Decimal :=
  let (low, high) := roundingQuarters mantissa exponent
  let num := Nat.pow 2 exponent.toNat
  let den := Nat.pow 2 (-exponent).toNat
  let lead := leadingPower (mantissa * num) den
  let closed := mantissa % 2 = 0
  -- point `k` of the grid at `10 ^ p` against a number of quarters
  let scaled (p : Int) (k : Nat) : Nat := 4 * k * Nat.pow 10 p.toNat * den
  let quarters (p : Int) (c : Nat) : Nat := c * num * Nat.pow 10 (-p).toNat
  let floorAt (p : Int) : Nat :=
    mantissa * num * Nat.pow 10 (-p).toNat / (den * Nat.pow 10 p.toNat)
  let inside (p : Int) (k : Nat) : Bool :=
    if closed then quarters p low ≤ scaled p k && scaled p k ≤ quarters p high
    else quarters p low < scaled p k && scaled p k < quarters p high
  let rec search : Nat → Int → Decimal
    | 0, p => ⟨floorAt p, p⟩
    | fuel + 1, p =>
      let below := floorAt p
      let value := quarters p (4 * mantissa)
      match inside p below, inside p (below + 1) with
      | true, false => ⟨below, p⟩
      | false, true => ⟨below + 1, p⟩
      | true, true =>
        let left := value - scaled p below
        let right := scaled p (below + 1) - value
        if left < right ∨ left = right ∧ below % 2 = 0 then ⟨below, p⟩ else ⟨below + 1, p⟩
      | false, false => search fuel (p - 1)
  search 17 lead

/-- Trailing zeros move into the exponent. -/
def strip (d : Decimal) : Decimal :=
  let rec go : Nat → Nat → Int → Decimal
    | 0, digits, e => ⟨digits, e⟩
    | fuel + 1, digits, e =>
      if digits % 10 = 0 then go fuel (digits / 10) (e + 1) else ⟨digits, e⟩
  if d.digits = 0 then ⟨0, 0⟩ else go (Nat.toDigits 10 d.digits).length d.digits d.exponent

def Layout.exponentText (layout : Layout) (e : Int) : String :=
  let digits := toString e.natAbs
  let padding := String.ofList (List.replicate (layout.exponentDigits - digits.length) '0')
  "e" ++ (if e < 0 then "-" else "+") ++ padding ++ digits

/-- Digits without trailing zeros as text. -/
def Layout.render (layout : Layout) (d : Decimal) : String :=
  let digits := Nat.toDigits 10 d.digits
  let lead : Int := d.exponent + digits.length - 1
  if d.digits ≠ 0 ∧ (lead < layout.positionalFrom ∨ layout.positionalBelow ≤ lead) then
    let fraction := digits.drop 1
    String.ofList (digits.take 1 ++ if fraction.isEmpty then [] else '.' :: fraction) ++
      layout.exponentText lead
  else if 0 ≤ d.exponent then
    String.ofList (digits ++ List.replicate d.exponent.toNat '0') ++ layout.integerEnd
  else if 0 ≤ lead then
    let whole := (lead + 1).toNat
    String.ofList (digits.take whole ++ '.' :: digits.drop whole)
  else
    String.ofList ('0' :: '.' :: List.replicate (-lead - 1).toNat '0' ++ digits)

end Decimal

namespace Binary64

/-- Mantissa and exponent of a positive number: 53 bits, fewer at the least exponent. -/
def decompose (x : Dyadic) : Nat × Int :=
  let q := x.toRat
  let n := q.num.natAbs
  let e := lastPlace n q.den
  (n * Nat.pow 2 (-e).toNat / (q.den * Nat.pow 2 e.toNat), e)

/-- The text of a number: the fewest digits that read back as it. -/
def render (x : Binary64) : String :=
  let sign := if x.isNegative then "-" else ""
  match x with
  | .nan => "nan"
  | .infinite _ => sign ++ "inf"
  | .negativeZero => sign ++ Decimal.Layout.float.render ⟨0, 0⟩
  | .finite q =>
    if q = 0 then Decimal.Layout.float.render ⟨0, 0⟩
    else
      let (mantissa, exponent) := decompose q
      sign ++ Decimal.Layout.float.render (Decimal.shortest mantissa exponent).strip

/-- Reads digits with an optional point and exponent, `inf` or `nan`, after an optional sign. -/
def parse? (text : String) : Option Binary64 :=
  let (negative, body) := match text.toList with
    | '-' :: rest => (true, rest)
    | '+' :: rest => (false, rest)
    | rest => (false, rest)
  if body = "inf".toList then some (.infinite negative)
  else if body = "nan".toList then some .nan
  else
    let digits (cs : List Char) : Nat := cs.foldl (fun n c => 10 * n + (c.toNat - 48)) 0
    let whole := body.takeWhile Char.isDigit
    let afterWhole := body.drop whole.length
    let fraction := match afterWhole with
      | '.' :: rest => rest.takeWhile Char.isDigit
      | _ => []
    let afterFraction := match afterWhole with
      | '.' :: rest => rest.drop fraction.length
      | rest => rest
    if whole.isEmpty && fraction.isEmpty then none else
    let exponent? : Option Int := match afterFraction with
      | [] => some 0
      | mark :: rest =>
        if mark ≠ 'e' ∧ mark ≠ 'E' then none else
        let (down, power) := match rest with
          | '-' :: rest => (true, rest)
          | '+' :: rest => (false, rest)
          | rest => (false, rest)
        if power.isEmpty || !power.all Char.isDigit then none
        else some (if down then -(digits power : Int) else digits power)
    exponent?.map fun exponent =>
      let p : Int := exponent - (fraction.length : Int)
      ofQuotient negative (digits (whole ++ fraction) * Nat.pow 10 p.toNat) (Nat.pow 10 (-p).toNat)

end Binary64
end RecordSchema
