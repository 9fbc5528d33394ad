/-! Binary floating-point numbers with 53 significant bits. Finite numbers are exact dyadic
rationals, so comparison is comparison of rationals, and every operation is the exact result
rounded once. -/

namespace RecordSchema

/-- A binary floating-point number. Zero has two signs; every other finite number is its exact
value. -/
inductive Binary64 where
  | finite (x : Dyadic)
  | negativeZero
  | infinite (negative : Bool)
  | nan
  deriving DecidableEq

/-- A number as comparisons see it: signs of zero and the widths of representations are gone. -/
inductive Quantity where
  | finite (x : Dyadic)
  | infinite (negative : Bool)
  | nan
  deriving DecidableEq

namespace Quantity

def ofInt (n : Int) : Quantity := .finite (Dyadic.ofInt n)

/-- Nothing is below, above or equal to `nan`. -/
def lt : Quantity → Quantity → Bool
  | .nan, _ | _, .nan => false
  | .finite x, .finite y => decide (x < y)
  | .finite _, .infinite negative => !negative
  | .infinite negative, .finite _ => negative
  | .infinite n, .infinite m => n && !m

def eq : Quantity → Quantity → Bool
  | .finite x, .finite y => decide (x = y)
  | .infinite n, .infinite m => n == m
  | _, _ => false

def le (x y : Quantity) : Bool := x.lt y || x.eq y

end Quantity

namespace Binary64

def precision : Nat := 53
def leastExponent : Int := -1074
def greatestExponent : Int := 971

/-- `n / d` to the nearest natural number, a half to the even neighbour. -/
def roundQuotient (n d : Nat) : Nat :=
  let q := n / d
  let r := n % d
  if 2 * r < d then q else if 2 * r = d then q + q % 2 else q + 1

/-- `⌊log₂ (n / d)⌋` for positive `n` and `d`. -/
def floorLog2 (n d : Nat) : Int :=
  let guess : Int := n.log2 - d.log2
  if n * Nat.pow 2 (-guess).toNat < d * Nat.pow 2 guess.toNat then guess - 1 else guess

/-- The exponent of the last place of a number near the positive quotient `n / d`. -/
def lastPlace (n d : Nat) : Int :=
  let e := floorLog2 n d - (precision - 1 : Nat)
  if e < leastExponent then leastExponent else e

def zero (negative : Bool) : Binary64 := if negative then .negativeZero else .finite 0

/-- The sign applied to the quotient `n / d`, rounded to 53 significant bits, half to even; too
large a result is infinite. -/
def ofQuotient (negative : Bool) (n d : Nat) : Binary64 :=
  if n = 0 then zero negative else
  let e := lastPlace n d
  let m := roundQuotient (n * Nat.pow 2 (-e).toNat) (d * Nat.pow 2 e.toNat)
  if m = 0 then zero negative
  else if (m.log2 : Int) + e > greatestExponent + (precision - 1 : Nat) then .infinite negative
  else .finite (Dyadic.ofIntWithPrec (if negative then -(m : Int) else m) (-e))

def round (x : Dyadic) : Binary64 :=
  let q := x.toRat
  ofQuotient (q.num < 0) q.num.natAbs q.den

/-- The nearest number, or `none` where it would be infinite. -/
def ofInt? (n : Int) : Option Binary64 :=
  match ofQuotient (n < 0) n.natAbs 1 with
  | .infinite _ => none
  | x => some x

def quantity : Binary64 → Quantity
  | .finite x => .finite x
  | .negativeZero => .finite 0
  | .infinite negative => .infinite negative
  | .nan => .nan

def isNegative : Binary64 → Bool
  | .finite x => decide (x < 0)
  | .negativeZero => true
  | .infinite negative => negative
  | .nan => false

def isZero (x : Binary64) : Bool := x.quantity.eq (.ofInt 0)

/-- The integer that the number equals, if it is one. -/
def toInt? (x : Binary64) : Option Int :=
  match x.quantity with
  | .finite q => if q.toRat.den = 1 then some q.toRat.num else none
  | _ => none

/-- Two zeros keep their sign if they share it; any other exact zero is positive. -/
def add : Binary64 → Binary64 → Binary64
  | .nan, _ | _, .nan => .nan
  | .infinite n, .infinite m => if n = m then .infinite n else .nan
  | .infinite n, _ | _, .infinite n => .infinite n
  | .negativeZero, .negativeZero => .negativeZero
  | .negativeZero, .finite y => .finite y
  | .finite x, .negativeZero => .finite x
  | .finite x, .finite y => round (x + y)

def mul (x y : Binary64) : Binary64 :=
  let negative := x.isNegative != y.isNegative
  match x.quantity, y.quantity with
  | .nan, _ | _, .nan => .nan
  | .infinite _, .infinite _ => .infinite negative
  | .infinite _, .finite q | .finite q, .infinite _ => if q = 0 then .nan else .infinite negative
  | .finite p, .finite q => if p * q = 0 then zero negative else round (p * q)

end Binary64
end RecordSchema
