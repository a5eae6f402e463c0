/-! # Binary floating-point numbers

Numbers with 53 binary digits, held exactly as a whole number times a power of two. Every operation
is done on ratios of whole numbers and rounded once, to the nearest representable number, a tie
going to the even one. -/

namespace PathTemplates

/-- A floating-point number. -/
inductive Floating
  /-- Not a number. -/
  | nan
  /-- An infinity. -/
  | infinite (negative : Bool)
  /-- `mantissa * 2 ^ exponent` with a sign; zero has a sign too. -/
  | finite (negative : Bool) (mantissa : Nat) (exponent : Int)
  deriving DecidableEq

namespace Floating

/-- The number of binary digits of a mantissa. -/
def precision : Nat := 53

/-- The least exponent. -/
def minExponent : Int := -1074

/-- The greatest exponent. -/
def maxExponent : Int := 971

/-- A ratio rounded to a whole number, a tie to the even one. -/
def roundRatio (num den : Nat) : Nat :=
  let q := num / den
  let r := num % den
  if 2 * r > den || (2 * r == den && q % 2 == 1) then q + 1 else q

/-- The ratio `num / den` divided by `2 ^ exponent`, as a ratio. -/
def scaleDown (num den : Nat) (exponent : Int) : Nat × Nat :=
  if exponent < 0 then (num * Nat.pow 2 exponent.natAbs, den)
  else (num, den * Nat.pow 2 exponent.toNat)

/-- The exponent at which the ratio has a mantissa of full length, or the least one. -/
def exponentFor (num den : Nat) : Int :=
  let guess : Int := (num.log2 : Int) - den.log2 - 52
  let (n, d) := scaleDown num den guess
  max minExponent (if n < Nat.pow 2 52 * d then guess - 1 else guess)

/-- The number nearest to a ratio. -/
def ofRatio (negative : Bool) (num den : Nat) : Floating :=
  if num == 0 then finite negative 0 minExponent else
  let exponent := exponentFor num den
  let (n, d) := scaleDown num den exponent
  let m := roundRatio n d
  let (m, exponent) :=
    if m == Nat.pow 2 precision then (Nat.pow 2 52, exponent + 1) else (m, exponent)
  if exponent > maxExponent then infinite negative else finite negative m exponent

/-- The number nearest to `digits * 10 ^ exponent`; exponents far outside the range are settled
without computing the power. -/
def ofDecimal (negative : Bool) (digits : Nat) (exponent : Int) : Floating :=
  let length : Int := (Nat.toDigits 10 digits).length
  if digits == 0 then finite negative 0 minExponent
  else if length + exponent > 400 then infinite negative
  else if length + exponent < -400 then finite negative 0 minExponent
  else if exponent < 0 then ofRatio negative digits (Nat.pow 10 exponent.natAbs)
  else ofRatio negative (digits * Nat.pow 10 exponent.toNat) 1

/-- The number nearest to a whole number. -/
def ofInt (n : Int) : Floating := ofRatio (n < 0) n.natAbs 1

/-- A finite number as a ratio of whole numbers without its sign. -/
def ratio (mantissa : Nat) (exponent : Int) : Nat × Nat :=
  if exponent < 0 then (mantissa, Nat.pow 2 exponent.natAbs)
  else (mantissa * Nat.pow 2 exponent.toNat, 1)

/-- The product, rounded once. -/
def mul : Floating → Floating → Floating
  | nan, _ | _, nan => nan
  | infinite s, infinite t => infinite (s != t)
  | infinite s, finite t m _ | finite t m _, infinite s =>
    if m == 0 then nan else infinite (s != t)
  | finite s m e, finite t n f =>
    let (a, b) := ratio m e
    let (c, d) := ratio n f
    ofRatio (s != t) (a * c) (b * d)

/-- The sum, rounded once; a sum of zeros is negative only if both are. -/
def add : Floating → Floating → Floating
  | nan, _ | _, nan => nan
  | infinite s, infinite t => if s == t then infinite s else nan
  | infinite s, _ | _, infinite s => infinite s
  | finite s m e, finite t n f =>
    let (a, b) := ratio m e
    let (c, d) := ratio n f
    let left : Int := if s then -(a * d : Nat) else (a * d : Nat)
    let right : Int := if t then -(c * b : Nat) else (c * b : Nat)
    let sum := left + right
    if sum == 0 then finite (s && t) 0 minExponent else ofRatio (sum < 0) sum.natAbs (b * d)

/-- The number with its sign turned. -/
def neg : Floating → Floating
  | nan => nan
  | infinite s => infinite (!s)
  | finite s m e => finite (!s) m e

/-- The whole number that a number is equal to. -/
def toInt? : Floating → Option Int
  | finite s m e =>
    let (num, den) := ratio m e
    if num % den == 0 then some (if s then -(num / den : Nat) else (num / den : Nat)) else none
  | _ => none

/-- Numeric equality: the two zeros are equal and a non-number is unequal to all. -/
def equal : Floating → Floating → Bool
  | finite s m e, finite t n f => (m == 0 && n == 0) || (s == t && m == n && e == f)
  | infinite s, infinite t => s == t
  | _, _ => false

end Floating

end PathTemplates
