import PathTemplates.Number.Floating

/-! # The shortest decimal that reads back

A floating-point number is written with the fewest significant digits that read back as the same
number; of two such decimals of that length the nearer is taken, and the even one on a tie. -/

namespace PathTemplates

/-- The digits of a decimal `0.d₁d₂… * 10 ^ point`. -/
structure DecimalDigits where
  /-- Significant digits, without trailing zeros. -/
  digits : List Char
  /-- The place of the decimal point, counted from the first digit. -/
  point : Int

namespace Floating

/-- The place of the decimal point of a positive ratio: `10 ^ (p - 1) ≤ num / den < 10 ^ p`. -/
def pointOf (num den : Nat) : Int :=
  if num ≥ den then (Nat.toDigits 10 (num / den)).length
  else
    let k := (Nat.toDigits 10 (den / num)).length - 1
    let k := if den ≤ num * Nat.pow 10 k then k else k + 1
    1 - (k : Int)

/-- A positive ratio divided by `10 ^ place`, as a ratio. -/
def shiftPoint (num den : Nat) (place : Int) : Nat × Nat :=
  if place < 0 then (num * Nat.pow 10 place.natAbs, den)
  else (num, den * Nat.pow 10 place.toNat)

/-- The decimal on the grid `10 ^ place` that reads back as the number, if there is one. The number
is `4 * m` quarters of a unit, and the numbers that round to it lie between `low` and `high`
quarters, the ends being included if `closed`. -/
def onGrid? (mantissa : Nat) (exponent : Int) (place : Int) : Option Nat :=
  let narrow := mantissa == Nat.pow 2 52 && exponent > minExponent
  let low := 4 * mantissa - (if narrow then 1 else 2)
  let high := 4 * mantissa + 2
  let closed := mantissa % 2 == 0
  let (num, den) := ratio (4 * mantissa) (exponent - 2)
  let (unit, unitDen) := ratio 1 (exponent - 2)
  let (n, d) := shiftPoint num den place
  let (u, v) := shiftPoint unit unitDen place
  let inside (k : Nat) : Bool :=
    let x := k * v
    if closed then low * u ≤ x && x ≤ high * u else low * u < x && x < high * u
  let below := n / d
  let r := n % d
  let above := if r == 0 then below else below + 1
  match inside below, inside above with
  | true, true =>
    if 2 * r < d then some below
    else if 2 * r > d then some above
    else some (if below % 2 == 0 then below else above)
  | true, false => some below
  | false, true => some above
  | false, false => none

/-- The shortest digits, trying `count`, `count + 1`, … digits. -/
def shortestFrom (mantissa : Nat) (exponent point : Int) (count : Nat) : Nat → Nat × Int
  | 0 => (0, 0)
  | tries + 1 =>
    let place := point - count
    match onGrid? mantissa exponent place with
    | some n => (n, place)
    | none => shortestFrom mantissa exponent point (count + 1) tries

/-- The shortest decimal of a positive finite number. -/
def shortest (mantissa : Nat) (exponent : Int) : DecimalDigits :=
  let (num, den) := ratio mantissa exponent
  let (n, place) := shortestFrom mantissa exponent (pointOf num den) 1 17
  let ds := Nat.toDigits 10 n
  let kept := (ds.reverse.dropWhile (· == '0')).reverse
  ⟨kept, place + ds.length⟩

/-- How numbers are laid out: positionally while the point stays within sixteen places, with a zero
after the point of a whole number, and else with an exponent of two digits or more. -/
def layout (d : DecimalDigits) : String :=
  let count : Int := d.digits.length
  if -4 < d.point && d.point ≤ 16 then
    if d.point ≤ 0 then
      String.ofList ('0' :: '.' :: List.replicate d.point.natAbs '0' ++ d.digits)
    else if count ≤ d.point then
      String.ofList (d.digits ++ List.replicate (d.point - count).toNat '0' ++ ['.', '0'])
    else
      String.ofList (d.digits.take d.point.toNat ++ '.' :: d.digits.drop d.point.toNat)
  else
    let e := d.point - 1
    let places := Nat.toDigits 10 e.natAbs
    let places := if places.length < 2 then '0' :: places else places
    let fraction := match d.digits.drop 1 with
      | [] => []
      | ds => '.' :: ds
    String.ofList
      (d.digits.take 1 ++ fraction ++ ['e', if e < 0 then '-' else '+'] ++ places)

/-- A finite number in text. -/
def finiteText (negative : Bool) (mantissa : Nat) (exponent : Int) : String :=
  let body := if mantissa == 0 then "0.0" else layout (shortest mantissa exponent)
  if negative then "-" ++ body else body

/-- A number in messages. -/
def text : Floating → String
  | nan => "nan"
  | infinite negative => if negative then "-inf" else "inf"
  | finite negative m e => finiteText negative m e

end Floating

end PathTemplates
