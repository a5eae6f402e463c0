import PathTemplates.Data
import PathTemplates.Number.Rounded

/-! # Places for values

A place in a message says how a value is written: flags, a width, a precision and a letter. -/

namespace PathTemplates.Log

/-- How a value is laid out. -/
structure SlotFlags where
  /-- The value stands at the start of its width. -/
  left : Bool
  /-- Numbers are filled up with zeros. -/
  zeros : Bool
  /-- Numbers that are not negative have a plus sign. -/
  plus : Bool
  /-- Numbers that are not negative have a space in front. -/
  blank : Bool
  /-- Numbers show their base, and a point or zeros that could be left out. -/
  full : Bool

namespace SlotFlags

/-- Whether a character is a flag. -/
def isFlag (c : Char) : Bool := c == '-' || c == '0' || c == '+' || c == ' ' || c == '#'

/-- The flags that characters stand for. -/
def ofChars (cs : List Char) : SlotFlags :=
  ⟨cs.contains '-', cs.contains '0', cs.contains '+', cs.contains ' ', cs.contains '#'⟩

end SlotFlags

/-- A place for a value. -/
structure Slot where
  /-- The layout. -/
  flags : SlotFlags
  /-- The least width. -/
  width : Nat
  /-- The precision. -/
  precision : Option Nat
  /-- The letter. -/
  letter : Char

namespace Slot

/-- Fills a text up to the width of a place. -/
def fill (slot : Slot) (s : String) : String :=
  let gap := spaces (slot.width - s.length)
  if slot.flags.left then s ++ gap else gap ++ s

/-- Fills a number up to the width of a place; zeros stand after the sign and the mark of the base. -/
def fillNumber (slot : Slot) (negative : Bool) (base : String) (digits : List Char) : String :=
  let sign := if negative then "-" else if slot.flags.plus then "+"
    else if slot.flags.blank then " " else ""
  let head := sign ++ base
  if slot.flags.zeros && !slot.flags.left then
    head ++ String.ofList (List.replicate (slot.width - head.length - digits.length) '0' ++ digits)
  else slot.fill (head ++ String.ofList digits)

/-- A text cut at the precision of a place. -/
def cut (slot : Slot) (s : String) : String :=
  match slot.precision with
  | some n => String.ofList (s.toList.take n)
  | none => s

/-- A text with everything beyond ASCII escaped. -/
def escapeWide (s : String) : String :=
  String.ofList (s.toList.flatMap fun c =>
    if c.toNat < 128 then [c]
    else if c.toNat < 256 then '\\' :: 'x' :: hexDigits 2 c.toNat
    else if c.toNat < 0x10000 then '\\' :: 'u' :: hexDigits 4 c.toNat
    else '\\' :: 'U' :: hexDigits 8 c.toNat)

/-! ## Numbers -/

/-- A whole number in a base; the precision is the least number of digits. -/
def writeWhole (slot : Slot) (base : Nat) (mark : String) (n : Int) : String :=
  let ds := Nat.toDigits base n.natAbs
  let ds := List.replicate (slot.precision.getD 0 - ds.length) '0' ++ ds
  let ds := if slot.letter.isUpper then ds.map Char.toUpper else ds
  slot.fillNumber (n < 0) (if slot.flags.full then mark else "") ds

/-- The point and the digits after it; the point stands alone only if that is asked for. -/
def fractionPart (slot : Slot) (ds : List Char) : List Char :=
  if ds.isEmpty && !slot.flags.full then [] else '.' :: ds

/-- An exponent of two digits or more. -/
def exponentPart (e : Int) : List Char :=
  let ds := Nat.toDigits 10 e.natAbs
  'e' :: (if e < 0 then '-' else '+') :: List.replicate (2 - ds.length) '0' ++ ds

/-- The digits of a ratio with an exponent. -/
def exponentForm (slot : Slot) (ds : List Char) (e : Int) : List Char :=
  ds.take 1 ++ slot.fractionPart (ds.drop 1) ++ exponentPart e

/-- The digits of a ratio in the form of a letter: positional, with an exponent, or the shorter of the
two for the number of significant digits. -/
def ratioDigits (slot : Slot) (form : Char) (num den : Nat) : List Char :=
  let precision := slot.precision.getD 6
  match form with
  | 'f' =>
    let (whole, fraction) := Floating.fixedDigits precision num den
    whole ++ slot.fractionPart fraction
  | 'e' =>
    let (ds, e) := Floating.significantDigits (precision + 1) num den
    slot.exponentForm ds e
  | _ =>
    let count := max precision 1
    let (ds, e) := Floating.significantDigits count num den
    let strip (ds : List Char) : List Char :=
      if slot.flags.full then ds else (ds.reverse.dropWhile (· == '0')).reverse
    if -4 ≤ e && e < count then
      let (whole, fraction) := Floating.fixedDigits (count - 1 - e).toNat num den
      whole ++ slot.fractionPart (strip fraction)
    else slot.exponentForm (ds.take 1 ++ strip (ds.drop 1)) e

/-- A number with a fraction. -/
def writeFloating (slot : Slot) (x : Floating) : String :=
  let (negative, ds) := match x with
    | .nan => (false, "nan".toList)
    | .infinite negative => (negative, "inf".toList)
    | .finite negative m e =>
      let (num, den) := Floating.ratio m e
      (negative, slot.ratioDigits slot.letter.toLower num den)
  slot.fillNumber negative "" (if slot.letter.isUpper then ds.map Char.toUpper else ds)

/-! ## Values -/

/-- The whole number that a value is. -/
def whole? : Data → Option Int
  | .int n => some n
  | .bool b => some (if b then 1 else 0)
  | _ => none

/-- The whole number that a value is without its fraction. -/
def cutWhole? : Data → Option Int
  | .float (.finite negative m e) =>
    let (num, den) := Floating.ratio m e
    some (if negative then -(num / den : Nat) else (num / den : Nat))
  | d => whole? d

/-- The number with a fraction that a value is. -/
def floating? : Data → Option Floating
  | .float x => some x
  | d => (whole? d).map Floating.ofInt

/-- The character that a value is, or has as its number. -/
def character? : Data → Option String
  | .text s => if s.length == 1 then some s else none
  | d => (whole? d).bind fun n =>
    if 0 ≤ n && n.toNat.isValidChar then some (String.singleton (Char.ofNat n.toNat)) else none

/-- A value written at a place, if it can be. -/
def write? (slot : Slot) (v : Data) : Option String :=
  match slot.letter with
  | 's' => some (slot.fill (slot.cut v.printed))
  | 'r' => some (slot.fill (slot.cut v.shown))
  | 'a' => some (slot.fill (slot.cut (escapeWide v.shown)))
  | 'd' | 'i' | 'u' => (cutWhole? v).map (slot.writeWhole 10 "")
  | 'x' => (whole? v).map (slot.writeWhole 16 "0x")
  | 'X' => (whole? v).map (slot.writeWhole 16 "0X")
  | 'o' => (whole? v).map (slot.writeWhole 8 "0o")
  | 'e' | 'E' | 'f' | 'F' | 'g' | 'G' => (floating? v).map slot.writeFloating
  | 'c' => (character? v).map slot.fill
  | _ => none

end Slot

end PathTemplates.Log
