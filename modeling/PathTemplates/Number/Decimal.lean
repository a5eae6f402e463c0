import PathTemplates.Number.Floating
import PathTemplates.Text.Casing
import PathTemplates.Text.Numeral

/-! # Reading a floating-point number

A number as a person may have typed it: blanks around it, a sign, decimal digits of any script with a
point and an exponent, or a name for an infinity or for what is not a number. -/

namespace PathTemplates.Floating

/-- The values of the decimal digits at the start of a text, and the rest. -/
def takeDigits : List Char → List Nat × List Char
  | [] => ([], [])
  | c :: rest =>
    match decimalValue? c with
    | some d =>
      let (ds, tail) := takeDigits rest
      (d :: ds, tail)
    | none => ([], c :: rest)

/-- The exponent that a text is, or zero if there is no text. -/
def exponentOf? : List Char → Option Int
  | [] => some 0
  | e :: rest =>
    if e != 'e' && e != 'E' then none
    else
      let (negative, body) := takeSign rest
      match takeDigits body with
      | (d :: ds, []) => some (withSign negative (ofDigits (d :: ds)))
      | _ => none

/-- The number that digits with a point and an exponent write. -/
def ofDigits? (negative : Bool) (cs : List Char) : Option Floating := do
  let (whole, rest) := takeDigits cs
  let (places, rest) := match rest with
    | '.' :: tail => takeDigits tail
    | _ => ([], rest)
  if whole.isEmpty && places.isEmpty then none
  let exponent ← exponentOf? rest
  return ofDecimal negative (ofDigits (whole ++ places)) (exponent - places.length)

/-- The number that a text writes. -/
def ofText? (s : String) : Option Floating :=
  let (negative, body) := takeSign (trimBlank s.toList)
  match lowerText (String.ofList body) with
  | "inf" | "infinity" => some (infinite negative)
  | "nan" => some nan
  | _ => ofDigits? negative body

end PathTemplates.Floating
