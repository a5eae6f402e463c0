import PathTemplates.Number.Shortest

/-! # Decimals of a given length

A ratio is written with a number of places after the point, or with a number of significant digits; it
is rounded once, a tie going to the even digit. -/

namespace PathTemplates

namespace Floating

/-- The digits of a ratio with a number of places after the point: those before it and those after. -/
def fixedDigits (places num den : Nat) : List Char × List Char :=
  let ds := Nat.toDigits 10 (roundRatio (num * Nat.pow 10 places) den)
  let ds := List.replicate (places + 1 - ds.length) '0' ++ ds
  (ds.take (ds.length - places), ds.drop (ds.length - places))

/-- The significant digits of a ratio, as many as asked for, and the power of ten that the first of
them counts. -/
def significantDigits (count num den : Nat) : List Char × Int :=
  if num == 0 then (List.replicate count '0', 0)
  else
    let point := pointOf num den
    let (n, d) := shiftPoint num den (point - count)
    let rounded := roundRatio n d
    let ds := Nat.toDigits 10 rounded
    (ds.take count, point - 1 + (if ds.length > count then 1 else 0))

end Floating

end PathTemplates
