import PathTemplates.Text.Casing

/-! # Letters without regard to case

Two letters agree without regard to case if their lower forms are the same, or are different lower
forms of the same capital. -/

namespace PathTemplates.Pattern

/-- Lower letters that share a capital. -/
def sharedCapitals : List (List Nat) := [
  [0x69, 0x131], [0x73, 0x17f], [0xb5, 0x3bc], [0x345, 0x3b9, 0x1fbe], [0x390, 0x1fd3],
  [0x3b0, 0x1fe3], [0x3b2, 0x3d0], [0x3b5, 0x3f5], [0x3b8, 0x3d1], [0x3ba, 0x3f0],
  [0x3c0, 0x3d6], [0x3c1, 0x3f1], [0x3c2, 0x3c3], [0x3c6, 0x3d5], [0x432, 0x1c80],
  [0x434, 0x1c81], [0x43e, 0x1c82], [0x441, 0x1c83], [0x442, 0x1c84, 0x1c85], [0x44a, 0x1c86],
  [0x463, 0x1c87], [0x1c88, 0xa64b], [0x1e61, 0x1e9b], [0xfb05, 0xfb06]]

/-- The code of a letter's lower form. -/
def lowerCode (code : Nat) : Nat := (lowerChar (Char.ofNat code)).toNat

/-- The code of a letter's upper form, if that is one letter. -/
def upperCode (code : Nat) : Nat := (upperChar (Char.ofNat code)).toNat

/-- The lower letters that share a capital with a lower letter, itself included. -/
def siblings (lower : Nat) : List Nat := (sharedCapitals.find? (·.contains lower)).getD [lower]

/-- Whether a letter has another case. -/
def isCased (code : Nat) : Bool :=
  lowerCode code != code || (raiseChar (Char.ofNat code)).map Char.toNat != [code]

/-- The codes whose lower form is a given one. -/
def lowerPreimages (lower : Nat) : List Nat :=
  let same := if lowerCode lower == lower then [lower] else []
  let dotted := if lower == 0x69 then [0x130] else []
  same ++ dotted ++ lowerRuns.toList.filterMap fun run =>
    if run.target ≤ lower && lower ≤ run.target + (run.last - run.first) &&
        (lower - run.target) % run.step == 0 then
      some (run.first + (lower - run.target))
    else none

/-- Lowering of ASCII letters only. -/
def lowerAscii (code : Nat) : Nat := if 65 ≤ code && code ≤ 90 then code + 32 else code

end PathTemplates.Pattern
