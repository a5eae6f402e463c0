/-! # Blank characters

The characters that separate words, and trimming them from the ends of a text. -/

namespace PathTemplates

/-- A character that counts as blank space: the ASCII spaces and separators, the next-line control
and the space separators and line separators of Unicode. -/
def isBlank (c : Char) : Bool :=
  let code := c.toNat
  (9 ≤ code && code ≤ 13) || (0x1c ≤ code && code ≤ 0x20) || code == 0x85 || code == 0xa0 ||
    code == 0x1680 || (0x2000 ≤ code && code ≤ 0x200a) || code == 0x2028 || code == 0x2029 ||
    code == 0x202f || code == 0x205f || code == 0x3000

/-- Drops the trailing characters that satisfy `p`. -/
def trimEndWhile (p : Char → Bool) (cs : List Char) : List Char :=
  (cs.reverse.dropWhile p).reverse

/-- Drops the characters at both ends that satisfy `p`. -/
def trimWhile (p : Char → Bool) (cs : List Char) : List Char :=
  trimEndWhile p (cs.dropWhile p)

/-- Drops the blanks at both ends. -/
def trimBlank (cs : List Char) : List Char := trimWhile isBlank cs

/-- A text of blanks only. -/
def isAllBlank (cs : List Char) : Bool := cs.all isBlank

/-- A text without the blanks at its ends. -/
def trimText (s : String) : String := String.ofList (trimBlank s.toList)

end PathTemplates
