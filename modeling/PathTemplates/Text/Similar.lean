/-! # Similar texts

How much two texts have in common: their longest common piece, and what they have in common on either
side of it. The proportion of common characters tells which known words a mistyped one may stand for. -/

namespace PathTemplates

/-- The length of the longest start that two texts share. -/
def commonStart : List Char → List Char → Nat
  | a :: as, b :: bs => if a == b then commonStart as bs + 1 else 0
  | _, _ => 0

/-- The longest piece at the start of the first text and anywhere in the second, with its place there;
of several the first. -/
def longestFrom (as : List Char) : Nat → List Char → Nat × Nat
  | _, [] => (0, 0)
  | place, b :: bs =>
    let here := commonStart as (b :: bs)
    let (length, there) := longestFrom as (place + 1) bs
    if here ≥ length then (here, place) else (length, there)

/-- The longest piece that two texts share: its length and its places; of several the first. -/
def longestCommon (bs : List Char) : Nat → List Char → Nat × Nat × Nat
  | _, [] => (0, 0, 0)
  | place, a :: as =>
    let (here, inB) := longestFrom (a :: as) 0 bs
    let (length, inA, there) := longestCommon bs (place + 1) as
    if here ≥ length then (here, place, inB) else (length, inA, there)

/-- How many characters two texts have in common; `fuel` bounds the pieces. -/
def commonCount : Nat → List Char → List Char → Nat
  | 0, _, _ => 0
  | fuel + 1, as, bs =>
    let (length, inA, inB) := longestCommon bs 0 as
    if length == 0 then 0
    else
      commonCount fuel (as.take inA) (bs.take inB) + length +
        commonCount fuel (as.drop (inA + length)) (bs.drop (inB + length))

/-- A known word and how close a text is to it: the common characters of all. -/
structure Likeness where
  /-- The word. -/
  word : String
  /-- How many characters are in common, counted in both. -/
  common : Nat
  /-- How many characters both have together. -/
  total : Nat

namespace Likeness

/-- How close a text is to a word. -/
def of (text word : String) : Likeness :=
  ⟨word, 2 * commonCount (word.length + 1) word.toList text.toList, word.length + text.length⟩

/-- Whether three fifths of the characters are in common. -/
def isClose (l : Likeness) : Bool := 3 * l.total ≤ 5 * l.common

/-- Whether one word is at least as close as another; of equally close ones the greater comes first. -/
def atLeast (a b : Likeness) : Bool :=
  let left := a.common * b.total
  let right := b.common * a.total
  right < left || (left == right && b.word ≤ a.word)

end Likeness

/-- The words that a text is closest to, at most three of them. -/
def closeWords (text : String) (words : List String) : List String :=
  let close := (words.map (Likeness.of text)).filter (·.isClose)
  ((close.mergeSort Likeness.atLeast).take 3).map (·.word)

end PathTemplates
