/-! # Places in a text

A place is an offset in characters. Messages give it as a line and a column, both counted from one,
and show the line with a caret under the place. Offsets outside the text are allowed: a negative one
counts from the end when it bounds a stretch of the text, as cuts of the text do. -/

namespace PathTemplates

/-- Where a stretch that ends at `offset` ends: a negative offset counts from the end, and the
result stays inside the text. -/
def clampOffset (length : Nat) (offset : Int) : Nat :=
  if offset < 0 then (offset + length).toNat else min offset.toNat length

/-- The characters before an offset. -/
def textBefore (cs : List Char) (offset : Int) : List Char :=
  cs.take (clampOffset cs.length offset)

/-- The place after the last line break of a stretch that starts the text. -/
def lineStart (before : List Char) : Nat :=
  before.length - (before.reverse.takeWhile (· != '\n')).length

/-- A line and a column, both counted from one. -/
structure Position where
  /-- The line. -/
  line : Nat
  /-- The column; a place outside the text may give one below one. -/
  column : Int
  deriving DecidableEq, Repr

/-- The line and column of an offset. -/
def positionAt (source : String) (offset : Int) : Position :=
  let before := textBefore source.toList offset
  ⟨before.count '\n' + 1, offset - lineStart before + 1⟩

/-- The line that holds an offset, and a caret under the place. -/
def caretExcerpt (source : String) (offset : Int) : String :=
  let cs := source.toList
  let start := lineStart (textBefore cs offset)
  let reach := clampOffset cs.length offset
  let stop :=
    if offset > cs.length then cs.length
    else reach + ((cs.drop reach).takeWhile (· != '\n')).length
  let shown := (cs.take stop).drop start
  String.ofList (shown ++ '\n' :: List.replicate (offset - start).toNat ' ' ++ ['^'])

end PathTemplates
