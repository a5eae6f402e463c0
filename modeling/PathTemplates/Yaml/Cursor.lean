/-! # A place in a document

Documents are read from left to right by a cursor, which knows the line and the column that it stands
at, as indentation has a meaning. -/

namespace PathTemplates.Yaml

/-- A character that ends a line. -/
def isBreak (c : Char) : Bool :=
  c == '\n' || c == '\r' || c.toNat == 0x85 || c.toNat == 0x2028 || c.toNat == 0x2029

/-- A space or a tab. -/
def isGap (c : Char) : Bool := c == ' ' || c == '\t'

/-- The mark that may stand at the start of a document and has no width. -/
def byteOrderMark : Char := Char.ofNat 0xfeff

/-- A character that may stand in a document. -/
def isAllowed (c : Char) : Bool :=
  let code := c.toNat
  code == 9 || code == 10 || code == 13 || (0x20 ≤ code && code ≤ 0x7e) || code == 0x85 ||
    (0xa0 ≤ code && code ≤ 0xd7ff) || (0xe000 ≤ code && code ≤ 0xfffd) || 0x10000 ≤ code

/-- A place in a text. -/
structure Cursor where
  /-- The characters that follow. -/
  rest : List Char
  /-- How many characters are passed. -/
  index : Nat
  /-- How many lines are passed. -/
  line : Nat
  /-- How many characters of the line are passed. -/
  column : Nat

namespace Cursor

/-- The start of a text. -/
def start (cs : List Char) : Cursor := ⟨cs, 0, 0, 0⟩

/-- The character that follows. -/
def peek? (c : Cursor) : Option Char := c.rest.head?

/-- The place after the next character. -/
def next (c : Cursor) : Cursor :=
  match c.rest with
  | [] => c
  | ch :: rest =>
    if isBreak ch then ⟨rest, c.index + 1, c.line + 1, 0⟩
    else if ch == byteOrderMark then ⟨rest, c.index + 1, c.line, c.column⟩
    else ⟨rest, c.index + 1, c.line, c.column + 1⟩

/-- The place after a number of characters. -/
def skip : Nat → Cursor → Cursor
  | 0, c => c
  | n + 1, c => skip n c.next

/-- The longest run of characters that satisfy `p`, and the place after it. -/
def span (p : Char → Bool) (c : Cursor) : List Char × Cursor :=
  let run := c.rest.takeWhile p
  (run, c.skip run.length)

/-- The place after a run of spaces. -/
def skipSpaces (c : Cursor) : Cursor := (c.span (· == ' ')).2

/-- The place before the end of the line, if a comment follows, which starts with a number sign. -/
def skipComment (c : Cursor) : Cursor :=
  if c.peek? == some '#' then (c.span (!isBreak ·)).2 else c

/-- The break that follows, in the form that it has in a text, and the place after it. -/
def lineBreak? (c : Cursor) : Option (Char × Cursor) :=
  match c.rest with
  | ch :: _ =>
    if isBreak ch then
      some (if ch.toNat == 0x2028 || ch.toNat == 0x2029 then ch else '\n', c.next)
    else none
  | [] => none

/-- Whether the line ends here. -/
def atLineEnd (c : Cursor) : Bool := c.rest.head?.all isBreak

/-- Whether the line ends here or a space follows. -/
def atSpace (c : Cursor) : Bool := c.rest.head?.all fun ch => ch == ' ' || isBreak ch

/-- Whether a number of characters further the line ends or a gap follows. -/
def gapAfter (n : Nat) (c : Cursor) : Bool :=
  (c.rest.drop n).head?.all fun ch => isGap ch || isBreak ch

/-- Whether a word of three characters follows that stands alone. -/
def atWord (word : String) (c : Cursor) : Bool :=
  word.toList.isPrefixOf c.rest && c.gapAfter 3

/-- Whether a line that separates documents starts here. -/
def atSeparator (c : Cursor) : Bool := c.atWord "---" || c.atWord "..."

end Cursor

end PathTemplates.Yaml
