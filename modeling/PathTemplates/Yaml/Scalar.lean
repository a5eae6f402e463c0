import PathTemplates.Text.Digit
import PathTemplates.Yaml.Cursor
import PathTemplates.Yaml.Error

/-! # The text of scalars

A scalar is written between quotes, plainly, or as a block of lines after a header. A line break inside
a quoted or plain scalar is folded: it stands for a space, and each blank line after it for a break. -/

namespace PathTemplates.Yaml

/-- A line break and the blank lines after it, as they stand in a folded scalar. -/
def foldLine (b : Char) (blankLines : List Char) : List Char :=
  if b != '\n' then b :: blankLines
  else if blankLines.isEmpty then [' '] else blankLines

/-! ## Quoted scalars -/

/-- The blank lines that follow a line break between quotes, and the place of the next text; `fuel`
bounds their number. -/
def blankLines : Nat → Cursor → Except Error (List Char × Cursor)
  | 0, c => .ok ([], c)
  | fuel + 1, c =>
    if c.atSeparator then .error .malformed
    else
      let c := (c.span isGap).2
      match c.lineBreak? with
      | some (b, c) => (blankLines fuel c).map fun (bs, c) => (b :: bs, c)
      | none => .ok ([], c)

/-- The characters that letters after a backslash stand for. -/
def escapes : List (Char × Nat) :=
  [('0', 0), ('a', 7), ('b', 8), ('t', 9), ('\t', 9), ('n', 10), ('v', 11), ('f', 12), ('r', 13),
    ('e', 27), (' ', 32), ('"', 34), ('\\', 92), ('/', 47), ('N', 0x85), ('_', 0xa0), ('L', 0x2028),
    ('P', 0x2029)]

/-- How many digits write the code of a character after a letter. -/
def codeWidth? : Char → Option Nat
  | 'x' => some 2
  | 'u' => some 4
  | 'U' => some 8
  | _ => none

/-- What an escape stands for, from the place after its backslash. -/
def escaped (c : Cursor) : Except Error (List Char × Cursor) :=
  match c.rest with
  | [] => .error .malformed
  | ch :: rest =>
    match escapes.lookup ch, codeWidth? ch with
    | some code, _ => .ok ([Char.ofNat code], c.next)
    | none, some width =>
      let ds := rest.take width
      let code := digitsIn 16 ds
      if ds.length != width || !ds.all isHexDigit then .error .malformed
      else if code > 0x10ffff then .error (.scalar (.character code))
      else .ok ([Char.ofNat code], c.skip (width + 1))
    | none, none =>
      match c.lineBreak? with
      | some (_, after) => blankLines (after.rest.length + 1) after
      | none => .error .malformed

/-- What a gap or a line break between quotes stands for. -/
def quotedGap (c : Cursor) : Except Error (List Char × Cursor) :=
  let (gap, c) := c.span isGap
  match c.lineBreak? with
  | some (b, c) => (blankLines (c.rest.length + 1) c).map fun (bs, c) => (foldLine b bs, c)
  | none => if c.rest.isEmpty then .error .malformed else .ok (gap, c)

/-- What the next piece between quotes stands for, or nothing before the closing quote. -/
def quotedPiece (mark : Char) (c : Cursor) : Except Error (Option (List Char × Cursor)) :=
  match c.rest with
  | [] => .error .malformed
  | ch :: rest =>
    if ch == mark then
      if mark == '\'' && rest.head? == some mark then .ok (some ([mark], c.skip 2)) else .ok none
    else if ch == '\\' && mark == '"' then (escaped c.next).map some
    else if isGap ch || isBreak ch then (quotedGap c).map some
    else .ok (some ([ch], c.next))

/-- The text up to the closing quote, and the place after it; `fuel` bounds the pieces. -/
def quotedRest (mark : Char) : Nat → Cursor → Except Error (List Char × Cursor)
  | 0, _ => .error .malformed
  | fuel + 1, c =>
    match quotedPiece mark c with
    | .error e => .error e
    | .ok none => .ok ([], c.next)
    | .ok (some (cs, after)) => (quotedRest mark fuel after).map fun (ds, c) => (cs ++ ds, c)

/-- The text of a quoted scalar from its opening quote, and the place after it. -/
def quotedScalar (mark : Char) (c : Cursor) : Except Error (List Char × Cursor) :=
  quotedRest mark (c.rest.length + 1) c.next

/-! ## Plain scalars -/

/-- A character that ends a plain scalar inside brackets. -/
def endsInBrackets (c : Char) : Bool := c == ',' || c == '?' || c == '[' || c == ']' || c == '{' || c == '}'

/-- Whether a colon before these characters ends a plain scalar. -/
def colonEnds (inBrackets : Bool) (rest : List Char) : Bool :=
  rest.head?.all fun c =>
    isGap c || isBreak c || (inBrackets && c != '?' && endsInBrackets c)

/-- The characters of a plain scalar up to a gap, a line break or a sign that ends it. -/
def plainRun (inBrackets : Bool) : List Char → List Char
  | [] => []
  | c :: rest =>
    if isGap c || isBreak c || (c == ':' && colonEnds inBrackets rest) ||
        (inBrackets && endsInBrackets c) then []
    else c :: plainRun inBrackets rest

/-- The spaces and blank lines that follow a line break in a plain scalar, with the breaks, and the
place after them; nothing is returned if a separating line starts on the way. -/
def plainLines : Nat → Cursor → Option (List Char) × Cursor
  | 0, c => (some [], c)
  | fuel + 1, c =>
    if c.peek? == some ' ' then plainLines fuel c.next
    else match c.lineBreak? with
      | none => (some [], c)
      | some (b, after) =>
        if after.atSeparator then (none, after)
        else
          let (bs, c) := plainLines fuel after
          (bs.map (b :: ·), c)

/-- What may stand between the words of a plain scalar. -/
structure PlainGap where
  /-- What it stands for, if a word may follow. -/
  text : Option (List Char)
  /-- Whether a line break is in it. -/
  broken : Bool
  /-- The place after it. -/
  after : Cursor

/-- The gap that follows a word of a plain scalar. -/
def plainGap (c : Cursor) : PlainGap :=
  let (gap, c) := c.span (· == ' ')
  match c.lineBreak? with
  | none => ⟨if gap.isEmpty then none else some gap, false, c⟩
  | some (b, after) =>
    if after.atSeparator then ⟨none, true, after⟩
    else
      let (bs, c) := plainLines (after.rest.length + 1) after
      ⟨bs.map (foldLine b), true, c⟩

/-- The words of a plain scalar that follow a gap, whether a line break follows the last, and the
place after it; `fuel` bounds the words. The lines must be indented by `margin` at least, unless the
scalar stands in brackets. -/
def plainWords (inBrackets : Bool) (margin : Int) : Nat → PlainGap → List Char × Bool × Cursor
  | 0, g => ([], g.broken, g.after)
  | fuel + 1, g =>
    match g.text with
    | none => ([], g.broken, g.after)
    | some gap =>
      let word := plainRun inBrackets g.after.rest
      if g.after.peek? == some '#' || word.isEmpty then ([], g.broken, g.after)
      else
        let following := plainGap (g.after.skip word.length)
        if following.after.peek? == some '#' || (!inBrackets && following.after.column < margin) then
          (gap ++ word, following.broken, following.after)
        else
          let (more, broken, c) := plainWords inBrackets margin fuel following
          (gap ++ word ++ more, broken, c)

/-- The text of a plain scalar, whether a line break follows it, and the place after it. -/
def plainScalar (inBrackets : Bool) (margin : Int) (c : Cursor) : List Char × Bool × Cursor :=
  plainWords inBrackets margin (c.rest.length + 1) ⟨some [], false, c⟩

/-! ## Block scalars -/

/-- What becomes of the line breaks at the end of a block. -/
inductive Chomping
  /-- All are dropped. -/
  | strip
  /-- The first is kept. -/
  | clip
  /-- All are kept. -/
  | keep
  deriving DecidableEq

/-- The sign for what becomes of the line breaks at the end. -/
def chomping? : Option Char → Option Chomping
  | some '+' => some .keep
  | some '-' => some .strip
  | _ => none

/-- The digit for the depth of a block. -/
def depth? (c : Option Char) : Option Nat :=
  c.bind fun c => if isAsciiDigit c then some (c.toNat - 48) else none

/-- The signs of a block's header in either order, and the place after them. -/
def blockSigns (c : Cursor) : Chomping × Option Nat × Cursor :=
  match chomping? c.peek? with
  | some chomping =>
    match depth? c.next.peek? with
    | some n => (chomping, some n, c.next.next)
    | none => (chomping, none, c.next)
  | none =>
    match depth? c.peek? with
    | some n =>
      match chomping? c.next.peek? with
      | some chomping => (chomping, some n, c.next.next)
      | none => (.clip, some n, c.next)
    | none => (.clip, none, c)

/-- The place of the next line, if only spaces and a comment are left of this one. -/
def endLine? (c : Cursor) : Option Cursor :=
  let c := c.skipSpaces.skipComment
  if c.atLineEnd then some c.next else none

/-- The breaks of the blank lines at the start of a block, the greatest column of a space in front of
its text, and the place after them. -/
def blockStart : Nat → Nat → Cursor → List Char × Nat × Cursor
  | 0, widest, c => ([], widest, c)
  | fuel + 1, widest, c =>
    match c.lineBreak? with
    | some (b, after) =>
      let (bs, widest, c) := blockStart fuel widest after
      (b :: bs, widest, c)
    | none =>
      if c.peek? == some ' ' then blockStart fuel (max widest c.next.column) c.next
      else ([], widest, c)

/-- The place after the spaces in front of a line, up to a column. -/
def blockIndent (indent : Nat) (c : Cursor) : Cursor :=
  c.skip ((c.rest.take (indent - c.column)).takeWhile (· == ' ')).length

/-- The breaks of the blank lines in front of a line of a block, and the place of the line. -/
def blockBreaks (indent : Nat) : Nat → Cursor → List Char × Cursor
  | 0, c => ([], c)
  | fuel + 1, c =>
    let c := blockIndent indent c
    match c.lineBreak? with
    | some (b, after) =>
      let (bs, c) := blockBreaks indent fuel after
      (b :: bs, c)
    | none => ([], c)

/-- What a block ends with: its last break, if any, and the breaks of blank lines after it. -/
def blockEnd (chomping : Chomping) (last : Option Char) (breaks : List Char) : List Char :=
  match chomping with
  | .strip => []
  | .clip => last.toList
  | .keep => last.toList ++ breaks

/-- What stands between two lines of a block. -/
def betweenLines (folded open₁ open₂ : Bool) (last : Option Char) (breaks : List Char) : List Char :=
  if folded && last == some '\n' && open₁ && open₂ then
    (if breaks.isEmpty then [' '] else [])
  else last.toList

/-- Whether a line of a block starts with text. -/
def startsWithText (c : Cursor) : Bool := !(c.rest.head?.any isGap)

/-- The text of the lines of a block, and the place after it; `breaks` are those in front of the next
line, and `fuel` bounds the lines. -/
def blockLines (folded : Bool) (chomping : Chomping) (indent : Nat) :
    Nat → Option Char → List Char → Cursor → List Char × Cursor
  | 0, last, breaks, c => (blockEnd chomping last breaks, c)
  | fuel + 1, last, breaks, c =>
    if c.column != indent || c.rest.isEmpty then (blockEnd chomping last breaks, c)
    else
      let (line, lineEnd) := c.span (!isBreak ·)
      let (last, lineEnd) := match lineEnd.lineBreak? with
        | some (b, after) => (some b, after)
        | none => (none, lineEnd)
      let (following, place) := blockBreaks indent (lineEnd.rest.length + 1) lineEnd
      let (rest, final) := blockLines folded chomping indent fuel last following place
      if place.column == indent && !place.rest.isEmpty then
        let between := betweenLines folded (startsWithText c) (startsWithText place) last following
        (breaks ++ line ++ between ++ rest, final)
      else (breaks ++ line ++ rest, final)

/-- The text of a block scalar from its sign, and the place after it. The lines are indented at least
by the `margin`, and by one. -/
def blockScalar (folded : Bool) (margin : Int) (c : Cursor) : Except Error (List Char × Cursor) :=
  let (chomping, depth, c) := blockSigns c.next
  let least := (max margin 1).toNat
  if depth == some 0 || !c.atSpace then .error .malformed
  else match endLine? c, depth with
    | none, _ => .error .malformed
    | some c, none =>
      let (breaks, widest, c) := blockStart (c.rest.length + 1) 0 c
      .ok (blockLines folded chomping (max least widest) (c.rest.length + 1) none breaks c)
    | some c, some n =>
      let indent := least + n - 1
      let (breaks, c) := blockBreaks indent (c.rest.length + 1) c
      .ok (blockLines folded chomping indent (c.rest.length + 1) none breaks c)

end PathTemplates.Yaml
