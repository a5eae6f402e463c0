import PathTemplates.Text.Break
import PathTemplates.Yaml.Scalar
import PathTemplates.Yaml.Token

/-! # From text to tokens

Outside brackets the column of a token decides which lists and mappings it ends or starts. Whether a
scalar is a key shows only at the colon after it, which must stand on the same line and at most 1024
characters after the start of the key; the tokens that mark the key are then put in front of it. -/

namespace PathTemplates.Yaml

/-- A token that may turn out to be a key. -/
structure PossibleKey where
  /-- How many tokens stand before it. -/
  position : Nat
  /-- Whether nothing but a key may stand there. -/
  required : Bool
  /-- Where it starts. -/
  index : Nat
  /-- The line it starts on. -/
  line : Nat
  /-- The column it starts at. -/
  column : Nat

/-- How far a document has been read. -/
structure Layout where
  /-- The place. -/
  cursor : Cursor
  /-- The tokens so far. -/
  tokens : Array Token
  /-- The column of the innermost indented list or mapping, or minus one. -/
  indent : Int
  /-- The columns of those around it, the innermost first. -/
  outer : List Int
  /-- How many brackets are open. -/
  depth : Nat
  /-- Whether a key may start here. -/
  keyAllowed : Bool
  /-- What may turn out to be a key, by the number of brackets around it. -/
  keys : List (Nat × PossibleKey)

namespace Layout

/-- The start of a text. -/
def start (cs : List Char) : Layout := ⟨.start cs, #[], -1, [], 0, true, []⟩

/-- Adds a token. -/
def push (t : Token) (l : Layout) : Layout := { l with tokens := l.tokens.push t }

/-- Puts a token in front of those from a position on. -/
def insertAt (position : Nat) (t : Token) (l : Layout) : Layout :=
  { l with tokens := l.tokens.insertIdxIfInBounds position t }

/-- Goes to a place. -/
def goto (c : Cursor) (l : Layout) : Layout := { l with cursor := c }

/-- Allows a key, or does not. -/
def allowKey (allowed : Bool) (l : Layout) : Layout := { l with keyAllowed := allowed }

/-- Goes to the next token, over spaces, comments and line breaks; outside brackets a key may start
after a line break. `fuel` bounds the lines. -/
def skipBlank : Nat → Layout → Layout
  | 0, l => l
  | fuel + 1, l =>
    let c := l.cursor.skipSpaces.skipComment
    match c.lineBreak? with
    | some (_, after) => skipBlank fuel { l with cursor := after, keyAllowed := l.keyAllowed || l.depth == 0 }
    | none => l.goto c

/-- Whether a possible key is too far back to be one. -/
def isStale (c : Cursor) (k : PossibleKey) : Bool := k.line != c.line || c.index - k.index > 1024

/-- Forgets the possible keys that are too far back; a required one must not be among them. -/
def dropStale (l : Layout) : Except Error Layout :=
  if l.keys.any fun (_, k) => isStale l.cursor k && k.required then .error .malformed
  else .ok { l with keys := l.keys.filter fun (_, k) => !isStale l.cursor k }

/-- Forgets the possible key at the present depth, which must not be required. -/
def dropKey (l : Layout) : Except Error Layout :=
  if l.keys.any fun (d, k) => d == l.depth && k.required then .error .malformed
  else .ok { l with keys := l.keys.filter fun (d, _) => d != l.depth }

/-- Notes that what follows may turn out to be a key, if a key may start here. -/
def noteKey (l : Layout) : Except Error Layout := do
  if !l.keyAllowed then return l
  let l ← l.dropKey
  let c := l.cursor
  let required := l.depth == 0 && l.indent == c.column
  return { l with
    keys := (l.depth, ⟨l.tokens.size, required, c.index, c.line, c.column⟩) :: l.keys }

/-- Ends the indented lists and mappings that start right of a column. -/
def unwindTo (column : Int) (l : Layout) : Layout :=
  if l.depth > 0 then l else go l l.outer
where
  /-- Goes through the columns of those around. -/
  go (l : Layout) : List Int → Layout
    | [] => l
    | indent :: rest =>
      if l.indent > column then go { l.push .blockEnd with indent := indent, outer := rest } rest
      else l

/-- Starts an indented list or mapping at a column, if it is right of the present one; its token goes
to a position. -/
def indentAt (column position : Nat) (t : Token) (l : Layout) : Layout :=
  if l.indent < column then
    { l.insertAt position t with indent := column, outer := l.indent :: l.outer }
  else l

/-- Adds the token of a sign, and goes behind the sign. -/
def sign (width : Nat) (t : Token) (l : Layout) : Layout := (l.push t).goto (l.cursor.skip width)

/-- Ends the text. -/
def endText (l : Layout) : Except Error Layout := do
  let l ← (l.unwindTo (-1)).dropKey
  return l.push .streamEnd

/-- Reads a directive. -/
def directive (l : Layout) : Except Error Layout := do
  let l ← (l.unwindTo (-1)).dropKey
  let (d, c) ← readDirective l.cursor
  return ((l.push (.directive d)).goto c).allowKey false

/-- Reads a line that separates documents. -/
def separator (t : Token) (l : Layout) : Except Error Layout := do
  let l ← (l.unwindTo (-1)).dropKey
  return (l.sign 3 t).allowKey false

/-- Reads an opening bracket. -/
def openBracket (t : Token) (l : Layout) : Except Error Layout := do
  let l ← l.noteKey
  return { (l.sign 1 t).allowKey true with depth := l.depth + 1 }

/-- Reads a closing bracket. -/
def closeBracket (t : Token) (l : Layout) : Except Error Layout := do
  let l ← l.dropKey
  if l.depth == 0 then throw .malformed
  return { (l.sign 1 t).allowKey false with depth := l.depth - 1 }

/-- Reads a comma between items. -/
def comma (l : Layout) : Except Error Layout := do
  let l ← (l.allowKey true).dropKey
  return l.sign 1 .flowEntry

/-- Starts an indented list or mapping at a sign, which must stand where a key may. -/
def indentAtSign (t : Token) (l : Layout) : Except Error Layout :=
  if l.depth > 0 then .ok l
  else if !l.keyAllowed then .error .malformed
  else .ok (l.indentAt l.cursor.column l.tokens.size t)

/-- Reads a hyphen in front of an item. -/
def hyphen (l : Layout) : Except Error Layout := do
  let l ← l.indentAtSign .blockSequenceStart
  let l ← (l.allowKey true).dropKey
  return l.sign 1 .blockEntry

/-- Reads a question mark in front of a key. -/
def questionMark (l : Layout) : Except Error Layout := do
  let l ← l.indentAtSign .blockMappingStart
  let l ← (l.allowKey (l.depth == 0)).dropKey
  return l.sign 1 .key

/-- Reads a colon in front of a value; a possible key before it becomes one. -/
def colon (l : Layout) : Except Error Layout := do
  match l.keys.find? (·.1 == l.depth) with
  | some (_, k) =>
    let l := { l with keys := l.keys.filter fun (d, _) => d != l.depth }
    let l := l.insertAt k.position .key
    let l := if l.depth == 0 then l.indentAt k.column k.position .blockMappingStart else l
    return (l.allowKey false).sign 1 .value
  | none =>
    let l ← l.indentAtSign .blockMappingStart
    let l ← (l.allowKey (l.depth == 0)).dropKey
    return l.sign 1 .value

/-- Reads a reference to a node, or the name of one. -/
def reference (t : String → Token) (l : Layout) : Except Error Layout := do
  let l ← l.noteKey
  let (name, c) ← readReference l.cursor
  return ((l.push (t name)).goto c).allowKey false

/-- Reads a tag. -/
def tag (l : Layout) : Except Error Layout := do
  let l ← l.noteKey
  let ((handle, suffix), c) ← readTag l.cursor
  return ((l.push (.tag handle suffix)).goto c).allowKey false

/-- Reads a block scalar. -/
def block (folded : Bool) (l : Layout) : Except Error Layout := do
  let l ← (l.allowKey true).dropKey
  let (cs, c) ← blockScalar folded (l.indent + 1) l.cursor
  return (l.push (.scalar (String.ofList cs) false)).goto c

/-- Reads a quoted scalar. -/
def quotedText (mark : Char) (l : Layout) : Except Error Layout := do
  let l ← l.noteKey
  let (cs, c) ← quotedScalar mark l.cursor
  return ((l.push (.scalar (String.ofList cs) false)).goto c).allowKey false

/-- Reads a plain scalar. -/
def plain (l : Layout) : Except Error Layout := do
  let l ← l.noteKey
  let (cs, broken, c) := plainScalar (l.depth > 0) (l.indent + 1) l.cursor
  return ((l.push (.scalar (String.ofList cs) true)).goto c).allowKey broken

/-- Whether a plain scalar starts with a character. -/
def startsPlain (l : Layout) (ch : Char) : Bool :=
  !"-?:,[]\x7b\x7d#&*!|>'\"%@\x60".toList.contains ch && !isGap ch && !isBreak ch ||
    (!l.cursor.gapAfter 1 && (ch == '-' || (l.depth == 0 && (ch == '?' || ch == ':'))))

/-- Reads the token that starts with a character. -/
def token (l : Layout) (ch : Char) : Except Error Layout :=
  let c := l.cursor
  let lineStart := c.column == 0
  if ch == '%' && lineStart then l.directive
  else if lineStart && c.atWord "---" then l.separator .documentStart
  else if lineStart && c.atWord "..." then l.separator .documentEnd
  else match ch with
    | '[' => l.openBracket .flowSequenceStart
    | '{' => l.openBracket .flowMappingStart
    | ']' => l.closeBracket .flowSequenceEnd
    | '}' => l.closeBracket .flowMappingEnd
    | ',' => l.comma
    | '*' => l.reference .alias
    | '&' => l.reference .anchor
    | '!' => l.tag
    | '\'' | '"' => l.quotedText ch
    | _ =>
      if ch == '-' && c.gapAfter 1 then l.hyphen
      else if ch == '?' && (l.depth > 0 || c.gapAfter 1) then l.questionMark
      else if ch == ':' && (l.depth > 0 || c.gapAfter 1) then l.colon
      else if (ch == '|' || ch == '>') && l.depth == 0 then l.block (ch == '>')
      else if l.startsPlain ch then l.plain
      else .error .malformed

/-- Reads the tokens that follow; `fuel` bounds their number. -/
def run : Nat → Layout → Except Error Layout
  | 0, _ => .error .malformed
  | fuel + 1, l => do
    let l ← (l.skipBlank (l.cursor.rest.length + 1)).dropStale
    let l := l.unwindTo l.cursor.column
    match l.cursor.peek? with
    | none => l.endText
    | some ch => run fuel (← l.token ch)

end Layout

/-- The text of a document with one form of line break and without the mark at its start. -/
def normalized (cs : List Char) : List Char :=
  let cs := unifyBreaks cs
  if cs.head? == some byteOrderMark then cs.drop 1 else cs

/-- The tokens of a text. -/
def Token.ofText (s : String) : Except Error (List Token) :=
  let cs := normalized s.toList
  if !cs.all isAllowed then .error .malformed
  else ((Layout.start cs).run (cs.length + 2)).map fun l => l.tokens.toList

end PathTemplates.Yaml
