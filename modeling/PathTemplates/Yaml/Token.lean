import PathTemplates.Text.Digit
import PathTemplates.Yaml.Cursor
import PathTemplates.Yaml.Error

/-! # Tokens of a document

The signs, names and scalars of a document, and the starts and ends that its indentation implies. -/

namespace PathTemplates.Yaml

/-- What a line that starts with a percent sign says. -/
inductive Directive
  /-- The version of the format. -/
  | version (major minor : Nat)
  /-- What a handle in front of tags stands for. -/
  | handle (name expansion : String)
  /-- Anything else, which has no meaning. -/
  | other
  deriving DecidableEq

/-- A token. -/
inductive Token
  /-- A directive. -/
  | directive (d : Directive)
  /-- The line in front of a document. -/
  | documentStart
  /-- The line after a document. -/
  | documentEnd
  /-- The end of the text. -/
  | streamEnd
  /-- The start of an indented list. -/
  | blockSequenceStart
  /-- The start of an indented mapping. -/
  | blockMappingStart
  /-- The end of an indented list or mapping. -/
  | blockEnd
  /-- The start of a list in brackets. -/
  | flowSequenceStart
  /-- The end of a list in brackets. -/
  | flowSequenceEnd
  /-- The start of a mapping in braces. -/
  | flowMappingStart
  /-- The end of a mapping in braces. -/
  | flowMappingEnd
  /-- A hyphen in front of an item. -/
  | blockEntry
  /-- A comma between items. -/
  | flowEntry
  /-- The start of a key. -/
  | key
  /-- The start of a value. -/
  | value
  /-- A reference to a node. -/
  | alias (name : String)
  /-- A name for a node. -/
  | anchor (name : String)
  /-- A tag, which may have a handle. -/
  | tag (handle : Option String) (suffix : String)
  /-- The text of a scalar; a plain one is written without quotes on one level with its signs. -/
  | scalar (text : String) (plain : Bool)
  deriving DecidableEq

/-- A character of a name. -/
def isNameChar (c : Char) : Bool := isAsciiDigit c || isAsciiLetter c || c == '-' || c == '_'

/-- A name of one character or more, and the place after it. -/
def readName (c : Cursor) : Except Error (String × Cursor) :=
  let (name, c) := c.span isNameChar
  if name.isEmpty then .error .malformed else .ok (String.ofList name, c)

/-- The name of a reference or a node, from its sign. -/
def readReference (c : Cursor) : Except Error (String × Cursor) := do
  let (name, c) ← readName c.next
  if c.gapAfter 0 || c.rest.head?.any "?:,]\x7d%@\x60".toList.contains then return (name, c)
  else throw .malformed

/-! ## Tags -/

/-- A character of a tag that is written as itself. -/
def isTagChar (c : Char) : Bool :=
  isAsciiDigit c || isAsciiLetter c || "-;/?:@&=+$,_.!~*'()[]".toList.contains c

/-- Bytes that stand between percent signs in a tag, and the place after them; `fuel` bounds them. -/
def readBytes : Nat → Cursor → Except Error (List UInt8 × Cursor)
  | 0, c => .ok ([], c)
  | fuel + 1, c =>
    match c.rest with
    | '%' :: a :: b :: _ =>
      match hexValue? a, hexValue? b with
      | some hi, some lo =>
        (readBytes fuel (c.skip 3)).map fun (bs, c) => (UInt8.ofNat (hi * 16 + lo) :: bs, c)
      | _, _ => .error .malformed
    | '%' :: _ => .error .malformed
    | _ => .ok ([], c)

/-- The characters of a tag and the place after them; bytes between percent signs are decoded. `fuel`
bounds the pieces. -/
def readTagRest : Nat → Cursor → Except Error (List Char × Cursor)
  | 0, c => .ok ([], c)
  | fuel + 1, c => do
    let (run, c) := c.span isTagChar
    if c.peek? == some '%' then
      let (bytes, c) ← readBytes (c.rest.length + 1) c
      match String.fromUTF8? ⟨bytes.toArray⟩ with
      | some s =>
        let (more, c) ← readTagRest fuel c
        return (run ++ s.toList ++ more, c)
      | none => throw .malformed
    else return (run, c)

/-- The part of a tag that follows its handle. -/
def readTagText (c : Cursor) : Except Error (String × Cursor) := do
  let (cs, after) ← readTagRest (c.rest.length + 1) c
  if after.index == c.index then throw .malformed
  return (String.ofList cs, after)

/-- A handle: an exclamation mark, which a name and another exclamation mark may follow. -/
def readHandle (c : Cursor) : Except Error (String × Cursor) :=
  if c.peek? != some '!' then .error .malformed
  else
    let after := c.next
    if after.peek? == some ' ' then .ok ("!", after)
    else
      let (name, final) := after.span isNameChar
      if final.peek? == some '!' then .ok (String.ofList ('!' :: name ++ ['!']), final.next)
      else .error .malformed

/-- Whether a second exclamation mark stands in the word that follows. -/
def hasHandle (c : Cursor) : Bool :=
  (c.rest.takeWhile fun ch => ch != ' ' && !isBreak ch).contains '!'

/-- The handle and the rest of a tag from its exclamation mark, and the place after it. -/
def readTag (c : Cursor) : Except Error ((Option String × String) × Cursor) := do
  let (tag, c) ←
    if c.next.peek? == some '<' then do
      let (text, c) ← readTagText (c.skip 2)
      if c.peek? != some '>' then throw .malformed
      pure ((none, text), c.next)
    else if c.next.gapAfter 0 then pure ((none, "!"), c.next)
    else do
      let (handle, c) ← if hasHandle c.next then readHandle c else pure ("!", c.next)
      let (text, c) ← readTagText c
      pure ((some handle, text), c)
  if c.atSpace then return (tag, c) else throw .malformed

/-! ## Directives -/

/-- A number in the version of the format. -/
def readVersionNumber (c : Cursor) : Except Error (Nat × Cursor) :=
  let (ds, c) := c.span isAsciiDigit
  if ds.isEmpty then .error .malformed else .ok (digitsValue ds, c)

/-- What a directive says after its name. -/
def readDirectiveValue (name : String) (c : Cursor) : Except Error (Directive × Cursor) :=
  match name with
  | "YAML" => do
    let (major, c) ← readVersionNumber c.skipSpaces
    if c.peek? != some '.' then throw .malformed
    let (minor, c) ← readVersionNumber c.next
    if c.atSpace then return (.version major minor, c) else throw .malformed
  | "TAG" => do
    let (handle, c) ← readHandle c.skipSpaces
    if c.peek? != some ' ' then throw .malformed
    let (expansion, c) ← readTagText c.skipSpaces
    if c.atSpace then return (.handle handle expansion, c) else throw .malformed
  | _ => .ok (.other, (c.span (!isBreak ·)).2)

/-- A directive from its percent sign, and the place of the next line. -/
def readDirective (c : Cursor) : Except Error (Directive × Cursor) := do
  let (name, c) ← readName c.next
  if !c.atSpace then throw .malformed
  let (d, c) ← readDirectiveValue name c
  let c := c.skipSpaces.skipComment
  if c.atLineEnd then return (d, c.next) else throw .malformed

end PathTemplates.Yaml
