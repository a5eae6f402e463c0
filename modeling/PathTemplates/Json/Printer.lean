import PathTemplates.Json.Basic
import PathTemplates.Number.Shortest
import PathTemplates.Text.Quoted

/-! # Printing JSON

Two layouts: compact, with every character written as itself where the format allows it, and
indented by two spaces, with everything beyond printable ASCII escaped in units of sixteen bits. A third prints
on one line with spaces after the separators, as log records have it. -/

namespace PathTemplates.Json

/-- A character inside a JSON string that is not escaped for being beyond ASCII. -/
def escapeControl (c : Char) : List Char :=
  if c == '"' then ['\\', '"']
  else if c == '\\' then ['\\', '\\']
  else if c == '\n' then ['\\', 'n']
  else if c == '\r' then ['\\', 'r']
  else if c == '\t' then ['\\', 't']
  else if c.toNat == 8 then ['\\', 'b']
  else if c.toNat == 12 then ['\\', 'f']
  else if c.toNat < 32 then '\\' :: 'u' :: hexDigits 4 c.toNat
  else [c]

/-- A character inside a JSON string of printable ASCII only: any other is one escape, or two halves. -/
def escapeAscii (c : Char) : List Char :=
  let code := c.toNat
  if code < 127 then escapeControl c
  else if code < 0x10000 then '\\' :: 'u' :: hexDigits 4 code
  else
    let offset := code - 0x10000
    '\\' :: 'u' :: hexDigits 4 (0xd800 + offset / 0x400) ++
      '\\' :: 'u' :: hexDigits 4 (0xdc00 + offset % 0x400)

/-- A JSON string. -/
def stringWith (escape : Char → List Char) (s : String) : List Char :=
  '"' :: s.toList.flatMap escape ++ ['"']

/-- A number that is not whole; the special ones have names. -/
def floatText : Floating → String
  | .nan => "NaN"
  | .infinite negative => if negative then "-Infinity" else "Infinity"
  | x => x.text

mutual

/-- A value on one line, with given texts between items and after a member's name. -/
def inlineWith (escape : Char → List Char) (comma colon : List Char) : Json → List Char
  | array items => '[' :: inlineItems escape comma colon items ++ [']']
  | object members => '{' :: inlineMembers escape comma colon members ++ ['}']
  | null => "null".toList
  | bool b => (if b then "true" else "false").toList
  | int n => (toString n).toList
  | float x => (floatText x).toList
  | text s => stringWith escape s

/-- The items of a list on one line. -/
def inlineItems (escape : Char → List Char) (comma colon : List Char) : List Json → List Char
  | [] => []
  | [item] => inlineWith escape comma colon item
  | item :: rest =>
    inlineWith escape comma colon item ++ comma ++ inlineItems escape comma colon rest

/-- The members of an object on one line. -/
def inlineMembers (escape : Char → List Char) (comma colon : List Char) :
    List (String × Json) → List Char
  | [] => []
  | [(name, value)] =>
    stringWith escape name ++ colon ++ inlineWith escape comma colon value
  | (name, value) :: rest =>
    stringWith escape name ++ colon ++ inlineWith escape comma colon value ++ comma ++
      inlineMembers escape comma colon rest

end

/-- The compact layout. -/
def compact (value : Json) : String :=
  String.ofList (inlineWith escapeControl [','] [':'] value)

/-- One line, ASCII only, with a space after each separator. -/
def line (value : Json) : String :=
  String.ofList (inlineWith escapeAscii [',', ' '] [':', ' '] value)

/-- A line break and the indentation of a depth. -/
def newline (depth : Nat) : List Char := '\n' :: List.replicate (2 * depth) ' '

mutual

/-- A value spread over lines; an empty list or object stays on its line. -/
def spread (depth : Nat) : Json → List Char
  | array [] => ['[', ']']
  | array (item :: rest) =>
    '[' :: newline (depth + 1) ++ spread (depth + 1) item ++
      spreadItems (depth + 1) rest ++ newline depth ++ [']']
  | object [] => ['{', '}']
  | object ((name, value) :: rest) =>
    '{' :: newline (depth + 1) ++ stringWith escapeAscii name ++ [':', ' '] ++
      spread (depth + 1) value ++ spreadMembers (depth + 1) rest ++ newline depth ++ ['}']
  | null => "null".toList
  | bool b => (if b then "true" else "false").toList
  | int n => (toString n).toList
  | float x => (floatText x).toList
  | text s => stringWith escapeAscii s

/-- The items after the first. -/
def spreadItems (depth : Nat) : List Json → List Char
  | [] => []
  | item :: rest => ',' :: newline depth ++ spread depth item ++ spreadItems depth rest

/-- The members after the first. -/
def spreadMembers (depth : Nat) : List (String × Json) → List Char
  | [] => []
  | (name, value) :: rest =>
    ',' :: newline depth ++ stringWith escapeAscii name ++ [':', ' '] ++ spread depth value ++
      spreadMembers depth rest

end

/-- The indented layout. -/
def pretty (value : Json) : String := String.ofList (spread 0 value)

end PathTemplates.Json
