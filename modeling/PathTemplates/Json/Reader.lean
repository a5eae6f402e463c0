import PathTemplates.Json.Basic
import PathTemplates.Text.Digit
import PathTemplates.Text.Numeral

/-! # Reading JSON

A recursive-descent reader over characters. The names `NaN`, `Infinity` and `-Infinity` are numbers;
control characters may not stand in strings; a name given twice keeps its first place and takes the
last value; whole numbers have at most as many digits as numerals in text have. -/

namespace PathTemplates.Json

/-- Blanks between the parts of a value. -/
def isSpace (c : Char) : Bool := c == ' ' || c == '\t' || c == '\n' || c == '\r'

/-- The text without leading blanks. -/
def skipSpace (cs : List Char) : List Char := cs.dropWhile isSpace

/-- Four hexadecimal digits and the rest. -/
def readUnit? : List Char → Option (Nat × List Char)
  | a :: b :: c :: d :: rest => do
    let a ← hexValue? a
    let b ← hexValue? b
    let c ← hexValue? c
    let d ← hexValue? d
    return (((a * 16 + b) * 16 + c) * 16 + d, rest)
  | _ => none

/-- The character that a one-letter escape stands for. -/
def unescape? : Char → Option Char
  | '"' => some '"'
  | '\\' => some '\\'
  | '/' => some '/'
  | 'b' => some (Char.ofNat 8)
  | 'f' => some (Char.ofNat 12)
  | 'n' => some '\n'
  | 'r' => some '\r'
  | 't' => some '\t'
  | _ => none

/-- A unit after its escape mark, joined with the low half that follows a high half. -/
def readEscaped? (cs : List Char) : Option (Char × List Char) := do
  let (code, rest) ← readUnit? cs
  if 0xd800 ≤ code && code < 0xdc00 then
    match rest with
    | '\\' :: 'u' :: more =>
      match readUnit? more with
      | some (low, tail) =>
        if 0xdc00 ≤ low && low < 0xe000 then
          return (Char.ofNat (0x10000 + (code - 0xd800) * 0x400 + (low - 0xdc00)), tail)
        else return (Char.ofNat 0xfffd, rest)
      | none => return (Char.ofNat 0xfffd, rest)
    | _ => return (Char.ofNat 0xfffd, rest)
  else if 0xdc00 ≤ code && code < 0xe000 then return (Char.ofNat 0xfffd, rest)
  else return (Char.ofNat code, rest)

/-- The characters up to the closing quote, and the rest; `fuel` bounds the characters read. -/
def readString? : Nat → List Char → Option (List Char × List Char)
  | 0, _ => none
  | _, [] => none
  | fuel + 1, c :: rest =>
    if c == '"' then some ([], rest)
    else if c == '\\' then
      match rest with
      | 'u' :: more =>
        match readEscaped? more with
        | some (d, tail) => (readString? fuel tail).map fun (s, r) => (d :: s, r)
        | none => none
      | e :: more =>
        match unescape? e with
        | some d => (readString? fuel more).map fun (s, r) => (d :: s, r)
        | none => none
      | [] => none
    else if c.toNat < 32 then none
    else (readString? fuel rest).map fun (s, r) => (c :: s, r)

/-- An exponent and the rest; without digits it is no exponent. -/
def takeExponent (cs : List Char) : Option Int × List Char :=
  match cs with
  | e :: rest =>
    if e == 'e' || e == 'E' then
      let (negative, body) := takeSign rest
      let ds := body.takeWhile isAsciiDigit
      if ds.isEmpty then (none, cs)
      else (some (withSign negative (digitsValue ds)), body.dropWhile isAsciiDigit)
    else (none, cs)
  | [] => (none, cs)

/-- A fraction's digits and the rest; without digits it is no fraction. -/
def takeFraction (cs : List Char) : Option (List Char) × List Char :=
  match cs with
  | '.' :: rest =>
    let ds := rest.takeWhile isAsciiDigit
    if ds.isEmpty then (none, cs) else (some ds, rest.dropWhile isAsciiDigit)
  | _ => (none, cs)

/-- A number after its sign. -/
def readNumber? (negative : Bool) (cs : List Char) : Option (Json × List Char) :=
  let whole := match cs with
    | '0' :: _ => ['0']
    | _ => cs.takeWhile isAsciiDigit
  if whole.isEmpty then none else
  let (fraction, rest) := takeFraction (cs.drop whole.length)
  let (exponent, rest) := takeExponent rest
  match fraction, exponent with
  | none, none =>
    if whole.length > maxNumeralDigits then none
    else some (.int (withSign negative (digitsValue whole)), rest)
  | _, _ =>
    let places := fraction.getD []
    some (.float (.ofDecimal negative (digitsValue (whole ++ places))
      (exponent.getD 0 - places.length)), rest)

/-- The rest of a text after a word. -/
def afterWord? (word : String) (cs : List Char) : Option (List Char) :=
  if word.toList.isPrefixOf cs then some (cs.drop word.length) else none

/-- Adds a member, a repeated name keeping its first place. -/
def putMember (members : List (String × Json)) (name : String) (value : Json) :
    List (String × Json) :=
  if members.any (·.1 == name) then
    members.map fun m => if m.1 == name then (name, value) else m
  else members ++ [(name, value)]

/-- Members in the order of their first mention, each with its last value. -/
def gatherMembers (members : List (String × Json)) : List (String × Json) :=
  members.foldl (fun kept (name, value) => putMember kept name value) []

mutual

/-- Reads one value; `fuel` bounds the steps. -/
def readValue? : Nat → List Char → Option (Json × List Char)
  | 0, _ => none
  | fuel + 1, cs =>
    match cs with
    | '"' :: rest => (readString? (rest.length + 1) rest).map fun (s, r) =>
        (.text (String.ofList s), r)
    | '[' :: rest =>
      match skipSpace rest with
      | ']' :: tail => some (.array [], tail)
      | body => (readItems? fuel body).map fun (items, r) => (.array items, r)
    | '{' :: rest =>
      match skipSpace rest with
      | '}' :: tail => some (.object [], tail)
      | body => (readMembers? fuel body).map fun (members, r) =>
          (.object (gatherMembers members), r)
    | '-' :: rest =>
      match afterWord? "Infinity" rest with
      | some tail => some (.float (.infinite true), tail)
      | none => readNumber? true rest
    | _ =>
      match afterWord? "null" cs, afterWord? "true" cs, afterWord? "false" cs with
      | some tail, _, _ => some (.null, tail)
      | _, some tail, _ => some (.bool true, tail)
      | _, _, some tail => some (.bool false, tail)
      | none, none, none =>
        match afterWord? "NaN" cs, afterWord? "Infinity" cs with
        | some tail, _ => some (.float .nan, tail)
        | _, some tail => some (.float (.infinite false), tail)
        | none, none => readNumber? false cs

/-- Reads the items of a list up to its closing bracket. -/
def readItems? : Nat → List Char → Option (List Json × List Char)
  | 0, _ => none
  | fuel + 1, cs =>
    match readValue? fuel cs with
    | none => none
    | some (item, rest) =>
      match skipSpace rest with
      | ']' :: tail => some ([item], tail)
      | ',' :: tail => (readItems? fuel (skipSpace tail)).map fun (items, r) => (item :: items, r)
      | _ => none

/-- Reads the members of an object up to its closing brace. -/
def readMembers? : Nat → List Char → Option (List (String × Json) × List Char)
  | 0, _ => none
  | fuel + 1, cs =>
    match cs with
    | '"' :: rest =>
      match readString? (rest.length + 1) rest with
      | none => none
      | some (name, afterName) =>
        match skipSpace afterName with
        | ':' :: more =>
          match readValue? fuel (skipSpace more) with
          | none => none
          | some (value, tail) =>
            let entry := (String.ofList name, value)
            match skipSpace tail with
            | '}' :: r => some ([entry], r)
            | ',' :: r => (readMembers? fuel (skipSpace r)).map fun (members, r) =>
                (entry :: members, r)
            | _ => none
        | _ => none
    | _ => none

end

/-- Reads a whole text as one value. -/
def read? (s : String) : Option Json :=
  match readValue? (s.length + 1) (skipSpace s.toList) with
  | some (value, rest) => if (skipSpace rest).isEmpty then some value else none
  | none => none

end PathTemplates.Json
