import PathTemplates.Text.Digit
import PathTemplates.Text.Search

/-! # Tags

What kind of data a node stands for. A node without a tag of its own has the tag of its shape; a plain
scalar without one has the tag of the first form that its text has. -/

namespace PathTemplates.Yaml

/-- A tag. -/
inductive Tag
  /-- The missing value. -/
  | null
  /-- A truth value. -/
  | bool
  /-- A whole number. -/
  | int
  /-- A number with a fraction. -/
  | float
  /-- A text. -/
  | text
  /-- A day, which may have a time. -/
  | timestamp
  /-- A string of bytes. -/
  | binary
  /-- A list. -/
  | sequence
  /-- A mapping. -/
  | mapping
  /-- Distinct items. -/
  | set
  /-- A list of single entries. -/
  | pairs
  /-- The key for entries of other mappings. -/
  | merge
  /-- The key for the value that a mapping stands for. -/
  | value
  /-- A tag without a meaning. -/
  | unknown
  deriving DecidableEq

namespace Tag

/-- The text in front of the names of tags that have a meaning. -/
def standard : String := "tag:yaml.org,2002:"

/-- The names of the tags that a document may spell out. -/
def names : List (String × Tag) :=
  [("null", null), ("bool", bool), ("int", int), ("float", float), ("str", text),
    ("timestamp", timestamp), ("binary", binary), ("seq", sequence), ("map", mapping), ("set", set),
    ("omap", pairs), ("pairs", pairs), ("merge", merge), ("value", value)]

/-- The tag with a full name. -/
def ofName (s : String) : Tag :=
  match names.find? fun (name, _) => standard ++ name == s with
  | some (_, t) => t
  | none => unknown

end Tag

/-! ## Forms of plain scalars -/

/-- A digit or an underscore. -/
def isDigitOrLine (c : Char) : Bool := isAsciiDigit c || c == '_'

/-- A text without its sign. -/
def dropSign : List Char → List Char
  | c :: rest => if c == '+' || c == '-' then rest else c :: rest
  | [] => []

/-- Whether a text is a digit followed by digits and underscores. -/
def isNumber : List Char → Bool
  | c :: rest => isAsciiDigit c && rest.all isDigitOrLine
  | [] => false

/-- Whether a text is a number below sixty of one or two digits. -/
def isSixty : List Char → Bool
  | [a] => isAsciiDigit a
  | [a, b] => '0' ≤ a && a ≤ '5' && isAsciiDigit b
  | _ => false

/-- Whether a text is a number with parts in base sixty after it, each after a colon. -/
def isSixties (cs : List Char) : Bool :=
  match splitChar ':' cs with
  | first :: parts => isNumber first && !parts.isEmpty && parts.all isSixty
  | [] => false

/-- An exponent, which has a sign, or nothing. -/
def isExponent : List Char → Bool
  | [] => true
  | e :: sign :: d :: rest =>
    (e == 'e' || e == 'E') && (sign == '+' || sign == '-') && isAsciiDigit d && rest.all isAsciiDigit
  | _ => false

/-- Whether a text is one of some words. -/
def isWord (words : List String) (cs : List Char) : Bool := words.any fun w => w.toList == cs

/-- The form of a whole number: binary, octal, decimal, hexadecimal or in base sixty. -/
def isIntForm (cs : List Char) : Bool :=
  match dropSign cs with
  | '0' :: 'b' :: rest => !rest.isEmpty && rest.all fun c => c == '0' || c == '1' || c == '_'
  | '0' :: 'x' :: rest => !rest.isEmpty && rest.all fun c => isHexDigit c || c == '_'
  | '0' :: rest => rest.all fun c => ('0' ≤ c && c ≤ '7') || c == '_'
  | cs => isNumber cs || isSixties cs

/-- The form of a number with a fraction. -/
def isFloatForm (cs : List Char) : Bool :=
  let body := dropSign cs
  let whole := body.takeWhile (· != '.')
  match body.drop whole.length with
  | [] => false
  | _ :: tail =>
    isWord [".inf", ".Inf", ".INF"] body || isWord [".nan", ".NaN", ".NAN"] cs ||
      (isNumber whole && isExponent (tail.dropWhile isDigitOrLine)) ||
      (cs.head? == some '.' && tail.head?.any isAsciiDigit &&
        isExponent (tail.dropWhile isDigitOrLine)) ||
      (isSixties whole && tail.all isDigitOrLine)

/-- A number of digits between two bounds, and the rest. -/
def upToDigits? (least most : Nat) (cs : List Char) : Option (List Char × List Char) :=
  let ds := (cs.take most).takeWhile isAsciiDigit
  if ds.length < least then none else some (ds, cs.drop ds.length)

/-- The rest of a text after a character. -/
def afterChar? (c : Char) : List Char → Option (List Char)
  | d :: rest => if d == c then some rest else none
  | [] => none

/-- The numbers in a day and a time of it. -/
structure TimeParts where
  /-- The year. -/
  year : List Char
  /-- The month. -/
  month : List Char
  /-- The day. -/
  day : List Char
  /-- The hour, the minute and the second. -/
  time : Option (List Char × List Char × List Char)
  /-- The fraction of the second. -/
  fraction : List Char
  /-- The sign, the hours and the minutes of a distance from universal time. -/
  zone : Option (Char × List Char × List Char)
  /-- Whether the time is universal. -/
  universal : Bool

/-- The distance from universal time at the end of a text. -/
def zoneParts? (p : TimeParts) (cs : List Char) : Option TimeParts :=
  match cs.dropWhile fun c => c == ' ' || c == '\t' with
  | [] => if cs.isEmpty then some p else none
  | ['Z'] => some { p with universal := true }
  | sign :: rest => do
    if sign != '+' && sign != '-' then none
    let (hours, rest) ← upToDigits? 1 2 rest
    match rest with
    | [] => some { p with zone := some (sign, hours, []) }
    | _ =>
      let (minutes, rest) ← upToDigits? 2 2 (← afterChar? ':' rest)
      if rest.isEmpty then some { p with zone := some (sign, hours, minutes) } else none

/-- The time that follows a day. -/
def timeParts? (p : TimeParts) (cs : List Char) : Option TimeParts := do
  let (hour, rest) ← upToDigits? 1 2 cs
  let (minute, rest) ← upToDigits? 2 2 (← afterChar? ':' rest)
  let (second, rest) ← upToDigits? 2 2 (← afterChar? ':' rest)
  let p := { p with time := some (hour, minute, second) }
  match rest with
  | '.' :: rest =>
    let fraction := rest.takeWhile isAsciiDigit
    zoneParts? { p with fraction := fraction } (rest.drop fraction.length)
  | _ => zoneParts? p rest

/-- The numbers in a text with the form of a day; a month and a day of it may have one digit. -/
def dateParts? (cs : List Char) : Option TimeParts := do
  let (year, rest) ← upToDigits? 4 4 cs
  let (month, rest) ← upToDigits? 1 2 (← afterChar? '-' rest)
  let (day, rest) ← upToDigits? 1 2 (← afterChar? '-' rest)
  let p : TimeParts := ⟨year, month, day, none, [], none, false⟩
  match rest with
  | [] => some p
  | c :: more =>
    if c == 'T' || c == 't' then timeParts? p more
    else if c == ' ' || c == '\t' then
      timeParts? p (more.dropWhile fun c => c == ' ' || c == '\t')
    else none

/-- The form of a day, or of a day and a time; without a time the month and the day have two digits. -/
def isTimestampForm (cs : List Char) : Bool :=
  match dateParts? cs with
  | some p => p.time.isSome || (p.month.length == 2 && p.day.length == 2)
  | none => false

/-- The words for truth values. -/
def truthWords : List String :=
  ["yes", "Yes", "YES", "no", "No", "NO", "true", "True", "TRUE", "false", "False", "FALSE", "on",
    "On", "ON", "off", "Off", "OFF"]

/-- The words for the missing value. -/
def nullWords : List String := ["~", "null", "Null", "NULL", ""]

/-- The tag of a plain scalar. -/
def Tag.ofPlain (s : String) : Tag :=
  let cs := s.toList
  if isWord truthWords cs then .bool
  else if isFloatForm cs then .float
  else if isIntForm cs then .int
  else if s == "<<" then .merge
  else if isWord nullWords cs then .null
  else if isTimestampForm cs then .timestamp
  else if s == "=" then .value
  else .text

end PathTemplates.Yaml
