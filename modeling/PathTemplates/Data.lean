import PathTemplates.Calendar
import PathTemplates.Json.Basic
import PathTemplates.Number.Shortest
import PathTemplates.Text.Quoted

/-! # Plain data

What settings files and the environment may hold, and how a message shows it: texts between quotes,
lists in brackets, mappings in braces, and names for truth values and the missing value. -/

namespace PathTemplates

/-- A piece of plain data. -/
inductive Data
  /-- The missing value. -/
  | null
  /-- A truth value. -/
  | bool (value : Bool)
  /-- A whole number. -/
  | int (value : Int)
  /-- A number with a fraction. -/
  | float (value : Floating)
  /-- A text. -/
  | text (value : String)
  /-- A day. -/
  | date (value : Date)
  /-- A day and a time of it. -/
  | moment (value : Moment)
  /-- A string of bytes. -/
  | bytes (value : List Nat)
  /-- A list. -/
  | list (items : List Data)
  /-- A pair. -/
  | pair (first second : Data)
  /-- Distinct items. -/
  | set (items : List Data)
  /-- Entries in the order in which they were given. -/
  | mapping (entries : List (Data × Data))

namespace Data

/-- The name of a kind of data in messages. -/
def kind : Data → String
  | null => "NoneType"
  | bool _ => "bool"
  | int _ => "int"
  | float _ => "float"
  | text _ => "str"
  | date _ => "date"
  | moment _ => "datetime"
  | bytes _ => "bytes"
  | list _ => "list"
  | pair _ _ => "tuple"
  | set _ => "set"
  | mapping _ => "dict"

/-- A distance from universal time. -/
def shownAhead (seconds : Int) : String :=
  if seconds == 0 then "datetime.timezone.utc"
  else "datetime.timezone(" ++ spanText seconds ++ ")"

/-- A day and a time of it; trailing zeros of the time are left out after the minute. -/
def shownMoment (m : Moment) : String :=
  let tail :=
    if m.micro != 0 then [m.second, m.micro] else if m.second != 0 then [m.second] else []
  let numbers := [m.date.year, m.date.month, m.date.day, m.hour, m.minute] ++ tail
  let zone := match m.ahead with
    | some seconds => ", tzinfo=" ++ shownAhead seconds
    | none => ""
  "datetime.datetime(" ++ joinWith ", " (numbers.map toString) ++ zone ++ ")"

/-- A byte inside quotes. -/
def shownByte (mark : Char) (b : Nat) : List Char :=
  let c := Char.ofNat b
  if 32 ≤ b && b < 127 then (if c == mark || c == '\\' then ['\\', c] else [c])
  else if b == 9 then ['\\', 't']
  else if b == 10 then ['\\', 'n']
  else if b == 13 then ['\\', 'r']
  else '\\' :: 'x' :: hexDigits 2 b

/-- A string of bytes. -/
def shownBytes (bs : List Nat) : String :=
  let mark := quoteMark (bs.map Char.ofNat)
  String.ofList ('b' :: mark :: bs.flatMap (shownByte mark) ++ [mark])

mutual

/-- How a message shows a piece of data. -/
def shown : Data → String
  | null => "None"
  | bool b => if b then "True" else "False"
  | int n => toString n
  | float x => x.text
  | text s => quoted s
  | date d =>
    "datetime.date(" ++ joinWith ", " ([d.year, d.month, d.day].map toString) ++ ")"
  | moment m => shownMoment m
  | bytes bs => shownBytes bs
  | list items => "[" ++ joinWith ", " (shownItems items) ++ "]"
  | pair a b => "(" ++ shown a ++ ", " ++ shown b ++ ")"
  | set [] => "set()"
  | set items => "\x7b" ++ joinWith ", " (shownItems items) ++ "\x7d"
  | mapping entries => "\x7b" ++ joinWith ", " (shownEntries entries) ++ "\x7d"

/-- The items of a list. -/
def shownItems : List Data → List String
  | [] => []
  | item :: rest => shown item :: shownItems rest

/-- The entries of a mapping. -/
def shownEntries : List (Data × Data) → List String
  | [] => []
  | (key, value) :: rest => (shown key ++ ": " ++ shown value) :: shownEntries rest

end

/-- How a message prints a piece of data by itself: texts without quotes, times in full. -/
def printed : Data → String
  | text s => s
  | date d => d.iso
  | moment m => m.iso " "
  | d => d.shown

/-- The number that a piece of data counts as when keys are compared. -/
def number? : Data → Option Floating
  | bool b => some (.ofInt (if b then 1 else 0))
  | int n => some (.ofInt n)
  | float x => some x
  | _ => none

/-- Whether two pieces of data are the same key. A truth value is the same key as one or zero, and
moments are compared by the instant. -/
def sameKey : Data → Data → Bool
  | null, null => true
  | text s, text t => s == t
  | date d, date e => d == e
  | moment m, moment n => m.ahead.isSome == n.ahead.isSome && m.micros == n.micros
  | bytes a, bytes b => a == b
  | int m, int n => m == n
  | a, b =>
    match a.number?, b.number? with
    | some x, some y => x.equal y
    | _, _ => false

/-- Entries with another one; a key that is there already keeps its place and takes the value. -/
def putEntry (entries : List (Data × Data)) (key value : Data) : List (Data × Data) :=
  if entries.any (·.1.sameKey key) then
    entries.map fun (k, v) => if k.sameKey key then (k, value) else (k, v)
  else entries ++ [(key, value)]

mutual

/-- JSON as plain data. -/
def ofJson : Json → Data
  | .null => null
  | .bool b => bool b
  | .int n => int n
  | .float x => float x
  | .text s => text s
  | .array items => list (ofJsonItems items)
  | .object members => mapping (ofJsonMembers members)

/-- The items of a list. -/
def ofJsonItems : List Json → List Data
  | [] => []
  | item :: rest => ofJson item :: ofJsonItems rest

/-- The members of an object. -/
def ofJsonMembers : List (String × Json) → List (Data × Data)
  | [] => []
  | (name, value) :: rest => (text name, ofJson value) :: ofJsonMembers rest

end

mutual

/-- Plain data as JSON, if it holds nothing that JSON lacks. -/
def toJson? : Data → Option Json
  | null => some .null
  | bool b => some (.bool b)
  | int n => some (.int n)
  | text s => some (.text s)
  | list items => (toJsonItems? items).map .array
  | mapping entries => (toJsonMembers? entries).map .object
  | float _ | date _ | moment _ | bytes _ | pair _ _ | set _ => none

/-- The items of a list as JSON. -/
def toJsonItems? : List Data → Option (List Json)
  | [] => some []
  | item :: rest => do
    let first ← toJson? item
    let others ← toJsonItems? rest
    return first :: others

/-- The entries of a mapping as JSON; every key must be a text. -/
def toJsonMembers? : List (Data × Data) → Option (List (String × Json))
  | [] => some []
  | (text name, value) :: rest => do
    let first ← toJson? value
    let others ← toJsonMembers? rest
    return (name, first) :: others
  | _ :: _ => none

end

end Data

end PathTemplates
