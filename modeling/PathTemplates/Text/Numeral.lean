import PathTemplates.Text.Blank
import PathTemplates.Text.Quoted
import PathTemplates.Text.Word

/-! # Whole numbers written in text

Reading a whole number as a person may have typed it: blanks around it, a sign, decimal digits of
any script, and single underscores between digits. Numbers of more than 4300 digits are refused
before anything after them is looked at. -/

namespace PathTemplates

/-- Why a text is not taken as a whole number. -/
inductive NumeralError
  /-- The text is not a numeral. -/
  | malformed (text : String)
  /-- The numeral has more digits than are read. -/
  | tooLong (digits : Nat)
  deriving DecidableEq

namespace NumeralError

/-- The wording of the error; of a long text only the start is quoted. -/
def message : NumeralError → String
  | malformed text =>
    "invalid literal for int() with base 10: " ++ String.ofList ((quoted text).toList.take 200)
  | tooLong digits =>
    "Exceeds the limit (4300 digits) for integer string conversion: value has " ++
      toString digits ++
      " digits; use sys.set_int_max_str_digits() to increase the limit"

end NumeralError

/-- The most digits that are read. -/
def maxNumeralDigits : Nat := 4300

/-- Blanks that may surround a numeral: all but the ASCII separators. -/
def isNumeralBlank (c : Char) : Bool :=
  isBlank c && !(0x1c ≤ c.toNat && c.toNat ≤ 0x1f)

/-- The digits of a numeral's longest start made of digits and underscores, and what follows it.
Nothing is returned if an underscore has no digit on one of its sides; `last` says whether the
character before was a digit. -/
def numeralDigits? (last : Bool) : List Char → Option (List Nat × List Char)
  | [] => if last then some ([], []) else none
  | c :: rest =>
    match decimalValue? c with
    | some d => (numeralDigits? true rest).map fun (ds, tail) => (d :: ds, tail)
    | none =>
      if c == '_' then (if last then numeralDigits? false rest else none)
      else if last then some ([], c :: rest) else none

/-- The number that a list of decimal digits writes. -/
def ofDigits (ds : List Nat) : Nat := ds.foldl (fun n d => 10 * n + d) 0

/-- The sign in front of a numeral, and the rest. -/
def takeSign : List Char → Bool × List Char
  | '-' :: rest => (true, rest)
  | '+' :: rest => (false, rest)
  | cs => (false, cs)

/-- A natural number with a sign. -/
def withSign (negative : Bool) (n : Nat) : Int := if negative then -(n : Int) else n

/-- Reads a whole number. -/
def readNumeral (text : String) : Except NumeralError Int :=
  let (negative, body) := takeSign (text.toList.dropWhile isNumeralBlank)
  match numeralDigits? false body with
  | none => .error (.malformed text)
  | some (ds, rest) =>
    if ds.length > maxNumeralDigits then .error (.tooLong ds.length)
    else if rest.all isNumeralBlank then .ok (withSign negative (ofDigits ds))
    else .error (.malformed text)

/-- Pads a text with zeros to a width; a sign stays in front of the zeros. -/
def zeroPadded (width : Nat) (cs : List Char) : List Char :=
  let zeros := List.replicate (width - cs.length) '0'
  match cs with
  | c :: rest => if c == '+' || c == '-' then c :: zeros ++ rest else zeros ++ cs
  | [] => zeros

end PathTemplates
