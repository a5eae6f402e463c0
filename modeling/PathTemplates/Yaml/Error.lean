import PathTemplates.Calendar
import PathTemplates.Text.Numeral

/-! # Errors in documents

A text may not be a document at all, and a scalar of a document may have no value of the kind that its
tag names. -/

namespace PathTemplates.Yaml

/-- Why a scalar has no value of the kind that its tag names. -/
inductive ScalarError
  /-- A text is no whole number in a base. -/
  | numeral (base : Nat) (text : String)
  /-- A whole number has too many digits. -/
  | tooLong (digits : Nat)
  /-- A text is no number. -/
  | floating (text : String)
  /-- A number has no text. -/
  | noText
  /-- A text names no truth value. -/
  | truth (text : String)
  /-- A text is no date. -/
  | notDate
  /-- A part of a date is out of range. -/
  | date (e : DateError)
  /-- A number is no character's. -/
  | character (code : Nat)

namespace ScalarError

/-- The wording of an error. -/
def message : ScalarError → String
  | numeral base text =>
    "invalid literal for int() with base " ++ toString base ++ ": " ++
      String.ofList ((quoted text).toList.take 200)
  | tooLong digits => (NumeralError.tooLong digits).message
  | floating text => "could not convert string to float: " ++ quoted text
  | noText => "string index out of range"
  | truth text => quoted text
  | notDate => "'NoneType' object has no attribute 'groupdict'"
  | date e => e.message
  | character code =>
    if code < Nat.pow 2 31 then "chr() arg not in range(0x110000)"
    else "Python int too large to convert to C int"

end ScalarError

/-- Why a text is not read. -/
inductive Error
  /-- The text is no document. -/
  | malformed
  /-- A scalar in it has no value. -/
  | scalar (e : ScalarError)

end PathTemplates.Yaml
