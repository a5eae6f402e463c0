import PathTemplates.Data
import PathTemplates.Number.Decimal
import PathTemplates.Text.Base64
import PathTemplates.Yaml.Error
import PathTemplates.Yaml.Tag

/-! # What scalars stand for

The value of a scalar's text under each tag. A tag that a document spells out may ask for a value that
the text does not have. -/

namespace PathTemplates.Yaml

/-- The sign and the digits of a text in a base; the base may be named by a letter after a zero. -/
def digitsInBase? (base : Nat) (cs : List Char) : Option Int :=
  let (negative, body) := takeSign (trimWhile isNumeralBlank cs)
  let body := match body with
    | '0' :: mark :: rest =>
      if (base == 2 && (mark == 'b' || mark == 'B')) || (base == 8 && (mark == 'o' || mark == 'O')) ||
          (base == 16 && (mark == 'x' || mark == 'X')) then rest
      else body
    | _ => body
  let values := body.map hexValue?
  if body.isEmpty || !values.all fun v => v.any (· < base) then none
  else some (withSign negative (digitsIn base body))

/-- A whole number in base ten. -/
def decimalNumber (cs : List Char) : Except ScalarError Int :=
  match readNumeral (String.ofList cs) with
  | .ok n => .ok n
  | .error (.malformed text) => .error (.numeral 10 text)
  | .error (.tooLong digits) => .error (.tooLong digits)

/-- A whole number in a base that a sign may stand in front of. -/
def numberInBase (base : Nat) (cs : List Char) : Except ScalarError Int :=
  match digitsInBase? base cs with
  | some n => .ok n
  | none => .error (.numeral base (String.ofList cs))

/-- A whole number without its sign. -/
def unsignedNumber : List Char → Except ScalarError Int
  | [] => .error .noText
  | ['0'] => .ok 0
  | '0' :: 'b' :: rest => numberInBase 2 rest
  | '0' :: 'x' :: rest => numberInBase 16 rest
  | '0' :: rest => numberInBase 8 ('0' :: rest)
  | cs =>
    if cs.contains ':' then do
      let parts ← (splitChar ':' cs).mapM decimalNumber
      return parts.foldl (fun n part => n * 60 + part) 0
    else decimalNumber cs

/-- The whole number of a text. -/
def intValue (s : String) : Except ScalarError Int := do
  let cs := s.toList.filter (· != '_')
  let n ← unsignedNumber (dropSign cs)
  return if cs.head? == some '-' then -n else n

/-- The number with a fraction that a text without its sign writes. -/
def unsignedFloating (cs : List Char) : Except ScalarError Floating :=
  let part (cs : List Char) : Except ScalarError Floating :=
    match Floating.ofText? (String.ofList cs) with
    | some x => .ok x
    | none => .error (.floating (String.ofList cs))
  if cs == ".inf".toList then .ok (.infinite false)
  else if cs == ".nan".toList then .ok .nan
  else if cs.contains ':' then do
    let parts ← (splitChar ':' cs).mapM part
    let sum := parts.reverse.foldl (fun (total, base) x =>
      (Floating.add total (x.mul (.ofInt base)), base * 60)) (Floating.ofInt 0, (1 : Int))
    return sum.1
  else part cs

/-- The number with a fraction of a text. -/
def floatValue (s : String) : Except ScalarError Floating := do
  let cs := (lowerText (String.ofList (s.toList.filter (· != '_')))).toList
  if cs.isEmpty then throw .noText
  let x ← unsignedFloating (dropSign cs)
  return if cs.head? == some '-' then x.neg else x

/-- The truth value of a word. -/
def boolValue (s : String) : Except ScalarError Bool :=
  let word := lowerText s
  if ["yes", "true", "on"].contains word then .ok true
  else if ["no", "false", "off"].contains word then .ok false
  else .error (.truth word)

/-- The microseconds that the digits of a fraction of a second write; more than six are cut. -/
def fractionMicros (ds : List Char) : Nat :=
  digitsValue ((ds ++ List.replicate 6 '0').take 6)

/-- How far ahead of universal time a time is. -/
def TimeParts.ahead (p : TimeParts) : Option Int :=
  match p.zone with
  | some (sign, hours, minutes) =>
    some (withSign (sign == '-') (digitsValue hours * 3600 + digitsValue minutes * 60))
  | none => if p.universal then some 0 else none

/-- The day, or the day and the time, of a text. -/
def timestampValue (s : String) : Except ScalarError Data :=
  match dateParts? s.toList with
  | none => .error .notDate
  | some p =>
    let year := digitsValue p.year
    let month := digitsValue p.month
    let day := digitsValue p.day
    match p.time with
    | none => ((Date.ofParts year month day).map Data.date).mapError .date
    | some (hour, minute, second) =>
      ((Moment.ofParts year month day (digitsValue hour) (digitsValue minute) (digitsValue second)
        (fractionMicros p.fraction) p.ahead).map Data.moment).mapError .date

/-- The value of a scalar's text under a tag. -/
def scalarValue (t : Tag) (s : String) : Except Error Data :=
  match t with
  | .null => .ok .null
  | .bool => ((boolValue s).map Data.bool).mapError .scalar
  | .int => ((intValue s).map Data.int).mapError .scalar
  | .float => ((floatValue s).map Data.float).mapError .scalar
  | .text => .ok (.text s)
  | .timestamp => (timestampValue s).mapError .scalar
  | .binary =>
    match s.toList.all (·.toNat < 128), bytesOfLetters? s.toList with
    | true, some bs => .ok (.bytes bs)
    | _, _ => .error .malformed
  | .sequence | .mapping | .set | .pairs | .merge | .value | .unknown => .error .malformed

end PathTemplates.Yaml
