import PathTemplates.Data
import PathTemplates.Error
import PathTemplates.Pattern.Parser

/-! # Faults in settings

What can be wrong with one setting, and where it is. -/

namespace PathTemplates

/-- What is wrong with a setting. -/
inductive Fault
  /-- It is not a whole number. -/
  | notWhole
  /-- Its text is not a whole number. -/
  | textNotWhole
  /-- It has a fraction. -/
  | fraction
  /-- It has too many digits. -/
  | tooLong
  /-- It is not finite. -/
  | notFinite
  /-- It is too small. -/
  | below (least : Nat)
  /-- It is too large. -/
  | above (most : Nat)
  /-- It is not a truth value. -/
  | notTruth
  /-- It does not name a truth value. -/
  | notTruthWord
  /-- It is not a text. -/
  | notText
  /-- Its bytes are not a text. -/
  | bytesNotText
  /-- It is not a name. -/
  | notName
  /-- It does not name a verbosity. -/
  | notVerbosity
  /-- It is not a group of settings. -/
  | notGroup (group : String)
  /-- It is not a list. -/
  | notList
  /-- It is not a mapping. -/
  | notMapping
  /-- The kind of a variable is missing. -/
  | noKind
  /-- There are no variables of this kind. -/
  | unknownKind (shown : String)
  /-- It is missing. -/
  | missing
  /-- It is not a pattern. -/
  | badPattern (e : Pattern.PatternError)
  /-- Two variables have the same name. -/
  | duplicate (name : String)
  deriving DecidableEq

namespace Fault

/-- The wording of a fault. -/
def message : Fault → String
  | notWhole => "Input should be a valid integer"
  | textNotWhole => "Input should be a valid integer, unable to parse string as an integer"
  | fraction => "Input should be a valid integer, got a number with a fractional part"
  | tooLong => "Unable to parse input string as an integer, exceeded maximum size"
  | notFinite => "Input should be a finite number"
  | below least => "Input should be greater than or equal to " ++ toString least
  | above most => "Input should be less than or equal to " ++ toString most
  | notTruth => "Input should be a valid boolean"
  | notTruthWord => "Input should be a valid boolean, unable to interpret input"
  | notText => "Input should be a valid string"
  | bytesNotText => "Input should be a valid string, unable to parse raw data as a unicode string"
  | notName => "String should match pattern '^[A-Za-z0-9_]+$'"
  | notVerbosity => "Input should be 'error', 'warning', 'info' or 'debug'"
  | notGroup group => "Input should be a valid dictionary or instance of " ++ group
  | notList => "Input should be a valid list"
  | notMapping => "Input should be a valid dictionary or object to extract fields from"
  | noKind => "Unable to extract tag using discriminator 'kind'"
  | unknownKind shown =>
    "Input tag '" ++ shown ++
      "' found using 'kind' does not match any of the expected tags: 'regex', 'template'"
  | missing => "Field required"
  | badPattern (.value reason) => "Value error, " ++ reason
  | badPattern e => "Value error, invalid regular expression: " ++ e.message
  | duplicate name => "Value error, duplicate variable name '" ++ name ++ "'"

end Fault

/-- A fault and its place. -/
structure Problem where
  /-- The steps to the setting. -/
  path : List String
  /-- What is wrong. -/
  fault : Fault
  /-- The value of the setting. -/
  value : Data

namespace Problem

/-- The problem seen from one step further out. -/
def inside (step : String) (p : Problem) : Problem := { p with path := step :: p.path }

/-- The problem as an error in the settings. -/
def toConfigError (p : Problem) : ConfigError :=
  ⟨"Invalid configuration: " ++ p.fault.message, some (joinWith "." p.path), p.value⟩

end Problem

/-- The result of a check, or all problems in the order of the settings. -/
abbrev Checked (α : Type) := Except (List Problem) α

namespace Checked

variable {α β : Type}

/-- A check that fails. -/
def fault (f : Fault) (value : Data) : Checked α := .error [⟨[], f, value⟩]

/-- A check of a setting, seen from one step further out. -/
def inside (step : String) (c : Checked α) : Checked α := c.mapError (·.map (·.inside step))

/-- Two checks, of which both are made. -/
def both (a : Checked α) (b : Checked β) : Checked (α × β) :=
  match a, b with
  | .ok x, .ok y => .ok (x, y)
  | .error ps, .error qs => .error (ps ++ qs)
  | .error ps, .ok _ => .error ps
  | .ok _, .error qs => .error qs

/-- Many checks, all of which are made. -/
def all : List (Checked α) → Checked (List α)
  | [] => .ok []
  | c :: rest => (both c (all rest)).map fun (x, xs) => x :: xs

end Checked

end PathTemplates
