import PathTemplates.Log.Record
import PathTemplates.Variable

/-! # Settings

What a user may choose: how templates are compiled, what contexts hold, the variables of contexts, how
many resources are rendered at a time, and how much is reported. -/

namespace PathTemplates

/-- How much is reported. -/
inductive Verbosity
  /-- Errors. -/
  | error
  /-- Warnings too. -/
  | warning
  /-- What happens too. -/
  | info
  /-- Everything. -/
  | debug
  deriving DecidableEq

namespace Verbosity

/-- The name of a verbosity. -/
def name : Verbosity → String
  | error => "error"
  | warning => "warning"
  | info => "info"
  | debug => "debug"

/-- All verbosities. -/
def all : List Verbosity := [error, warning, info, debug]

/-- The verbosity with a name. -/
def ofName? (s : String) : Option Verbosity := all.find? (·.name == s)

@[simp] theorem ofName?_name (v : Verbosity) : ofName? v.name = some v := by
  cases v <;> rfl

/-- The least severity that is reported. -/
def level : Verbosity → Log.Level
  | error => .error
  | warning => .warning
  | info => .info
  | debug => .debug

end Verbosity

/-- How templates are compiled. -/
structure TemplateSettings where
  /-- How many parsed templates are kept. -/
  capacity : Nat := 256
  /-- Whether a template that calls an unknown function is refused when it is compiled. -/
  strict : Bool := false
  deriving DecidableEq

/-- A variable as the settings describe it. -/
inductive VariableSettings
  /-- The named groups of a match of a pattern in the output of a template. -/
  | capture (name pattern input : String)
  /-- The output of a template. -/
  | template (name value : String)
  deriving DecidableEq

namespace VariableSettings

/-- The name of a variable. -/
def name : VariableSettings → String
  | capture name _ _ | template name _ => name

/-- The variable that settings describe. -/
def toVariable : VariableSettings → Except VariableError Variable
  | capture name pattern input => Variable.ofPattern name pattern input
  | template name value => Variable.ofTemplate name value

end VariableSettings

/-- All settings. -/
structure Settings where
  /-- How templates are compiled. -/
  templates : TemplateSettings := {}
  /-- Whether contexts hold the size and time of files. -/
  includeMetadata : Bool := true
  /-- The variables of contexts, in order. -/
  computed : List VariableSettings := []
  /-- How many resources are rendered at a time. -/
  workers : Nat := 4
  /-- How much is reported. -/
  verbosity : Verbosity := .warning
  deriving DecidableEq

end PathTemplates
