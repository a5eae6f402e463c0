import PathTemplates.Bindings
import PathTemplates.Data
import PathTemplates.Expr.SyntaxError
import PathTemplates.Value

/-! # Errors

What can go wrong with templates, functions and settings. An error in an evaluation carries the calls
around the place where it happened, outermost first, and the template if it is known. A function may also
end in a way that is no error; this passes through an evaluation as it is (`Escape`). -/

namespace PathTemplates

/-- Why an evaluation fails. -/
inductive EvalCause
  /-- A name is not bound; the bound names are in ascending order. -/
  | undefinedVariable (name : String) (available : List String)
  /-- A field is looked up in a text. -/
  | notIndexable (on segment : String)
  /-- No function has this name; the names of functions are in ascending order. -/
  | unknownFunction (name : String) (available : List String)
  /-- A function is called with a wrong number of arguments. -/
  | arityMismatch (name expected : String) (got : Int)
  /-- An argument is of the wrong kind. -/
  | argumentType (name : String) (index : Int) (expected got : String)
  /-- A function failed for a reason of its own. -/
  | callFailed (name reason : String)
  /-- Any other reason. -/
  | other (message : String)
  deriving DecidableEq

namespace EvalCause

/-- A list of names after what they are, or nothing if there are none. -/
def listed (what : String) (names : List String) : String :=
  if names.isEmpty then "" else " (" ++ what ++ ": " ++ joinWith ", " names ++ ")"

/-- A number of arguments, by the form of the word. -/
def argumentWord (n : Int) : String := if n == 1 then "argument" else "arguments"

/-- The wording of a cause. -/
def message : EvalCause → String
  | undefinedVariable name available =>
    "Undefined variable '" ++ name ++ "'" ++ listed "available" available
  | notIndexable on segment =>
    "Cannot look up '" ++ segment ++ "' on '" ++ on ++ "': value is text, not a mapping"
  | unknownFunction name available =>
    "Unknown function '" ++ name ++ "'" ++ listed "registered" available
  | arityMismatch name expected got =>
    name ++ "() takes " ++ expected ++ ", got " ++ toString got ++ " " ++ argumentWord got
  | argumentType name index expected got =>
    name ++ "() argument " ++ toString (index + 1) ++ " must be " ++ expected ++ ", got " ++ got
  | callFailed name reason => name ++ "() failed: " ++ reason
  | other message => message

/-- The name of a kind of cause. -/
def kind : EvalCause → String
  | undefinedVariable _ _ => "UndefinedVariableError"
  | notIndexable _ _ => "NotIndexableError"
  | unknownFunction _ _ => "UnknownFunctionError"
  | arityMismatch _ _ _ => "ArityMismatchError"
  | argumentType _ _ _ _ => "ArgumentTypeError"
  | callFailed _ _ => "FunctionCallError"
  | other _ => "TemplateEvaluationError"

/-- The function whose call a cause reports as failed. -/
def failedCall? : EvalCause → Option String
  | arityMismatch name _ _ | argumentType name _ _ _ | callFailed name _ => some name
  | _ => none

end EvalCause

/-- An error in an evaluation. -/
structure EvalError where
  /-- Why it happened. -/
  cause : EvalCause
  /-- The calls around the place, outermost first. -/
  chain : List String
  /-- The text of the template, if it is known. -/
  template : Option String
  /-- The name of the more particular kind that it is of, if a function has one of its own for it. -/
  ownKind : Option String
  deriving DecidableEq

namespace EvalError

/-- An error outside all calls. -/
def of (cause : EvalCause) : EvalError := ⟨cause, [], none, none⟩

/-- The name of the kind of an error. -/
def kind (e : EvalError) : String := e.ownKind.getD e.cause.kind

/-- The error seen from a call around it. -/
def within (name : String) (e : EvalError) : EvalError := { e with chain := name :: e.chain }

/-- The error with its template, if it has none yet. -/
def inTemplate (source : String) (e : EvalError) : EvalError :=
  { e with template := some (e.template.getD source) }

/-- The wording with the calls around the place. -/
def located (e : EvalError) : String :=
  if e.chain.isEmpty then e.cause.message
  else e.cause.message ++ " (inside " ++ joinWith " -> " e.chain ++ ")"

/-- The wording with the calls and the template. -/
def full (e : EvalError) : String :=
  match e.template with
  | some source => e.located ++ " in template: " ++ source
  | none => e.located

end EvalError

/-- What comes of a function that neither returns a value nor fails: it asks the program to stop, or what it
returns can never become an output, such as a mapping that holds itself. Nothing on the way out takes this
for an error. -/
structure Escape where
  /-- The name of its kind. -/
  kind : String
  /-- What it says. -/
  message : String
  deriving DecidableEq

/-- How something ends without a value. -/
inductive Failure (ε : Type)
  /-- With an error. -/
  | raised (e : ε)
  /-- With something that is none. -/
  | escaped (x : Escape)
  deriving DecidableEq

namespace Failure

variable {ε δ : Type}

/-- A failure with another error. -/
def map (f : ε → δ) : Failure ε → Failure δ
  | raised e => raised (f e)
  | escaped x => escaped x

@[simp] theorem map_raised (f : ε → δ) (e : ε) : (raised e).map f = raised (f e) := rfl

@[simp] theorem map_escaped (f : ε → δ) (x : Escape) : (escaped x : Failure ε).map f = escaped x := rfl

/-- A failure outside all calls. -/
def of (cause : EvalCause) : Failure EvalError := raised (.of cause)

/-- The failure seen from a call around it. -/
def within (name : String) (f : Failure EvalError) : Failure EvalError := f.map (·.within name)

@[simp] theorem within_raised (name : String) (e : EvalError) :
    (raised e).within name = raised (e.within name) := rfl

@[simp] theorem within_escaped (name : String) (x : Escape) :
    (escaped x).within name = escaped x := rfl

/-- The failure with its template, if it has none yet. -/
def inTemplate (source : String) (f : Failure EvalError) : Failure EvalError :=
  f.map (·.inTemplate source)

@[simp] theorem inTemplate_raised (source : String) (e : EvalError) :
    (raised e).inTemplate source = raised (e.inTemplate source) := rfl

@[simp] theorem inTemplate_escaped (source : String) (x : Escape) :
    (escaped x).inTemplate source = escaped x := rfl

end Failure

/-- An error in the settings. -/
structure ConfigError where
  /-- What is wrong. -/
  message : String
  /-- The setting, with dots between the steps to it. -/
  field : Option String
  /-- The offending value. -/
  value : Data

/-- An error of this library. -/
inductive Error
  /-- An error of no particular kind. -/
  | general (message : String)
  /-- An error in the settings. -/
  | config (e : ConfigError)
  /-- An error about a template of no particular kind. -/
  | template (message : String) (source : Option String)
  /-- A text that cannot be parsed. -/
  | parse (e : ParseError)
  /-- An error in an evaluation. -/
  | evaluation (e : EvalError)
  /-- A function that cannot be registered. -/
  | registration (message name : String)

namespace Error

/-- The wording of an error. -/
def message : Error → String
  | general message => message
  | config e => e.message
  | template message _ => message
  | parse e => e.message
  | evaluation e => e.cause.message
  | registration message _ => message

/-- The full wording of an error, with its place where one is known. -/
def full : Error → String
  | evaluation e => e.full
  | e => e.message

/-- The name of a kind of error and of the kinds that it belongs to, the most particular first. -/
def kinds : Error → List String
  | general _ => ["FilesortError"]
  | config _ => ["ConfigError", "FilesortError"]
  | template _ _ => ["TemplateError", "FilesortError"]
  | parse _ => ["TemplateParseError", "TemplateError", "FilesortError"]
  | evaluation e =>
    let common := ["TemplateEvaluationError", "TemplateError", "FilesortError"]
    let ofCause := match e.cause with
      | .other _ => common
      | cause => cause.kind :: common
    e.ownKind.toList ++ ofCause
  | registration _ _ => ["FunctionRegistrationError", "TemplateError", "FilesortError"]

/-- The name of the kind of an error. -/
def kind (e : Error) : String := e.kinds.headD ""

end Error

/-- What a report on many resources says about the error of one. -/
structure ErrorInfo where
  /-- The text of the template. -/
  template : String
  /-- What is wrong. -/
  message : String
  /-- The kind of the error. -/
  kind : String
  /-- The place in the template, or zero. -/
  offset : Int
  deriving DecidableEq

namespace ErrorInfo

/-- What a report says about an error with a template. -/
def ofError (template : String) (e : Error) : ErrorInfo :=
  let message := match e with
    | .evaluation e => e.located
    | e => e.message
  let offset := match e with
    | .parse e => e.offset
    | _ => 0
  ⟨template, message, e.kind, offset⟩

end ErrorInfo

end PathTemplates
