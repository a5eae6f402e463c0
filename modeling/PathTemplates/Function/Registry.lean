import PathTemplates.Function.Arity
import PathTemplates.Log.Record

/-! # Registering functions

A registry holds the functions that templates can call. A function registered under a name that is
taken replaces the earlier one; a frozen registry takes no more functions. -/

namespace PathTemplates

/-- How the body of a function fails. -/
inductive CallFailure
  /-- With an error in an evaluation, which is passed on as it is. -/
  | evaluation (e : EvalError)
  /-- With an error of some other kind. -/
  | other (kind message : String)
  /-- With something that is no error. -/
  | escape (x : Escape)

/-- What a function does with its arguments. -/
abbrev FunctionBody := List Value → Except CallFailure Datum

/-- A function that templates can call. -/
structure FunctionEntry where
  /-- The name in templates. -/
  name : String
  /-- How many arguments it takes. -/
  arity : Arity
  /-- What it does. -/
  body : FunctionBody
  /-- What it is for. -/
  description : String

/-- What is offered to a registry. -/
inductive Candidate
  /-- A function. -/
  | function (body : FunctionBody)
  /-- Something that cannot be called, of a kind with a given name. -/
  | foreign (kind : String)

/-- Why a function is not registered. -/
inductive RegistrationError
  /-- The registry is frozen. -/
  | frozen (name : String)
  /-- The name cannot be written in a template. -/
  | invalidName (name : String)
  /-- It is no function. -/
  | notCallable (name kind : String)
  deriving DecidableEq

namespace RegistrationError

/-- The name under which the function was to be registered. -/
def name : RegistrationError → String
  | frozen name | invalidName name | notCallable name _ => name

/-- The wording of the error. -/
def message : RegistrationError → String
  | frozen name => "Cannot register '" ++ name ++ "': function registry is frozen"
  | invalidName name => "Invalid function name '" ++ name ++ "': use letters, digits and '_'"
  | notCallable name kind => "Function '" ++ name ++ "' must be callable, got " ++ kind

/-- The error among those of the library. -/
def toError (e : RegistrationError) : Error := .registration e.message e.name

end RegistrationError

/-- The functions that templates can call. -/
structure Registry where
  /-- The functions by name. -/
  entries : Bindings FunctionEntry
  /-- Whether no more functions are taken. -/
  frozen : Bool

namespace Registry

/-- The registry without functions. -/
def empty : Registry := ⟨[], false⟩

/-- The function of a name. -/
def find? (r : Registry) (name : String) : Option FunctionEntry := Bindings.get? r.entries name

/-- Whether a name is taken. -/
def has (r : Registry) (name : String) : Bool := Bindings.has r.entries name

/-- The names of the functions in ascending order. -/
def names (r : Registry) : List String := sortTexts (Bindings.names r.entries)

/-- The number of functions. -/
def size (r : Registry) : Nat := r.entries.length

/-- The functions in ascending order of their names. -/
def sorted (r : Registry) : List FunctionEntry := r.names.filterMap r.find?

/-- The registry after which no more functions are taken. -/
def freeze (r : Registry) : Registry := { r with frozen := true }

/-- A registry of the same functions that takes more. -/
def copy (r : Registry) : Registry := { r with frozen := false }

/-- Registers a function, and reports if it replaces one. -/
def register (r : Registry) (name : String) (arity : Arity) (candidate : Candidate)
    (description : String) : Except RegistrationError (Registry × List Log.Event) :=
  if r.frozen then .error (.frozen name)
  else if !isIdentifier name then .error (.invalidName name)
  else match candidate with
    | .foreign kind => .error (.notCallable name kind)
    | .function body =>
      let events := if r.has name then [Log.Event.functionReplaced name] else []
      .ok ({ r with entries := Bindings.set r.entries name ⟨name, arity, body, description⟩ }, events)

/-- The function of a name, or the error that there is none. -/
def get (r : Registry) (name : String) : Except (Failure EvalError) FunctionEntry :=
  match r.find? name with
  | some entry => .ok entry
  | none => .error (.of (.unknownFunction name r.names))

/-- The reason that a failure gives: its wording, or its kind if it has none. -/
def reason (kind message : String) : String := if message.isEmpty then kind else message

/-- What the failure of a function's body is outside: an error of some other kind becomes one about the
call. -/
def failureOf (name : String) : CallFailure → Failure EvalError
  | .evaluation e => .raised e
  | .other kind message => .of (.callFailed name (reason kind message))
  | .escape x => .escaped x

/-- The value of what a function's body returns. -/
def resultOf (name : String) (result : Datum) : Except (Failure EvalError) Value :=
  result.toValue.mapError fun e => .of (.callFailed name ("returned unsupported result: " ++ e.message))

/-- Calls a function with values. -/
def invoke (r : Registry) (name : String) (args : List Value) : Except (Failure EvalError) Value := do
  let entry ← r.get name
  if entry.arity.accepts args.length then
    let result ← (entry.body args).mapError (failureOf name)
    resultOf name result
  else throw (.of (.arityMismatch name entry.arity.describe args.length))

end Registry

namespace FunctionBody

/-- The argument at a place; a negative place counts from the end. -/
def argumentAt (args : List Value) (index : Int) : Except CallFailure Value :=
  let place := if index < 0 then index + args.length else index
  match if place < 0 then none else args[place.toNat]? with
  | some v => .ok v
  | none => .error (.other "IndexError" "tuple index out of range")

/-- The failure of a function on an argument of the wrong kind. -/
def wrongKind (function : String) (index : Int) (expected got : ValueKind) : CallFailure :=
  .evaluation (.of (.argumentType function index expected.name got.name))

/-- The argument at a place, which must be a text. -/
def textAt (function : String) (args : List Value) (index : Int) : Except CallFailure String :=
  match argumentAt args index with
  | .ok (.text s) => .ok s
  | .ok (.mapping _) => .error (wrongKind function index .text .mapping)
  | .error e => .error e

/-- The argument at a place, which must be a mapping. -/
def mappingAt (function : String) (args : List Value) (index : Int) :
    Except CallFailure (Dict String Value) :=
  match argumentAt args index with
  | .ok (.mapping entries) => .ok entries
  | .ok (.text _) => .error (wrongKind function index .mapping .text)
  | .error e => .error e

end FunctionBody

end PathTemplates
