import PathTemplates.Cache
import PathTemplates.Eval
import PathTemplates.Function.Builtins

/-! # The engine

An engine compiles templates through its cache and renders them with its functions, one context at a
time or one template for many resources. Its functions are fixed once it exists. The error of one of many
resources becomes its outcome; what escapes from a function ends the work on all of them. -/

namespace PathTemplates

/-- What rendering one of many resources gave. -/
structure Outcome where
  /-- What the resource is called. -/
  label : String
  /-- The output, or what the report says about the error. -/
  result : Except ErrorInfo String

namespace Outcome

/-- The error of a resource that failed. -/
def error? (o : Outcome) : Option ErrorInfo :=
  match o.result with
  | .ok _ => none
  | .error info => some info

/-- The output of a resource that succeeded. -/
def output? (o : Outcome) : Option String :=
  match o.result with
  | .ok s => some s
  | .error _ => none

/-- What is reported about an outcome. -/
def events (o : Outcome) : List Log.Event :=
  match o.result with
  | .ok _ => []
  | .error info => [.renderFailed o.label info.message info.kind]

end Outcome

/-- What rendering one of many resources comes to: an outcome, unless something escapes. -/
abbrev Attempt := Except Escape Outcome

namespace Attempt

/-- What is reported about an attempt. -/
def events : Attempt → List Log.Event
  | .ok o => o.events
  | .error _ => []

/-- The outcomes of attempts in order, or what escaped from the first one without. -/
def collect : List Attempt → Except Escape (List Outcome)
  | [] => .ok []
  | .error x :: _ => .error x
  | .ok o :: rest => (collect rest).map (o :: ·)

end Attempt

/-- An engine. -/
structure Engine where
  /-- The functions. -/
  registry : Registry
  /-- The cache of parsed templates. -/
  cache : Cache
  /-- Whether a template that calls an unknown function is refused when it is compiled. -/
  strict : Bool

namespace Engine

/-- The capacity of an engine's cache if none is given. -/
def defaultCapacity : Nat := 256

/-- An engine with the functions of a registry, which takes no more. -/
def new (registry : Registry) (cache : Cache) (strict : Bool) : Engine :=
  ⟨registry.freeze, cache, strict⟩

/-- The functions that a template calls and the engine lacks, in order of first use. -/
def missing (e : Engine) (t : Template) : List String :=
  t.callees.filter fun name => !e.registry.has name

/-- Refuses a template that calls an unknown function, if the engine is strict. -/
def checkFunctions (e : Engine) (t : Template) : Except Error Template :=
  match e.strict, e.missing t with
  | true, name :: _ =>
    .error (.evaluation
      ((EvalError.of (.unknownFunction name e.registry.names)).inTemplate t.source))
  | _, _ => .ok t

/-- Compiles a template, with the engine afterwards and what is reported. -/
def compile (e : Engine) (source : String) : Except Error Template × Engine × List Log.Event :=
  let (parsed, cache, events) := e.cache.get source
  let result := match parsed with
    | .ok t => e.checkFunctions t
    | .error err => .error (.parse err)
  (result, { e with cache := cache }, events)

/-- Renders a template in a context. -/
def render (e : Engine) (t : Template) (c : Context) : Except (Failure EvalError) String :=
  t.render e.registry c

/-- Compiles and renders a template, with the engine afterwards and what is reported. -/
def renderSource (e : Engine) (source : String) (c : Context) :
    Except (Failure Error) String × Engine × List Log.Event :=
  let (compiled, after, events) := e.compile source
  let result := match compiled with
    | .ok t => (e.render t c).mapError (·.map .evaluation)
    | .error err => .error (.raised err)
  (result, after, events)

/-- Renders a template for one of many resources. -/
def renderOne (e : Engine) (t : Template) (label : String) (c : Context) : Attempt :=
  match e.render t c with
  | .ok s => .ok ⟨label, .ok s⟩
  | .error (.raised err) => .ok ⟨label, .error (.ofError t.source (.evaluation err))⟩
  | .error (.escaped x) => .error x

/-- Renders a template for each of many resources. -/
def attempts (e : Engine) (t : Template) (items : List (String × Context)) : List Attempt :=
  items.map fun (label, c) => e.renderOne t label c

/-- The outcomes of many resources, or what escaped from the first one that has none. -/
def renderMany (e : Engine) (t : Template) (items : List (String × Context)) :
    Except Escape (List Outcome) :=
  Attempt.collect (e.attempts t items)

/-- What is reported when resources are rendered one after another: nothing more once something has
escaped. -/
def eventsInTurn (e : Engine) (t : Template) (items : List (String × Context)) : List Log.Event :=
  ((e.attempts t items).takeWhile Except.isOk).flatMap Attempt.events

end Engine

end PathTemplates
