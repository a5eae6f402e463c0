import PathTemplates.Eval
import PathTemplates.Pattern.Match
import PathTemplates.Pattern.Parser
import PathTemplates.Resource
import PathTemplates.Template.Parser

/-! # Variables of a context

Variables that are computed for each file: the named groups of a match, or the output of a template.
They are computed in order, and each sees those before it. -/

namespace PathTemplates

/-- A computed variable. -/
inductive Variable
  /-- The named groups of the first match of a pattern in the output of a template. -/
  | capture (name : String) (pattern : Pattern.Compiled) (input : Template)
  /-- The output of a template. -/
  | template (name : String) (value : Template)

/-- Why a variable cannot be made. -/
inductive VariableError
  /-- Its pattern is wrong. -/
  | pattern (name : String) (e : Pattern.PatternError)
  /-- Its template is wrong. -/
  | template (e : ParseError)

namespace Variable

/-- The template that a pattern is matched against if none is given. -/
def defaultInput : String := "\x7b\x7b name \x7d\x7d"

/-- A variable of the groups of a match. -/
def ofPattern (name pattern input : String) : Except VariableError Variable := do
  let compiled ← (Pattern.compile pattern).mapError (VariableError.pattern name)
  let template ← (Template.parse input).mapError VariableError.template
  return .capture name compiled template

/-- A variable of the output of a template. -/
def ofTemplate (name value : String) : Except VariableError Variable := do
  let template ← (Template.parse value).mapError VariableError.template
  return .template name template

/-- The name of a variable. -/
def name : Variable → String
  | capture name _ _ | template name _ => name

/-- The value of a variable in a context; groups that took no part in the match are left out, and
without a match there are none. -/
def compute (r : Registry) (c : Context) : Variable → Except (Failure EvalError) Value
  | capture _ pattern input => do
    let text ← input.render r c
    let groups := (pattern.search? text).getD []
    return .mapping (.ofList (groups.map fun (name, s) => (name, .text s)))
  | template _ value => (value.render r c).map .text

end Variable

/-- Why a context cannot be built. -/
inductive BuildError
  /-- A variable cannot be computed. -/
  | evaluation (f : Failure EvalError)
  /-- Extra data is no value. -/
  | datum (e : DatumError)
  /-- The path of the file is none. -/
  | file (e : FileError)

/-- What contexts are built with. -/
structure ContextFactory where
  /-- The functions. -/
  registry : Registry
  /-- The variables in order. -/
  computed : List Variable
  /-- Whether the size and time of files are looked up. -/
  includeMetadata : Bool

namespace ContextFactory

/-- Binds the values of variables on top of a context, one after the other. -/
def bindAll (r : Registry) (c : Context) : List Variable → Except (Failure EvalError) Context
  | [] => .ok c
  | v :: rest => do
    let value ← v.compute r c
    bindAll r (c.bind v.name value) rest

/-- The size and time of a file, if they are looked up. -/
def metadataOf (f : ContextFactory) (t : FileTree) (p : Path) :
    Except FileError (Dict String Value × List Log.Event) :=
  if f.includeMetadata then Resource.metadataValues t p else .ok (.empty, [])

/-- The context of a file with extra data, and what is reported on the way. The fields of the path
come first, then the size and time, the extra data, and the variables. -/
def build (f : ContextFactory) (t : FileTree) (r : Resource) (extra : List (String × Datum)) :
    Except BuildError Context × List Log.Event :=
  match f.metadataOf t r.path with
  | .error e => (.error (.file e), r.pathEvents)
  | .ok (metadata, events) =>
    let values := Datum.ofValues (r.pathValues.setAll metadata.entries)
    let context := match Context.ofData (values.setAll extra) with
      | .ok c => (bindAll f.registry c f.computed).mapError .evaluation
      | .error e => .error (.datum e)
    (context, r.pathEvents ++ events)

end ContextFactory

end PathTemplates
