import PathTemplates.Files
import PathTemplates.Json.Reader
import PathTemplates.Log.Record
import PathTemplates.Settings.Check
import PathTemplates.Text.Casing
import PathTemplates.Yaml.Document

/-! # Where settings come from

Settings come from the environment and from documents in files. A setting of one source is laid over
that of another; groups of settings are joined. -/

namespace PathTemplates

/-- Why settings cannot be loaded. -/
inductive LoadError
  /-- The settings are wrong, or are not there. -/
  | config (e : ConfigError)
  /-- A group of settings in the environment is not written in JSON. -/
  | environment (name : String)
  /-- A file cannot be read. -/
  | file (e : FileError)
  /-- A scalar in a file has no value. -/
  | scalar (e : Yaml.ScalarError)
  /-- A name of a setting is not a text. -/
  | nameNotText
  /-- A pattern has a number of repetitions that is too large. -/
  | hugePattern

namespace LoadError

/-- The wording of an error. -/
def message : LoadError → String
  | config e => e.message
  | environment name =>
    "error parsing value for field \"" ++ name ++ "\" from source \"EnvSettingsSource\""
  | file e => e.message
  | scalar e => e.message
  | nameNotText => "keywords must be strings"
  | hugePattern => Pattern.PatternError.tooLarge.message

end LoadError

/-! ## Layers -/

mutual

/-- One value laid over another: two mappings are joined, and anything else hides what is under it. -/
def overlayValue (under : Option Data) : Data → Data
  | .mapping es => match under with
    | some (.mapping base) => .mapping (overlay base es)
    | _ => .mapping es
  | d => d

/-- Entries laid over others. -/
def overlay (base : Entries) : Entries → Entries
  | [] => base
  | (key, value) :: rest =>
    let under := (base.find? fun (k, _) => k.sameKey key).map (·.2)
    overlay (Data.putEntry base key (overlayValue under value)) rest

end

/-- Sources laid over one another, the uppermost first. -/
def overlayAll (sources : List Entries) : Entries :=
  sources.foldl (fun upper base => overlay base upper) []

/-! ## The environment -/

/-- What the names of settings in the environment start with. -/
def environmentMark : String := "filesort_"

/-- The environment with its names in lower case, since their case has no meaning. -/
def loweredNames (env : Bindings String) : Bindings String :=
  env.foldl (fun b (name, value) => b.set (lowerText name) value) []

/-- The pieces of a text between double underscores; an underscore that is left over belongs to the
piece after it. -/
def splitSteps (cs : List Char) : List (List Char) :=
  go [] cs
where
  /-- The pieces, the characters of the current one being held in reverse. -/
  go (piece : List Char) : List Char → List (List Char)
    | [] => [piece.reverse]
    | '_' :: '_' :: rest => piece.reverse :: go [] rest
    | c :: rest => go (c :: piece) rest

/-- Sets the value at the end of some steps; a text on the way stays. -/
def setAt (value : String) : List String → Entries → Entries
  | [], es => es
  | [last], es => Data.putEntry es (.text last) (.text value)
  | step :: rest, es =>
    match Entries.get? es step with
    | some (.mapping inner) => Data.putEntry es (.text step) (.mapping (setAt value rest inner))
    | some _ => es
    | none => Data.putEntry es (.text step) (.mapping (setAt value rest []))

/-- The settings of a group that stand one by one in the environment. -/
def nestedSettings (env : Bindings String) (group : String) : Entries :=
  let mark := (environmentMark ++ group ++ "__").toList
  env.foldl (fun es (name, value) =>
    if mark.isPrefixOf name.toList then
      setAt value ((splitSteps (name.toList.drop mark.length)).map String.ofList) es
    else es) []

/-- The names of the settings in a group. -/
def groupFields (group : String) : List String :=
  match group with
  | "templates" => ["cache_size", "strict_functions"]
  | "context" => ["include_metadata"]
  | _ => []

/-- A group of settings under the proper names of its settings, which may stand there in any case. -/
def properNames (group : String) (es : Entries) : Entries :=
  es.foldl (fun kept (k, v) =>
    let name := match k with
      | .text s => match (groupFields group).find? (· == lowerText s) with
        | some name => .text name
        | none => k
      | _ => k
    Data.putEntry kept name v) []

/-- A group of settings in the environment: in JSON as a whole, and one by one on top. -/
def environmentGroup (env : Bindings String) (group : String) :
    Except LoadError (Option Data) :=
  let nested := nestedSettings env group
  match Bindings.get? env (environmentMark ++ group) with
  | none => .ok (if nested.isEmpty then none else some (.mapping (properNames group nested)))
  | some s =>
    match (Json.read? s).map Data.ofJson with
    | none => .error (.environment group)
    | some .null => .ok none
    | some (.mapping es) => .ok (some (.mapping (properNames group (overlay es nested))))
    | some d => .ok (some d)

/-- The settings in the environment. -/
def environmentSettings (env : Bindings String) : Except LoadError Entries := do
  let env := loweredNames env
  let groups ← ["templates", "context", "variables"].mapM fun (group : String) => do
    return (← environmentGroup env group).map fun d => (Data.text group, d)
  let single := ["workers", "verbosity"].map fun (name : String) =>
    (Bindings.get? env (environmentMark ++ name)).map fun s => (Data.text name, Data.text s)
  return (groups ++ single).filterMap id

/-! ## Files -/

/-- Whether there is anything at a path; a path that is too long is an error. -/
def fileExists (t : FileTree) (p : Path) : Except LoadError Bool :=
  match t.find p with
  | .ok _ => .ok true
  | .error (.tooLong path) => .error (.file (.tooLong path))
  | .error _ => .ok false

/-- The settings in the file at a path, if there is one, and what is reported. -/
def fileSettings (t : FileTree) (p : Path) : Except LoadError Entries × List Log.Event :=
  let wrong (message : String) (value : Data) : Except LoadError Entries × List Log.Event :=
    (.error (.config ⟨message, none, value⟩), [])
  match fileExists t p with
  | .error e => (.error e, [])
  | .ok false => (.ok [], [])
  | .ok true =>
    match t.read p with
    | .error e => (.error (.file e), [])
    | .ok s =>
      match Yaml.read s with
      | .error (.scalar e) => (.error (.scalar e), [])
      | .error .malformed => wrong ("Invalid YAML in " ++ p.toString ++ ": ...") .null
      | .ok none | .ok (some .null) => (.ok [], [.configFileEmpty p.toString])
      | .ok (some (.mapping es)) => (.ok es, [])
      | .ok (some d) =>
        wrong ("Config file " ++ p.toString ++ " must contain a mapping") (.text d.kind)

end PathTemplates
