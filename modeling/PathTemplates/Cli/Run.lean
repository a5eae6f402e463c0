import PathTemplates.Cli.Arguments
import PathTemplates.Cli.Report
import PathTemplates.EnvFile
import PathTemplates.Json.Printer
import PathTemplates.Settings.Load

/-! # Running a command

A run reads the environment file and the settings, does what the command line asks for, and ends with
an exit code, what it prints, and what it reports. -/

namespace PathTemplates.Cli

/-- An error that no report is made of. -/
inductive Fatal
  /-- The settings cannot be loaded. -/
  | load (e : LoadError)
  /-- A path cannot be looked up. -/
  | file (e : FileError)
  /-- A template has no text. -/
  | source (e : ExprError)
  /-- A variable cannot be made. -/
  | badVariable (e : VariableError)
  /-- Extra data is no value. -/
  | datum (e : DatumError)
  /-- Something escaped from a function. -/
  | escape (x : Escape)

namespace Fatal

/-- The wording of an error. -/
def message : Fatal → String
  | load e => e.message
  | file e => e.message
  | source e => e.message
  | badVariable (.template e) => e.message
  | badVariable (.pattern _ e) => e.message
  | datum e => e.message
  | escape x => x.message

end Fatal

/-- How a run ends. -/
structure Result where
  /-- The exit code. -/
  exitCode : Nat
  /-- What is printed. -/
  out : String := ""
  /-- What is printed about errors. -/
  err : String := ""
  /-- What is reported. -/
  records : List Log.Record := []
  /-- The error that ended the run without a report. -/
  fatal : Option Fatal := none

namespace Result

/-- A run that succeeds and prints a text. -/
def printed (s : String) : Result := { exitCode := 0, out := s ++ "\n" }

/-- A run that fails and prints a report. -/
def failed (report : String) : Result := { exitCode := 1, err := report ++ "\n" }

/-- A run that ends without a report. -/
def aborted (e : Fatal) : Result := { exitCode := 1, fatal := some e }

/-- A run with records before its own. -/
def after (records : List Log.Record) (r : Result) : Result :=
  { r with records := records ++ r.records }

/-- A run that ends because the command line makes no sense. -/
def misused (c : Command) (e : UsageError) : Result :=
  let usage := if e.showsUsage then
      c.usage ++ "\nTry '" ++ joinWith " " c.call ++ " --help' for help.\n\n"
    else ""
  { exitCode := 2, err := usage ++ "Error: " ++ e.message ++ "\n" }

/-- A run that prints no control sequences for the style of a terminal. -/
def plain (r : Result) : Result := { r with out := Report.plain r.out, err := Report.plain r.err }

/-- A run that ends because of its arguments. -/
def ofArgumentError (c : Command) : ArgumentError → Result
  | .usage e => misused c e
  | .path e => aborted (.file e)

end Result

/-- The records of events that pass a threshold. -/
def recordsOf (threshold : Int) (events : List Log.Event) : List Log.Record :=
  (events.map (·.record)).filter (·.passes threshold)

/-- What a command runs with. -/
structure Session where
  /-- The files. -/
  files : FileTree
  /-- The settings. -/
  settings : Settings
  /-- Whether warnings are left out. -/
  quiet : Bool
  /-- The least severity that is reported. -/
  threshold : Int

namespace Session

/-- The engine. -/
def engine (s : Session) : Engine := s.settings.engine Builtin.registry

/-- The records of events. -/
def report (s : Session) (events : List Log.Event) : List Log.Record := recordsOf s.threshold events

end Session

/-! ## Checking a template -/

/-- Names in a list, or that there are none. -/
def namesText (names : List String) : String :=
  if names.isEmpty then "(none)" else joinWith ", " names

/-- What a template uses, in the form that is asked for. -/
def usageText (json : Bool) (source : String) (t : Template) (missing : List String) : String :=
  let list (names : List String) : Json := .array (names.map .text)
  if json then
    (Json.object [("template", .text source), ("variables", list t.roots),
      ("functions", list t.callees), ("unknown_functions", list missing)]).pretty
  else
    joinWith "\n" ["Template: " ++ source, "Variables: " ++ namesText t.roots,
      "Functions: " ++ namesText t.callees]

/-- Says what a template uses, and fails if it calls unknown functions. -/
def runCheck (s : Session) (p : Parsed) : Result :=
  let (compiled, engine, events) := s.engine.compile (p.arguments.headD "")
  Result.after (s.report events) <|
    match compiled with
    | .error e => .failed (Report.ofError e)
    | .ok t =>
      match t.toSource with
      | .error e => .aborted (.source e)
      | .ok source =>
        let missing := engine.missing t
        let warning := if t.isStatic && !s.quiet then
            Report.warning "Template has no expressions" ++ "\n"
          else ""
        let unknown := if missing.isEmpty then "" else
          Report.error ("Unknown function(s): " ++ joinWith ", " missing) []
            (some "Run 'filesort functions' to list available functions") ++ "\n"
        { exitCode := if missing.isEmpty then 0 else 1
          out := usageText (p.value? "--format" == some "json") source t missing ++ "\n"
          err := warning ++ unknown }

/-! ## Listing the functions -/

/-- The functions in the form that is asked for. -/
def functionsText (json : Bool) (entries : List FunctionEntry) : String :=
  if json then
    (Json.array (entries.map fun e => Json.object [("name", .text e.name),
      ("arity", .text e.arity.describe), ("description", .text e.description)])).pretty
  else
    Report.table ["Name", "Arity", "Description"]
      (entries.map fun e => [e.name, e.arity.describe, e.description])

/-- Lists the functions. -/
def runFunctions (s : Session) (p : Parsed) : Result :=
  .printed (functionsText (p.value? "--format" == some "json") s.engine.registry.sorted)

/-! ## Rendering a template -/

/-- The name and the value of an extra variable. -/
def readOverride? (item : String) : Option (String × String) :=
  let cs := item.toList
  let name := cs.takeWhile (· != '=')
  let isNameChar (c : Char) := isAsciiDigit c || isAsciiLetter c || c == '_'
  match cs.drop name.length with
  | _ :: value =>
    if name.isEmpty || !name.all isNameChar then none
    else some (String.ofList name, String.ofList value)
  | [] => none

/-- The extra variables, or the first text that is none. -/
def readOverrides (items : List String) : Except String (Bindings String) :=
  (items.mapM fun (item : String) =>
    match readOverride? item with
    | some pair => Except.ok pair
    | none => .error item).map Bindings.ofList

/-- Extra variables as data. -/
def overrideData (extra : Bindings String) : List (String × Datum) :=
  extra.map fun (name, v) => (name, .text v)

/-- The directory that the files were found under, if a command line gives one. -/
def root? (p : Parsed) : Option Path := (p.value? "--root").map Path.ofString

/-- What is prepared for one of many resources: its context, or that there is none. -/
abbrev Prepared := String × Except ErrorInfo Context

/-- What becomes of a resource whose context cannot be built: it is left out, or the run ends. -/
def refuse (t : Template) : BuildError → Except Fatal ErrorInfo
  | .evaluation (.raised e) =>
    let source := match e.template with
      | some "" | none => t.source
      | some source => source
    .ok (.ofError source (.evaluation e))
  | .evaluation (.escaped x) => .error (.escape x)
  | .datum e => .error (.datum e)
  | .file e => .error (.file e)

/-- Prepares a resource, and says what is reported. -/
def prepareOne (s : Session) (f : ContextFactory) (t : Template) (root : Option Path)
    (extra : List (String × Datum)) (path : String) : Except Fatal Prepared × List Log.Event :=
  let r : Resource := ⟨.ofString path, root⟩
  let label := r.path.toString
  let (built, events) := f.build s.files r extra
  match built.mapError (refuse t) with
  | .ok c => (.ok (label, .ok c), events)
  | .error (.ok info) =>
    (.ok (label, .error info), events ++ [.contextBuildFailed label info.message])
  | .error (.error e) => (.error e, events)

/-- Prepares the resources one after the other, and says what is reported. -/
def prepare (s : Session) (f : ContextFactory) (t : Template) (root : Option Path)
    (extra : List (String × Datum)) : List String → Except Fatal (List Prepared) × List Log.Event
  | [] => (.ok [], [])
  | path :: rest =>
    let (one, events) := prepareOne s f t root extra path
    match one with
    | .error e => (.error e, events)
    | .ok one =>
      let (others, more) := prepare s f t root extra rest
      (others.map (one :: ·), events ++ more)

/-- The resources that have a context, which are rendered together. -/
def pending (prepared : List Prepared) : List (String × Context) :=
  prepared.filterMap fun (label, built) =>
    match built with
    | .ok c => some (label, c)
    | .error _ => none

/-- The outcomes in the order of the resources: one without a context has failed where it stands, and
each of the others takes the next outcome of rendering. -/
def assemble : List Prepared → List Outcome → List Outcome
  | [], _ => []
  | (label, .error info) :: rest, rendered => ⟨label, .error info⟩ :: assemble rest rendered
  | (_, .ok _) :: rest, o :: rendered => o :: assemble rest rendered
  | (_, .ok _) :: _, [] => []

/-- Renders a template for some files, and says what is reported. -/
def renderPaths (s : Session) (e : Engine) (f : ContextFactory) (t : Template) (root : Option Path)
    (extra : List (String × Datum)) (paths : List String) :
    Except Fatal (List Outcome) × List Log.Event :=
  let (prepared, events) := prepare s f t root extra paths
  match prepared with
  | .error err => (.error err, events)
  | .ok prepared =>
    let items := pending prepared
    let rendered := (e.renderMany t items).mapError Fatal.escape
    (rendered.map (assemble prepared), events ++ e.eventsInTurn t items)

/-- The printed lines of outcomes; a single output stands alone. -/
def outcomeLines (single : Bool) (outcomes : List Outcome) : String :=
  String.join (outcomes.filterMap fun o => o.output?.map fun s =>
    (if single then s else o.label ++ "\t" ++ s) ++ "\n")

/-- The reports on outcomes that failed. -/
def failureLines (outcomes : List Outcome) : String :=
  String.join (outcomes.filterMap fun o => o.error?.map fun info =>
    Report.error (o.label ++ ": " ++ info.message) [] none ++ "\n")

/-- The number of outcomes that failed. -/
def failures (outcomes : List Outcome) : Nat := (outcomes.filterMap (·.error?)).length

/-- How a run ends that rendered a template for some files. -/
def Result.ofOutcomes (single : Bool) (outcomes : List Outcome) : Result :=
  { exitCode := if failures outcomes == 0 then 0 else 1
    out := outcomeLines single outcomes
    err := failureLines outcomes }

/-- What is reported once all files are dealt with. -/
def summaryEvents (outcomes : List Outcome) : List Log.Event :=
  if failures outcomes == 0 then [] else [.renderSummary outcomes.length (failures outcomes)]

/-- Renders a template for some files. -/
def runRender (s : Session) (p : Parsed) : Result :=
  match readOverrides (p.values "--set") with
  | .error item =>
    .failed (Report.error ("Invalid --set value: " ++ item) []
      (some "Use NAME=VALUE format (e.g., --set year=2024)"))
  | .ok extra =>
    let (compiled, engine, events) := s.engine.compile (p.arguments.headD "")
    Result.after (s.report events) <|
      match compiled with
      | .error e => .failed (Report.ofError e)
      | .ok t =>
        match s.settings.factory engine.registry with
        | .error (.template e) => .failed (Report.ofError (.parse e))
        | .error e => .aborted (.badVariable e)
        | .ok factory =>
          let paths := p.arguments.drop 1
          let (rendered, events) :=
            renderPaths s engine factory t (root? p) (overrideData extra) paths
          match rendered with
          | .error e => (Result.aborted e).after (s.report events)
          | .ok outcomes =>
            (Result.ofOutcomes (paths.length == 1) outcomes).after
              (s.report (events ++ summaryEvents outcomes))

/-! ## The program -/

/-- The least severity that is reported: quiet goes before verbose, and verbose before the settings. -/
def thresholdOf (p : Parsed) (s : Settings) : Int :=
  if p.has "--quiet" then Log.Level.error.severity
  else match p.count "--verbose" with
    | 0 => s.verbosity.level.severity
    | 1 => Log.Level.info.severity
    | _ => Log.Level.debug.severity

/-- Runs a command with a command line that was read. -/
def runParsed (s : Session) (c : Command) (p : Parsed) : Result :=
  if p.informs?.isSome then .printed (c.description [])
  else match checkParsed s.files c p with
    | .error e => .ofArgumentError c e
    | .ok () =>
      match c.name with
      | "check" => runCheck s p
      | "functions" => runFunctions s p
      | _ => runRender s p

/-- Runs a command after the options of the program. -/
def runCommand (s : Session) (c : Command) (args : List String) : Result :=
  match parse c args with
  | .error e => .misused c e
  | .ok p => runParsed s c p

/-- Reads the options of the program, which may end the run at once. -/
def readProgram (t : FileTree) (args : List String) : Except Result Parsed :=
  match parse program args with
  | .error e => .error (.misused program e)
  | .ok p =>
    match p.informs? with
    | some "--version" => .error (.printed ("filesort, version " ++ version))
    | some _ => .error (.printed (program.description commands))
    | none =>
      match checkParsed t program p with
      | .error e => .error (.ofArgumentError program e)
      | .ok () => .ok p

/-- The path of the settings file that a command line gives. -/
def configPath? (p : Parsed) : Option Path :=
  match p.value? "--config" with
  | some "" | none => none
  | some path => some (Path.ofString path)

/-- Runs the program in an environment. Until the settings are known, `initial` is the least severity
that is reported. -/
def runProgram (initial : Int) (t : FileTree) (env : Bindings String) (args : List String) :
    Except Result Result := do
  let p ← readProgram t args
  let command? ← match p.arguments with
    | [] => pure none
    | name :: rest =>
      match findCommand? name with
      | some c => pure (some (c, rest))
      | none => do
        if isOptionWord name then discard (readProgram t (name :: rest))
        throw (.misused program
          (.noSuchCommand name (closeWords name (commands.map (·.name)))))
  let (loaded, events) := Settings.load t env (configPath? p)
  let early := recordsOf initial events
  match loaded with
  | .error (.config e) => return (Result.failed (Report.ofError (.config e))).after early
  | .error e => return (Result.aborted (.load e)).after early
  | .ok settings =>
    let session : Session := ⟨t, settings, p.has "--quiet", thresholdOf p settings⟩
    match command? with
    | none => return (Result.printed (program.description commands)).after early
    | some (c, rest) => return (runCommand session c rest).after early

/-- Where the environment file is. -/
def envFilePath (t : FileTree) : Path := t.location.join (.ofString ".env")

/-- The environment with the variables of the environment file, if there is one, and what is reported. A
file that has no text is an error. -/
def fullEnvironment (t : FileTree) (env : Bindings String) :
    Except FileError (Bindings String × List Log.Event) :=
  match t.read (envFilePath t) with
  | .ok s =>
    let (env, wrong) := EnvFile.addTo env s
    .ok (env, wrong.map .environmentLineSkipped)
  | .error (.noText e) => .error (.noText e)
  | .error _ => .ok (env, [])

/-- Runs the program with the variables of the environment file; what it prints goes to no terminal. -/
def run (initial : Int) (t : FileTree) (env : Bindings String) (args : List String) : Result :=
  match fullEnvironment t env with
  | .error e => .aborted (.file e)
  | .ok (env, events) =>
    let result := match runProgram initial t env args with
      | .ok r => r
      | .error r => r
    (result.after (recordsOf initial events)).plain

/-! ## Files that a run may look at -/

/-- The files whose text a run may read. -/
def textPaths (t : FileTree) (env : Bindings String) (args : List String) : List Path :=
  let given := match parse program args with
    | .ok p => (configPath? p).toList
    | .error _ => []
  [envFilePath t, projectPath t, userPath t env] ++ given

/-- The paths on a command line. -/
def pathsOf (args : List String) : List Path :=
  let values (p : Parsed) : List String :=
    (p.occurrences.filter fun (o, _) => o.value == some .path || o.value == some .directory).map (·.2)
  let words := match parse program args with
    | .error _ => []
    | .ok p => values p ++ match p.arguments with
      | [] => []
      | word :: rest => match findCommand? word with
        | some c => match parse c rest with
          | .ok q => values q ++ q.arguments.drop 1
          | .error _ => []
        | none => []
  words.map Path.ofString

end PathTemplates.Cli
