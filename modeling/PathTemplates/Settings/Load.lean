import PathTemplates.Engine
import PathTemplates.Settings.Source

/-! # Loading settings

The settings of the project are laid over those of the user, and those of the environment over both.
What is still missing has its standard value. -/

namespace PathTemplates

/-- The name of the project's settings file. -/
def projectFileName : String := "filesort.yaml"

/-- Where the project's settings are, unless another path is given. -/
def projectPath (t : FileTree) : Path := t.location.join (.ofString projectFileName)

/-- Where the user's settings are: the environment may name another home directory than the one of the
account. -/
def userPath (t : FileTree) (env : Bindings String) : Path :=
  let home := match Bindings.get? env "HOME" with
    | none => t.home
    | some "" => "/"
    | some s => s
  (Path.ofString home).join (.ofString ".config/filesort/config.yaml")

/-- The settings of several sources: some that are given, the environment, the project's file and the
user's file, in this order. The files are read first. -/
def gatherSettings (t : FileTree) (env : Bindings String) (project : Path) (given : Entries) :
    Except LoadError Entries × List Log.Event :=
  let (ofProject, projectEvents) := fileSettings t project
  match ofProject with
  | .error e => (.error e, projectEvents)
  | .ok ofProject =>
    let (ofUser, userEvents) := fileSettings t (userPath t env)
    let result := do
      let ofUser ← ofUser
      let ofEnvironment ← environmentSettings env
      return overlayAll [given, ofEnvironment, ofProject, ofUser]
    (result, projectEvents ++ userEvents)

/-- The settings in entries, whose names must be texts. -/
def Settings.ofEntries (es : Entries) : Except LoadError Settings :=
  let isText : Data → Bool
    | .text _ => true
    | _ => false
  if es.any fun (k, _) => !isText k then .error .nameNotText
  else match checkSettings es with
    | .ok s => .ok s
    | .error ps =>
      if ps.any (·.fault == .badPattern .tooLarge) then .error .hugePattern
      else match ps with
        | p :: _ => .error (.config p.toConfigError)
        | [] => .ok {}

/-- The settings in effect, and what is reported. A path that is given must lead somewhere. -/
def Settings.load (t : FileTree) (env : Bindings String) (given : Option Path) :
    Except LoadError Settings × List Log.Event :=
  let project := given.getD (projectPath t)
  match fileExists t project with
  | .error e => (.error e, [])
  | .ok present =>
    match present, given with
    | false, some p =>
      (.error (.config ⟨"Config file not found: " ++ p.toString, none, .text p.toString⟩), [])
    | _, _ =>
      let (es, events) := gatherSettings t env project []
      (es.bind Settings.ofEntries,
        (if present then [] else [.noProjectConfig project.toString]) ++ events)

/-- An engine with the functions of a registry, as the settings want it. -/
def Settings.engine (s : Settings) (r : Registry) : Engine :=
  .new r (.ofCapacity s.templates.capacity) s.templates.strict

/-- What contexts are built with, as the settings want it. -/
def Settings.factory (s : Settings) (r : Registry) : Except VariableError ContextFactory := do
  let computed ← s.computed.mapM (·.toVariable)
  return ⟨r, computed, s.includeMetadata⟩

end PathTemplates
