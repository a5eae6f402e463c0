import PathTemplates.Calendar
import PathTemplates.Cli.Run
import PathTemplates.Log.Line
import Std.Time.DateTime.Timestamp

/-! # The program on a terminal

Reads the environment and the files that the command line asks for, runs the program, and prints what
it answers. -/

namespace PathTemplates.Terminal

/-- The variables of the environment. -/
def readEnvironment : IO (Bindings String) := do
  let bytes ← try IO.FS.readBinFile "/proc/self/environ" catch _ => pure ByteArray.empty
  let fields := splitChar (Char.ofNat 0) ((String.fromUTF8? bytes).getD "").toList
  return Bindings.ofList (fields.filterMap fun field =>
    match splitChar '=' field with
    | name :: value@(_ :: _) =>
      some (String.ofList name, joinWith "=" (value.map String.ofList))
    | _ => none)

/-- What stands at a place, with its text if that is asked for. -/
def readNode (withText : Bool) (names : List String) : IO (Option (List String × FileNode)) := do
  let path := "/" ++ joinWith "/" names
  try
    let here ← IO.currentDir
    let data ← (here / path).metadata
    let modified := data.modified.sec * 1000000000 + data.modified.nsec.toNat
    let status : FileStatus := ⟨data.byteSize.toNat, modified⟩
    if data.type == .dir then return some (names, .directory status)
    let bytes ← if withText then IO.FS.readBinFile path else pure ByteArray.empty
    return some (names, .file (Utf8.decode bytes.toList) status)
  catch _ => return none

/-- The home directory of the user's account. -/
def readHome : IO String := do
  let linesOf (path : String) : IO (List String) := do
    try return (← IO.FS.lines path).toList catch _ => return []
  let user := (← linesOf "/proc/self/status").findSome? fun line =>
    match line.splitOn "\t" with
    | "Uid:" :: user :: _ => some user
    | _ => none
  let home := (← linesOf "/etc/passwd").findSome? fun line =>
    match line.splitOn ":" with
    | [_, _, id, _, _, home, _] => if user == some id then some home else none
    | _ => none
  return home.getD "/"

/-- The files that a run may look at. -/
def readFiles (env : Bindings String) (args : List String) : IO FileTree := do
  let none : FileTree := ⟨Path.ofString (← IO.currentDir).toString, ← readHome, []⟩
  let texts := Cli.textPaths none env args
  let withText := (texts.flatMap none.placesTo).eraseDups
  let others := ((Cli.pathsOf args).flatMap none.placesTo).eraseDups
  let read ← withText.mapM (readNode true)
  let seen ← (others.filter fun names => !withText.contains names).mapM (readNode false)
  return { none with entries := (read ++ seen).filterMap id }

/-- The present time. -/
def timeText : IO String := do
  let now ← Std.Time.Timestamp.now
  let nanoseconds := now.toNanosecondsSinceUnixEpoch.val
  let micro := (nanoseconds.fmod 1000000000).toNat / 1000
  return match Moment.ofSeconds (nanoseconds.fdiv 1000000000) with
    | .ok moment => { moment with micro := micro, ahead := none }.iso "T" ++ "Z"
    | .error e => e.message

/-- Runs the program with the arguments of a command line. -/
def run (args : List String) : IO UInt32 := do
  let env ← readEnvironment
  let files ← readFiles env args
  let full := match Cli.fullEnvironment files env with
    | .ok (full, _) => full
    | .error _ => env
  let setup := Log.setupFor full false none
  let result := Cli.run Log.Level.warning.severity files env args
  let errors ← IO.getStderr
  for r in result.records do
    errors.putStrLn (Log.line setup.format (← timeText) r)
  IO.print result.out
  errors.putStr result.err
  if let some e := result.fatal then errors.putStrLn e.message
  return result.exitCode.toUInt32

end PathTemplates.Terminal

/-- The program. -/
def main (args : List String) : IO UInt32 := PathTemplates.Terminal.run args
