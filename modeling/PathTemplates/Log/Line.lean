import PathTemplates.Data
import PathTemplates.Json.Printer
import PathTemplates.Log.Record
import PathTemplates.Text.Casing

/-! # Log lines

A record is written as a JSON object or as a line for people. The line has the time, the level, the
event, the part of the program and the fields in ascending order of their names. -/

namespace PathTemplates.Log

/-- How records are written. -/
inductive Format
  /-- As lines for people. -/
  | console
  /-- As JSON objects. -/
  | json
  deriving DecidableEq

/-- What records are written and how. -/
structure Setup where
  /-- The least severity. -/
  threshold : Int
  /-- The format. -/
  format : Format
  deriving DecidableEq

/-- Whether a text is put between quotes in a line. -/
def needsQuotes (s : String) : Bool :=
  s.toList.any fun c =>
    c == ' ' || c == '\t' || c == '=' || c == '\r' || c == '\n' || c == '"' || c == '\''

/-- A field's value in a line. -/
def valueText : Json → String
  | .text s => if needsQuotes s then quoted s else s
  | v => (Data.ofJson v).shown

/-- A record as a line for people, with its time. -/
def consoleLine (time : String) (r : Record) : String :=
  let fields := (r.ownFields.mergeSort fun a b => decide (a.1 ≤ b.1)).map fun (name, v) =>
    " " ++ name ++ "=" ++ valueText v
  time ++ " [" ++ padEnd 9 r.level.name ++ "] " ++ padEnd 30 r.event ++ " [" ++ r.logger ++ "]" ++
    String.join fields

/-- A record as an object, with its time. -/
def jsonObject (time : String) (r : Record) : Json :=
  .object (r.members ++ [("timestamp", .text time)])

/-- A record as a line of a format, with its time. -/
def line (f : Format) (time : String) (r : Record) : String :=
  match f with
  | .console => consoleLine time r
  | .json => (jsonObject time r).line

/-- The level of a verbosity in the settings, in either case; other words mean warnings. -/
def severityOf (verbosity : String) : Int :=
  match lowerText verbosity with
  | "error" => Level.error.severity
  | "info" => Level.info.severity
  | "debug" => Level.debug.severity
  | _ => Level.warning.severity

/-- The level of a name in the environment, in either case; other names mean warnings. -/
def severityOfName (name : String) : Int :=
  match upperText name with
  | "CRITICAL" | "FATAL" => Level.critical.severity
  | "ERROR" => Level.error.severity
  | "INFO" => Level.info.severity
  | "DEBUG" => Level.debug.severity
  | "NOTSET" => 0
  | _ => Level.warning.severity

/-- The setup that the environment asks for, unless it is overruled. -/
def setupFor (env : Bindings String) (forceJson : Bool) (threshold : Option Int) : Setup :=
  let wantsJson := lowerText ((Bindings.get? env "FILESORT_LOG_FORMAT").getD "") == "json"
  let named := (Bindings.get? env "FILESORT_LOG_LEVEL").getD "WARNING"
  ⟨threshold.getD (severityOfName named), if forceJson || wantsJson then .json else .console⟩

/-- The record with bound fields that it does not have itself. -/
def withBound (bound : Bindings Json) (r : Record) : Record :=
  { r with fields := (bound.filter fun (name, _) => !Bindings.has r.fields name) ++ r.fields }

end PathTemplates.Log
