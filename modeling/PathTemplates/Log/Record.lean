import PathTemplates.Bindings
import PathTemplates.Json.Basic

/-! # Log records

What happens on the way is reported in records: an event, how severe it is, where it comes from, and
fields that describe it. Nothing is written here; an operation returns the records it makes. -/

namespace PathTemplates.Log

/-- How severe an event is. -/
inductive Level
  /-- Of interest when looking for a fault. -/
  | debug
  /-- Of interest in general. -/
  | info
  /-- Something unexpected that does no harm. -/
  | warning
  /-- Something failed. -/
  | error
  /-- Nothing works any more. -/
  | critical
  deriving DecidableEq

namespace Level

/-- The number that thresholds are compared with. -/
def severity : Level → Int
  | debug => 10
  | info => 20
  | warning => 30
  | error => 40
  | critical => 50

/-- The name of a level in records. -/
def name : Level → String
  | debug => "debug"
  | info => "info"
  | warning => "warning"
  | error => "error"
  | critical => "critical"

end Level

/-- A log record. -/
structure Record where
  /-- What happened. -/
  event : String
  /-- How severe it is. -/
  level : Level
  /-- The part of the program that it comes from. -/
  logger : String
  /-- What describes it. -/
  fields : List (String × Json)

namespace Record

/-- Whether a record passes a threshold. -/
def passes (threshold : Int) (r : Record) : Bool := threshold ≤ r.level.severity

/-- Names that every record has members of, which a field cannot change. -/
def reserved : List String := ["event", "level", "logger", "timestamp"]

/-- The fields of a record without those whose names are taken. -/
def ownFields (r : Record) : List (String × Json) :=
  r.fields.filter fun (name, _) => !reserved.contains name

/-- The members of a record when it is written as an object. -/
def members (r : Record) : List (String × Json) :=
  r.ownFields ++
    [("event", .text r.event), ("level", .text r.level.name), ("logger", .text r.logger)]

end Record

/-- What the parts of the program report. -/
inductive Event
  /-- A function took the place of an earlier one. -/
  | functionReplaced (function : String)
  /-- A template could not be parsed. -/
  | parseFailed (template error : String)
  /-- A template was parsed. -/
  | compiled (template : String)
  /-- One of many resources could not be rendered. -/
  | renderFailed (resource error kind : String)
  /-- A resource does not lie under its root. -/
  | outsideRoot (path root : String)
  /-- The size and time of a resource cannot be read. -/
  | metadataUnavailable (path error : String)
  /-- There are no project settings. -/
  | noProjectConfig (path : String)
  /-- A settings file is empty. -/
  | configFileEmpty (path : String)
  /-- A line of the environment file is malformed. -/
  | environmentLineSkipped (line : Nat)
  /-- The context of a resource could not be built. -/
  | contextBuildFailed (resource error : String)
  /-- Some of many resources failed. -/
  | renderSummary (total failed : Nat)
  deriving DecidableEq

namespace Event

/-- The record of an event. -/
def record : Event → Record
  | functionReplaced function =>
    ⟨"template_function_replaced", .warning, "filesort.templates.functions",
      [("function", .text function)]⟩
  | parseFailed template error =>
    ⟨"template_parse_failed", .debug, "filesort.templates.cache",
      [("template", .text template), ("error", .text error)]⟩
  | compiled template =>
    ⟨"template_compiled", .debug, "filesort.templates.cache", [("template", .text template)]⟩
  | renderFailed resource error kind =>
    ⟨"render_failed", .warning, "filesort.templates.engine",
      [("error", .text error), ("kind", .text kind), ("resource", .text resource)]⟩
  | outsideRoot path root =>
    ⟨"resource_outside_root", .debug, "filesort.variables",
      [("path", .text path), ("root", .text root)]⟩
  | metadataUnavailable path error =>
    ⟨"metadata_unavailable", .debug, "filesort.variables",
      [("path", .text path), ("error", .text error)]⟩
  | noProjectConfig path =>
    ⟨"no_project_config", .info, "filesort.config", [("path", .text path)]⟩
  | configFileEmpty path =>
    ⟨"config_file_empty", .warning, "filesort.config", [("path", .text path)]⟩
  | environmentLineSkipped line =>
    ⟨"python-dotenv could not parse statement starting at line " ++ toString line, .warning,
      "dotenv.main", []⟩
  | contextBuildFailed resource error =>
    ⟨"context_build_failed", .warning, "filesort.cli.commands.render",
      [("resource", .text resource), ("error", .text error)]⟩
  | renderSummary total failed =>
    ⟨"render_summary", .info, "filesort.cli.commands.render",
      [("total", .int total), ("failed", .int failed)]⟩

end Event

end PathTemplates.Log
