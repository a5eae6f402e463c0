import PathTemplates.Text.Wrap

/-! # Commands

What the program can be told on its command line: its commands, their options and arguments, and what
is said about them. -/

namespace PathTemplates.Cli

/-- The version of the program. -/
def version : String := "0.1.0"

/-- What the value of an option is. -/
inductive ValueKind
  /-- Any text. -/
  | text
  /-- A path. -/
  | path
  /-- A path that leads to no file. -/
  | directory
  /-- One of some words. -/
  | choice (words : List String)
  /-- A whole number from one on. -/
  | positive
  deriving DecidableEq

namespace ValueKind

/-- What stands for the value in a description. -/
def placeholder : ValueKind → String
  | text => "TEXT"
  | path => "PATH"
  | directory => "DIRECTORY"
  | choice words => "[" ++ joinWith "|" words ++ "]"
  | positive => "INTEGER RANGE"

end ValueKind

/-- An option. -/
structure CommandOption where
  /-- Its names, the short one first. -/
  names : List String
  /-- What its value is, if it takes one. -/
  value : Option ValueKind
  /-- What is said about it. -/
  help : String
  deriving DecidableEq

namespace CommandOption

/-- The name that the program knows an option by. -/
def name (o : CommandOption) : String := o.names.getLast?.getD ""

/-- The names of an option in a message. -/
def hint (o : CommandOption) : String :=
  joinWith " / " (o.names.map fun n => "'" ++ n ++ "'")

/-- How an option is written. -/
def usage (o : CommandOption) : String :=
  joinWith ", " o.names ++ (o.value.map fun v => " " ++ v.placeholder).getD ""

/-- The option that asks for a description. -/
def forHelp : CommandOption := ⟨["--help"], none, "Show this message and exit."⟩

end CommandOption

/-- An argument. -/
structure Argument where
  /-- What stands for it in a description. -/
  name : String
  /-- Whether it takes all that follows, at least one. -/
  many : Bool
  /-- What its values are. -/
  value : ValueKind
  deriving DecidableEq

/-- A command. -/
structure Command where
  /-- The names that call it, the program's first. -/
  call : List String
  /-- What follows the options. -/
  arguments : List Argument
  /-- Whether options may follow arguments. -/
  mixed : Bool
  /-- The options, without the one that asks for a description. -/
  ownOptions : List CommandOption
  /-- What is said about it. -/
  help : List Paragraph

namespace Command

/-- The options. -/
def options (c : Command) : List CommandOption := c.ownOptions ++ [.forHelp]

/-- The name of a command. -/
def name (c : Command) : String := c.call.getLast?.getD ""

/-- What is said about a command in a list of commands. -/
def summary (c : Command) : String := (c.help.head?.map (·.text)).getD ""

/-- How a command is called. -/
def usage (c : Command) : String :=
  joinWith " " (["Usage:"] ++ c.call ++ ["[OPTIONS]"] ++
    (if c.mixed then c.arguments.map (·.name) else ["[COMMAND]", "[ARGS]..."]))

/-- The lines about some words, in two columns. -/
def columns (rows : List (String × String)) : List String :=
  let width := (rows.map (·.1.length)).foldl max 0 + 2
  rows.flatMap fun (left, right) =>
    match wrapText (78 - width - 2) right with
    | [] => ["  " ++ left]
    | first :: rest =>
      ("  " ++ padEnd width left ++ first) :: rest.map (spaces (width + 2) ++ ·)

/-- The description of a command; `inner` are the commands that it has. -/
def description (c : Command) (inner : List Command) : String :=
  let commands := if inner.isEmpty then [] else
    ["", "Commands:"] ++ columns (inner.map fun c => (c.name, c.summary))
  joinWith "\n" ([c.usage, ""] ++ wrapParagraphs 78 2 c.help ++ ["", "Options:"] ++
    columns (c.options.map fun o => (o.usage, o.help)) ++ commands)

end Command

/-! ## The commands of the program -/

/-- The option for the form of the output. -/
def formatOption : CommandOption :=
  ⟨["-f", "--format"], some (.choice ["text", "json"]), "Output format."⟩

/-- The program itself. -/
def program : Command where
  call := ["filesort"]
  arguments := []
  mixed := false
  ownOptions := [
    ⟨["--version"], none, "Show the version and exit."⟩,
    ⟨["-c", "--config"], some .path, "Path to config file (overrides ./filesort.yaml)."⟩,
    ⟨["-v", "--verbose"], none, "Increase verbosity (-v for INFO, -vv for DEBUG)."⟩,
    ⟨["-q", "--quiet"], none, "Suppress non-essential output (ERROR level only)."⟩]
  help := [⟨0, "filesort - render path templates for organizing files."⟩]

/-- The argument for a template. -/
def templateArgument : Argument := ⟨"TEMPLATE", false, .text⟩

/-- The command that says what a template uses. -/
def checkCommand : Command where
  call := ["filesort", "check"]
  arguments := [templateArgument]
  mixed := true
  ownOptions := [formatOption]
  help := [
    ⟨0, "Parse TEMPLATE and report what it uses."⟩,
    ⟨0, "Prints the template in canonical form with the variables and functions it references. " ++
        "Exits with status 1 if the template does not parse or calls functions that are not " ++
        "registered. A template without any expressions passes with a warning (suppressed by --quiet)."⟩,
    ⟨0, "Examples:     filesort check \"\x7b\x7b upper(extension) \x7d\x7d/\x7b\x7b file.stem \x7d\x7d\"     " ++
        "filesort check \"\x7b\x7b zfill(show.season, '2') \x7d\x7d\" --format json"⟩]

/-- The command that lists the functions. -/
def functionsCommand : Command where
  call := ["filesort", "functions"]
  arguments := []
  mixed := true
  ownOptions := [formatOption]
  help := [
    ⟨0, "List registered template functions."⟩,
    ⟨0, "Examples:     filesort functions     filesort functions --format json"⟩]

/-- The command that renders a template. -/
def renderCommand : Command where
  call := ["filesort", "render"]
  arguments := [templateArgument, ⟨"PATHS...", true, .path⟩]
  mixed := true
  ownOptions := [
    ⟨["--root"], some .directory,
      "Directory the files were found under (binds root and relative)."⟩,
    ⟨["--set"], some .text, "Extra variable (NAME=VALUE pairs). Can be specified multiple times."⟩,
    ⟨["-w", "--workers"], some .positive,
      "Render threads (default: the 'workers' config setting).  [x>=1]"⟩]
  help := [
    ⟨0, "Render TEMPLATE for each PATH."⟩,
    ⟨0, "Prints one line per file, PATH and output separated by a tab; with a single PATH only the " ++
        "output is printed. Files do not need to exist, but metadata is only bound for files that do."⟩,
    ⟨0, "Examples:     filesort render \"\x7b\x7b upper(extension) \x7d\x7d/\x7b\x7b name \x7d\x7d\" photo.jpg"⟩,
    ⟨4, "filesort render \"\x7b\x7b parent \x7d\x7d/\x7b\x7b year \x7d\x7d\" *.pdf --set year=2024"⟩,
    ⟨4, "filesort render \"\x7b\x7b relative \x7d\x7d\" --root inbox inbox/a/b.txt"⟩]

/-- The commands of the program. -/
def commands : List Command := [checkCommand, functionsCommand, renderCommand]

/-- The command with a name. -/
def findCommand? (name : String) : Option Command := commands.find? (·.name == name)

end PathTemplates.Cli
