import PathTemplates.Bindings
import PathTemplates.Cli.Command
import PathTemplates.Files
import PathTemplates.Text.Numeral
import PathTemplates.Text.Similar

/-! # Reading a command line

The words of a command line are options, their values, and arguments. After two hyphens there are only
arguments. Short options that take no value may be written together. -/

namespace PathTemplates.Cli

/-- What is wrong with the value of an option. -/
inductive ValueFault
  /-- It is not one of the words. -/
  | notChoice (value : String) (words : List String)
  /-- It is not a number. -/
  | notNumber (value : String)
  /-- It is below one. -/
  | notPositive (n : Int)
  /-- It leads to a file. -/
  | isFile (value : String)
  deriving DecidableEq

namespace ValueFault

/-- The wording of a fault. -/
def message : ValueFault → String
  | notChoice value words =>
    quoted value ++ " is not one of " ++ joinWith ", " (words.map quoted) ++ "."
  | notNumber value => quoted value ++ " is not a valid integer range."
  | notPositive n => toString n ++ " is not in the range x>=1."
  | isFile value => "Directory " ++ quoted value ++ " is a file."

end ValueFault

/-- Why a command line makes no sense. -/
inductive UsageError
  /-- There is no such option; some names are similar. -/
  | noSuchOption (name : String) (similar : List String)
  /-- The value of an option is missing. -/
  | valueMissing (name : String)
  /-- An option takes no value. -/
  | valueNotTaken (name : String)
  /-- There is no such command; some names are similar. -/
  | noSuchCommand (name : String) (similar : List String)
  /-- An argument is missing. -/
  | argumentMissing (name : String)
  /-- There are more arguments than the command takes. -/
  | unexpected (args : List String)
  /-- The value of an option is wrong. -/
  | badValue (hint : String) (fault : ValueFault)
  deriving DecidableEq

namespace UsageError

/-- What may have been meant. -/
def suggestion (similar : List String) : String :=
  match sortTexts similar with
  | [] => ""
  | [name] => " Did you mean " ++ quoted name ++ "?"
  | names => " (Did you mean one of: " ++ joinWith ", " (names.map quoted) ++ "?)"

/-- The wording of an error. -/
def message : UsageError → String
  | noSuchOption name similar => "No such option " ++ quoted name ++ "." ++ suggestion similar
  | valueMissing name => "Option " ++ quoted name ++ " requires an argument."
  | valueNotTaken name => "Option " ++ quoted name ++ " does not take a value."
  | noSuchCommand name similar => "No such command " ++ quoted name ++ "." ++ suggestion similar
  | argumentMissing name => "Missing argument '" ++ name ++ "'."
  | unexpected args =>
    "Got unexpected extra argument" ++ (if args.length == 1 then "" else "s") ++ " (" ++
      joinWith " " args ++ ")"
  | badValue hint fault => "Invalid value for " ++ hint ++ ": " ++ fault.message

/-- Whether the error is printed with how the command is called. -/
def showsUsage : UsageError → Bool
  | valueMissing _ | valueNotTaken _ => false
  | _ => true

end UsageError

/-- The options and arguments of a command line. -/
structure Parsed where
  /-- The options in order, with their values. -/
  occurrences : List (CommandOption × String)
  /-- The arguments in order. -/
  arguments : List String

namespace Parsed

/-- How often an option is given. -/
def count (p : Parsed) (name : String) : Nat := (p.occurrences.filter (·.1.name == name)).length

/-- Whether an option is given. -/
def has (p : Parsed) (name : String) : Bool := p.count name != 0

/-- The values of an option. -/
def values (p : Parsed) (name : String) : List String :=
  (p.occurrences.filter (·.1.name == name)).map (·.2)

/-- The value of an option, the last one given. -/
def value? (p : Parsed) (name : String) : Option String := (p.values name).getLast?

/-- The command line with one option more in front. -/
def withOption (o : CommandOption) (value : String) (p : Parsed) : Parsed :=
  { p with occurrences := (o, value) :: p.occurrences }

/-- The first option that asks for a text and nothing else. -/
def informs? (p : Parsed) : Option String :=
  (p.occurrences.find? fun (o, _) => o.name == "--help" || o.name == "--version").map (·.1.name)

end Parsed

/-- What a word gives: options without values, and one that waits for its value in the next word. -/
structure WordOptions where
  /-- The options with their values. -/
  found : List (CommandOption × String)
  /-- The option that waits for its value, and the name it was given by. -/
  waiting : Option (CommandOption × String)

/-- The option with a name. -/
def findOption (c : Command) (name : String) : Option CommandOption :=
  c.options.find? fun o => o.names.contains name

/-- Reads a word of short options after its hyphen; what follows an option that takes a value is the
value. -/
def shortOptions (c : Command) : List Char → Except UsageError WordOptions
  | [] => .ok ⟨[], none⟩
  | ch :: rest =>
    let name := String.ofList ['-', ch]
    match findOption c name with
    | none => .error (.noSuchOption name [])
    | some o =>
      if o.value.isNone then
        (shortOptions c rest).map fun w => { w with found := (o, "") :: w.found }
      else if rest.isEmpty then .ok ⟨[], some (o, name)⟩
      else .ok ⟨[(o, String.ofList rest)], none⟩

/-- Reads a word that starts with a hyphen. -/
def wordOptions (c : Command) (word : String) : Except UsageError WordOptions :=
  let cs := word.toList
  let name := String.ofList (cs.takeWhile (· != '='))
  let attached := if cs.contains '=' then
      some (String.ofList ((cs.dropWhile (· != '=')).drop 1))
    else none
  let long := (c.options.flatMap (·.names)).filter fun n => "--".toList.isPrefixOf n.toList
  match long.contains name, findOption c name with
  | true, some o =>
    match o.value, attached with
    | none, some _ => .error (.valueNotTaken name)
    | none, none => .ok ⟨[(o, "")], none⟩
    | some _, some v => .ok ⟨[(o, v)], none⟩
    | some _, none => .ok ⟨[], some (o, name)⟩
  | _, _ =>
    if "--".toList.isPrefixOf cs then .error (.noSuchOption name (closeWords name long))
    else shortOptions c (cs.drop 1)

/-- Whether a word is one of options. -/
def isOptionWord (word : String) : Bool := word.toList.head? == some '-' && word.length > 1

/-- Reads words after an option that waits for its value, if one does. -/
def parseAfter (c : Command) (waiting : Option (CommandOption × String)) :
    List String → Except UsageError Parsed
  | [] =>
    match waiting with
    | some (_, name) => .error (.valueMissing name)
    | none => .ok ⟨[], []⟩
  | word :: rest =>
    match waiting with
    | some (o, _) => (parseAfter c none rest).map (·.withOption o word)
    | none =>
      if word == "--" then .ok ⟨[], rest⟩
      else if isOptionWord word then
        match wordOptions c word with
        | .error e => .error e
        | .ok w => (parseAfter c w.waiting rest).map fun p =>
          { p with occurrences := w.found ++ p.occurrences }
      else if c.mixed then
        (parseAfter c none rest).map fun p => { p with arguments := word :: p.arguments }
      else .ok ⟨[], word :: rest⟩

/-- Reads the words of a command line. -/
def parse (c : Command) (words : List String) : Except UsageError Parsed := parseAfter c none words

/-! ## Values -/

/-- Why a command line cannot be used. -/
inductive ArgumentError
  /-- It makes no sense. -/
  | usage (e : UsageError)
  /-- A path cannot be looked up. -/
  | path (e : FileError)

/-- Checks a value. -/
def checkValue (t : FileTree) (hint : String) (kind : ValueKind) (value : String) :
    Except ArgumentError Unit :=
  let wrong (f : ValueFault) : Except ArgumentError Unit := .error (.usage (.badValue hint f))
  match kind with
  | .text => .ok ()
  | .choice words => if words.contains value then .ok () else wrong (.notChoice value words)
  | .positive =>
    match readNumeral value with
    | .error _ => wrong (.notNumber value)
    | .ok n => if n < 1 then wrong (.notPositive n) else .ok ()
  | .path | .directory =>
    match t.find (Path.ofString value) with
    | .error .nullCharacter => .error (.path .nullCharacter)
    | .ok (.file _ _) => if kind == .directory then wrong (.isFile value) else .ok ()
    | _ => .ok ()

/-- Checks the values of options in the order in which the options were first given. -/
def checkOptions (t : FileTree) (p : Parsed) : Except ArgumentError Unit :=
  let given := (p.occurrences.map (·.1)).foldl (fun seen o =>
    if seen.contains o then seen else seen ++ [o]) []
  given.forM fun o =>
    match o.value, p.value? o.name with
    | some kind, some v => checkValue t o.hint kind v
    | _, _ => .ok ()

/-- Checks the arguments that a command takes, one after the other. -/
def checkArguments (t : FileTree) : List Argument → List String → Except ArgumentError Unit
  | [], [] => .ok ()
  | [], rest => .error (.usage (.unexpected rest))
  | a :: _, [] => .error (.usage (.argumentMissing a.name))
  | a :: more, v :: rest =>
    if a.many then (v :: rest).forM (checkValue t "" a.value)
    else do
      checkValue t "" a.value v
      checkArguments t more rest

/-- Checks a command line. The arguments of the program itself are left to its commands. -/
def checkParsed (t : FileTree) (c : Command) (p : Parsed) : Except ArgumentError Unit := do
  checkOptions t p
  if c.mixed then checkArguments t c.arguments p.arguments

end PathTemplates.Cli
