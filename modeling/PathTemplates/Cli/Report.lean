import PathTemplates.Error
import PathTemplates.Text.Blank
import PathTemplates.Text.Digit

/-! # Reports on the terminal

How errors, warnings and tables are printed. -/

namespace PathTemplates.Report

/-- An error with details below it and a suggestion at the end. -/
def error (message : String) (details : List String) (suggestion : Option String) : String :=
  let tail := match suggestion with
    | some s => if s.isEmpty then [] else ["Suggestion: " ++ s]
    | none => []
  joinWith "\n" (["Error: " ++ message] ++ details.map ("  " ++ ·) ++ tail)

/-- What is printed below an error in the settings. -/
def configDetails (e : ConfigError) : List String :=
  let field := match e.field with
    | some f => if f.isEmpty then [] else ["Field: " ++ f]
    | none => []
  let value := match e.value with
    | .null => []
    | v => ["Value: " ++ v.printed]
  field ++ value

/-- An error of this library. -/
def ofError : Error → String
  | .config e => error e.message (configDetails e) none
  | e => error e.full [] none

/-- A warning. -/
def warning (message : String) : String := "Warning: " ++ message

/-- The greatest length of the cells of a column, from its heading on. -/
def columnWidth (heading : String) (cells : List String) : Nat :=
  cells.foldl (fun width cell => max width cell.length) heading.length

/-- A row with bars between its cells; cells beyond the last column are not filled up. -/
def row (widths : List Nat) (cells : List String) : String :=
  let padded := cells.mapIdx fun i cell =>
    match widths[i]? with
    | some width => padEnd width cell
    | none => cell
  String.ofList (trimEndWhile isBlank (joinWith " | " padded).toList)

/-- A table; without headings there is none. -/
def table (headings : List String) (rows : List (List String)) : String :=
  if headings.isEmpty then ""
  else
    let widths := headings.mapIdx fun i heading =>
      columnWidth heading (rows.filterMap (·[i]?))
    joinWith "\n" (row widths headings :: rows.map (row widths))

/-- What follows a control sequence for the style of a terminal: an escape, a bracket, digits, question
marks and semicolons, and a letter. -/
def afterStyle? : List Char → Option (List Char)
  | c :: '[' :: rest =>
    if c.toNat == 27 then
      match rest.dropWhile fun d => isAsciiDigit d || d == ';' || d == '?' with
      | letter :: after => if isAsciiLetter letter then some after else none
      | [] => none
    else none
  | _ => none

/-- A text without control sequences for the style of a terminal; `fuel` bounds its characters. -/
def dropStyles : Nat → List Char → List Char
  | _, [] => []
  | 0, cs => cs
  | fuel + 1, c :: rest =>
    match afterStyle? (c :: rest) with
    | some after => dropStyles fuel after
    | none => c :: dropStyles fuel rest

/-- A text as it is printed where there is no terminal. -/
def plain (s : String) : String := String.ofList (dropStyles s.length s.toList)

end PathTemplates.Report
