import PathTemplates.Text.Search

/-! # Wrapped text

Paragraphs are broken into lines of a width. Lines are broken at spaces, which vanish there; all other
spaces stay. -/

namespace PathTemplates

/-- A paragraph and how far it is indented. -/
structure Paragraph where
  /-- The number of spaces in front of its lines. -/
  indent : Nat
  /-- The text. -/
  text : String

/-- The runs of spaces and of other characters in a text. -/
def spaceRuns : List Char → List (List Char)
  | [] => []
  | c :: rest =>
    match spaceRuns rest with
    | (d :: run) :: runs =>
      if (c == ' ') == (d == ' ') then (c :: d :: run) :: runs else [c] :: (d :: run) :: runs
    | runs => [c] :: runs

/-- Whether a run is one of spaces. -/
def isSpaceRun (run : List Char) : Bool := run.all (· == ' ')

/-- The lines of runs; `line` holds the runs of the current line in reverse. -/
def wrapRuns (width : Nat) (line : List (List Char)) : List (List Char) → List (List Char)
  | [] => finish line
  | run :: rest =>
    let used := (line.map List.length).sum
    if line.isEmpty && isSpaceRun run then wrapRuns width [] rest
    else if line.isEmpty || used + run.length ≤ width then wrapRuns width (run :: line) rest
    else if isSpaceRun run then finish line ++ wrapRuns width [] rest
    else finish line ++ wrapRuns width [run] rest
where
  /-- A line without the spaces at its end. -/
  finish (line : List (List Char)) : List (List Char) :=
    let kept := match line with
      | run :: more => if isSpaceRun run then more else line
      | [] => []
    if kept.isEmpty then [] else [kept.reverse.flatten]

/-- The lines of a text. -/
def wrapText (width : Nat) (s : String) : List String :=
  (wrapRuns width [] (spaceRuns s.toList)).map String.ofList

/-- The lines of a paragraph with a margin. -/
def Paragraph.lines (p : Paragraph) (width margin : Nat) : List String :=
  let front := margin + p.indent
  (wrapText (width - front) p.text).map (spaces front ++ ·)

/-- The lines of paragraphs with a margin, with blank lines between the paragraphs. -/
def wrapParagraphs (width margin : Nat) (ps : List Paragraph) : List String :=
  List.intercalate [""] (ps.map (·.lines width margin))

end PathTemplates
