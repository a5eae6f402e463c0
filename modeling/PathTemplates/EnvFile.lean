import PathTemplates.Bindings
import PathTemplates.Text.Blank
import PathTemplates.Text.Break

/-! # Environment files

Variables of the environment may be given in a file, one statement after another: a name, an equals
sign and a value, which may stand between quotes. A value may refer to other variables. What the
environment holds already stays as it is. -/

namespace PathTemplates.EnvFile

/-- A statement. -/
structure Statement where
  /-- The name of the variable. -/
  name : String
  /-- The value; a name may stand alone. -/
  value : Option String
  deriving DecidableEq

/-- What a piece of a file reads as, and the text after it; or the text where reading stopped. -/
abbrev Piece (α : Type) := Except (List Char) (α × List Char)

/-- A blank within a line. -/
def isGap (c : Char) : Bool := isBlank c && c != '\n'

/-- The text after the blanks of the line. -/
def skipGap (cs : List Char) : List Char := cs.dropWhile isGap

/-- The text after the word that may stand in front of a name. -/
def skipExport (cs : List Char) : List Char :=
  let word := "export".toList
  let rest := cs.drop word.length
  if word.isPrefixOf cs && rest.head?.any isGap then skipGap rest else cs

/-- The name of a variable; there is none in front of a comment. -/
def readName (cs : List Char) : Piece (Option String) :=
  match cs with
  | '#' :: _ => .ok (none, cs)
  | '\'' :: rest =>
    let name := rest.takeWhile (· != '\'')
    match rest.drop name.length with
    | _ :: after => if name.isEmpty then .error cs else .ok (some (String.ofList name), after)
    | [] => .error cs
  | _ =>
    let name := cs.takeWhile fun c => c != '=' && c != '#' && !isBlank c
    if name.isEmpty then .error cs else .ok (some (String.ofList name), cs.drop name.length)

/-- The text up to a quote without a backslash in front, and the text after the quote. -/
def untilQuote? (mark : Char) : List Char → Option (List Char × List Char)
  | [] => none
  | [c] => if c == mark then some ([], []) else none
  | c :: d :: rest =>
    if c == mark then some ([], d :: rest)
    else if c == '\\' && d == mark then
      (untilQuote? mark rest).map fun (before, after) => (c :: d :: before, after)
    else (untilQuote? mark (d :: rest)).map fun (before, after) => (c :: before, after)

/-- The text up to the last quote, and the text after it. -/
def untilLastQuote? (mark : Char) (cs : List Char) : Option (List Char × List Char) :=
  let back := cs.reverse
  let after := back.takeWhile (· != mark)
  match back.drop after.length with
  | _ :: before => some (before.reverse, after.reverse)
  | [] => none

/-- The characters that letters after a backslash stand for between quotes. -/
def escapes (mark : Char) : List (Char × Char) :=
  let own := [('\\', '\\'), ('\'', '\'')]
  if mark == '\'' then own
  else own ++ [('"', '"'), ('a', Char.ofNat 7), ('b', Char.ofNat 8), ('f', Char.ofNat 12),
    ('n', '\n'), ('r', '\r'), ('t', '\t'), ('v', Char.ofNat 11)]

/-- A text with its escapes replaced; a backslash that starts no escape stays. -/
def unescape (known : List (Char × Char)) : List Char → List Char
  | '\\' :: c :: rest =>
    match known.lookup c with
    | some d => d :: unescape known rest
    | none => '\\' :: unescape known (c :: rest)
  | c :: rest => c :: unescape known rest
  | [] => []

/-- A text up to a number sign that has a blank in front; `blank` says whether one stood before. -/
def beforeComment (blank : Bool) : List Char → List Char
  | [] => []
  | c :: rest => if blank && c == '#' then [] else c :: beforeComment (isBlank c) rest

/-- The value of a variable. -/
def readValue (cs : List Char) : Piece String :=
  match cs with
  | [] => .ok ("", cs)
  | c :: rest =>
    if c == '\n' then .ok ("", cs)
    else if c == '\'' || c == '"' then
      match (untilQuote? c rest).or (untilLastQuote? c rest) with
      | some (inner, after) => .ok (String.ofList (unescape (escapes c) inner), after)
      | none => .error cs
    else
      let line := cs.takeWhile (· != '\n')
      .ok (String.ofList (trimEndWhile isBlank (beforeComment false line)), cs.drop line.length)

/-- The text of the next line, if only a comment is left of this one. -/
def endStatement (cs : List Char) : Piece Unit :=
  let cs := match skipGap cs with
    | '#' :: rest => rest.dropWhile (· != '\n')
    | _ => cs
  match skipGap cs with
  | [] => .ok ((), [])
  | '\n' :: rest => .ok ((), rest)
  | _ => .error cs

/-- A statement, or a comment. -/
def readStatement (cs : List Char) : Except (List Char) (Option Statement × List Char) := do
  let (name, cs) ← readName (skipExport cs)
  let (value, cs) ← match skipGap cs with
    | '=' :: rest => (readValue (skipGap rest)).map fun (v, cs) => (some v, cs)
    | cs => .ok (none, cs)
  let (_, cs) ← endStatement cs
  return (name.map fun name => ⟨name, value⟩, cs)

/-- The statements of a file, and the lines where malformed ones start; `line` is the number of the
present line, and `fuel` bounds the statements. -/
def readAll : Nat → (line : Nat) → List Char → List Statement × List Nat
  | 0, _, _ => ([], [])
  | fuel + 1, line, cs =>
    match cs.dropWhile isBlank with
    | [] => ([], [])
    | body =>
      let (found, wrong, rest) := match readStatement body with
        | .ok (s, rest) => (s.toList, [], rest)
        | .error stopped => ([], [line], (stopped.dropWhile (· != '\n')).drop 1)
      let passed := (cs.take (cs.length - rest.length)).count '\n'
      let (more, others) := readAll fuel (line + passed) rest
      (found ++ more, wrong ++ others)

/-- The statements of a file, and the lines where malformed ones start. -/
def parse (s : String) : List Statement × List Nat :=
  let cs := unifyBreaks s.toList
  readAll (cs.length + 1) 1 cs

/-! ## References -/

/-- The name and the default value in a reference after its opening brace, and the text after it. -/
def readReference? (cs : List Char) : Option (String × String × List Char) :=
  let name := cs.takeWhile fun c => c != '}' && c != ':'
  match cs.drop name.length with
  | '}' :: rest => some (String.ofList name, "", rest)
  | ':' :: '-' :: rest =>
    let standby := rest.takeWhile (· != '}')
    match rest.drop standby.length with
    | _ :: after => some (String.ofList name, String.ofList standby, after)
    | [] => none
  | _ => none

/-- A value with its references replaced; `fuel` bounds the characters. -/
def resolve (env : Bindings String) : Nat → List Char → List Char
  | 0, cs => cs
  | _, [] => []
  | fuel + 1, c :: rest =>
    match c, rest with
    | '$', '{' :: inner =>
      match readReference? inner with
      | some (name, standby, after) =>
        ((Bindings.get? env name).getD standby).toList ++ resolve env fuel after
      | none => c :: resolve env fuel rest
    | _, _ => c :: resolve env fuel rest

/-- The variables that statements give, one after another; `env` is what the environment holds. A name
that stands alone has no value, and a reference to it is empty. -/
def givenBy (env : Bindings String) (statements : List Statement) : Bindings (Option String) :=
  statements.foldl (fun given s =>
    let known := Bindings.setAll (given.map fun (name, v) => (name, v.getD "")) env
    let value := s.value.map fun v =>
      String.ofList (resolve known (v.length + 1) v.toList)
    Bindings.set given s.name value) []

/-- The environment with the variables of a file, and the lines where malformed statements start. -/
def addTo (env : Bindings String) (s : String) : Bindings String × List Nat :=
  let (statements, wrong) := parse s
  let given := (givenBy env statements).filterMap fun (name, v) =>
    if Bindings.has env name then none else v.map (name, ·)
  (env ++ given, wrong)

end PathTemplates.EnvFile
