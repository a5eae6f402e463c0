import PathTemplates.Expr.Basic
import PathTemplates.Expr.Expected
import PathTemplates.Text.Blank

/-! # Parsing an expression

A parser that reads one token at a time. Its state is the list of calls that are still open and what
was read last. A closing parenthesis, a comma and the end of the text finish the name or path that was
being read. An error takes over what the tables of the parser list at its place, which is narrowed once
the parser has stopped. -/

namespace PathTemplates

/-- A call whose closing parenthesis has not been read. -/
structure OpenCall where
  /-- The name of the function. -/
  name : String
  /-- The arguments read so far, the last one first. -/
  args : List Expr

/-- What was read last. -/
inductive Focus
  /-- Nothing yet. -/
  | start
  /-- The opening parenthesis of a call. -/
  | opened
  /-- A comma. -/
  | separated
  /-- A name, which may be that of a function or start a path. -/
  | name (n : String)
  /-- A dot in a path; the fields read so far are in reverse. -/
  | dotted (root : String) (fields : List String)
  /-- A field of a path; the fields are in reverse. -/
  | path (root : String) (fields : List String)
  /-- The end of an argument or of the whole expression. -/
  | complete (e : Expr)

namespace Focus

/-- A name or a path is finished; anything else stays. -/
def settle : Focus → Focus
  | name n => complete (.path n [])
  | path root fields => complete (.path root fields.reverse)
  | f => f

/-- The tokens that the tables list after what was read last, inside a call and outside alike. -/
def listed : Focus → List Expectation
  | start => [.identifier]
  | opened => [.identifier, .quotedString, .closing]
  | separated => [.identifier, .quotedString]
  | name _ => [.opening, .closing, .comma, .dot]
  | dotted _ _ => [.identifier]
  | path _ _ => [.closing, .comma, .dot]
  | complete _ => [.closing, .comma]

end Focus

/-- The state of the parser. -/
structure ParserState where
  /-- The open calls, innermost first. -/
  calls : List OpenCall
  /-- What was read last. -/
  focus : Focus

namespace ParserState

/-- The state before the first token. -/
def initial : ParserState := ⟨[], .start⟩

/-- The state with its name or path finished. -/
def settle (s : ParserState) : ParserState := { s with focus := s.focus.settle }

/-- What the tables list once a name or path is finished: after an expression outside all calls nothing
but the end. -/
def listedSettled (s : ParserState) : List Expectation :=
  match s.calls, s.focus.settle with
  | [], .complete _ => [.finish]
  | _, f => f.listed

/-- The state after one more token, if the token may stand here. -/
def step? (s : ParserState) : Token → Option ParserState
  | .identifier n =>
    let n := String.ofList n
    match s.focus with
    | .start | .opened | .separated => some { s with focus := .name n }
    | .dotted root fields => some { s with focus := .path root (n :: fields) }
    | _ => none
  | .quoted _ text =>
    match s.focus with
    | .opened | .separated => some { s with focus := .complete (.text (String.ofList text)) }
    | _ => none
  | .dot =>
    match s.focus with
    | .name n => some { s with focus := .dotted n [] }
    | .path root fields => some { s with focus := .dotted root fields }
    | _ => none
  | .opening =>
    match s.focus with
    | .name n => some ⟨⟨n, []⟩ :: s.calls, .opened⟩
    | _ => none
  | .closing =>
    match s.focus.settle, s.calls with
    | .opened, call :: outer => some ⟨outer, .complete (.call call.name [])⟩
    | .complete e, call :: outer =>
      some ⟨outer, .complete (.call call.name (e :: call.args).reverse)⟩
    | _, _ => none
  | .comma =>
    match s.focus.settle, s.calls with
    | .complete e, call :: outer => some ⟨⟨call.name, e :: call.args⟩ :: outer, .separated⟩
    | _, _ => none

/-- Whether a token finishes the name or path before it. -/
def finishes : Token → Bool
  | .closing | .comma => true
  | _ => false

/-- The error of a token that may not stand here. -/
def refuse (s : ParserState) (t : PlacedToken) : SyntaxError :=
  ⟨.token t.token, t.offset, if finishes t.token then s.listedSettled else s.focus.listed⟩

/-- The error of a character at which no token can start. -/
def refuseChar (s : ParserState) (offset : Nat) (c : Char) : SyntaxError :=
  match QuoteMark.ofChar? c with
  | some _ => ⟨.openQuote, offset, []⟩
  | none => ⟨.character c, offset, s.focus.listed⟩

/-- The expression, if the text may end here. -/
def finish (s : ParserState) (length : Nat) : Except SyntaxError Expr :=
  match s.calls, s.settle.focus with
  | [], .complete e => .ok e
  | _, .start => .error ⟨.emptyExpression, length, s.listedSettled⟩
  | _, _ => .error ⟨.unfinished, length, s.listedSettled⟩

/-- Reads the remaining tokens of a text of a given length. -/
def run (s : ParserState) (stuck : Option (Nat × Char)) (length : Nat) :
    List PlacedToken → Except SyntaxError Expr
  | [] =>
    match stuck with
    | some (offset, c) => .error (s.refuseChar offset c)
    | none => s.finish length
  | t :: rest =>
    match s.step? t.token with
    | some next => run next stuck length rest
    | none => .error (s.refuse t)

end ParserState

namespace Expr

/-- Parses what stands between the braces of an expression. -/
def ofChars (cs : List Char) : Except SyntaxError Expr :=
  let scan := Scan.ofChars cs
  (ParserState.initial.run scan.stuck cs.length scan.tokens).mapError (SyntaxError.narrow cs)

/-- The offset and characters of the inside of an expression that is written with its braces, blanks
around them being allowed. -/
def unwrap? (cs : List Char) : Option (Nat × List Char) :=
  let leading := (cs.takeWhile isBlank).length
  match trimBlank cs with
  | '{' :: '{' :: inner =>
    match inner.reverse with
    | '}' :: '}' :: body => some (leading + 2, body.reverse)
    | _ => none
  | _ => none

/-- Parses an expression, with or without its braces. -/
def parse (source : String) : Except ParseError Expr :=
  let cs := source.toList
  let result := match unwrap? cs with
    | some (offset, inner) => (ofChars inner).mapError (SyntaxError.shift offset)
    | none => ofChars cs
  result.mapError (SyntaxError.report source)

end Expr

namespace Token

/-- All kinds of tokens, which are listed where any token may follow any other. -/
def kinds : List Expectation := [.identifier, .quotedString, .opening, .closing, .comma, .dot]

/-- The tokens of a text. -/
def all (source : String) : Except ParseError (List Token) :=
  let cs := source.toList
  let scan := Scan.ofChars cs
  match scan.stuck with
  | none => .ok (scan.tokens.map (·.token))
  | some (offset, c) =>
    let error : SyntaxError := match QuoteMark.ofChar? c with
      | some _ => ⟨.openQuote, offset, []⟩
      | none => ⟨.character c, offset, kinds⟩
    .error ((error.narrow cs).report source)

end Token

end PathTemplates
