import PathTemplates.Expr.Token
import PathTemplates.Text.Position
import PathTemplates.Text.Quoted
import PathTemplates.Text.Search

/-! # Syntax errors

What is wrong at a place of an expression or a template, and what could have stood there instead. A
report of an error adds the line and column and shows the line with a caret. -/

namespace PathTemplates

/-- What could stand at a place of an expression. -/
inductive Expectation
  /-- A name. -/
  | identifier
  /-- A text between quotes. -/
  | quotedString
  /-- An opening parenthesis. -/
  | opening
  /-- A closing parenthesis. -/
  | closing
  /-- A comma. -/
  | comma
  /-- A dot. -/
  | dot
  /-- The end of the expression. -/
  | finish
  /-- The closing braces of an expression in a template. -/
  | braces
  deriving DecidableEq

namespace Expectation

/-- The name of an expectation in messages. -/
def label : Expectation → String
  | identifier => "identifier"
  | quotedString => "quoted string"
  | opening => "'('"
  | closing => "')'"
  | comma => "','"
  | dot => "'.'"
  | finish => "end of expression"
  | braces => "'\x7d\x7d'"

/-- A list of expectations in messages. -/
def describe : List Expectation → String
  | [] => ""
  | [e] => e.label
  | es => "one of " ++ joinWith ", " (es.map label)

end Expectation

/-- What is wrong at a place. -/
inductive SyntaxProblem
  /-- No token starts with this character. -/
  | character (c : Char)
  /-- A quote is not closed. -/
  | openQuote
  /-- A token that may not stand here. -/
  | token (t : Token)
  /-- There is nothing but blanks. -/
  | emptyExpression
  /-- The expression is not complete. -/
  | unfinished
  /-- The braces of an expression are not closed. -/
  | openBraces
  deriving DecidableEq

namespace SyntaxProblem

/-- The wording of a problem. -/
def reason : SyntaxProblem → String
  | character c => "unexpected character " ++ quoted (String.singleton c)
  | openQuote => "unterminated string literal"
  | token (.identifier name) => "unexpected identifier '" ++ String.ofList name ++ "'"
  | token (.quoted mark text) => "unexpected string " ++ (Token.quoted mark text).text
  | token t => "unexpected '" ++ t.text ++ "'"
  | emptyExpression => "empty expression"
  | unfinished => "unexpected end of expression"
  | openBraces => "unterminated expression"

@[simp] theorem reason_character (c : Char) :
    (character c).reason = "unexpected character " ++ quoted (String.singleton c) := rfl

@[simp] theorem reason_openQuote : openQuote.reason = "unterminated string literal" := rfl

end SyntaxProblem

/-- A problem, its place, and what was expected there. -/
structure SyntaxError where
  /-- What is wrong. -/
  problem : SyntaxProblem
  /-- The offset in characters. -/
  offset : Nat
  /-- What could have stood there, in the order of the message. -/
  expected : List Expectation
  deriving DecidableEq

namespace SyntaxError

/-- The error of a part that starts at an offset, as an error of the whole. -/
def shift (offset : Nat) (e : SyntaxError) : SyntaxError := { e with offset := e.offset + offset }

end SyntaxError

/-- A report on a text that cannot be parsed. -/
structure ParseError where
  /-- What is wrong. -/
  reason : String
  /-- The text. -/
  source : String
  /-- The offset of the place. -/
  offset : Int
  /-- What was expected, or the empty text. -/
  expected : String
  deriving DecidableEq

namespace ParseError

/-- The line and column of the place. -/
def position (e : ParseError) : Position := positionAt e.source e.offset

/-- The reason, and what was expected. -/
def summary (e : ParseError) : String :=
  if e.expected.isEmpty then e.reason else e.reason ++ ", expected " ++ e.expected

/-- The wording of the report. -/
def message (e : ParseError) : String :=
  e.summary ++ " at line " ++ toString e.position.line ++ ", column " ++
    toString e.position.column ++ ":\n" ++ caretExcerpt e.source e.offset

end ParseError

namespace SyntaxError

/-- The report of an error in a text. -/
def report (source : String) (e : SyntaxError) : ParseError :=
  ⟨e.problem.reason, source, e.offset, Expectation.describe e.expected⟩

end SyntaxError

end PathTemplates
