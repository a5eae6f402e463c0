import PathTemplates.Expr.SyntaxError

/-! # What an error is told to expect

The tables of the parser do not know the calls that are open. A state of theirs stands for places
inside a call and for places outside all calls alike, so after a name, a path or a call they list a
closing parenthesis and a comma in either case. What they list at an error is therefore narrowed by
the calls that the text before its place leaves open, which are counted in the characters. -/

namespace PathTemplates

/-- The number of open calls after further characters, from the number before them and the mark of
the quoted text that they start in, if they start in one. -/
def openCallsFrom (depth : Int) : Option QuoteMark → List Char → Int
  | _, [] => depth
  | some mark, c :: cs => openCallsFrom depth (if c == mark.char then none else some mark) cs
  | none, c :: cs =>
    match QuoteMark.ofChar? c with
    | some mark => openCallsFrom depth (some mark) cs
    | none =>
      openCallsFrom (if c == '(' then depth + 1 else if c == ')' then depth - 1 else depth) none cs

/-- The number of calls that a text leaves open; what stands between quotes does not count. -/
def openCalls (cs : List Char) : Int := openCallsFrom 0 none cs

namespace Expectation

/-- Whether something goes on with the arguments of a call. -/
def isArgumentEnd : Expectation → Bool
  | closing | comma => true
  | _ => false

/-- What is left of a list at a place where a number of calls are open. Inside a call the text cannot
end; outside all calls it ends where the arguments of a call could go on. -/
def narrow (depth : Int) (listed : List Expectation) : List Expectation :=
  if 0 < depth then listed.filter (· != finish)
  else if listed.any isArgumentEnd then
    (listed.filter fun e => !e.isArgumentEnd && e != finish) ++ [finish]
  else listed

end Expectation

namespace SyntaxError

/-- An error of a text with the list of the tables narrowed to what could have stood at its place. -/
def narrow (cs : List Char) (e : SyntaxError) : SyntaxError :=
  { e with expected := Expectation.narrow (openCalls (cs.take e.offset)) e.expected }

end SyntaxError

end PathTemplates
