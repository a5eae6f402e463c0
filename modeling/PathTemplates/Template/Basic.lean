import PathTemplates.Expr.Printer
import PathTemplates.Expr.SyntaxError
import PathTemplates.Expr.Walk

/-! # Templates

A template is a list of literal texts and expressions. The text it was parsed from is kept for
messages; two templates are the same if their nodes are. -/

namespace PathTemplates

/-- A part of a template. -/
inductive Node
  /-- Text that stands for itself. -/
  | literal (text : String)
  /-- An expression between braces. -/
  | expr (e : Expr)
  deriving DecidableEq

/-- A template. -/
structure Template where
  /-- The parts in order. -/
  nodes : List Node
  /-- The text that the template was parsed from. -/
  source : String

namespace Template

/-- The braces that open an expression. -/
def openBraces : String := "\x7b\x7b"

/-- The braces that close an expression. -/
def closeBraces : String := "\x7d\x7d"

/-- Whether two templates have the same parts. -/
def same (a b : Template) : Bool := a.nodes == b.nodes

/-- Every expression with everything inside it, in order. -/
def expressions (t : Template) : List Expr :=
  t.nodes.flatMap fun
    | .literal _ => []
    | .expr e => e.walk

/-- The variables that the template looks up, in order of first use. -/
def roots (t : Template) : List String := Expr.rootsOf t.expressions

/-- The functions that the template calls, in order of first use. -/
def callees (t : Template) : List String := Expr.calleesOf t.expressions

/-- Whether the template has no expressions. -/
def isStatic (t : Template) : Bool :=
  t.nodes.all fun
    | .literal _ => true
    | .expr _ => false

/-- The written form of a part. -/
def nodeSource : Node → Except ExprError String
  | .literal text => .ok text
  | .expr e => e.toSource.map fun inner => openBraces ++ " " ++ inner ++ " " ++ closeBraces

/-- The canonical written form of a template. -/
def toSource (t : Template) : Except ExprError String :=
  (t.nodes.mapM nodeSource).map String.join

end Template

end PathTemplates
