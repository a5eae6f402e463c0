import PathTemplates.Expr.Parser
import PathTemplates.Template.Basic
import PathTemplates.Template.Segment

/-! # Parsing a template

The segments of a template are parsed in order, and the first error is that of the template, with
its offset counted from the start of the whole text. An expression that is not closed is an error at
the end of the text, unless what it holds is itself in error. -/

namespace PathTemplates

namespace Segment

/-- The part of a template that a segment is; `offset` is where the segment starts and `total` where
the whole text ends. -/
def node (offset total : Nat) : Segment → Except SyntaxError Node
  | literal text => .ok (.literal (String.ofList text))
  | inside text => ((Expr.ofChars text).map Node.expr).mapError (SyntaxError.shift (offset + 2))
  | unclosed text =>
    let unclosedError : SyntaxError := ⟨.openBraces, total, [.braces]⟩
    if isAllBlank text then .error unclosedError
    else match Expr.ofChars text with
      | .error e => .error (e.shift (offset + 2))
      | .ok _ => .error unclosedError

/-- The parts that segments are, the first of them starting at an offset. -/
def nodes (offset total : Nat) : List Segment → Except SyntaxError (List Node)
  | [] => .ok []
  | s :: rest => do
    let first ← s.node offset total
    let others ← nodes (offset + s.chars.length) total rest
    return first :: others

end Segment

namespace Template

/-- The parts of a template text. -/
def ofChars (cs : List Char) : Except SyntaxError (List Node) :=
  Segment.nodes 0 cs.length (Segment.ofChars cs)

/-- Parses a template. -/
def parse (source : String) : Except ParseError Template :=
  match ofChars source.toList with
  | .ok nodes => .ok ⟨nodes, source⟩
  | .error e => .error (e.report source)

end Template

end PathTemplates
