import PathTemplates.Expr.Basic
import PathTemplates.Proofs.Expr.Lexing

/-! # The grammar of expressions

What stands between the braces of a template, as a grammar over tokens with the tree of each
derivation:

* an expression is a call or a variable;
* a call is a name, an opening parenthesis, arguments with commas between them or none at all, and a
  closing parenthesis;
* an argument is an expression or a quoted text;
* a variable is a name and fields, each after a dot.

Names and quoted texts stand in the tree as they are written, and arguments in their order. A text
is an expression if its tokens are (`Interior`). -/

namespace PathTemplates

namespace Grammar

/-- Fields, each after a dot. -/
inductive Fields : List Token → List String → Prop
  /-- No fields. -/
  | nil : Fields [] []
  /-- A dot and a name before further fields. -/
  | cons {name : List Char} {ts : List Token} {names : List String} :
      Fields ts names → Fields (.dot :: .identifier name :: ts) (String.ofList name :: names)

mutual

/-- An expression: a variable or a call. -/
inductive Expression : List Token → Expr → Prop
  /-- A name and fields looked up inside what it stands for. -/
  | variable {root : List Char} {ts : List Token} {fields : List String} :
      Fields ts fields → Expression (.identifier root :: ts) (.path (String.ofList root) fields)
  /-- A name and arguments between parentheses. -/
  | call {name : List Char} {ts : List Token} {args : List Expr} :
      Arguments ts args →
      Expression (.identifier name :: .opening :: (ts ++ [.closing]))
        (.call (String.ofList name) args)

/-- The arguments of a call. -/
inductive Arguments : List Token → List Expr → Prop
  /-- No arguments. -/
  | none : Arguments [] []
  /-- An argument and those after it. -/
  | some {ts us : List Token} {e : Expr} {es : List Expr} :
      Argument ts e → MoreArguments us es → Arguments (ts ++ us) (e :: es)

/-- Further arguments, each after a comma. -/
inductive MoreArguments : List Token → List Expr → Prop
  /-- No further arguments. -/
  | nil : MoreArguments [] []
  /-- A comma and an argument before further ones. -/
  | cons {ts us : List Token} {e : Expr} {es : List Expr} :
      Argument ts e → MoreArguments us es → MoreArguments (.comma :: (ts ++ us)) (e :: es)

/-- An argument: an expression or a quoted text. -/
inductive Argument : List Token → Expr → Prop
  /-- An expression. -/
  | expression {ts : List Token} {e : Expr} : Expression ts e → Argument ts e
  /-- A quoted text, without its quotes. -/
  | string {mark : QuoteMark} {text : List Char} :
      Argument [.quoted mark text] (.text (String.ofList text))

end

/-- One more field after the others. -/
theorem Fields.snoc {ts : List Token} {names : List String} (h : Fields ts names)
    (name : List Char) :
    Fields (ts ++ [.dot, .identifier name]) (names ++ [String.ofList name]) := by
  induction h with
  | nil => exact .cons .nil
  | cons _ ih => exact .cons ih

end Grammar

/-- A text is the inside of an expression with a given tree: its tokens are those of the
expression. -/
def Interior (cs : List Char) (e : Expr) : Prop :=
  ∃ ts, Lexes cs ts ∧ Grammar.Expression ts e

end PathTemplates
