import PathTemplates.Expr.Basic
import PathTemplates.Text.Quoted
import PathTemplates.Text.Search

/-! # Writing an expression

The canonical written form: names with dots between them, arguments after a comma and a space, and
texts in single quotes, or in double quotes if they hold a single one. A text that holds both cannot
be written, since there are no escapes. Writing keeps a list of the pieces still to be written, so
that its depth does not grow with the nesting; `written` is the same form by recursion. -/

namespace PathTemplates

namespace ExprError

/-- The wording of the error. -/
def message : ExprError → String
  | emptyPath => "Variable path must contain at least one identifier"
  | bothQuotes text => "String literal " ++ quoted text ++ " contains both quote characters"

end ExprError

namespace Expr

/-- A text between quotes that it does not hold. -/
def quotedText (s : String) : Except ExprError String :=
  if !s.toList.contains '\'' then .ok ("'" ++ s ++ "'")
  else if !s.toList.contains '"' then .ok ("\"" ++ s ++ "\"")
  else .error (.bothQuotes s)

/-- A path of names. -/
def pathText (root : String) (fields : List String) : String := joinWith "." (root :: fields)

mutual

/-- The written form of an expression. -/
def written : Expr → Except ExprError String
  | path root fields => .ok (pathText root fields)
  | text s => quotedText s
  | call name args => do
    let inner ← writtenArgs args
    return name ++ "(" ++ inner ++ ")"

/-- The written form of arguments, with a comma and a space between them. -/
def writtenArgs : List Expr → Except ExprError String
  | [] => .ok ""
  | [e] => written e
  | e :: rest => do
    let first ← written e
    let others ← writtenArgs rest
    return first ++ ", " ++ others

end

/-- A piece still to be written. -/
inductive Piece
  /-- A text that is written as it is. -/
  | verbatim (s : String)
  /-- An expression. -/
  | expr (e : Expr)

namespace Piece

/-- An upper bound of the steps that a piece takes. -/
def weight : Piece → Nat
  | verbatim _ => 1
  | expr e => 3 * e.size - 1

/-- The steps that a list of pieces takes at most. -/
def totalWeight : List Piece → Nat
  | [] => 0
  | p :: rest => p.weight + totalWeight rest

/-- The arguments of a call with the commas between them. -/
def ofArgs : List Expr → List Piece
  | [] => []
  | [e] => [expr e]
  | e :: rest => expr e :: verbatim ", " :: ofArgs rest

@[simp] theorem totalWeight_nil : totalWeight [] = 0 := rfl

@[simp] theorem totalWeight_cons (p : Piece) (ps : List Piece) :
    totalWeight (p :: ps) = p.weight + totalWeight ps := rfl

@[simp] theorem totalWeight_append (ps qs : List Piece) :
    totalWeight (ps ++ qs) = totalWeight ps + totalWeight qs := by
  induction ps with
  | nil => simp
  | cons p ps ih => simp [ih, Nat.add_assoc]

theorem size_pos (e : Expr) : 0 < e.size := by cases e <;> simp

theorem totalWeight_ofArgs (args : List Expr) :
    totalWeight (ofArgs args) ≤ 3 * sizeList args := by
  induction args with
  | nil => simp [ofArgs]
  | cons e rest ih =>
    have := size_pos e
    cases rest with
    | nil => simp [ofArgs, weight]
    | cons d rest =>
      simp only [ofArgs, totalWeight_cons, weight, sizeList_cons] at ih ⊢
      omega

end Piece

/-- Writes the pending pieces after the text written so far, held in reverse. -/
def writeFrom (done : List String) : List Piece → Except ExprError (List String)
  | [] => .ok done.reverse
  | .verbatim s :: pending => writeFrom (s :: done) pending
  | .expr (.path root fields) :: pending => writeFrom (pathText root fields :: done) pending
  | .expr (.text s) :: pending =>
    match quotedText s with
    | .ok shown => writeFrom (shown :: done) pending
    | .error e => .error e
  | .expr (.call name args) :: pending =>
    writeFrom ((name ++ "(") :: done) (Piece.ofArgs args ++ .verbatim ")" :: pending)
  termination_by pieces => Piece.totalWeight pieces
  decreasing_by
    all_goals simp only [Piece.totalWeight_cons, Piece.totalWeight_append, Piece.weight, size_path,
      size_text, size_call]
    · omega
    · omega
    · omega
    · have := Piece.totalWeight_ofArgs args
      omega

/-- The written form of an expression. -/
def toSource (e : Expr) : Except ExprError String :=
  match writeFrom [] [.expr e] with
  | .ok pieces => .ok (String.join pieces)
  | .error e => .error e

end Expr

end PathTemplates
