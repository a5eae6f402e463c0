import PathTemplates.Expr.Basic

/-! # Walking an expression

An expression and the arguments inside it, each before its own arguments and from left to right. The
walk keeps a list of the expressions still to be visited, so that its depth does not grow with the
nesting; `subterms` is the same order by recursion. -/

namespace PathTemplates.Expr

mutual

/-- An expression, followed by everything inside it. -/
def subterms : Expr → List Expr
  | call name args => call name args :: subtermsList args
  | e => [e]

/-- Everything inside a list of arguments. -/
def subtermsList : List Expr → List Expr
  | [] => []
  | e :: rest => subterms e ++ subtermsList rest

end

/-- The arguments of a call; other expressions have none. -/
def children : Expr → List Expr
  | call _ args => args
  | _ => []

theorem sizeList_children (e : Expr) : sizeList e.children + 1 = e.size := by
  cases e <;> simp [children]

/-- Visits the pending expressions, the arguments of each before what was pending after it. -/
def walkFrom : List Expr → List Expr
  | [] => []
  | e :: pending => e :: walkFrom (e.children ++ pending)
  termination_by pending => sizeList pending
  decreasing_by
    have := sizeList_children e
    simp
    omega

/-- An expression and everything inside it, in the order of visiting. -/
def walk (e : Expr) : List Expr := walkFrom [e]

/-- The first names of the variables in a list of expressions, each once, in order of first use. -/
def rootsOf (es : List Expr) : List String :=
  (es.filterMap fun
    | path root _ => some root
    | _ => none).eraseDups

/-- The functions called in a list of expressions, each once, in order of first use. -/
def calleesOf (es : List Expr) : List String :=
  (es.filterMap fun
    | call name _ => some name
    | _ => none).eraseDups

end PathTemplates.Expr
