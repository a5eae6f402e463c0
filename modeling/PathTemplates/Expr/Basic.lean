/-! # Expressions

What stands between the braces of a template: a variable with fields looked up inside it, a call of
a function, or a quoted text. A variable has a first name by construction, so no path is empty. -/

namespace PathTemplates

/-- An expression. -/
inductive Expr
  /-- A variable, and the fields looked up inside it from the outermost on. -/
  | path (root : String) (fields : List String)
  /-- A call with its arguments in order. -/
  | call (name : String) (args : List Expr)
  /-- A quoted text, without the quotes. -/
  | text (value : String)

/-- Why an expression cannot be built or written. -/
inductive ExprError
  /-- A variable needs at least one name. -/
  | emptyPath
  /-- A text that holds both kinds of quotes has no written form. -/
  | bothQuotes (text : String)
  deriving DecidableEq

namespace Expr

mutual

/-- Structural equality of expressions is decidable. -/
def decEq : (a b : Expr) → Decidable (a = b)
  | path r fs, path s gs =>
    if h : r = s ∧ fs = gs then isTrue (by rw [h.1, h.2])
    else isFalse (fun e => h (by injection e with e₁ e₂; exact ⟨e₁, e₂⟩))
  | call f as, call g bs =>
    match decEqList as bs with
    | isTrue h =>
      if hf : f = g then isTrue (by rw [hf, h])
      else isFalse (fun e => hf (by injection e))
    | isFalse h => isFalse (fun e => h (by injection e))
  | text s, text t =>
    if h : s = t then isTrue (by rw [h]) else isFalse (fun e => h (by injection e))
  | path _ _, call _ _ => isFalse (fun e => by cases e)
  | path _ _, text _ => isFalse (fun e => by cases e)
  | call _ _, path _ _ => isFalse (fun e => by cases e)
  | call _ _, text _ => isFalse (fun e => by cases e)
  | text _, path _ _ => isFalse (fun e => by cases e)
  | text _, call _ _ => isFalse (fun e => by cases e)

/-- Structural equality of argument lists is decidable. -/
def decEqList : (as bs : List Expr) → Decidable (as = bs)
  | [], [] => isTrue rfl
  | a :: as, b :: bs =>
    match decEq a b, decEqList as bs with
    | isTrue h, isTrue hs => isTrue (by rw [h, hs])
    | isFalse h, _ => isFalse (fun e => h (by injection e))
    | _, isFalse h => isFalse (fun e => h (by injection e))
  | [], _ :: _ => isFalse (fun e => by cases e)
  | _ :: _, [] => isFalse (fun e => by cases e)

end

instance : DecidableEq Expr := decEq

/-- The variable with a given path of names. -/
def ofPath : List String → Except ExprError Expr
  | [] => .error .emptyPath
  | root :: fields => .ok (path root fields)

mutual

/-- The number of expressions in an expression, itself included. -/
def size : Expr → Nat
  | call _ args => sizeList args + 1
  | path _ _ | text _ => 1

/-- The number of expressions in a list of arguments. -/
def sizeList : List Expr → Nat
  | [] => 0
  | e :: rest => size e + sizeList rest

end

@[simp] theorem size_path (r : String) (fs : List String) : (path r fs).size = 1 := by
  simp [size]

@[simp] theorem size_text (s : String) : (text s).size = 1 := by simp [size]

@[simp] theorem size_call (f : String) (args : List Expr) :
    (call f args).size = sizeList args + 1 := by simp [size]

@[simp] theorem sizeList_nil : sizeList [] = 0 := by simp [sizeList]

@[simp] theorem sizeList_cons (e : Expr) (rest : List Expr) :
    sizeList (e :: rest) = e.size + sizeList rest := by simp [sizeList]

@[simp] theorem sizeList_append (as bs : List Expr) :
    sizeList (as ++ bs) = sizeList as + sizeList bs := by
  induction as with
  | nil => simp
  | cons a as ih => simp [ih, Nat.add_assoc]

end Expr

end PathTemplates
