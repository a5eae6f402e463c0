import PathTemplates.Expr.Walk
import PathTemplates.Template.Basic

/-! # The order of visiting

The walk with its list of pending expressions visits an expression and everything inside it in the order
of `subterms`, each call before its arguments and these from left to right (`walk_eq_subterms`). The
names that a walk collects are those that occur, and searching them finds what occurs first. -/

namespace PathTemplates

/-- Of equal elements only the first one can be the first with a property. -/
theorem find?_eraseDups {α : Type} [BEq α] [LawfulBEq α] (p : α → Bool) :
    (xs : List α) → xs.eraseDups.find? p = xs.find? p
  | [] => rfl
  | x :: xs => by
    rw [List.eraseDups_cons, List.find?_cons, List.find?_cons, find?_eraseDups]
    cases hx : p x with
    | true => rfl
    | false =>
      -- the elements that are taken out are equal to one without the property
      have hp : (fun y => decide ((!y == x) = true ∧ p y = true)) = p := by
        funext y
        by_cases hy : y = x <;> simp [hy, hx]
      rw [List.find?_filter, hp]
  termination_by xs => xs.length
  decreasing_by exact Nat.lt_succ_of_le (List.length_filter_le _ _)

namespace Expr

/-- The arguments of two lists one after another. -/
theorem subtermsList_append (as bs : List Expr) :
    subtermsList (as ++ bs) = subtermsList as ++ subtermsList bs := by
  induction as with
  | nil => rw [List.nil_append, subtermsList, List.nil_append]
  | cons a as ih => rw [List.cons_append, subtermsList, subtermsList, ih, List.append_assoc]

/-- An expression comes before everything inside its arguments. -/
theorem subterms_eq (e : Expr) : e.subterms = e :: subtermsList e.children := by
  cases e <;> simp [subterms, children, subtermsList]

@[simp] theorem subterms_path (root : String) (fields : List String) :
    (path root fields).subterms = [path root fields] := by simp [subterms]

@[simp] theorem subterms_text (s : String) : (text s).subterms = [text s] := by simp [subterms]

/-- The walk visits everything inside the pending expressions in order. -/
theorem walkFrom_eq_subtermsList (pending : List Expr) : walkFrom pending = subtermsList pending := by
  fun_induction walkFrom pending with
  | case1 => rw [subtermsList]
  | case2 e pending ih =>
    rw [ih, subtermsList_append, subtermsList, subterms_eq, List.cons_append]

/-- The walk visits an expression and everything inside it in order. -/
theorem walk_eq_subterms (e : Expr) : e.walk = e.subterms := by
  rw [walk, walkFrom_eq_subtermsList, subtermsList, subtermsList, List.append_nil]

/-- The variable that an expression looks up, if it is a path. -/
def root? : Expr → Option String
  | path root _ => some root
  | call _ _ | text _ => none

/-- The collected variables are those that the paths start with, each once. -/
theorem rootsOf_eq (es : List Expr) : rootsOf es = (es.filterMap root?).eraseDups := by
  rw [rootsOf]
  congr 2
  funext e
  cases e <;> rfl

/-- The collected variables are those that occur. -/
theorem mem_rootsOf {root : String} {es : List Expr} :
    root ∈ rootsOf es ↔ ∃ fields, path root fields ∈ es := by
  rw [rootsOf_eq, List.mem_eraseDups, List.mem_filterMap]
  constructor
  · rintro ⟨e, he, heq⟩
    cases e <;> simp only [root?, Option.some.injEq, reduceCtorEq] at heq
    exact ⟨_, heq ▸ he⟩
  · rintro ⟨fields, hmem⟩
    exact ⟨_, hmem, rfl⟩

/-- The function that an expression calls, if it is a call. -/
def callee? : Expr → Option String
  | call name _ => some name
  | path _ _ | text _ => none

/-- The collected functions are those that the calls name, each once. -/
theorem calleesOf_eq (es : List Expr) : calleesOf es = (es.filterMap callee?).eraseDups := by
  rw [calleesOf]
  congr 2
  funext e
  cases e <;> rfl

/-- The collected functions are those that are called. -/
theorem mem_calleesOf {name : String} {es : List Expr} :
    name ∈ calleesOf es ↔ ∃ args, call name args ∈ es := by
  rw [calleesOf_eq, List.mem_eraseDups, List.mem_filterMap]
  constructor
  · rintro ⟨e, he, heq⟩
    cases e <;> simp only [callee?, Option.some.injEq, reduceCtorEq] at heq
    exact ⟨_, heq ▸ he⟩
  · rintro ⟨args, hmem⟩
    exact ⟨_, hmem, rfl⟩

end Expr

namespace Template

/-- The expressions of a template come one after another, each with everything inside it. -/
theorem expressions_expr_cons (e : Expr) (ns : List Node) (source : String) :
    expressions ⟨.expr e :: ns, source⟩ = e.subterms ++ expressions ⟨ns, source⟩ := by
  rw [← e.walk_eq_subterms]
  rfl

/-- A template is visited expression by expression, each with everything inside it. -/
theorem mem_expressions {x : Expr} {t : Template} :
    x ∈ t.expressions ↔ ∃ e, .expr e ∈ t.nodes ∧ x ∈ e.subterms := by
  rw [expressions, List.mem_flatMap]
  constructor
  · rintro ⟨n, hn, hx⟩
    cases n with
    | literal s => simp at hx
    | expr e => exact ⟨e, hn, e.walk_eq_subterms ▸ hx⟩
  · rintro ⟨e, he, hx⟩
    exact ⟨.expr e, he, show x ∈ e.walk from e.walk_eq_subterms.symm ▸ hx⟩

/-- The variables of a template are those that occur anywhere in it. -/
theorem mem_roots {root : String} {t : Template} :
    root ∈ t.roots ↔ ∃ e fields, .expr e ∈ t.nodes ∧ .path root fields ∈ e.subterms := by
  simp only [roots, Expr.mem_rootsOf, mem_expressions]
  exact exists_comm

/-- The functions of a template are those that are called anywhere in it. -/
theorem mem_callees {name : String} {t : Template} :
    name ∈ t.callees ↔ ∃ e args, .expr e ∈ t.nodes ∧ .call name args ∈ e.subterms := by
  simp only [callees, Expr.mem_calleesOf, mem_expressions]
  exact exists_comm

end Template

end PathTemplates
