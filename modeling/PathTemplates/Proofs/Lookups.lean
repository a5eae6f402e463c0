import PathTemplates.Function.Builtins
import PathTemplates.Proofs.Evaluation
import PathTemplates.Proofs.Expr.Walking

/-! # What an output depends on

A template looks at a context only through the variables that it lists (`Template.roots`): two contexts
that agree on these give the same output, or the same error up to the names that the error says were
bound. The two evaluations are compared by one relation between outcomes (`SameOutcome`), which every
step of the recursive evaluation keeps. -/

namespace PathTemplates

namespace EvalError

/-- Errors of the same evaluation in two contexts: they are the same, except that an error about a
variable lists the variables of its own context. -/
inductive Alike (c c' : Context) : EvalError → EvalError → Prop
  /-- The same error. -/
  | same (e : EvalError) : Alike c c' e e
  /-- A variable that neither context binds. -/
  | unbound (name : String) (chain : List String) (template : Option String) :
      Alike c c' ⟨.undefinedVariable name c.names, chain, template, none⟩
        ⟨.undefinedVariable name c'.names, chain, template, none⟩

variable {c c' : Context} {e e' : EvalError}

/-- Seen from a call around them the errors are still alike. -/
theorem Alike.within (h : Alike c c' e e') (name : String) :
    Alike c c' (e.within name) (e'.within name) := by
  cases h with
  | same e => exact .same _
  | unbound name chain template => exact .unbound _ _ _

/-- With the template they are still alike. -/
theorem Alike.inTemplate (h : Alike c c' e e') (source : String) :
    Alike c c' (e.inTemplate source) (e'.inTemplate source) := by
  cases h with
  | same e => exact .same _
  | unbound name chain template => exact .unbound _ _ _

end EvalError

/-- Outcomes of the same evaluation in two contexts: the same value, errors that are alike, or the same
escape. -/
inductive SameOutcome {α : Type} (c c' : Context) :
    Except (Failure EvalError) α → Except (Failure EvalError) α → Prop
  /-- The same value. -/
  | ok (a : α) : SameOutcome c c' (.ok a) (.ok a)
  /-- Errors that are alike. -/
  | raised {e e' : EvalError} : e.Alike c c' e' →
      SameOutcome c c' (.error (.raised e)) (.error (.raised e'))
  /-- The same escape. -/
  | escaped (x : Escape) : SameOutcome c c' (.error (.escaped x)) (.error (.escaped x))

namespace SameOutcome

variable {α β : Type} {c c' : Context} {x x' : Except (Failure EvalError) α}

/-- An outcome is the same as itself. -/
theorem refl (x : Except (Failure EvalError) α) : SameOutcome c c' x x := by
  rcases x with (e | y) | a
  · exact .raised (.same e)
  · exact .escaped y
  · exact .ok a

/-- A further step that gives the same outcome for the same value. -/
theorem bind (h : SameOutcome c c' x x') {f f' : α → Except (Failure EvalError) β}
    (hf : ∀ a, SameOutcome c c' (f a) (f' a)) : SameOutcome c c' (x >>= f) (x' >>= f') := by
  cases h with
  | ok a => exact hf a
  | raised he => exact .raised he
  | escaped y => exact .escaped y

/-- A function of the values. -/
theorem map (h : SameOutcome c c' x x') (f : α → β) : SameOutcome c c' (x.map f) (x'.map f) := by
  cases h with
  | ok a => exact .ok (f a)
  | raised he => exact .raised he
  | escaped y => exact .escaped y

/-- A function of the errors that keeps them alike. -/
theorem mapError (h : SameOutcome c c' x x') {f : EvalError → EvalError}
    (hf : ∀ {e e' : EvalError}, e.Alike c c' e' → (f e).Alike c c' (f e')) :
    SameOutcome c c' (x.mapError (Failure.map f)) (x'.mapError (Failure.map f)) := by
  cases h with
  | ok a => exact .ok a
  | raised he => exact .raised (hf he)
  | escaped y => exact .escaped y

/-- The same step for every element of a list. -/
theorem mapM {f f' : α → Except (Failure EvalError) β} {xs : List α}
    (h : ∀ a ∈ xs, SameOutcome c c' (f a) (f' a)) :
    SameOutcome c c' (xs.mapM f) (xs.mapM f') := by
  induction xs with
  | nil => exact .ok []
  | cons a xs ih =>
    rw [List.forall_mem_cons] at h
    rw [List.mapM_cons, List.mapM_cons]
    exact h.1.bind fun b => (ih h.2).bind fun bs => .ok (b :: bs)

/-- The same values come out. -/
theorem eq_ok_iff (h : SameOutcome c c' x x') {a : α} : x = .ok a ↔ x' = .ok a := by
  cases h <;> simp

/-- The same escapes come out. -/
theorem eq_escaped_iff (h : SameOutcome c c' x x') {y : Escape} :
    x = .error (.escaped y) ↔ x' = .error (.escaped y) := by
  cases h <;> simp

/-- An error on one side is like one on the other. -/
theorem exists_raised (h : SameOutcome c c' x x') {e : EvalError} (he : x = .error (.raised e)) :
    ∃ e', x' = .error (.raised e') ∧ e.Alike c c' e' := by
  cases h with
  | ok a => cases he
  | escaped y => cases he
  | raised halike =>
    obtain rfl := Failure.raised.inj (Except.error.inj he)
    exact ⟨_, rfl, halike⟩

end SameOutcome

namespace Context

/-- Two contexts bind the variables among given expressions to the same values. -/
def AgreeOn (c c' : Context) (es : List Expr) : Prop :=
  ∀ root fields, .path root fields ∈ es → c.get? root = c'.get? root

variable {c c' : Context} {as bs : List Expr}

/-- Contexts agree on the expressions of two lists exactly if they agree on those of each. -/
theorem agreeOn_append : c.AgreeOn c' (as ++ bs) ↔ c.AgreeOn c' as ∧ c.AgreeOn c' bs := by
  constructor
  · intro h
    exact ⟨fun root fields hmem => h root fields (List.mem_append_left _ hmem),
      fun root fields hmem => h root fields (List.mem_append_right _ hmem)⟩
  · rintro ⟨has, hbs⟩ root fields hmem
    exact (List.mem_append.mp hmem).elim (has root fields) (hbs root fields)

/-- A path leads to the same outcome in contexts that bind its variable to the same value. -/
theorem sameOutcome_resolve {root : String} (h : c.get? root = c'.get? root) (fields : List String) :
    SameOutcome c c' (c.resolve root fields) (c'.resolve root fields) := by
  rw [resolve, resolve, ← h]
  cases c.get? root with
  | some v => exact .refl _
  | none => exact .raised (.unbound root [] none)

end Context

namespace Expr

mutual

/-- An expression has the same outcome in contexts that agree on the variables in it. -/
theorem sameOutcome_value {r : Registry} {c c' : Context} :
    (e : Expr) → c.AgreeOn c' e.subterms → SameOutcome c c' (e.value r c) (e.value r c')
  | text s, _ => by
    rw [value, value]
    exact .ok _
  | path root fields, h => by
    rw [value, value]
    exact Context.sameOutcome_resolve (h root fields (by simp [subterms])) fields
  | call name args, h => by
    have hargs : c.AgreeOn c' (subtermsList args) := fun root fields hmem =>
      h root fields (by simp [subterms, hmem])
    -- the same values reach the function, or the same error leaves the call
    rw [value_call, value_call]
    exact (SameOutcome.refl _).bind fun _ =>
      ((sameOutcome_values args hargs).mapError fun he => he.within name).bind fun _ => .refl _

/-- Arguments have the same outcome in contexts that agree on the variables in them. -/
theorem sameOutcome_values {r : Registry} {c c' : Context} :
    (args : List Expr) → c.AgreeOn c' (subtermsList args) →
      SameOutcome c c' (values r c args) (values r c' args)
  | [], _ => by
    rw [values, values]
    exact .ok _
  | e :: rest, h => by
    rw [subtermsList, Context.agreeOn_append] at h
    rw [values_cons, values_cons]
    exact (sameOutcome_value e h.1).bind fun v => (sameOutcome_values rest h.2).map (v :: ·)

end

end Expr

namespace Template

variable {r : Registry} {c c' : Context}

/-- A part has the same outcome in contexts that agree on the variables in it. -/
theorem sameOutcome_renderNode {n : Node} (h : ∀ e, n = .expr e → c.AgreeOn c' e.subterms) :
    SameOutcome c c' (renderNode r c n) (renderNode r c' n) := by
  cases n with
  | literal s => exact .ok s
  | expr e =>
    rw [renderNode, renderNode, Expr.evaluate_eq_value, Expr.evaluate_eq_value]
    exact (Expr.sameOutcome_value e (h e rfl)).map Value.rendered

/-- A template has the same outcome in contexts that agree on its variables. -/
theorem sameOutcome_render {t : Template} (h : ∀ n ∈ t.roots, c.get? n = c'.get? n) :
    SameOutcome c c' (t.render r c) (t.render r c') := by
  have hnodes : ∀ n ∈ t.nodes, SameOutcome c c' (renderNode r c n) (renderNode r c' n) := by
    rintro n hn
    refine sameOutcome_renderNode ?_
    rintro e rfl root fields hmem
    exact h root (mem_roots.mpr ⟨e, fields, hn, hmem⟩)
  rw [render_eq_renderNodes, render_eq_renderNodes]
  exact ((SameOutcome.mapM hnodes).map String.join).mapError fun he => he.inTemplate t.source

/-- Two contexts that agree on the variables of a template give the same output, errors of the same kind
with the same calls around the place and the same template, or the same escape; the errors differ at most
in the variables that they list as bound when one is not. -/
theorem render_depends_on_roots (r : Registry) (t : Template) {c c' : Context}
    (h : ∀ n ∈ t.roots, c.get? n = c'.get? n) :
    (∀ out, t.render r c = .ok out ↔ t.render r c' = .ok out) ∧
    (∀ x, t.render r c = .error (.escaped x) ↔ t.render r c' = .error (.escaped x)) ∧
    ∀ e, t.render r c = .error (.raised e) → ∃ e', t.render r c' = .error (.raised e') ∧
      e'.kind = e.kind ∧ e'.cause.kind = e.cause.kind ∧ e'.chain = e.chain ∧
      e'.template = e.template ∧
      (e'.cause = e.cause ∨ ∃ name, e.cause = .undefinedVariable name c.names ∧
        e'.cause = .undefinedVariable name c'.names) := by
  have hsame : SameOutcome c c' (t.render r c) (t.render r c') := sameOutcome_render h
  refine ⟨fun out => hsame.eq_ok_iff, fun x => hsame.eq_escaped_iff, fun e he => ?_⟩
  obtain ⟨e', he', halike⟩ := hsame.exists_raised he
  refine ⟨e', he', ?_⟩
  cases halike with
  | same => exact ⟨rfl, rfl, rfl, rfl, .inl rfl⟩
  | unbound name chain template => exact ⟨rfl, rfl, rfl, rfl, .inr ⟨name, rfl, rfl⟩⟩

/-- A variable that is not bound is missing inside the same call in either context, also where one of
them binds a variable that the template does not name. -/
theorem render_depends_on_roots_unbound :
    let t : Template := ⟨[.expr (.call "concat" [.path "x" [], .path "y" []])], "s"⟩
    let c : Context := ⟨.ofList [("x", .text "1"), ("z", .text "2")]⟩
    let c' : Context := ⟨.ofList [("x", .text "1")]⟩
    ∃ e', render t Builtin.registry c =
        .error (.raised ⟨.undefinedVariable "y" ["x", "z"], ["concat"], some "s", none⟩) ∧
      render t Builtin.registry c' = .error (.raised e') ∧ e'.chain = ["concat"] := by
  intro t c c'
  have hroots : t.roots = ["x", "y"] := by cbv
  have hx : c.get? "x" = some (.text "1") := rfl
  have hy : c.get? "y" = none := rfl
  have hagree : ∀ n ∈ t.roots, c.get? n = c'.get? n := by
    rw [hroots, List.forall_mem_cons, List.forall_mem_singleton]
    exact ⟨hx, hy⟩
  have herror : render t Builtin.registry c =
      .error (.raised ⟨.undefinedVariable "y" ["x", "z"], ["concat"], some "s", none⟩) := by
    obtain ⟨entry, hget⟩ : ∃ entry, Builtin.registry.get "concat" = .ok entry := ⟨_, rfl⟩
    have hnames : c.names = ["x", "z"] := List.mergeSort_of_pairwise (by decide)
    simp [t, render_eq_renderNodes, renderNodes_cons, renderNode, Expr.evaluate_eq_value, Expr.value,
      Expr.values_cons, hget, Context.resolve, hx, hy, followFields, hnames, Failure.of, EvalError.of,
      EvalError.within, EvalError.inTemplate]
  obtain ⟨e', he', -, -, hchain, -⟩ := (render_depends_on_roots Builtin.registry _ hagree).2.2 _ herror
  exact ⟨e', herror, he', hchain⟩

end Template

end PathTemplates
