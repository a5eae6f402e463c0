import Mathlib.Logic.ExistsUnique
import PathTemplates.Expr.Parser
import PathTemplates.Proofs.Expr.Grammar
import PathTemplates.Proofs.Outcome

/-! # The parser and the grammar

The parser accepts exactly what the grammar derives and builds the tree of the derivation.

* `ParserState.Reads` is the invariant of a run: what has been read so far is made of the open
  calls, each with its finished arguments, and of what the focus stands for. Every step keeps it, so
  an accepting run ends in a derivation.
* In the other direction a derivation leads the parser from any place where an expression may start
  to the same open calls with the expression finished. -/

namespace PathTemplates

namespace ParserState

/-! ## Runs over tokens -/

/-- The state after some tokens, if each of them may stand where it does. -/
def steps? (s : ParserState) (ts : List Token) : Option ParserState := ts.foldlM step? s

@[simp] theorem steps?_nil (s : ParserState) : s.steps? [] = some s := rfl

@[simp] theorem steps?_cons (s : ParserState) (t : Token) (ts : List Token) :
    s.steps? (t :: ts) = (s.step? t).bind (·.steps? ts) := rfl

theorem steps?_append (s : ParserState) (ts us : List Token) :
    s.steps? (ts ++ us) = (s.steps? ts).bind (·.steps? us) := by
  simp only [steps?, List.foldlM_append, Option.bind_eq_bind]

/-- The text may end with a finished expression outside all calls, and in no other state. -/
theorem finish_eq_ok_iff {s : ParserState} {n : Nat} {e : Expr} :
    s.finish n = .ok e ↔ s.calls = [] ∧ s.focus.settle = .complete e := by
  obtain ⟨calls, focus⟩ := s
  rw [finish]
  split
  · rename_i f hcalls hfocus
    simp_all [settle]
  · simp_all [settle]
  · rename_i h
    simp only [reduceCtorEq, false_iff, not_and]
    rintro rfl hfocus
    exact h e rfl hfocus

/-- A run succeeds if every token may stand where it does and the text may end after them. -/
theorem run_eq_ok_iff {s : ParserState} {stuck : Option (Nat × Char)} {n : Nat}
    {ts : List PlacedToken} {e : Expr} :
    s.run stuck n ts = .ok e ↔ stuck = none ∧
      ∃ last, s.steps? (ts.map (·.token)) = some last ∧ last.calls = [] ∧
        last.focus.settle = .complete e := by
  induction ts generalizing s with
  | nil =>
    cases stuck with
    | none => simp [run, finish_eq_ok_iff]
    | some place => simp [run]
  | cons t ts ih =>
    cases hstep : s.step? t.token with
    | none => simp [run, hstep]
    | some next => simp [run, hstep, ih]

/-! ## Soundness -/

/-- The finished arguments of an open call, the last one first, each with the comma after it. -/
inductive Preceding : List Expr → List Token → Prop
  /-- No finished arguments. -/
  | nil : Preceding [] []
  /-- One more argument and its comma. -/
  | snoc {done : List Expr} {us ts : List Token} {e : Expr} :
      Preceding done us → Grammar.Argument ts e → Preceding (e :: done) (us ++ (ts ++ [.comma]))

/-- The tokens of the open calls, innermost first, up to the argument that is being read. -/
inductive Pending : List OpenCall → List Token → Prop
  /-- No open calls. -/
  | nil : Pending [] []
  /-- One more open call inside the others. -/
  | cons {outer : List OpenCall} {us vs : List Token} {name : List Char} {done : List Expr} :
      Pending outer us → Preceding done vs →
      Pending (⟨String.ofList name, done⟩ :: outer) (us ++ .identifier name :: .opening :: vs)

/-- The tokens that a focus stands for, inside given open calls. -/
inductive Focused : List OpenCall → Focus → List Token → Prop
  /-- Nothing has been read. -/
  | start : Focused [] .start []
  /-- A call has just been opened. -/
  | opened {name : String} {outer : List OpenCall} : Focused (⟨name, []⟩ :: outer) .opened []
  /-- An argument has just been finished by a comma. -/
  | separated {call : OpenCall} {outer : List OpenCall} : Focused (call :: outer) .separated []
  /-- A name. -/
  | name {calls : List OpenCall} {n : List Char} :
      Focused calls (.name (String.ofList n)) [.identifier n]
  /-- A path and a dot. -/
  | dotted {calls : List OpenCall} {root : List Char} {fields : List String} {ts : List Token} :
      Grammar.Fields ts fields.reverse →
      Focused calls (.dotted (String.ofList root) fields) (.identifier root :: (ts ++ [.dot]))
  /-- A path. -/
  | path {calls : List OpenCall} {root : List Char} {fields : List String} {ts : List Token} :
      Grammar.Fields ts fields.reverse →
      Focused calls (.path (String.ofList root) fields) (.identifier root :: ts)
  /-- A finished expression. -/
  | expression {calls : List OpenCall} {ts : List Token} {e : Expr} :
      Grammar.Expression ts e → Focused calls (.complete e) ts
  /-- A quoted text, which must be an argument. -/
  | string {call : OpenCall} {outer : List OpenCall} {mark : QuoteMark} {text : List Char} :
      Focused (call :: outer) (.complete (.text (String.ofList text))) [.quoted mark text]

/-- The tokens that lead to a state. -/
inductive Reads : ParserState → List Token → Prop
  /-- Those of the open calls and those of the focus. -/
  | mk {calls : List OpenCall} {focus : Focus} {us vs : List Token} :
      Pending calls us → Focused calls focus vs → Reads ⟨calls, focus⟩ (us ++ vs)

/-- A finished name or path stands for the same tokens. -/
theorem Focused.settle {calls : List OpenCall} {f : Focus} {ts : List Token}
    (h : Focused calls f ts) : Focused calls f.settle ts := by
  cases h with
  | name => exact .expression (.variable .nil)
  | path hfields => exact .expression (.variable hfields)
  | start => exact .start
  | opened => exact .opened
  | separated => exact .separated
  | dotted hfields => exact .dotted hfields
  | expression he => exact .expression he
  | string => exact .string

/-- What is finished inside a call is an argument. -/
theorem Focused.argument {calls : List OpenCall} {e : Expr} {ts : List Token}
    (h : Focused calls (.complete e) ts) : Grammar.Argument ts e := by
  cases h with
  | expression he => exact .expression he
  | string => exact .string

/-- What is finished outside all calls is an expression. -/
theorem Focused.outermost {e : Expr} {ts : List Token} (h : Focused [] (.complete e) ts) :
    Grammar.Expression ts e := by
  cases h with
  | expression he => exact he

/-- The finished arguments, one that follows them and further ones are the arguments of a call. -/
theorem Preceding.arguments {done : List Expr} {us ts vs : List Token} {e : Expr} {es : List Expr}
    (h : Preceding done us) (he : Grammar.Argument ts e) (hes : Grammar.MoreArguments vs es) :
    Grammar.Arguments (us ++ (ts ++ vs)) (done.reverse ++ e :: es) := by
  induction h generalizing ts e vs es with
  | nil => simpa using Grammar.Arguments.some he hes
  | snoc hdone hd ih => simpa using ih hd (.cons he hes)

/-- A comma adds the argument before it to the finished ones of the innermost call. -/
theorem Pending.separate {call : OpenCall} {outer : List OpenCall} {us ts : List Token} {e : Expr}
    (h : Pending (call :: outer) us) (he : Grammar.Argument ts e) :
    Pending (⟨call.name, e :: call.args⟩ :: outer) (us ++ (ts ++ [.comma])) := by
  cases h with
  | @cons _ us ds name done houter hdone =>
    have hnext : Pending (⟨String.ofList name, e :: done⟩ :: outer)
        (us ++ .identifier name :: .opening :: (ds ++ (ts ++ [.comma]))) :=
      .cons houter (.snoc hdone he)
    simpa using hnext

/-- A closing parenthesis finishes the innermost call, once all of its arguments are finished. -/
theorem Pending.close {call : OpenCall} {outer : List OpenCall} {us ts : List Token}
    {args : List Expr} (h : Pending (call :: outer) us)
    (hargs : ∀ ds, Preceding call.args ds → Grammar.Arguments (ds ++ ts) args) :
    ∃ vs ws, us ++ (ts ++ [.closing]) = vs ++ ws ∧ Pending outer vs ∧
      Grammar.Expression ws (.call call.name args) := by
  cases h with
  | @cons _ us ds name done houter hdone =>
    exact ⟨us, .identifier name :: .opening :: (ds ++ ts ++ [.closing]), by simp, houter,
      .call (hargs ds hdone)⟩

/-- A closing parenthesis finishes the argument before it and the innermost call. -/
theorem Reads.closing {s s' : ParserState} {ts : List Token} (h : Reads s ts)
    (hstep : s.step? .closing = some s') : Reads s' (ts ++ [.closing]) := by
  obtain @⟨calls, focus, us, vs, hcalls, hfocus⟩ := h
  have hsettled := hfocus.settle
  rw [List.append_assoc]
  simp only [step?] at hstep
  split at hstep
  · rename_i call outer hfinished
    rw [hfinished] at hsettled
    obtain rfl := Option.some.inj hstep
    cases hsettled
    -- a call that was just opened has no arguments at all
    have hargs (ds : List Token) (hds : Preceding [] ds) : Grammar.Arguments (ds ++ []) [] := by
      cases hds
      exact .none
    obtain ⟨vs, ws, heq, houter, hcall⟩ := hcalls.close hargs
    rw [heq]
    exact .mk houter (.expression hcall)
  · rename_i e call outer hfinished
    rw [hfinished] at hsettled
    obtain rfl := Option.some.inj hstep
    have hargs (ds : List Token) (hds : Preceding call.args ds) :
        Grammar.Arguments (ds ++ vs) (e :: call.args).reverse := by
      simpa using hds.arguments hsettled.argument .nil
    obtain ⟨vs, ws, heq, houter, hcall⟩ := hcalls.close hargs
    rw [heq]
    exact .mk houter (.expression hcall)
  · simp at hstep

/-- A comma finishes the argument before it. -/
theorem Reads.comma {s s' : ParserState} {ts : List Token} (h : Reads s ts)
    (hstep : s.step? .comma = some s') : Reads s' (ts ++ [.comma]) := by
  obtain @⟨calls, focus, us, vs, hcalls, hfocus⟩ := h
  have hsettled := hfocus.settle
  rw [List.append_assoc]
  simp only [step?] at hstep
  split at hstep
  · rename_i e call outer hfinished
    rw [hfinished] at hsettled
    obtain rfl := Option.some.inj hstep
    simpa using Reads.mk (hcalls.separate hsettled.argument) .separated
  · simp at hstep

/-- A step adds its token to what has been read. -/
theorem Reads.step {s s' : ParserState} {t : Token} {ts : List Token} (h : Reads s ts)
    (hstep : s.step? t = some s') : Reads s' (ts ++ [t]) := by
  cases t with
  | closing => exact h.closing hstep
  | comma => exact h.comma hstep
  | identifier n =>
    obtain @⟨calls, focus, us, vs, hcalls, hfocus⟩ := h
    rw [List.append_assoc]
    cases hfocus <;> simp only [step?, Option.some.injEq, reduceCtorEq] at hstep <;> subst hstep
    case start => exact .mk hcalls .name
    case opened => exact .mk hcalls .name
    case separated => exact .mk hcalls .name
    case dotted hfields =>
      -- the field after a dot goes on with the path
      refine .mk hcalls ?_
      simpa using Focused.path (by simpa using hfields.snoc n)
  | quoted mark text =>
    obtain @⟨calls, focus, us, vs, hcalls, hfocus⟩ := h
    rw [List.append_assoc]
    cases hfocus <;> simp only [step?, Option.some.injEq, reduceCtorEq] at hstep <;> subst hstep
    case opened => exact .mk hcalls .string
    case separated => exact .mk hcalls .string
  | dot =>
    obtain @⟨calls, focus, us, vs, hcalls, hfocus⟩ := h
    rw [List.append_assoc]
    cases hfocus <;> simp only [step?, Option.some.injEq, reduceCtorEq] at hstep <;> subst hstep
    case name => exact .mk hcalls (.dotted .nil)
    case path hfields => exact .mk hcalls (.dotted hfields)
  | opening =>
    obtain @⟨calls, focus, us, vs, hcalls, hfocus⟩ := h
    rw [List.append_assoc]
    cases hfocus <;> simp only [step?, Option.some.injEq, reduceCtorEq] at hstep
    case name n =>
      subst hstep
      -- the name before the parenthesis turns out to be that of a call
      have hinner : Pending (⟨String.ofList n, []⟩ :: calls) (us ++ [.identifier n, .opening]) :=
        .cons hcalls .nil
      simpa using Reads.mk hinner .opened

/-- A run adds its tokens to what has been read. -/
theorem Reads.steps {s s' : ParserState} {ts us : List Token} (h : Reads s ts)
    (hsteps : s.steps? us = some s') : Reads s' (ts ++ us) := by
  induction us generalizing s ts with
  | nil =>
    obtain rfl := Option.some.inj hsteps
    simpa using h
  | cons t us ih =>
    rw [steps?_cons, Option.bind_eq_some_iff] at hsteps
    obtain ⟨next, hstep, hrest⟩ := hsteps
    simpa using ih (h.step hstep) hrest

/-- Before the first token nothing has been read. -/
theorem reads_initial : Reads initial [] := Reads.mk .nil .start

/-- What has been read outside all calls is an expression once it is finished. -/
theorem Reads.expression {focus : Focus} {ts : List Token} {e : Expr} (h : Reads ⟨[], focus⟩ ts)
    (he : focus.settle = .complete e) : Grammar.Expression ts e := by
  obtain @⟨_, _, us, vs, hcalls, hfocus⟩ := h
  cases hcalls
  have hsettled := hfocus.settle
  rw [he] at hsettled
  simpa using hsettled.outermost

/-- An accepting run from the start has read an expression. -/
theorem expression_of_steps? {focus : Focus} {ts : List Token} {e : Expr}
    (h : initial.steps? ts = some ⟨[], focus⟩) (he : focus.settle = .complete e) :
    Grammar.Expression ts e := by
  have hreads : Reads ⟨[], focus⟩ ts := by simpa using reads_initial.steps h
  exact hreads.expression he

/-! ## Completeness -/

/-- The tokens of further fields continue a path. -/
theorem steps?_fields {ts : List Token} {names : List String} (h : Grammar.Fields ts names)
    (calls : List OpenCall) (root : String) (fields : List String) {f : Focus}
    (hf : f = .name root ∧ fields = [] ∨ f = .path root fields) :
    ∃ f', steps? ⟨calls, f⟩ ts = some ⟨calls, f'⟩ ∧
      f'.settle = .complete (.path root (fields.reverse ++ names)) := by
  induction h generalizing fields f with
  | nil =>
    refine ⟨f, rfl, ?_⟩
    rcases hf with ⟨rfl, rfl⟩ | rfl <;> simp [Focus.settle]
  | @cons name ts names _ ih =>
    -- a dot goes on with a name and with a path in the same way
    have hdot : step? ⟨calls, f⟩ .dot = some ⟨calls, .dotted root fields⟩ := by
      rcases hf with ⟨rfl, rfl⟩ | rfl <;> rfl
    obtain ⟨f', hsteps, hf'⟩ := ih (String.ofList name :: fields) (.inr rfl)
    refine ⟨f', ?_, by simpa using hf'⟩
    rw [steps?_cons, hdot]
    exact hsteps

/-- A name may stand wherever an expression may start. -/
theorem step?_identifier (calls : List OpenCall) (name : List Char) {f : Focus}
    (hf : f = .start ∨ f = .opened ∨ f = .separated) :
    step? ⟨calls, f⟩ (.identifier name) = some ⟨calls, .name (String.ofList name)⟩ := by
  rcases hf with rfl | rfl | rfl <;> rfl

/-- A comma finishes the argument before it. -/
theorem step?_comma (call : OpenCall) (outer : List OpenCall) {f : Focus} {e : Expr}
    (hf : f.settle = .complete e) :
    step? ⟨call :: outer, f⟩ .comma = some ⟨⟨call.name, e :: call.args⟩ :: outer, .separated⟩ := by
  simp only [step?, hf]

/-- A closing parenthesis finishes the argument before it and the innermost call. -/
theorem step?_closing (call : OpenCall) (outer : List OpenCall) {f : Focus} {e : Expr}
    (hf : f.settle = .complete e) :
    step? ⟨call :: outer, f⟩ .closing =
      some ⟨outer, .complete (.call call.name (e :: call.args).reverse)⟩ := by
  simp only [step?, hf]

-- The four statements follow the constructors of the grammar, so they are proved by one recursion
-- on derivations.
mutual

/-- The tokens of an expression finish it, wherever one may start. -/
theorem steps?_expression {ts : List Token} {e : Expr} (h : Grammar.Expression ts e)
    (calls : List OpenCall) {f : Focus} (hf : f = .start ∨ f = .opened ∨ f = .separated) :
    ∃ f', steps? ⟨calls, f⟩ ts = some ⟨calls, f'⟩ ∧ f'.settle = .complete e :=
  match h with
  | @Grammar.Expression.variable root _ _ hfields => by
    rw [steps?_cons, step?_identifier calls root hf]
    exact steps?_fields hfields calls (String.ofList root) [] (.inl ⟨rfl, rfl⟩)
  | @Grammar.Expression.call name _ args hargs => by
    refine ⟨.complete (.call (String.ofList name) args), ?_, rfl⟩
    rw [steps?_cons, step?_identifier calls name hf]
    exact steps?_arguments hargs (String.ofList name) calls

/-- The tokens of an argument finish it, wherever one may start. -/
theorem steps?_argument {ts : List Token} {e : Expr} (h : Grammar.Argument ts e)
    (calls : List OpenCall) {f : Focus} (hf : f = .opened ∨ f = .separated) :
    ∃ f', steps? ⟨calls, f⟩ ts = some ⟨calls, f'⟩ ∧ f'.settle = .complete e :=
  match h with
  | .expression he => steps?_expression he calls (.inr hf)
  | .string => by
    rcases hf with rfl | rfl <;> exact ⟨_, rfl, rfl⟩

/-- The tokens of arguments and a closing parenthesis finish a call that has just been opened. -/
theorem steps?_arguments {ts : List Token} {args : List Expr} (h : Grammar.Arguments ts args)
    (name : String) (outer : List OpenCall) :
    steps? ⟨⟨name, []⟩ :: outer, .opened⟩ (ts ++ [.closing]) =
      some ⟨outer, .complete (.call name args)⟩ :=
  match h with
  | .none => rfl
  | .some he hes => by
    obtain ⟨f', hsteps, hf'⟩ := steps?_argument he (⟨name, []⟩ :: outer) (.inl rfl)
    rw [List.append_assoc, steps?_append, hsteps]
    exact steps?_moreArguments hes ⟨name, []⟩ outer hf'

/-- The tokens of further arguments and a closing parenthesis finish a call. -/
theorem steps?_moreArguments {ts : List Token} {es : List Expr} (h : Grammar.MoreArguments ts es)
    (call : OpenCall) (outer : List OpenCall) {f : Focus} {e : Expr}
    (hf : f.settle = .complete e) :
    steps? ⟨call :: outer, f⟩ (ts ++ [.closing]) =
      some ⟨outer, .complete (.call call.name (call.args.reverse ++ e :: es))⟩ :=
  match h with
  | .nil => by
    rw [List.nil_append, steps?_cons, step?_closing call outer hf]
    simp
  | .cons hd hes => by
    obtain ⟨f', hsteps, hf'⟩ :=
      steps?_argument hd (⟨call.name, e :: call.args⟩ :: outer) (.inr rfl)
    have hmore := steps?_moreArguments hes ⟨call.name, e :: call.args⟩ outer hf'
    rw [List.cons_append, steps?_cons, step?_comma call outer hf, Option.bind_some,
      List.append_assoc, steps?_append, hsteps, Option.bind_some, hmore]
    simp

end

end ParserState

/-! ## The parser -/

namespace Expr

/-- Parsing the inside of an expression gives a tree exactly if the grammar derives it. -/
theorem ofChars_eq_ok_iff {cs : List Char} {e : Expr} : ofChars cs = .ok e ↔ Interior cs e := by
  simp only [ofChars, mapError_eq_ok_iff, ParserState.run_eq_ok_iff, Interior]
  constructor
  -- the invariant turns an accepting run into a derivation
  · rintro ⟨hstuck, ⟨calls, focus⟩, hsteps, rfl, he⟩
    exact ⟨_, Scan.lexes_iff_scan.mpr ⟨hstuck, rfl⟩, ParserState.expression_of_steps? hsteps he⟩
  -- a derivation leads the parser through its tokens
  · rintro ⟨ts, hlexes, hexpr⟩
    obtain ⟨hstuck, rfl⟩ := Scan.lexes_iff_scan.mp hlexes
    obtain ⟨f, hsteps, hf⟩ := ParserState.steps?_expression hexpr [] (.inl rfl)
    exact ⟨hstuck, ⟨[], f⟩, hsteps, rfl, hf⟩

/-- The parser accepts exactly the grammar and builds its tree: a text that is the inside of an
expression has exactly one tree and parsing returns it, and parsing any other text fails. -/
theorem ofChars_decides_grammar (cs : List Char) :
    (∀ e, ofChars cs = .ok e ↔ Interior cs e) ∧
      ((∃! e, Interior cs e) ∨
        (¬ ∃ e, Interior cs e) ∧ ∃ error, ofChars cs = .error error) := by
  refine ⟨fun e => ofChars_eq_ok_iff, ?_⟩
  cases h : ofChars cs with
  | ok e =>
    left
    refine ⟨e, ofChars_eq_ok_iff.mp h, fun d hd => ?_⟩
    have hok := ofChars_eq_ok_iff.mpr hd
    rw [h] at hok
    exact (Except.ok.inj hok).symm
  | error error =>
    right
    refine ⟨?_, error, rfl⟩
    rintro ⟨e, he⟩
    have hok := ofChars_eq_ok_iff.mpr he
    rw [h] at hok
    cases hok

end Expr

end PathTemplates
