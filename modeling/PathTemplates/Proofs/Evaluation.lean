import PathTemplates.Eval
import PathTemplates.Proofs.Function.Calling

/-! # What expressions evaluate to

The rules by which expressions evaluate, to values and to failures (`Evaluates`), and that the evaluator
with its list of open calls follows them. An error is seen from the calls around its place, and what
escapes from a function passes through them all. The list is taken apart by one invariant: running a call
inside others gives what the callers make of the outcome of that call (`run_eq_resume`). -/

namespace PathTemplates

namespace EvalError

/-- An error that reports that the call of a function itself failed: one about this function, with no
calls around the place. -/
inductive Reports (name : String) : EvalError → Prop
  /-- The function was called with a wrong number of arguments. -/
  | arityMismatch {expected : String} {got : Int} {template ownKind : Option String} :
      Reports name ⟨.arityMismatch name expected got, [], template, ownKind⟩
  /-- The function was called with an argument of the wrong kind. -/
  | argumentType {index : Int} {expected got : String} {template ownKind : Option String} :
      Reports name ⟨.argumentType name index expected got, [], template, ownKind⟩
  /-- The function failed for a reason of its own. -/
  | callFailed {reason : String} {template ownKind : Option String} :
      Reports name ⟨.callFailed name reason, [], template, ownKind⟩

/-- The test for the errors that report a failed call. -/
theorem reportsCall_iff {e : EvalError} {name : String} : e.reportsCall name ↔ e.Reports name := by
  obtain ⟨cause, chain, template, ownKind⟩ := e
  constructor
  · intro h
    rw [reportsCall, Bool.and_eq_true, List.isEmpty_iff, beq_iff_eq] at h
    obtain ⟨rfl, hcause⟩ := h
    cases cause <;> simp only [EvalCause.failedCall?, Option.some.injEq, reduceCtorEq] at hcause
    · rw [hcause]
      exact .arityMismatch
    · rw [hcause]
      exact .argumentType
    · rw [hcause]
      exact .callFailed
  · rintro ⟨⟩ <;> simp [reportsCall, EvalCause.failedCall?]

end EvalError

/-! ## The rules -/

mutual

/-- The rules for an expression. -/
inductive Evaluates (r : Registry) (c : Context) : Expr → Except (Failure EvalError) Value → Prop
  /-- A quoted text is its own value. -/
  | text {s : String} : Evaluates r c (.text s) (.ok (.text s))
  /-- A variable has the value that its path leads to. -/
  | path {root : String} {fields : List String} :
      Evaluates r c (.path root fields) (c.resolve root fields)
  /-- A call of an unknown function fails before its arguments are evaluated. -/
  | unknown {name : String} {args : List Expr} : r.find? name = none →
      Evaluates r c (.call name args) (.error (.of (.unknownFunction name r.names)))
  /-- A call fails with the error of its arguments, inside the call. -/
  | argument {name : String} {args : List Expr} {e : EvalError} : (r.find? name).isSome →
      EvaluatesAll r c args (.error (.raised e)) →
      Evaluates r c (.call name args) (.error (.raised { e with chain := name :: e.chain }))
  /-- What escapes from the arguments of a call escapes from the call. -/
  | argumentEscaped {name : String} {args : List Expr} {x : Escape} : (r.find? name).isSome →
      EvaluatesAll r c args (.error (.escaped x)) →
      Evaluates r c (.call name args) (.error (.escaped x))
  /-- A call has the value that the function returns for the values of its arguments. -/
  | returned {name : String} {args : List Expr} {vs : List Value} {v : Value} :
      (r.find? name).isSome → EvaluatesAll r c args (.ok vs) → r.invoke name vs = .ok v →
      Evaluates r c (.call name args) (.ok v)
  /-- A failure of the call itself stays as it is. -/
  | reported {name : String} {args : List Expr} {vs : List Value} {e : EvalError} :
      (r.find? name).isSome → EvaluatesAll r c args (.ok vs) → r.invoke name vs = .error (.raised e) →
      e.Reports name → Evaluates r c (.call name args) (.error (.raised e))
  /-- Any other error of a function is one inside the call. -/
  | inside {name : String} {args : List Expr} {vs : List Value} {e : EvalError} :
      (r.find? name).isSome → EvaluatesAll r c args (.ok vs) → r.invoke name vs = .error (.raised e) →
      ¬ e.Reports name →
      Evaluates r c (.call name args) (.error (.raised { e with chain := name :: e.chain }))
  /-- What escapes from a function escapes from its call. -/
  | escaped {name : String} {args : List Expr} {vs : List Value} {x : Escape} :
      (r.find? name).isSome → EvaluatesAll r c args (.ok vs) → r.invoke name vs = .error (.escaped x) →
      Evaluates r c (.call name args) (.error (.escaped x))

/-- The rules for arguments, from left to right. -/
inductive EvaluatesAll (r : Registry) (c : Context) :
    List Expr → Except (Failure EvalError) (List Value) → Prop
  /-- No arguments have no values. -/
  | nil : EvaluatesAll r c [] (.ok [])
  /-- The first argument that fails decides the failure: none after it is evaluated. -/
  | failed {e : Expr} {rest : List Expr} {f : Failure EvalError} : Evaluates r c e (.error f) →
      EvaluatesAll r c (e :: rest) (.error f)
  /-- After a value come the outcomes of the other arguments. -/
  | cons {e : Expr} {rest : List Expr} {v : Value} {res : Except (Failure EvalError) (List Value)} :
      Evaluates r c e (.ok v) → EvaluatesAll r c rest res →
      EvaluatesAll r c (e :: rest) (res.map (v :: ·))

end

namespace Expr

variable {r : Registry} {c : Context}

mutual

/-- The value by recursion follows the rules. -/
theorem evaluates_value (r : Registry) (c : Context) : (e : Expr) → Evaluates r c e (e.value r c)
  | text s => by
    rw [value]
    exact .text
  | path root fields => by
    rw [value]
    exact .path
  | call name args => by
    rw [value, Registry.get]
    cases hname : r.find? name with
    | none => exact .unknown hname
    | some entry =>
      -- the function is known, so the arguments are evaluated before it is called
      have hsome : (r.find? name).isSome := by simp [hname]
      have hargs := evaluates_values r c args
      cases hvs : values r c args with
      | error f =>
        rw [hvs] at hargs
        cases f with
        | raised e => exact .argument hsome hargs
        | escaped x => exact .argumentEscaped hsome hargs
      | ok vs =>
        rw [hvs] at hargs
        cases hinvoke : r.invoke name vs with
        | ok v => simpa [hinvoke] using Evaluates.returned hsome hargs hinvoke
        | error f =>
          simp only [hinvoke, mapError_error]
          cases f with
          | escaped x => exact .escaped hsome hargs hinvoke
          | raised e =>
            rw [Failure.leaving_raised, EvalError.leaving]
            by_cases hreports : e.reportsCall name
            · rw [if_pos hreports]
              exact .reported hsome hargs hinvoke (EvalError.reportsCall_iff.mp hreports)
            · rw [if_neg hreports]
              exact .inside hsome hargs hinvoke (mt EvalError.reportsCall_iff.mpr hreports)

/-- The values of arguments by recursion follow the rules. -/
theorem evaluates_values (r : Registry) (c : Context) :
    (args : List Expr) → EvaluatesAll r c args (values r c args)
  | [] => by
    rw [values]
    exact .nil
  | e :: rest => by
    have he := evaluates_value r c e
    rw [values]
    cases hv : value r c e with
    | error err =>
      rw [hv] at he
      exact .failed he
    | ok v =>
      rw [hv] at he
      exact .cons he (evaluates_values r c rest)

end

mutual

/-- The rules give no other outcome than the value by recursion. -/
theorem value_of_evaluates {e : Expr} {res : Except (Failure EvalError) Value} (h : Evaluates r c e res) :
    e.value r c = res :=
  match h with
  | .text => by rw [value]
  | .path => by rw [value]
  | .unknown hname => by simp [value, Registry.get, hname]
  | .argument hname hargs => by
    obtain ⟨entry, hget⟩ := Registry.get_eq_ok hname
    simp only [value, hget, values_of_evaluates hargs]
    rfl
  | .argumentEscaped hname hargs => by
    obtain ⟨entry, hget⟩ := Registry.get_eq_ok hname
    simp only [value, hget, values_of_evaluates hargs, Failure.within_escaped]
  | .returned hname hargs hinvoke => by
    obtain ⟨entry, hget⟩ := Registry.get_eq_ok hname
    simp only [value, hget, values_of_evaluates hargs, hinvoke, mapError_ok]
  | .reported hname hargs hinvoke hreports => by
    obtain ⟨entry, hget⟩ := Registry.get_eq_ok hname
    simp only [value, hget, values_of_evaluates hargs, hinvoke, mapError_error, Failure.leaving_raised,
      EvalError.leaving]
    rw [if_pos (EvalError.reportsCall_iff.mpr hreports)]
  | .inside hname hargs hinvoke hreports => by
    obtain ⟨entry, hget⟩ := Registry.get_eq_ok hname
    simp only [value, hget, values_of_evaluates hargs, hinvoke, mapError_error, Failure.leaving_raised,
      EvalError.leaving]
    rw [if_neg (mt EvalError.reportsCall_iff.mp hreports)]
    rfl
  | .escaped hname hargs hinvoke => by
    obtain ⟨entry, hget⟩ := Registry.get_eq_ok hname
    simp only [value, hget, values_of_evaluates hargs, hinvoke, mapError_error, Failure.leaving_escaped]

/-- The rules for arguments give no other outcome than their values by recursion. -/
theorem values_of_evaluates {args : List Expr} {res : Except (Failure EvalError) (List Value)}
    (h : EvaluatesAll r c args res) : values r c args = res :=
  match h with
  | .nil => by rw [values]
  | .failed he => by rw [values, value_of_evaluates he]
  | .cons he hrest => by rw [values, value_of_evaluates he, values_of_evaluates hrest]

end

/-- A call looks for its function, evaluates its arguments and then invokes the function. -/
theorem value_call (name : String) (args : List Expr) :
    (call name args).value r c = (do
      let _ ← r.get name
      let vs ← (values r c args).mapError (·.within name)
      (r.invoke name vs).mapError (·.leaving name)) := by
  rw [value]
  cases r.get name with
  | error e => rfl
  | ok entry => cases values r c args <;> rfl

/-- Arguments are evaluated one after another. -/
theorem values_cons (e : Expr) (rest : List Expr) :
    values r c (e :: rest) = (do
      let v ← e.value r c
      (values r c rest).map (v :: ·)) := by
  rw [values]
  cases e.value r c <;> rfl

/-- The rules hold of the value by recursion and of nothing else. -/
theorem evaluates_iff_value {e : Expr} {res : Except (Failure EvalError) Value} :
    Evaluates r c e res ↔ e.value r c = res := by
  constructor
  · exact value_of_evaluates
  · rintro rfl
    exact evaluates_value r c e

/-! ## The list of open calls -/

namespace Frame

/-- The outcome of a call in progress, by recursion on the arguments still to be evaluated. -/
def value (r : Registry) (c : Context) (call : Frame) : Except (Failure EvalError) Value :=
  match values r c call.todo with
  | .error e => .error (e.within call.name)
  | .ok vs => (r.invoke call.name (call.done.reverse ++ vs)).mapError (·.leaving call.name)

/-- A call in progress evaluates its next argument, fails with it or goes on with its value. -/
theorem value_cons {call : Frame} {e : Expr} {later : List Expr} (h : call.todo = e :: later) :
    call.value r c = match e.value r c with
      | .error err => .error (err.within call.name)
      | .ok v => value r c { call with todo := later, done := v :: call.done } := by
  rw [value, h, values]
  cases e.value r c with
  | error err => rfl
  | ok v =>
    simp only [value]
    cases values r c later with
    | error err => rfl
    | ok vs => simp

/-- A call of a known function starts with all its arguments to be evaluated. -/
theorem value_start {name : String} {entry : FunctionEntry} (args : List Expr)
    (h : r.get name = .ok entry) : value r c ⟨name, args, []⟩ = (Expr.call name args).value r c := by
  rw [value, Expr.value, h]
  rfl

/-- A call with no more arguments invokes its function. -/
theorem value_nil {call : Frame} (h : call.todo = []) :
    call.value r c = (r.invoke call.name call.done.reverse).mapError (·.leaving call.name) := by
  rw [value, h, values]
  simp

end Frame

/-- What calls in progress make of the outcome of the call inside them. -/
def resume (r : Registry) (c : Context) :
    List Frame → Except (Failure EvalError) Value → Except (Failure EvalError) Value
  | [], res => res
  | outer, .error e => .error (Frame.leaveAll e outer)
  | caller :: rest, .ok v =>
    resume r c rest (Frame.value r c { caller with done := v :: caller.done })

/-- A failure leaves all calls in progress. -/
theorem resume_error (outer : List Frame) (e : Failure EvalError) :
    resume r c outer (.error e) = .error (Frame.leaveAll e outer) := by
  cases outer <;> rfl

/-- A caller goes on with the outcome of its next argument. -/
theorem resume_cons {call : Frame} {e : Expr} {later : List Expr} (outer : List Frame)
    (h : call.todo = e :: later) :
    resume r c ({ call with todo := later } :: outer) (e.value r c) =
      resume r c outer (call.value r c) := by
  rw [Frame.value_cons h]
  cases e.value r c with
  | error err => rw [resume_error, resume_error, Frame.leaveAll, List.foldl_cons, ← Frame.leaveAll]
  | ok v => rfl

/-- Running the calls in progress gives what the outer ones make of the outcome of the innermost. -/
theorem run_eq_resume (call : Frame) (outer : List Frame) :
    run r c call outer = resume r c outer (call.value r c) := by
  -- the induction follows the loop: the first three cases invoke the function of the innermost call,
  -- the others evaluate its next argument
  fun_induction run r c call outer with
  | case1 call outer htodo e he =>
    have hinvoke : r.invoke call.name call.done.reverse = .error e := by simpa using he
    simp only [Frame.value_nil htodo, hinvoke, mapError_error, resume_error]
  | case2 call htodo v hv =>
    have hinvoke : r.invoke call.name call.done.reverse = .ok v := by simpa using hv
    simp only [Frame.value_nil htodo, hinvoke, mapError_ok, resume]
  | case3 call htodo v hv caller rest ih =>
    have hinvoke : r.invoke call.name call.done.reverse = .ok v := by simpa using hv
    simp only [Frame.value_nil htodo, hinvoke, mapError_ok, resume, ih]
  | case4 call outer name args later htodo e hget =>
    have he : (Expr.call name args).value r c = .error e := by rw [Expr.value, hget]
    rw [← resume_cons outer htodo, he, resume_error]
    rfl
  | case5 call outer name args later htodo entry hget ih =>
    -- the argument is a call itself, which becomes the innermost one
    rw [ih, Frame.value_start args hget, resume_cons outer htodo]
  | case6 call outer s later htodo ih =>
    rw [ih, Frame.value_cons htodo, Expr.value]
  | case7 call outer root fields later htodo e hpath =>
    have he : (Expr.path root fields).value r c = .error e := by rw [Expr.value, hpath]
    rw [← resume_cons outer htodo, he, resume_error]
    rfl
  | case8 call outer root fields later htodo v hpath ih =>
    rw [ih, Frame.value_cons htodo, Expr.value, hpath]

/-- The evaluator gives the value by recursion. -/
theorem evaluate_eq_value (e : Expr) : e.evaluate r c = e.value r c := by
  cases e with
  | text | path => rw [evaluate, value]
  | call name args =>
    rw [evaluate]
    cases hget : r.get name with
    | error e => rw [value, hget]
    | ok entry => exact (run_eq_resume _ []).trans (Frame.value_start args hget)

/-- The outcome of an evaluation is the one by the rules. -/
theorem evaluate_eq_iff {e : Expr} {res : Except (Failure EvalError) Value} :
    e.evaluate r c = res ↔ Evaluates r c e res := by
  rw [evaluate_eq_value, evaluates_iff_value]

end Expr

/-! ## Rendering -/

/-- What a part of a template is rendered as. -/
inductive Renders (r : Registry) (c : Context) : Node → String → Prop
  /-- A literal text is rendered as it is. -/
  | literal {s : String} : Renders r c (.literal s) s
  /-- An expression is rendered as its value. -/
  | expr {e : Expr} {v : Value} : Evaluates r c e (.ok v) → Renders r c (.expr e) v.rendered

namespace Template

variable {r : Registry} {c : Context}

/-- A part is rendered by the rules. -/
theorem renderNode_eq_ok_iff {n : Node} {s : String} :
    renderNode r c n = .ok s ↔ Renders r c n s := by
  cases n with
  | literal text =>
    constructor
    · intro h
      obtain rfl := Except.ok.inj h
      exact .literal
    · rintro ⟨⟩
      rfl
  | expr e =>
    rw [renderNode, map_eq_ok_iff]
    constructor
    · rintro ⟨v, hv, rfl⟩
      exact .expr (Expr.evaluate_eq_iff.mp hv)
    · rintro (_ | hv)
      exact ⟨_, Expr.evaluate_eq_iff.mpr hv, rfl⟩

/-- A part fails to be rendered if it is an expression that fails. -/
theorem renderNode_eq_error_iff {n : Node} {e : Failure EvalError} :
    renderNode r c n = .error e ↔ ∃ x, n = .expr x ∧ Evaluates r c x (.error e) := by
  cases n with
  | literal text => simp [renderNode]
  | expr x =>
    rw [renderNode, map_eq_error_iff, Expr.evaluate_eq_iff]
    simp

/-- A template is rendered as its parts one after another. -/
theorem render_eq_ok_iff {t : Template} {out : String} :
    t.render r c = .ok out ↔
      ∃ parts, List.Forall₂ (Renders r c) t.nodes parts ∧ out = String.join parts := by
  have hparts {parts : List String} : t.nodes.mapM (renderNode r c) = .ok parts ↔
      List.Forall₂ (Renders r c) t.nodes parts := by
    simp only [mapM_eq_ok_iff, renderNode_eq_ok_iff]
  simp only [← hparts, render]
  cases t.nodes.mapM (renderNode r c) <;> simp [eq_comm]

/-- A template fails as the first expression that fails; an error gets the template unless it names one. -/
theorem render_eq_error_iff {t : Template} {err : Failure EvalError} :
    t.render r c = .error err ↔
      ∃ before x after e, t.nodes = before ++ .expr x :: after ∧
        (∀ n ∈ before, ∃ s, Renders r c n s) ∧ Evaluates r c x (.error e) ∧
        err = e.inTemplate t.source := by
  have herror {e : Failure EvalError} : t.nodes.mapM (renderNode r c) = .error e ↔
      ∃ before x after, t.nodes = before ++ .expr x :: after ∧
        (∀ n ∈ before, ∃ s, Renders r c n s) ∧ Evaluates r c x (.error e) := by
    simp only [mapM_eq_error_iff, renderNode_eq_ok_iff, renderNode_eq_error_iff]
    constructor
    · rintro ⟨before, n, after, hnodes, hbefore, x, rfl, hx⟩
      exact ⟨before, x, after, hnodes, hbefore, hx⟩
    · rintro ⟨before, x, after, hnodes, hbefore, hx⟩
      exact ⟨before, _, after, hnodes, hbefore, x, rfl, hx⟩
  -- only the template is put in, whichever expression fails
  have hrender : t.render r c = .error err ↔
      ∃ e, t.nodes.mapM (renderNode r c) = .error e ∧ err = e.inTemplate t.source := by
    rw [render]
    cases t.nodes.mapM (renderNode r c) <;> simp [eq_comm]
  rw [hrender]
  constructor
  · rintro ⟨e, he, rfl⟩
    obtain ⟨before, x, after, hnodes, hbefore, hx⟩ := herror.mp he
    exact ⟨before, x, after, e, hnodes, hbefore, hx, rfl⟩
  · rintro ⟨before, x, after, e, hnodes, hbefore, hx, rfl⟩
    exact ⟨e, herror.mpr ⟨before, x, after, hnodes, hbefore, hx⟩, rfl⟩

/-- The outputs of parts one after another. -/
def renderNodes (r : Registry) (c : Context) (nodes : List Node) : Except (Failure EvalError) String :=
  (nodes.mapM (renderNode r c)).map String.join

/-- A template is rendered as its parts, and an error gets the template unless it names one. -/
theorem render_eq_renderNodes (t : Template) :
    t.render r c = (renderNodes r c t.nodes).mapError (·.inTemplate t.source) := by
  rw [render, renderNodes]
  cases t.nodes.mapM (renderNode r c) <;> rfl

/-- No parts have no output. -/
theorem renderNodes_nil : renderNodes r c [] = .ok "" := rfl

/-- The output of a part comes before the output of the parts after it. -/
theorem renderNodes_cons (n : Node) (ns : List Node) :
    renderNodes r c (n :: ns) = (do
      let first ← renderNode r c n
      (renderNodes r c ns).map (first ++ ·)) := by
  rw [renderNodes, renderNodes, List.mapM_cons]
  cases renderNode r c n with
  | error e => rfl
  | ok first =>
    cases ns.mapM (renderNode r c) with
    | error e => rfl
    | ok others => simp [String.join_cons]

/-- The output of parts comes before the output of the parts after them. -/
theorem renderNodes_append (ms ns : List Node) :
    renderNodes r c (ms ++ ns) = (do
      let first ← renderNodes r c ms
      (renderNodes r c ns).map (first ++ ·)) := by
  induction ms with
  | nil => cases h : renderNodes r c ns <;> simp [renderNodes_nil, h]
  | cons m ms ih =>
    rw [List.cons_append, renderNodes_cons, renderNodes_cons, ih]
    cases renderNode r c m with
    | error e => rfl
    | ok first =>
      cases renderNodes r c ms with
      | error e => rfl
      | ok others =>
        cases renderNodes r c ns with
        | error e => rfl
        | ok last => simp [String.append_assoc]

/-- Evaluation follows the rules, for values and for failures, and rendering puts the values between the
literal texts, or fails as the first expression that fails. -/
theorem evaluation_follows_rules (r : Registry) (c : Context) :
    (∀ (e : Expr) (res : Except (Failure EvalError) Value), e.evaluate r c = res ↔ Evaluates r c e res) ∧
    (∀ (t : Template) (out : String), t.render r c = .ok out ↔
      ∃ parts, List.Forall₂ (Renders r c) t.nodes parts ∧ out = String.join parts) ∧
    ∀ (t : Template) (f : Failure EvalError), t.render r c = .error f ↔
      ∃ before x after f', t.nodes = before ++ .expr x :: after ∧
        (∀ n ∈ before, ∃ s, Renders r c n s) ∧ Evaluates r c x (.error f') ∧
        f = f'.map fun e => { e with template := some (e.template.getD t.source) } :=
  ⟨fun _ _ => Expr.evaluate_eq_iff, fun _ _ => render_eq_ok_iff, fun _ _ => render_eq_error_iff⟩

end Template

end PathTemplates
