import PathTemplates.Context
import PathTemplates.Function.Registry
import PathTemplates.Template.Basic

/-! # Evaluation

An expression is evaluated in a context with the functions of a registry, and a template is rendered
by writing out its parts in order. Evaluation keeps the calls that are still open in a list, so that
its depth does not grow with the nesting; `value` gives the same answer by recursion. -/

namespace PathTemplates

/-- Follows the fields of a path; `on` is the name that led to the value. -/
def followFields (on : String) (v : Value) : List String → Except (Failure EvalError) Value
  | [] => .ok v
  | segment :: rest =>
    match v with
    | .text _ => .error (.of (.notIndexable on segment))
    | .mapping entries =>
      match entries.get? segment with
      | some inner => followFields segment inner rest
      | none => .error (.of (.undefinedVariable segment (sortTexts entries.keys)))

namespace Context

/-- The value of a variable and its fields. -/
def resolve (c : Context) (root : String) (fields : List String) : Except (Failure EvalError) Value :=
  match c.get? root with
  | some v => followFields root v fields
  | none => .error (.of (.undefinedVariable root c.names))

end Context

namespace EvalError

/-- Whether an error reports that the call of a function itself failed, so that the call need not be
named again among the calls around the place. -/
def reportsCall (e : EvalError) (name : String) : Bool :=
  e.chain.isEmpty && e.cause.failedCall? == some name

/-- The error of a call's invocation, seen from outside the call. -/
def leaving (e : EvalError) (name : String) : EvalError :=
  if e.reportsCall name then e else e.within name

end EvalError

namespace Failure

/-- The failure of a call's invocation, seen from outside the call. -/
def leaving (f : Failure EvalError) (name : String) : Failure EvalError := f.map (·.leaving name)

@[simp] theorem leaving_raised (e : EvalError) (name : String) :
    (raised e).leaving name = raised (e.leaving name) := rfl

@[simp] theorem leaving_escaped (x : Escape) (name : String) :
    (escaped x).leaving name = escaped x := rfl

end Failure

namespace Expr

mutual

/-- The value of an expression, by recursion on it. -/
def value (r : Registry) (c : Context) : Expr → Except (Failure EvalError) Value
  | text s => .ok (.text s)
  | path root fields => c.resolve root fields
  | call name args =>
    match r.get name with
    | .error e => .error e
    | .ok _ =>
      match values r c args with
      | .error e => .error (e.within name)
      | .ok vs => (r.invoke name vs).mapError (·.leaving name)

/-- The values of arguments, from left to right. -/
def values (r : Registry) (c : Context) : List Expr → Except (Failure EvalError) (List Value)
  | [] => .ok []
  | e :: rest =>
    match value r c e with
    | .error e => .error e
    | .ok v => (values r c rest).map (v :: ·)

end

/-- A call in progress. -/
structure Frame where
  /-- The function. -/
  name : String
  /-- The arguments still to be evaluated. -/
  todo : List Expr
  /-- The values of the arguments before them, the last one first. -/
  done : List Value

namespace Frame

/-- The steps that calls in progress take at most. -/
def work : List Frame → Nat
  | [] => 0
  | f :: rest => 2 * sizeList f.todo + 1 + work rest

/-- A failure seen from outside calls in progress, innermost first. -/
def leaveAll (e : Failure EvalError) (frames : List Frame) : Failure EvalError :=
  frames.foldl (fun e f => e.within f.name) e

end Frame

/-- Runs the calls in progress, innermost first, until the outermost returns. -/
def run (r : Registry) (c : Context) (call : Frame) (outer : List Frame) : Except (Failure EvalError) Value :=
  match _h : call.todo with
  | [] =>
    match r.invoke call.name call.done.reverse with
    | .error e => .error (Frame.leaveAll (e.leaving call.name) outer)
    | .ok v =>
      match outer with
      | [] => .ok v
      | caller :: rest => run r c { caller with done := v :: caller.done } rest
  | .call name args :: later =>
    match r.get name with
    | .error e => .error (Frame.leaveAll e (call :: outer))
    | .ok _ => run r c ⟨name, args, []⟩ ({ call with todo := later } :: outer)
  | .text s :: later => run r c { call with todo := later, done := .text s :: call.done } outer
  | .path root fields :: later =>
    match c.resolve root fields with
    | .error e => .error (Frame.leaveAll e (call :: outer))
    | .ok v => run r c { call with todo := later, done := v :: call.done } outer
  termination_by Frame.work (call :: outer)
  decreasing_by
    all_goals simp only [Frame.work, _h, sizeList_cons, sizeList_nil, size_call, size_text, size_path]
    all_goals omega

/-- The value of an expression. -/
def evaluate (r : Registry) (c : Context) : Expr → Except (Failure EvalError) Value
  | text s => .ok (.text s)
  | path root fields => c.resolve root fields
  | call name args =>
    match r.get name with
    | .error e => .error e
    | .ok _ => run r c ⟨name, args, []⟩ []

end Expr

namespace Template

/-- The output of a part of a template. -/
def renderNode (r : Registry) (c : Context) : Node → Except (Failure EvalError) String
  | .literal s => .ok s
  | .expr e => (e.evaluate r c).map Value.rendered

/-- The output of a template: the outputs of its parts one after another. -/
def render (t : Template) (r : Registry) (c : Context) : Except (Failure EvalError) String :=
  match t.nodes.mapM (renderNode r c) with
  | .ok parts => .ok (String.join parts)
  | .error e => .error (e.inTemplate t.source)

end Template

end PathTemplates
