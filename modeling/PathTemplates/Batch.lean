import Mathlib.Logic.Relation
import PathTemplates.Engine

/-! # Rendering on a pool of workers

Many resources are rendered one after another or as jobs on a pool of workers. Which worker moves next is
left open: a pool moves by rules (`Pool.Step`), and any sequence of moves may happen. A worker binds the
label of the resource that it renders, and what it reports is reported under the bound label. What
escapes while a resource is rendered is handed in like an outcome: the other resources are rendered all
the same, and only then does it come out. -/

namespace PathTemplates

/-- An attempt whose outcome is called by another label. -/
def Attempt.under (label : String) (a : Attempt) : Attempt := a.map fun o => { o with label := label }

namespace Batch

/-- A resource to be rendered. -/
structure Job where
  /-- Its place among the resources. -/
  place : Nat
  /-- What it is called. -/
  label : String
  /-- Its context. -/
  context : Context

/-- The jobs for resources, in their order. -/
def jobs (items : List (String × Context)) : List Job :=
  items.zipIdx.map fun ((label, c), place) => ⟨place, label, c⟩

/-- What a worker does. -/
inductive Worker
  /-- It waits for a job. -/
  | idle
  /-- It renders a resource while a label is bound. -/
  | rendering (job : Job) (bound : String)
  /-- It has reported on a resource and holds the attempt for its place. -/
  | finished (place : Nat) (attempt : Attempt)

/-- A pool of workers. -/
structure Pool where
  /-- The jobs that are not in the queue yet. -/
  ahead : List Job
  /-- The jobs that wait for a worker. -/
  queue : List Job
  /-- The workers. -/
  workers : List Worker
  /-- The attempts that were handed in, with their places. -/
  results : List (Nat × Attempt)
  /-- What was reported. -/
  events : List Log.Event

namespace Pool

/-- A pool before its first job. -/
def start (items : List (String × Context)) : Pool := ⟨jobs items, [], [], [], []⟩

/-- One move of a pool that has at most `limit` workers. -/
inductive Step (e : Engine) (t : Template) (limit : Nat) : Pool → Pool → Prop
  /-- The next job enters the queue, and a worker is hired. -/
  | hire {job ahead queue workers results events} (room : workers.length < limit) :
    Step e t limit ⟨job :: ahead, queue, workers, results, events⟩
      ⟨ahead, queue ++ [job], workers ++ [.idle], results, events⟩
  /-- The next job enters the queue of a pool that has workers. -/
  | enqueue {job ahead queue workers results events} (staffed : workers ≠ []) :
    Step e t limit ⟨job :: ahead, queue, workers, results, events⟩
      ⟨ahead, queue ++ [job], workers, results, events⟩
  /-- A worker takes the first job of the queue and binds its label. -/
  | take {ahead job queue before after results events} :
    Step e t limit ⟨ahead, job :: queue, before ++ .idle :: after, results, events⟩
      ⟨ahead, queue, before ++ .rendering job job.label :: after, results, events⟩
  /-- A worker renders its resource and reports under the bound label if this fails. -/
  | render {ahead queue before job bound after results events attempt}
      (rendered : attempt = e.renderOne t job.label job.context) :
    Step e t limit ⟨ahead, queue, before ++ .rendering job bound :: after, results, events⟩
      ⟨ahead, queue, before ++ .finished job.place attempt :: after, results,
        events ++ (Attempt.under bound attempt).events⟩
  /-- A worker hands in an attempt and is idle again. -/
  | handIn {ahead queue before place attempt after results events} :
    Step e t limit ⟨ahead, queue, before ++ .finished place attempt :: after, results, events⟩
      ⟨ahead, queue, before ++ .idle :: after, (place, attempt) :: results, events⟩

/-- The states that a pool which renders a template for resources may get into. -/
def Reaches (e : Engine) (t : Template) (limit : Nat) (items : List (String × Context)) (p : Pool) :
    Prop :=
  Relation.ReflTransGen (Step e t limit) (start items) p

end Pool

end Batch

end PathTemplates
