import PathTemplates.Engine
import PathTemplates.Proofs.Caching

/-! # An engine over many requests

What an engine answers to a request does not depend on what it was asked before, nor on how much its
cache holds. An engine that has been at work differs from a new one only in its cache, and this gives
for every text what parsing it gives (`Serves`); every request keeps it that way (`Serves.perform`). -/

namespace PathTemplates

namespace Engine

/-! ## Requests -/

/-- What an engine is asked to do. -/
inductive Request
  /-- Compile a text. -/
  | compile (source : String)
  /-- Render a template in a context. -/
  | render (t : Template) (c : Context)
  /-- Compile a text and render it in a context. -/
  | renderSource (source : String) (c : Context)
  /-- Tell which functions a template calls that the engine lacks. -/
  | missing (t : Template)
  /-- Render a template for many resources. -/
  | renderMany (t : Template) (items : List (String × Context))

/-- What an engine answers. -/
inductive Answer
  /-- A template, or why there is none. -/
  | compiled (result : Except Error Template)
  /-- An output, or why there is none. -/
  | rendered (result : Except (Failure Error) String)
  /-- Names of functions. -/
  | missing (names : List String)
  /-- What rendering each of many resources gave, or what escaped meanwhile. -/
  | outcomes (result : Except Escape (List Outcome))

/-- What an engine answers to a request, and the engine afterwards. -/
def perform (e : Engine) : Request → Answer × Engine
  | .compile source =>
    let (result, after, _) := e.compile source
    (.compiled result, after)
  | .render t c => (.rendered ((e.render t c).mapError (·.map .evaluation)), e)
  | .renderSource source c =>
    let (result, after, _) := e.renderSource source c
    (.rendered result, after)
  | .missing t => (.missing (e.missing t), e)
  | .renderMany t items => (.outcomes (e.renderMany t items), e)

/-- The answers to requests, one after another. -/
def answers (e : Engine) : List Request → List Answer
  | [] => []
  | request :: rest => (e.perform request).1 :: answers (e.perform request).2 rest

/-- The engine after requests, one after another. -/
def after (e : Engine) (requests : List Request) : Engine :=
  requests.foldl (fun e request => (e.perform request).2) e

/-- An engine at work with the functions of a registry: its cache was asked for some texts. -/
structure Serves (registry : Registry) (strict : Bool) (e : Engine) : Prop where
  /-- The functions stay the same. -/
  registry_eq : e.registry = registry.freeze
  /-- The engine stays as strict as it is. -/
  strict_eq : e.strict = strict
  /-- The cache gives what parsing gives. -/
  tracks : ∃ capacity texts, Cache.Tracks capacity texts e.cache

namespace Serves

variable {registry : Registry} {strict : Bool} {e e' : Engine}

/-- A new engine has been asked for nothing. -/
theorem new (registry : Registry) (capacity : Nat) (strict : Bool) :
    Serves registry strict (Engine.new registry (Cache.ofCapacity capacity) strict) :=
  ⟨rfl, rfl, capacity, [], Cache.Tracks.ofCapacity capacity⟩

/-- Compiling gives what parsing gives, if the engine has the functions. -/
theorem compile_eq (h : Serves registry strict e) (source : String) :
    (e.compile source).1 = match Template.parse source with
      | .ok t => e.checkFunctions t
      | .error err => .error (.parse err) := by
  obtain ⟨capacity, texts, htracks⟩ := h.tracks
  rw [Engine.compile, ← (htracks.get_eq_parse source).1]
  rfl

/-- After compiling a text the engine is still at work. -/
theorem compile (h : Serves registry strict e) (source : String) :
    Serves registry strict (e.compile source).2.1 := by
  obtain ⟨capacity, texts, htracks⟩ := h.tracks
  exact ⟨h.registry_eq, h.strict_eq, capacity, texts ++ [source], (htracks.get_eq_parse source).2⟩

/-- A request leaves the engine at work. -/
theorem perform (h : Serves registry strict e) (request : Request) :
    Serves registry strict (e.perform request).2 := by
  cases request with
  | compile source => exact h.compile source
  | renderSource source c => exact h.compile source
  | render | missing | renderMany => exact h

/-- Engines at work with the same functions lack the same functions. -/
theorem missing_eq (h : Serves registry strict e) (h' : Serves registry strict e') (t : Template) :
    e.missing t = e'.missing t := by
  rw [Engine.missing, Engine.missing, h.registry_eq, h'.registry_eq]

/-- Engines at work with the same functions compile a text to the same template or error. -/
theorem compile_eq_compile (h : Serves registry strict e) (h' : Serves registry strict e')
    (source : String) : (e.compile source).1 = (e'.compile source).1 := by
  rw [h.compile_eq, h'.compile_eq]
  cases Template.parse source with
  | error err => rfl
  | ok t =>
    simp only [checkFunctions, h.missing_eq h' t, h.strict_eq, h'.strict_eq, h.registry_eq,
      h'.registry_eq]

/-- Engines at work with the same functions render a template to the same output or error. -/
theorem render_eq (h : Serves registry strict e) (h' : Serves registry strict e') (t : Template)
    (c : Context) : e.render t c = e'.render t c := by
  rw [render, render, h.registry_eq, h'.registry_eq]

/-- Engines at work with the same functions give the same answer. -/
theorem answer_eq (h : Serves registry strict e) (h' : Serves registry strict e')
    (request : Request) : (e.perform request).1 = (e'.perform request).1 := by
  cases request with
  | compile source => exact congrArg Answer.compiled (h.compile_eq_compile h' source)
  | render t c =>
    exact congrArg (fun x => Answer.rendered (x.mapError (·.map .evaluation))) (h.render_eq h' t c)
  | renderSource source c =>
    simp only [Engine.perform, renderSource, h.compile_eq_compile h' source, h.render_eq h']
  | missing t => exact congrArg Answer.missing (h.missing_eq h' t)
  | renderMany t items =>
    simp only [Engine.perform, renderMany, attempts, renderOne, h.render_eq h']

/-- Engines at work with the same functions give the same answers, whatever they were asked before and
whether or not they are asked anything in between. -/
theorem answers_eq_map (h : Serves registry strict e) (h' : Serves registry strict e')
    (requests : List Request) :
    e.answers requests = requests.map fun request => (e'.perform request).1 := by
  induction requests generalizing e with
  | nil => rfl
  | cons request rest ih => rw [answers, List.map_cons, h.answer_eq h' request, ih (h.perform request)]

/-- An engine is still at work after any requests. -/
theorem after (h : Serves registry strict e) (requests : List Request) :
    Serves registry strict (e.after requests) := by
  induction requests generalizing e with
  | nil => exact h
  | cons request rest ih => exact ih (h.perform request)

end Serves

/-- Every answer in a series of requests is the answer that a new engine with the same functions gives
to the same request if it keeps no texts at all. -/
theorem answers_eq_fresh (registry : Registry) (capacity : Nat) (strict : Bool)
    (requests : List Request) :
    (new registry (Cache.ofCapacity capacity) strict).answers requests =
      requests.map fun request =>
        ((new registry (Cache.ofCapacity 0) strict).perform request).1 :=
  (Serves.new registry capacity strict).answers_eq_map (Serves.new registry 0 strict) requests

end Engine

end PathTemplates
