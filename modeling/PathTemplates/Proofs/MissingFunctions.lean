import PathTemplates.Proofs.Bindings
import PathTemplates.Proofs.Evaluation
import PathTemplates.Proofs.Expr.Walking
import PathTemplates.Proofs.Function.Reporting
import PathTemplates.Proofs.Session
import PathTemplates.Proofs.Template.RoundTrip

/-! # Missing functions

The check of the functions that a template calls foretells what rendering does: if none is missing, no
rendering fails for an unknown function, and if one is, every rendering fails, for an unknown function
only if it is the first missing one. The check reads the names of all calls in the order of the text,
and the evaluation looks functions up in that order until it fails (`Foretold`). -/

namespace PathTemplates

namespace Registry

/-- The first function called in given expressions that a registry lacks. -/
def firstMissing (r : Registry) (es : List Expr) : Option String :=
  (es.filterMap Expr.callee?).find? fun name => !r.has name

variable {r : Registry}

/-- The first missing function of two lists is that of the first one, or else that of the second. -/
theorem firstMissing_append (as bs : List Expr) :
    r.firstMissing (as ++ bs) = (r.firstMissing as).or (r.firstMissing bs) := by
  rw [firstMissing, List.filterMap_append, List.find?_append, firstMissing, firstMissing]

/-- A call of a missing function comes before the calls inside it. -/
theorem firstMissing_call (name : String) (args : List Expr) :
    r.firstMissing (.call name args :: Expr.subtermsList args) =
      (if r.has name then none else some name).or (r.firstMissing (Expr.subtermsList args)) := by
  rw [firstMissing, List.filterMap_cons]
  cases h : r.has name <;> simp [Expr.callee?, firstMissing, h]

end Registry

/-! ## Outcomes that are foretold -/

/-- An outcome that the check of functions foretells: with a missing function there is a failure, and an
error about an unknown function is about the first missing one. -/
structure Foretold {α : Type} (r : Registry) (missing : Option String)
    (x : Except (Failure EvalError) α) : Prop where
  /-- With a missing function there is a failure. -/
  fails : ∀ name, missing = some name → ∃ f, x = .error f
  /-- An unknown function is the first missing one, and the known ones are listed. -/
  unknown : ∀ e name available, x = .error (.raised e) → e.cause = .unknownFunction name available →
    missing = some name ∧ available = r.names

namespace Foretold

variable {α β : Type} {r : Registry} {missing missing' : Option String}
  {x : Except (Failure EvalError) α}

/-- A value is foretold where nothing is missing. -/
theorem ok (a : α) : Foretold r none (.ok a) where
  fails := by simp
  unknown := by simp

/-- An error about something else is foretold where nothing is missing. -/
theorem raised {e : EvalError} (h : ∀ name available, e.cause ≠ .unknownFunction name available) :
    Foretold r none (.error (.raised e) : Except (Failure EvalError) α) where
  fails := by simp
  unknown := by
    rintro _ name available heq hcause
    obtain rfl := Failure.raised.inj (Except.error.inj heq)
    exact absurd hcause (h name available)

/-- An escape is no error about a function. -/
theorem escaped (y : Escape) :
    Foretold r none (.error (.escaped y) : Except (Failure EvalError) α) where
  fails := by simp
  unknown := by simp

/-- A further step looks for the functions after those of the first one. -/
theorem bind {f : α → Except (Failure EvalError) β} (h : Foretold r missing x)
    (hf : ∀ a, x = .ok a → Foretold r missing' (f a)) : Foretold r (missing.or missing') (x >>= f) := by
  cases x with
  | error failure =>
    refine ⟨fun _ _ => ⟨failure, rfl⟩, ?_⟩
    rintro e name available heq hcause
    obtain rfl : failure = .raised e := Except.error.inj heq
    obtain ⟨rfl, rfl⟩ := h.unknown e name available rfl hcause
    exact ⟨rfl, rfl⟩
  | ok a =>
    -- the first step gave a value, so none of its functions is missing
    cases missing with
    | none => simpa using hf a rfl
    | some name =>
      obtain ⟨e, he⟩ := h.fails name rfl
      cases he

/-- A function of the value changes nothing. -/
theorem map (h : Foretold r missing x) (f : α → β) : Foretold r missing (x.map f) := by
  cases x with
  | ok a => exact ⟨fun name hname => by simpa using h.fails name hname, by simp⟩
  | error failure =>
    exact ⟨fun _ _ => ⟨failure, rfl⟩, fun e name available heq =>
      h.unknown e name available (map_eq_error_iff.mp heq)⟩

/-- What is added to an error changes nothing, as long as its cause stays the same. -/
theorem mapError (h : Foretold r missing x) {f : EvalError → EvalError}
    (hf : ∀ e, (f e).cause = e.cause) : Foretold r missing (x.mapError (Failure.map f)) := by
  rcases x with (e | y) | a
  · refine ⟨fun _ _ => ⟨.raised (f e), rfl⟩, ?_⟩
    rintro _ name available heq hcause
    obtain rfl := Failure.raised.inj (Except.error.inj heq)
    exact h.unknown e name available rfl (hf e ▸ hcause)
  · exact ⟨fun _ _ => ⟨.escaped y, rfl⟩, by simp⟩
  · exact h

end Foretold

/-! ## The evaluation -/

/-- Looking up fields looks for no function. -/
theorem foretold_followFields {r : Registry} (on : String) (v : Value) (fields : List String) :
    Foretold r none (followFields on v fields) := by
  induction fields generalizing on v with
  | nil => exact .ok v
  | cons segment rest ih =>
    cases v with
    | text s => exact .raised (by simp [EvalError.of])
    | mapping entries =>
      rw [followFields]
      cases entries.get? segment with
      | none => exact .raised (by simp [EvalError.of])
      | some inner => exact ih segment inner

namespace Registry

variable {r : Registry} {name : String}

/-- Looking a function up fails exactly if it is missing. -/
theorem foretold_get (r : Registry) (name : String) :
    Foretold r (if r.has name then none else some name) (r.get name) := by
  cases hfind : r.find? name with
  | none =>
    have hmissing : ¬ r.has name := fun h =>
      Bindings.get?_eq_none_iff.mp hfind (Bindings.has_iff.mp h)
    rw [if_neg hmissing, get, hfind]
    refine ⟨fun _ _ => ⟨_, rfl⟩, ?_⟩
    rintro _ unknown available heq hcause
    obtain rfl := Failure.raised.inj (Except.error.inj heq)
    obtain ⟨rfl, rfl⟩ := EvalCause.unknownFunction.inj hcause
    exact ⟨rfl, rfl⟩
  | some entry =>
    have hknown : r.has name :=
      Bindings.has_iff.mpr (Bindings.mem_names_iff.mpr ⟨entry, Bindings.mem_of_get?_eq_some hfind⟩)
    rw [if_pos hknown, get, hfind]
    exact .ok entry

/-- A known function that is called looks for no other. -/
theorem foretold_invoke (hquiet : r.ReportsNoUnknown) {entry : FunctionEntry}
    (hget : r.get name = .ok entry) (args : List Value) : Foretold r none (r.invoke name args) := by
  rw [invoke_of_get hget]
  split
  · cases hbody : entry.body args with
    | ok result =>
      rw [mapError_ok, ok_bind, resultOf]
      cases result.toValue with
      | ok v => exact .ok v
      | error e => exact .raised (by simp [EvalError.of])
    | error failure =>
      cases failure with
      | evaluation e => exact .raised (hquiet _ (mem_entries_of_get hget) args e hbody)
      | other kind message => exact .raised (by simp [EvalError.of])
      | escape y => exact .escaped y
  · exact .raised (by simp [EvalError.of])

end Registry

namespace Context

/-- Looking up a variable looks for no function. -/
theorem foretold_resolve {r : Registry} (c : Context) (root : String) (fields : List String) :
    Foretold r none (c.resolve root fields) := by
  rw [resolve]
  cases c.get? root with
  | some v => exact foretold_followFields root v fields
  | none => exact .raised (by simp [EvalError.of])

end Context

/-- An error that leaves a call keeps its cause. -/
theorem EvalError.cause_leaving (e : EvalError) (name : String) : (e.leaving name).cause = e.cause := by
  rw [leaving]
  split <;> rfl

namespace Expr

variable {r : Registry}

mutual

/-- The outcome of an expression is foretold by the functions that it calls. -/
theorem foretold_value (hquiet : r.ReportsNoUnknown) (c : Context) :
    (e : Expr) → Foretold r (r.firstMissing e.subterms) (e.value r c)
  | text s => by
    rw [value]
    exact .ok _
  | path root fields => by
    rw [value]
    exact c.foretold_resolve root fields
  | call name args => by
    -- the function is looked up first, then those of the arguments, and the body looks for none
    have hargs := (foretold_values hquiet c args).mapError (f := (·.within name)) fun _ => rfl
    rw [value_call, subterms, Registry.firstMissing_call]
    refine (r.foretold_get name).bind fun entry hget => ?_
    rw [← Option.or_none (o := r.firstMissing (subtermsList args))]
    exact hargs.bind fun vs _ =>
      (Registry.foretold_invoke hquiet hget vs).mapError fun e => e.cause_leaving name

/-- The outcome of arguments is foretold by the functions that they call. -/
theorem foretold_values (hquiet : r.ReportsNoUnknown) (c : Context) :
    (args : List Expr) → Foretold r (r.firstMissing (subtermsList args)) (values r c args)
  | [] => by
    rw [values]
    exact .ok _
  | e :: rest => by
    rw [values_cons, subtermsList, Registry.firstMissing_append]
    exact (foretold_value hquiet c e).bind fun v _ => (foretold_values hquiet c rest).map (v :: ·)

end

end Expr

namespace Template

variable {r : Registry}

/-- The outcome of parts is foretold by the functions that they call. -/
theorem foretold_renderNodes (hquiet : r.ReportsNoUnknown) (c : Context) (nodes : List Node)
    (source : String) :
    Foretold r (r.firstMissing (expressions ⟨nodes, source⟩)) (renderNodes r c nodes) := by
  induction nodes with
  | nil => exact .ok ""
  | cons n ns ih =>
    rw [renderNodes_cons]
    cases n with
    | literal s => exact ih.map (s ++ ·)
    | expr e =>
      have hexpr : Foretold r (r.firstMissing e.subterms) (renderNode r c (.expr e)) := by
        rw [renderNode, Expr.evaluate_eq_value]
        exact (Expr.foretold_value hquiet c e).map Value.rendered
      rw [expressions_expr_cons, Registry.firstMissing_append]
      exact hexpr.bind fun first _ => ih.map (first ++ ·)

/-- The outcome of a template is foretold by the functions that it calls. -/
theorem foretold_render (hquiet : r.ReportsNoUnknown) (c : Context) (t : Template) :
    Foretold r (r.firstMissing t.expressions) (t.render r c) := by
  rw [render_eq_renderNodes]
  exact (foretold_renderNodes hquiet c t.nodes t.source).mapError fun _ => rfl

end Template

/-! ## The check -/

namespace Engine

/-- The first function that the check reports is the first one that a call lacks. -/
theorem head?_missing (e : Engine) (t : Template) :
    (e.missing t).head? = e.registry.firstMissing t.expressions := by
  rw [missing, List.head?_filter, Template.callees, Expr.calleesOf_eq, find?_eraseDups,
    Registry.firstMissing]

/-- A template that lacks no function passes the check. -/
theorem checkFunctions_of_missing_nil {e : Engine} {t : Template} (h : e.missing t = []) :
    e.checkFunctions t = .ok t := by
  rw [checkFunctions, h]
  cases e.strict <;> rfl

/-- A strict engine refuses a template that lacks a function, and names the first one. -/
theorem checkFunctions_of_missing_cons {e : Engine} {t : Template} {name : String}
    {rest : List String} (hstrict : e.strict) (h : e.missing t = name :: rest) :
    e.checkFunctions t = .error (.evaluation
      ⟨.unknownFunction name e.registry.names, [], some t.source, none⟩) := by
  rw [checkFunctions, h, hstrict]
  rfl

/-- A template that lacks a function fails in every context. -/
theorem exists_render_eq_error {e : Engine} {t : Template} (hquiet : e.registry.ReportsNoUnknown)
    (h : e.missing t ≠ []) (c : Context) : ∃ f, e.render t c = .error f := by
  obtain ⟨name, rest, hmissing⟩ := List.exists_cons_of_ne_nil h
  have hfirst : e.registry.firstMissing t.expressions = some name := by
    rw [← head?_missing, hmissing, List.head?_cons]
  exact (t.foretold_render hquiet c).fails name hfirst

/-- The check of functions agrees with rendering, whatever an engine was asked before. A template that
lacks no function compiles, and no rendering of it fails for an unknown function. If functions are
missing, every rendering fails, for an unknown function only if it is the first of them; a strict engine
reports this one when it compiles the template, with the same list of known functions. -/
theorem missing_foretells_render {registry : Registry} (hquiet : registry.ReportsNoUnknown)
    (capacity : Nat) (strict : Bool) (requests : List Request) (t : Template) :
    let e := (new registry (Cache.ofCapacity capacity) strict).after requests
    (e.missing t = [] →
      (∀ source, Template.parse source = .ok t → (e.compile source).1 = .ok t) ∧
      ∀ c err, e.render t c = .error (.raised err) →
        ∀ name available, err.cause ≠ .unknownFunction name available) ∧
    ∀ name rest, e.missing t = name :: rest →
      (strict → ∀ source, Template.parse source = .ok t → (e.compile source).1 =
        .error (.evaluation ⟨.unknownFunction name e.registry.names, [], some source, none⟩)) ∧
      ∀ c, ∃ f, e.render t c = .error f ∧
        ∀ err unknown available, f = .raised err → err.cause = .unknownFunction unknown available →
          unknown = name ∧ available = e.registry.names := by
  intro e
  have hserves : Serves registry strict e := (Serves.new registry capacity strict).after requests
  have hquiet' : e.registry.ReportsNoUnknown := by
    rw [hserves.registry_eq]
    exact hquiet
  have hforetold (c : Context) : Foretold e.registry (e.missing t).head? (e.render t c) := by
    rw [head?_missing]
    exact t.foretold_render hquiet' c
  constructor
  · intro hmissing
    refine ⟨fun source hparse => ?_, fun c err herr name available hcause => ?_⟩
    · rw [hserves.compile_eq, hparse]
      exact checkFunctions_of_missing_nil hmissing
    · have hfirst := ((hforetold c).unknown err name available herr hcause).1
      simp [hmissing] at hfirst
  · intro name rest hmissing
    refine ⟨fun hstrict source hparse => ?_, fun c => ?_⟩
    · have hsource : t.source = source := (Template.parse_eq_ok_iff.mp hparse).2
      rw [hserves.compile_eq, hparse, ← hsource]
      exact checkFunctions_of_missing_cons (hserves.strict_eq.trans hstrict) hmissing
    · obtain ⟨f, hf⟩ := (hforetold c).fails name (by rw [hmissing]; rfl)
      refine ⟨f, hf, ?_⟩
      rintro err unknown available rfl hcause
      obtain ⟨hfirst, havailable⟩ := (hforetold c).unknown err unknown available hf hcause
      rw [hmissing, List.head?_cons, Option.some.injEq] at hfirst
      exact ⟨hfirst.symm, havailable⟩

/-- Of two missing functions, one of them called inside a built-in one, the first is reported. -/
theorem missing_foretells_render_nested :
    let e := (new Builtin.registry (Cache.ofCapacity 1) true).after [.compile ""]
    let t : Template := ⟨[.expr (.call "upper" [.call "f" [.path "x" []]]), .expr (.call "g" [])], ""⟩
    e.missing t = ["f", "g"] ∧ ∃ f, e.render t Context.empty = .error f ∧
      ∀ err unknown available, f = .raised err → err.cause = .unknownFunction unknown available →
        unknown = "f" ∧ available = e.registry.names := by
  intro e t
  have hmissing : e.missing t = ["f", "g"] := by cbv
  have hforetold :=
    missing_foretells_render Builtin.reportsNoUnknown_registry 1 true [.compile ""] t
  exact ⟨hmissing, (hforetold.2 "f" ["g"] hmissing).2 Context.empty⟩

end Engine

end PathTemplates
