import PathTemplates.Proofs.Evaluation
import PathTemplates.Proofs.Function.Reporting
import PathTemplates.Variable

/-! # What never escapes

Something escapes from an evaluation only where it escapes from a function: with functions from which
nothing does, expressions, templates and computed variables give values or errors
(`Template.neverEscapes_render`, `ContextFactory.neverEscapes_bindAll`). -/

namespace PathTemplates

/-- A step that gives a value or fails with an error. -/
def NeverEscapes {ε α : Type} (x : Except (Failure ε) α) : Prop := ∀ y, x ≠ .error (.escaped y)

namespace NeverEscapes

variable {ε δ α β : Type} {x : Except (Failure ε) α}

/-- A value. -/
theorem ok (a : α) : NeverEscapes (.ok a : Except (Failure ε) α) := by
  rintro y ⟨⟩

/-- An error. -/
theorem raised (e : ε) : NeverEscapes (.error (.raised e) : Except (Failure ε) α) := by
  rintro y ⟨⟩

/-- A step fails with an error if it fails. -/
theorem exists_raised (h : NeverEscapes x) {f : Failure ε} (hf : x = .error f) : ∃ e, f = .raised e := by
  cases f with
  | raised e => exact ⟨e, rfl⟩
  | escaped y => exact absurd hf (h y)

/-- One step after another. -/
theorem bind {f : α → Except (Failure ε) β} (h : NeverEscapes x) (hf : ∀ a, NeverEscapes (f a)) :
    NeverEscapes (x >>= f) := by
  cases hx : x with
  | ok a => exact hf a
  | error failure =>
    obtain ⟨e, rfl⟩ := h.exists_raised hx
    exact .raised e

/-- A function of the value. -/
theorem map (h : NeverEscapes x) (f : α → β) : NeverEscapes (x.map f) := by
  cases hx : x with
  | ok a => exact .ok (f a)
  | error failure =>
    obtain ⟨e, rfl⟩ := h.exists_raised hx
    exact .raised e

/-- Other errors. -/
theorem mapError (h : NeverEscapes x) (f : ε → δ) : NeverEscapes (x.mapError (Failure.map f)) := by
  cases hx : x with
  | ok a => exact .ok a
  | error failure =>
    obtain ⟨e, rfl⟩ := h.exists_raised hx
    exact .raised (f e)

end NeverEscapes

/-! ## Expressions -/

/-- Nothing escapes while fields are looked up. -/
theorem neverEscapes_followFields (on : String) (v : Value) (fields : List String) :
    NeverEscapes (followFields on v fields) := by
  induction fields generalizing on v with
  | nil => exact .ok v
  | cons segment rest ih =>
    cases v with
    | text s => exact .raised _
    | mapping entries =>
      rw [followFields]
      cases entries.get? segment with
      | none => exact .raised _
      | some inner => exact ih segment inner

/-- Nothing escapes while a variable is looked up. -/
theorem Context.neverEscapes_resolve (c : Context) (root : String) (fields : List String) :
    NeverEscapes (c.resolve root fields) := by
  rw [resolve]
  cases c.get? root with
  | some v => exact neverEscapes_followFields root v fields
  | none => exact .raised _

namespace Registry

variable {r : Registry}

/-- Nothing escapes while a function is looked up. -/
theorem neverEscapes_get (r : Registry) (name : String) : NeverEscapes (r.get name) := by
  rw [get]
  cases r.find? name with
  | some entry => exact .ok entry
  | none => exact .raised _

/-- Nothing escapes from a call if nothing escapes from the function. -/
theorem NothingEscapes.neverEscapes_invoke (h : r.NothingEscapes) (name : String)
    (args : List Value) : NeverEscapes (r.invoke name args) := by
  cases hget : r.get name with
  | error failure =>
    obtain ⟨e, rfl⟩ := (r.neverEscapes_get name).exists_raised hget
    rw [invoke, hget, error_bind]
    exact .raised e
  | ok entry =>
    rw [invoke_of_get hget]
    split
    · cases hbody : entry.body args with
      | ok result =>
        rw [mapError_ok, ok_bind, resultOf]
        cases result.toValue with
        | ok v => exact .ok v
        | error e => exact .raised _
      | error failure =>
        cases failure with
        | evaluation e => exact .raised e
        | other kind message => exact .raised _
        | escape x => exact absurd hbody (h _ (mem_entries_of_get hget) args x)
    · exact .raised _

end Registry

namespace Expr

variable {r : Registry}

mutual

/-- Nothing escapes from an expression if nothing escapes from the functions. -/
theorem neverEscapes_value (h : r.NothingEscapes) (c : Context) :
    (e : Expr) → NeverEscapes (e.value r c)
  | text s => by
    rw [value]
    exact .ok _
  | path root fields => by
    rw [value]
    exact c.neverEscapes_resolve root fields
  | call name args => by
    rw [value_call]
    exact (r.neverEscapes_get name).bind fun _ =>
      ((neverEscapes_values h c args).mapError (·.within name)).bind fun vs =>
        (h.neverEscapes_invoke name vs).mapError (·.leaving name)

/-- Nothing escapes from arguments if nothing escapes from the functions. -/
theorem neverEscapes_values (h : r.NothingEscapes) (c : Context) :
    (args : List Expr) → NeverEscapes (values r c args)
  | [] => by
    rw [values]
    exact .ok _
  | e :: rest => by
    rw [values_cons]
    exact (neverEscapes_value h c e).bind fun v => (neverEscapes_values h c rest).map (v :: ·)

end

end Expr

/-! ## Templates and variables -/

section

variable {r : Registry}

/-- Nothing escapes from a part of a template if nothing escapes from the functions. -/
theorem Template.neverEscapes_renderNode (h : r.NothingEscapes) (c : Context) (n : Node) :
    NeverEscapes (renderNode r c n) := by
  cases n with
  | literal s => exact .ok s
  | expr e =>
    rw [renderNode, Expr.evaluate_eq_value]
    exact (Expr.neverEscapes_value h c e).map Value.rendered

/-- Nothing escapes from a template if nothing escapes from the functions. -/
theorem Template.neverEscapes_render (h : r.NothingEscapes) (c : Context) (t : Template) :
    NeverEscapes (t.render r c) := by
  have hnodes (nodes : List Node) : NeverEscapes (renderNodes r c nodes) := by
    induction nodes with
    | nil => exact .ok ""
    | cons n ns ih =>
      rw [renderNodes_cons]
      exact (neverEscapes_renderNode h c n).bind fun first => ih.map (first ++ ·)
  rw [render_eq_renderNodes]
  exact (hnodes t.nodes).mapError (·.inTemplate t.source)

/-- Nothing escapes from a computed variable if nothing escapes from the functions. -/
theorem Variable.neverEscapes_compute (h : r.NothingEscapes) (c : Context) (x : Variable) :
    NeverEscapes (x.compute r c) := by
  cases x with
  | capture name pattern input =>
    rw [compute]
    exact (input.neverEscapes_render h c).bind fun text => .ok _
  | template name value =>
    rw [compute]
    exact (value.neverEscapes_render h c).map Value.text

/-- Nothing escapes from computed variables if nothing escapes from the functions. -/
theorem ContextFactory.neverEscapes_bindAll (h : r.NothingEscapes) (c : Context)
    (xs : List Variable) : NeverEscapes (bindAll r c xs) := by
  induction xs generalizing c with
  | nil => exact .ok c
  | cons x rest ih =>
    rw [bindAll]
    exact (x.neverEscapes_compute h c).bind fun v => ih (c.bind x.name v)

end

end PathTemplates
