import PathTemplates.Function.Builtins

/-! # How functions fail

A function fails with an error of its own or passes one on, unless something escapes from it. Whether a
registry has functions that report an unknown function themselves (`Registry.ReportsNoUnknown`) and
whether anything escapes from them (`Registry.NothingEscapes`) is told of each step of a function at once
(`FunctionBody.FailsHarmlessly`); the built-in functions do neither. -/

namespace PathTemplates

/-- A step of a function that does not report an unknown function. -/
def FunctionBody.ReportsNoUnknown {α : Type} (x : Except CallFailure α) : Prop :=
  ∀ e, x = .error (.evaluation e) → ∀ name available, e.cause ≠ .unknownFunction name available

/-- A registry none of whose functions reports an unknown function itself. -/
def Registry.ReportsNoUnknown (r : Registry) : Prop :=
  ∀ entry ∈ r.entries, ∀ args, FunctionBody.ReportsNoUnknown (entry.2.body args)

/-- A registry from none of whose functions anything escapes. -/
def Registry.NothingEscapes (r : Registry) : Prop :=
  ∀ entry ∈ r.entries, ∀ args x, entry.2.body args ≠ .error (.escape x)

/-- A failure that is neither the report of an unknown function nor an escape. -/
def CallFailure.Harmless : CallFailure → Prop
  | evaluation e => ∀ name available, e.cause ≠ .unknownFunction name available
  | other _ _ => True
  | escape _ => False

/-! ## Steps of functions -/

namespace FunctionBody

/-- A step of a function that fails harmlessly if it fails. -/
def FailsHarmlessly {α : Type} (x : Except CallFailure α) : Prop :=
  ∀ failure, x = .error failure → failure.Harmless

namespace FailsHarmlessly

variable {α β : Type} {x : Except CallFailure α}

/-- A value is no failure. -/
theorem ok (a : α) : FailsHarmlessly (.ok a) := by
  rintro failure ⟨⟩

/-- A harmless failure. -/
theorem error {failure : CallFailure} (h : failure.Harmless) :
    FailsHarmlessly (.error failure : Except CallFailure α) := by
  rintro _ ⟨⟩
  exact h

/-- A failure that is passed on is as harmless as before. -/
theorem passOn {failure : CallFailure}
    (h : FailsHarmlessly (.error failure : Except CallFailure α)) :
    FailsHarmlessly (.error failure : Except CallFailure β) :=
  .error (h failure rfl)

/-- One step after another fails harmlessly if both do. -/
theorem bind {f : α → Except CallFailure β} (h : FailsHarmlessly x)
    (hf : ∀ a, FailsHarmlessly (f a)) : FailsHarmlessly (x >>= f) := by
  cases x with
  | ok a => exact hf a
  | error failure => exact h.passOn

/-- The same step for every element of a list fails harmlessly if it always does. -/
theorem mapM {f : α → Except CallFailure β} (hf : ∀ a, FailsHarmlessly (f a)) (xs : List α) :
    FailsHarmlessly (xs.mapM f) := by
  induction xs with
  | nil => exact .ok []
  | cons a xs ih =>
    rw [List.mapM_cons]
    exact (hf a).bind fun b => ih.bind fun bs => .ok (b :: bs)

end FailsHarmlessly

/-- Taking an argument fails harmlessly. -/
theorem failsHarmlessly_argumentAt (args : List Value) (index : Int) :
    FailsHarmlessly (argumentAt args index) := by
  rw [argumentAt]
  split
  · exact .ok _
  · exact .error trivial

/-- An argument of the wrong kind is a harmless failure. -/
theorem harmless_wrongKind (function : String) (index : Int) (expected got : ValueKind) :
    (wrongKind function index expected got).Harmless := by
  rintro name available ⟨⟩

/-- Taking an argument that must be a text fails harmlessly. -/
theorem failsHarmlessly_textAt (function : String) (args : List Value) (index : Int) :
    FailsHarmlessly (textAt function args index) := by
  have hargument := failsHarmlessly_argumentAt args index
  rw [textAt]
  split
  · exact .ok _
  · exact .error (harmless_wrongKind _ _ _ _)
  · rename_i failure hfailure
    exact (hfailure ▸ hargument).passOn

/-- Taking an argument that must be a mapping fails harmlessly. -/
theorem failsHarmlessly_mappingAt (function : String) (args : List Value) (index : Int) :
    FailsHarmlessly (mappingAt function args index) := by
  have hargument := failsHarmlessly_argumentAt args index
  rw [mappingAt]
  split
  · exact .ok _
  · exact .error (harmless_wrongKind _ _ _ _)
  · rename_i failure hfailure
    exact (hfailure ▸ hargument).passOn

end FunctionBody

/-! ## The built-in functions -/

namespace Builtin

open FunctionBody

/-- A function of one text fails harmlessly. -/
theorem failsHarmlessly_onText (name : String) (f : String → String) (args : List Value) :
    FailsHarmlessly (onText name f args) :=
  (failsHarmlessly_textAt name args 0).bind fun _ => .ok _

/-- Taking all arguments fails harmlessly. -/
theorem failsHarmlessly_allTexts (name : String) (args : List Value) :
    FailsHarmlessly (allTexts name args) :=
  .mapM (f := fun (i : Nat) => textAt name args i) (fun i => failsHarmlessly_textAt name args i) _

/-- Filling a text with zeros fails harmlessly. -/
theorem failsHarmlessly_zeroFilled (s width : String) : FailsHarmlessly (zeroFilled s width) := by
  rw [zeroFilled]
  split
  · exact .error trivial
  · split
    · exact .error trivial
    · split
      · exact .error trivial
      · exact .ok _

/-- Looking up a key fails harmlessly. -/
theorem failsHarmlessly_fieldOf (entries : Dict String Value) (key : String) :
    FailsHarmlessly (fieldOf entries key) := by
  rw [fieldOf]
  split
  · exact .ok _
  · refine .error ?_
    rintro name available ⟨⟩

/-- Taking the parent of a path fails harmlessly. -/
theorem failsHarmlessly_parentOf (s : String) : FailsHarmlessly (parentOf s) := by
  rw [parentOf]
  split
  · exact .error trivial
  · exact .ok _

/-- The built-in functions fail harmlessly. -/
theorem failsHarmlessly_body {entry : String × FunctionEntry} (h : entry ∈ registry.entries)
    (args : List Value) : FailsHarmlessly (entry.2.body args) := by
  simp only [registry, all, List.map_cons, List.map_nil, List.mem_cons, List.not_mem_nil, or_false] at h
  -- the functions of one text are one case each, and the others take their arguments one by one
  rcases h with rfl | rfl | rfl | rfl | rfl | rfl | rfl | rfl | rfl | rfl | rfl | rfl | rfl
  · exact failsHarmlessly_onText _ _ args
  · exact failsHarmlessly_onText _ _ args
  · exact failsHarmlessly_onText _ _ args
  · exact failsHarmlessly_onText _ _ args
  · exact (failsHarmlessly_textAt _ args 0).bind fun _ =>
      (failsHarmlessly_textAt _ args 1).bind fun _ =>
        (failsHarmlessly_textAt _ args 2).bind fun _ => .ok _
  · exact (failsHarmlessly_allTexts _ args).bind fun _ => .ok _
  · exact (failsHarmlessly_textAt _ args 0).bind fun s =>
      (failsHarmlessly_textAt _ args 1).bind fun width => failsHarmlessly_zeroFilled s width
  · exact (failsHarmlessly_mappingAt _ args 0).bind fun entries =>
      (failsHarmlessly_textAt _ args 1).bind fun key => failsHarmlessly_fieldOf entries key
  · exact failsHarmlessly_onText _ _ args
  · exact failsHarmlessly_onText _ _ args
  · exact failsHarmlessly_onText _ _ args
  · exact (failsHarmlessly_textAt _ args 0).bind fun s => failsHarmlessly_parentOf s
  · exact (failsHarmlessly_allTexts _ args).bind fun _ => .ok _

/-- The built-in functions never report an unknown function themselves. -/
theorem reportsNoUnknown_registry : registry.ReportsNoUnknown :=
  fun _ hentry args _ he => failsHarmlessly_body hentry args _ he

/-- Nothing escapes from the built-in functions. -/
theorem nothingEscapes_registry : registry.NothingEscapes :=
  fun _ hentry args _ hx => failsHarmlessly_body hentry args _ hx

end Builtin

end PathTemplates
