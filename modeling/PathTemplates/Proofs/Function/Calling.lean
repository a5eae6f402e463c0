import PathTemplates.Function.Registry
import PathTemplates.Proofs.Bindings
import PathTemplates.Proofs.Outcome

/-! # Calling functions

A call looks its function up, checks the number of arguments and leaves the rest to the body. -/

namespace PathTemplates.Registry

variable {r : Registry} {name : String} {entry : FunctionEntry}

/-- A function that has an entry is found. -/
theorem get_eq_ok (h : (r.find? name).isSome) : ∃ entry, r.get name = .ok entry := by
  obtain ⟨entry, hentry⟩ := Option.isSome_iff_exists.mp h
  exact ⟨entry, by rw [get, hentry]⟩

/-- A function that is found is registered under its name. -/
theorem mem_entries_of_get (h : r.get name = .ok entry) : (name, entry) ∈ r.entries := by
  rw [get] at h
  cases hfind : r.find? name with
  | none => simp [hfind] at h
  | some found =>
    obtain rfl : found = entry := by simpa [hfind] using h
    exact Bindings.mem_of_get?_eq_some hfind

/-- A call of a known function is up to the function's body if it accepts the number of arguments. -/
theorem invoke_of_get (hget : r.get name = .ok entry) (args : List Value) :
    r.invoke name args =
      if entry.arity.accepts args.length then
        (entry.body args).mapError (failureOf name) >>= resultOf name
      else .error (.of (.arityMismatch name entry.arity.describe args.length)) := by
  rw [invoke, hget, ok_bind]
  rfl

end PathTemplates.Registry
