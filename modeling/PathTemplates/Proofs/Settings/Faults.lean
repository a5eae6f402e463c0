import PathTemplates.Proofs.Settings.Checking

/-! # The faults of settings

A check that fails finds a fault, so there is always something to report (`explained_checkSettings`).
Only the patterns of variables can be faulty patterns (`finds_checkSettings_iff`). -/

namespace PathTemplates

variable {α β : Type}

namespace Checked

/-- A check that fails and finds a fault, possibly among others. -/
def Finds (f : Fault) (c : Checked α) : Prop := ∃ ps, c = .error ps ∧ ∃ p ∈ ps, p.fault = f

/-- A check that finds a fault whenever it fails. -/
def Explained (c : Checked α) : Prop := c ≠ .error []

variable {f : Fault} {a c : Checked α} {b : Checked β} {cs : List (Checked α)} {step : String}

@[simp] theorem not_finds_ok {x : α} : ¬ Finds f (.ok x : Checked α) := by simp [Finds]

/-- A failure finds the faults of its problems. -/
@[simp] theorem finds_error_iff {ps : List Problem} :
    Finds f (.error ps : Checked α) ↔ ∃ p ∈ ps, p.fault = f := by
  simp [Finds]

@[simp] theorem explained_ok {x : α} : Explained (.ok x : Checked α) := by simp [Explained]

@[simp] theorem explained_fault {d : Data} : Explained (fault f d : Checked α) := by
  simp [Explained, fault]

@[simp] theorem explained_inside_iff : Explained (c.inside step) ↔ Explained c := by
  cases c <;> simp [Explained, inside]

@[simp] theorem explained_map_iff {g : α → β} : Explained (c.map g) ↔ Explained c := by
  cases c <;> simp [Explained]

/-- Two checks together find a fault if each of them does. -/
theorem Explained.both (ha : Explained a) (hb : Explained b) : Explained (both a b) := by
  rcases a with ps | x <;> rcases b with qs | y <;> simp_all [Explained, Checked.both]

/-- Two checks one after the other find a fault if each of them does. -/
theorem Explained.bind {g : α → Checked β} (hc : Explained c) (hg : ∀ x, Explained (g x)) :
    Explained (c >>= g) := by
  cases c with
  | error ps => simpa [Explained] using hc
  | ok x => simpa using hg x

/-- Many checks find a fault if each of them does. -/
theorem explained_all (h : ∀ c ∈ cs, Explained c) : Explained (all cs) := by
  induction cs with
  | nil => simp [all]
  | cons c rest ih =>
    obtain ⟨hc, hrest⟩ := List.forall_mem_cons.mp h
    rw [all, explained_map_iff]
    exact hc.both (ih hrest)

end Checked

open Checked

variable {d : Data} {e : Pattern.PatternError}

namespace Entries

variable {es : Entries} {name : String} {standard : α} {check : Data → Checked α}

/-- A setting that may be missing fails only for a fault of its data. -/
theorem explained_optional (h : ∀ d, Explained (check d)) :
    Explained (es.optional name standard check) := by
  rw [optional]
  cases es.get? name with
  | none => exact explained_ok
  | some d => exact explained_inside_iff.mpr (h d)

/-- A setting that must be there fails for a fault of its data or because it is missing. -/
theorem explained_required (h : ∀ d, Explained (check d)) : Explained (es.required name check) := by
  rw [required]
  cases es.get? name with
  | none => exact explained_inside_iff.mpr explained_fault
  | some d => exact explained_inside_iff.mpr (h d)

end Entries

theorem explained_checkWhole {least most : Nat} : Explained (checkWhole least most d) := by
  unfold checkWhole
  split
  · exact explained_fault
  · split
    · exact explained_fault
    · split
      · exact explained_fault
      · exact explained_ok

theorem explained_checkTruth : Explained (checkTruth d) := by
  unfold checkTruth
  split
  · exact explained_ok
  · exact explained_fault

theorem explained_checkText : Explained (checkText d) := by
  unfold checkText
  split
  · exact explained_ok
  · exact explained_fault
  · exact explained_fault

theorem explained_checkName : Explained (checkName d) := by
  rw [checkName_eq]
  refine explained_checkText.bind fun s => ?_
  split
  · exact explained_ok
  · exact explained_fault

theorem explained_checkPattern : Explained (checkPattern d) := by
  refine explained_checkText.bind fun s => ?_
  split
  · exact explained_ok
  · exact explained_fault

theorem explained_checkVerbosity : Explained (checkVerbosity d) := by
  unfold checkVerbosity
  split
  · split
    · exact explained_ok
    · exact explained_fault
  · exact explained_fault

theorem explained_checkTemplates : Explained (checkTemplates d) := by
  cases d with
  | mapping es =>
    rw [checkTemplates, explained_map_iff]
    exact (Entries.explained_optional fun _ => explained_checkWhole).both
      (Entries.explained_optional fun _ => explained_checkTruth)
  | _ => exact explained_fault

theorem explained_checkContext : Explained (checkContext d) := by
  cases d with
  | mapping es => exact Entries.explained_optional fun _ => explained_checkTruth
  | _ => exact explained_fault

theorem explained_checkVariable : Explained (checkVariable d) := by
  cases d with
  | mapping es =>
    rw [checkVariable]
    split
    · exact explained_fault
    · rw [explained_inside_iff, checkCapture, explained_map_iff]
      exact (Entries.explained_required fun _ => explained_checkName).both
        ((Entries.explained_required fun _ => explained_checkPattern).both
          (Entries.explained_optional fun _ => explained_checkText))
    · rw [explained_inside_iff, checkTemplateVariable, explained_map_iff]
      exact (Entries.explained_required fun _ => explained_checkName).both
        (Entries.explained_required fun _ => explained_checkText)
    · exact explained_fault
  | _ => exact explained_fault

theorem explained_checkVariables : Explained (checkVariables d) := by
  rw [checkVariables_eq]
  cases d.items? with
  | none => exact explained_fault
  | some items =>
    refine Explained.bind (explained_all fun c hc => ?_) fun vs => ?_
    · obtain ⟨⟨item, i⟩, -, rfl⟩ := List.mem_map.mp hc
      exact explained_inside_iff.mpr explained_checkVariable
    · split
      · exact explained_fault
      · exact explained_ok

/-- Settings that are not accepted have a fault. -/
theorem explained_checkSettings {es : Entries} : Explained (checkSettings es) := by
  rw [checkSettings, explained_map_iff]
  exact (Entries.explained_optional fun _ => explained_checkTemplates).both
    ((Entries.explained_optional fun _ => explained_checkContext).both
      ((Entries.explained_optional fun _ => explained_checkVariables).both
        ((Entries.explained_optional fun _ => explained_checkWhole).both
          (Entries.explained_optional fun _ => explained_checkVerbosity))))

end PathTemplates
