import Mathlib.Data.String.Basic
import PathTemplates.Text.Search

/-! # Fields of a text

Texts that are split at a separating character, and pieces that are joined with one between them. -/

namespace PathTemplates

variable {sep : Char}

/-- The fields between separating characters are those that `List.splitOn` gives. -/
theorem splitChar_eq_splitOn (sep : Char) (cs : List Char) : splitChar sep cs = cs.splitOn sep := by
  induction cs with
  | nil => rw [splitChar, List.splitOn_nil]
  | cons c cs ih =>
    rw [splitChar, ih, List.splitOn_cons_eq_if_modifyHead]
    cases hfields : cs.splitOn sep with
    | nil => exact absurd hfields (List.splitOn_ne_nil sep cs)
    | cons field fields => rfl

/-- A field holds no separating character. -/
theorem notMem_of_mem_splitOn {cs field : List Char} (h : field ∈ cs.splitOn sep) : sep ∉ field := by
  induction cs generalizing field with
  | nil =>
    obtain rfl : field = [] := by simpa [List.splitOn_nil] using h
    simp
  | cons c cs ih =>
    rw [List.splitOn_cons_eq_if_modifyHead] at h
    by_cases hc : c = sep
    · rw [if_pos (beq_iff_eq.mpr hc)] at h
      rcases List.mem_cons.mp h with rfl | hrest
      · simp
      · exact ih hrest
    · -- the character belongs to the first of the other fields
      rw [if_neg (mt beq_iff_eq.mp hc)] at h
      cases hfields : cs.splitOn sep with
      | nil => exact absurd hfields (List.splitOn_ne_nil sep cs)
      | cons first rest =>
        rw [hfields, List.modifyHead_cons] at h
        rcases List.mem_cons.mp h with rfl | hrest
        · have hfirst : sep ∉ first := ih (hfields ▸ List.mem_cons_self ..)
          simpa [Ne.symm hc] using hfirst
        · exact ih (hfields ▸ List.mem_cons_of_mem first hrest)

/-- Pieces that are joined start with the first one. -/
theorem exists_joinWith_cons_eq (sep first : String) (others : List String) :
    ∃ rest, joinWith sep (first :: others) = first ++ rest := by
  rw [joinWith]
  cases others with
  | nil => exact ⟨"", by simp⟩
  | cons second more =>
    rw [String.intercalate_cons_cons, String.append_assoc]
    exact ⟨_, rfl⟩

/-- Pieces without the separating character are the fields of the text that they are joined to. -/
theorem splitOn_joinWith {pieces : List String} (h : ∀ s ∈ pieces, sep ∉ s.toList)
    (hne : pieces ≠ []) :
    (joinWith (String.singleton sep) pieces).toList.splitOn sep = pieces.map String.toList := by
  have hfree : ∀ field ∈ pieces.map String.toList, sep ∉ field := by
    intro field hfield
    obtain ⟨s, hs, rfl⟩ := List.mem_map.mp hfield
    exact h s hs
  rw [joinWith, String.toList_intercalate, String.toList_singleton]
  exact List.splitOn_intercalate sep hfree (mt List.map_eq_nil_iff.mp hne)

end PathTemplates
