import Mathlib.Algebra.GroupWithZero.Nat
import Mathlib.Data.List.DropRight
import PathTemplates.Proofs.Text.Fields
import PathTemplates.Text.Position

/-! # Places and lines

A place in a text stands on the line whose number is that of the line breaks before it, and its column
counts the characters between the start of the line and the place (`exists_lineAt`). The excerpt that shows
a place shows the whole line (`exists_line_positionAt`). -/

namespace PathTemplates

variable {sep : Char}

/-! ## Counting fields -/

/-- There is one field more than there are separating characters. -/
theorem length_splitOn (sep : Char) (cs : List Char) : (cs.splitOn sep).length = cs.count sep + 1 := by
  induction cs with
  | nil => simp [List.splitOn_nil]
  | cons c cs ih =>
    rw [List.splitOn_cons_eq_if_modifyHead, List.count_cons]
    by_cases hc : (c == sep) = true
    · rw [if_pos hc, if_pos hc, List.length_cons, ih]
    · rw [if_neg hc, if_neg hc, List.length_modifyHead, ih, Nat.add_zero]

/-- The fields, each with a separating character after it, are as long as the text with one more. -/
theorem sum_splitOn (sep : Char) (cs : List Char) :
    ((cs.splitOn sep).map fun field => field.length + 1).sum = cs.length + 1 := by
  induction cs with
  | nil => simp [List.splitOn_nil]
  | cons c cs ih =>
    rw [List.splitOn_cons_eq_if_modifyHead, List.length_cons, ← ih]
    by_cases hc : (c == sep) = true
    · rw [if_pos hc, List.map_cons, List.sum_cons, List.length_nil]
      omega
    · rw [if_neg hc]
      cases hfields : cs.splitOn sep with
      | nil => exact absurd hfields (List.splitOn_ne_nil sep cs)
      | cons field fields =>
        rw [List.modifyHead_cons, List.map_cons, List.map_cons, List.sum_cons, List.sum_cons,
          List.length_cons]
        omega

/-- The first field reaches to the first separating character. -/
theorem exists_splitOn_append {front : List Char} (cs : List Char) (h : sep ∉ front) :
    ∃ others, (front ++ cs).splitOn sep = (front ++ cs.takeWhile (· != sep)) :: others := by
  have hsplit := List.takeWhile_append_dropWhile (p := (· != sep)) (l := cs)
  have hfree : sep ∉ front ++ cs.takeWhile (· != sep) := by
    rw [List.mem_append, not_or]
    exact ⟨h, fun hmem => by simpa using List.mem_takeWhile_imp hmem⟩
  -- the first field is all there is, or a separating character stands behind it
  cases hrest : cs.dropWhile (· != sep) with
  | nil =>
    rw [hrest, List.append_nil] at hsplit
    rw [hsplit] at hfree ⊢
    exact ⟨[], List.splitOn_eq_singleton hfree⟩
  | cons c rest =>
    obtain rfl : c = sep := by
      have hc := List.head?_dropWhile_not (· != sep) cs
      rw [hrest] at hc
      simpa using hc
    rw [hrest] at hsplit
    refine ⟨rest.splitOn c, ?_⟩
    rw [← List.splitOn_append_cons_self_of_not_mem hfree, List.append_assoc, hsplit]

/-! ## The line of a place -/

/-- What stands before a place ends with the part of its line that stands before it; all earlier lines
end with line breaks. -/
theorem exists_lineStart (before : List Char) :
    ∃ front last, before = front ++ last ∧ lineStart before = front.length ∧ '\n' ∉ last ∧
      (front = [] ∨ ∃ earlier, front = earlier ++ ['\n']) := by
  have hsplit := List.rdropWhile_append_rtakeWhile (p := (· != '\n')) (l := before)
  refine ⟨before.rdropWhile (· != '\n'), before.rtakeWhile (· != '\n'), hsplit.symm, ?_, ?_, ?_⟩
  · have hlength := congrArg List.length hsplit
    rw [List.length_append, List.rtakeWhile, List.length_reverse] at hlength
    rw [lineStart]
    omega
  · intro hmem
    simpa using List.mem_rtakeWhile_imp hmem
  · by_cases hne : before.rdropWhile (· != '\n') = []
    · exact .inl hne
    · have hlast : (before.rdropWhile (· != '\n')).getLast hne = '\n' := by
        simpa using List.rdropWhile_last_not (· != '\n') before hne
      have hinit := List.dropLast_append_getLast hne
      rw [hlast] at hinit
      exact .inr ⟨_, hinit.symm⟩

/-- A place stands on the line after as many lines as there are line breaks before it, and these lines are
all that stands before its line. -/
theorem exists_lineAt (before after : List Char) :
    ∃ earlier later, (before ++ after).splitOn '\n' = earlier ++
        (before.drop (lineStart before) ++ after.takeWhile (· != '\n')) :: later ∧
      earlier.length = before.count '\n' ∧
      (earlier.map fun line => line.length + 1).sum = lineStart before := by
  obtain ⟨front, last, hbefore, hstart, hlast, hfront⟩ := exists_lineStart before
  obtain ⟨later, hlater⟩ := exists_splitOn_append after hlast
  have hdrop : before.drop (lineStart before) = last := by rw [hstart, hbefore, List.drop_left]
  have hnone : last.count '\n' = 0 := List.count_eq_zero.mpr hlast
  rw [hdrop, hstart, hbefore, List.count_append, hnone, Nat.add_zero, List.append_assoc]
  -- the place is on the first line, or a line break closes the lines before its own
  rcases hfront with rfl | ⟨earlier, rfl⟩
  · exact ⟨[], later, hlater, rfl, rfl⟩
  · refine ⟨earlier.splitOn '\n', later, ?_, ?_, ?_⟩
    · rw [List.append_assoc, List.singleton_append, List.splitOn_append_cons_self, hlater]
    · rw [length_splitOn, List.count_append, List.count_singleton_self]
    · rw [sum_splitOn, List.length_append, List.length_singleton]

/-! ## Lines, columns and excerpts -/

section Inside

variable {source : String} {n : Nat} (h : n ≤ source.length)

include h

theorem clampOffset_eq : clampOffset source.toList.length n = n := by
  rw [String.length_toList, clampOffset, if_neg (by omega), Int.toNat_natCast, Nat.min_eq_left h]

theorem textBefore_eq : textBefore source.toList n = source.toList.take n := by
  rw [textBefore, clampOffset_eq h]

/-- The line of a place counts the line breaks before it, and the column the characters after the last of
these. -/
theorem positionAt_eq : positionAt source n =
    ⟨(source.toList.take n).count '\n' + 1, n - lineStart (source.toList.take n) + 1⟩ := by
  simp only [positionAt, textBefore_eq h]

/-- An excerpt is the line of the place, and a caret below with spaces in front of it. -/
theorem caretExcerpt_eq : caretExcerpt source n =
    String.ofList ((source.toList.take n).drop (lineStart (source.toList.take n)) ++
      (source.toList.drop n).takeWhile (· != '\n')) ++ "\n" ++
      spaces (n - lineStart (source.toList.take n)) ++ "^" := by
  have hinside : ¬ (n : Int) > source.toList.length := by
    rw [String.length_toList]
    omega
  have hstart : lineStart (source.toList.take n) ≤ (source.toList.take n).length := Nat.sub_le ..
  have hrest : (source.toList.drop n).takeWhile (· != '\n') = (source.toList.drop n).take
      ((source.toList.drop n).takeWhile (· != '\n')).length :=
    List.prefix_iff_eq_take.mp (List.takeWhile_prefix _)
  simp only [caretExcerpt, textBefore_eq h, clampOffset_eq h, if_neg hinside]
  rw [List.take_add, ← hrest, List.drop_append_of_le_length hstart, Int.toNat_sub, ← String.toList_inj]
  simp [spaces]

/-- The line of a place is one of the text. The lines before it, each with its line break, reach to where
it starts, the place is on it or right behind it, and it is the line that the excerpt shows. -/
theorem exists_line_positionAt : ∃ line start,
    (source.toList.splitOn '\n')[(positionAt source n).line - 1]? = some line ∧
    (((source.toList.splitOn '\n').take ((positionAt source n).line - 1)).map
      fun l => l.length + 1).sum = start ∧
    start ≤ n ∧ n ≤ start + line.length ∧ (positionAt source n).column = n - start + 1 ∧
    caretExcerpt source n = String.ofList line ++ "\n" ++ spaces (n - start) ++ "^" := by
  obtain ⟨earlier, later, hlines, hearlier, hsum⟩ :=
    exists_lineAt (source.toList.take n) (source.toList.drop n)
  rw [List.take_append_drop] at hlines
  have hlength : (source.toList.take n).length = n := by
    rw [List.length_take, String.length_toList, Nat.min_eq_left h]
  have hstart : lineStart (source.toList.take n) ≤ n := by
    rw [lineStart, hlength]
    exact Nat.sub_le ..
  have hnumber : (positionAt source n).line - 1 = earlier.length := by
    rw [positionAt_eq h, Nat.add_sub_cancel, hearlier]
  refine ⟨_, lineStart (source.toList.take n), ?_, ?_, hstart, ?_, ?_, caretExcerpt_eq h⟩
  · rw [hnumber, hlines, List.getElem?_append_right (Nat.le_refl _), Nat.sub_self, List.getElem?_cons_zero]
  · rw [hnumber, hlines, List.take_left, hsum]
  · rw [List.length_append, List.length_drop, hlength]
    omega
  · rw [positionAt_eq h]

end Inside

end PathTemplates
