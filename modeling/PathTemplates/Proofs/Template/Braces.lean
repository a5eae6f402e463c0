import PathTemplates.Proofs.Template.Concatenation

/-! # Expressions with and without braces

The inside of an expression is found in three ways: alone it is the whole text, in braces it ends at the
last closing ones, and in a template at the first closing ones outside quotes. They agree on every text
that is not in braces itself:

* braces and blanks around a text are taken off again (`unwrap?_braced`);
* the closing braces of a template are the ones after the text exactly if the text is the whole inside of
  its only expression (`ofChars_braced_eq_iff`), and a text that splits into tokens closes nothing. -/

namespace PathTemplates

/-! ## Taking braces off -/

/-- Blanks before a text that starts with another character are dropped. -/
theorem dropWhile_blanks {w : List Char} (hw : isAllBlank w) {c : Char} (rest : List Char)
    (hc : isBlank c = false) : (w ++ c :: rest).dropWhile isBlank = c :: rest := by
  rw [List.dropWhile_append_of_pos (List.all_eq_true.mp hw), List.dropWhile_cons_of_neg (by simp [hc])]

/-- Blanks at both ends of a text are taken off. -/
theorem trimBlank_blanks {w w' : List Char} (hw : isAllBlank w) (hw' : isAllBlank w') {a b : Char}
    (middle : List Char) (ha : isBlank a = false) (hb : isBlank b = false) :
    trimBlank (w ++ a :: (middle ++ b :: w')) = a :: (middle ++ [b]) := by
  have hreverse : (a :: (middle ++ b :: w')).reverse = w'.reverse ++ b :: (a :: middle).reverse := by
    simp
  have hblank : isAllBlank w'.reverse := by rwa [isAllBlank, List.all_reverse]
  rw [trimBlank, trimWhile, dropWhile_blanks hw _ ha, trimEndWhile, hreverse,
    dropWhile_blanks hblank _ hb]
  simp

namespace Expr

/-- A text in braces: without the blanks at its ends it starts with opening braces and ends with closing
ones. -/
def IsBraced (cs : List Char) : Prop := ['{', '{'] <+: trimBlank cs ∧ ['}', '}'] <:+ trimBlank cs

instance (cs : List Char) : Decidable (IsBraced cs) := inferInstanceAs (Decidable (_ ∧ _))

/-- A text that is not in braces is left as it is. -/
theorem unwrap?_eq_none {cs : List Char} (h : ¬ IsBraced cs) : unwrap? cs = none := by
  rw [unwrap?]
  split
  · rename_i inner htrim
    split
    · rename_i body hinner
      -- both pairs of braces were found, so the text would be in braces
      refine absurd ⟨?_, ?_⟩ h
      · exact ⟨inner, htrim.symm⟩
      · refine ⟨'{' :: '{' :: body.reverse, ?_⟩
        rw [htrim, ← inner.reverse_reverse, hinner]
        simp
    · rfl
  · rfl

/-- Braces around a text and blanks around these are taken off again. -/
theorem unwrap?_braced {w w' : List Char} (hw : isAllBlank w) (hw' : isAllBlank w')
    (cs : List Char) :
    unwrap? (w ++ '{' :: '{' :: (cs ++ '}' :: '}' :: w')) = some (w.length + 2, cs) := by
  have hbrace : isBlank '{' = false ∧ isBlank '}' = false := by decide
  have htrim : trimBlank (w ++ '{' :: '{' :: (cs ++ '}' :: '}' :: w')) =
      '{' :: '{' :: (cs ++ ['}', '}']) := by
    have h := trimBlank_blanks hw hw' ('{' :: (cs ++ ['}'])) hbrace.1 hbrace.2
    simpa using h
  have hleading : (w ++ '{' :: '{' :: (cs ++ '}' :: '}' :: w')).takeWhile isBlank = w := by
    rw [List.takeWhile_append_of_pos (List.all_eq_true.mp hw),
      List.takeWhile_cons_of_neg (by simp [hbrace.1]), List.append_nil]
  have hreverse : (cs ++ ['}', '}']).reverse = '}' :: '}' :: cs.reverse := by simp
  simp [unwrap?, htrim, hleading, hreverse]

end Expr

/-! ## Braces in a template -/

namespace Segment

/-- Only the empty text has no segments. -/
theorem ofChars_eq_nil_iff {cs : List Char} : ofChars cs = [] ↔ cs = [] := by
  constructor
  · intro h
    rw [ofChars_eq] at h
    split at h
    · by_contra hne
      simp [literals, hne] at h
    · split at h <;> simp at h
  · rintro rfl
    rw [ofChars_eq]
    rfl

/-- A text in braces is a template of one expression exactly if it is the inside of that expression and
closes nothing itself. -/
theorem ofChars_braced_eq_iff {cs text : List Char} :
    ofChars ('{' :: '{' :: (cs ++ ['}', '}'])) = [inside text] ↔
      text = cs ∧ cutClose? none (cs ++ ['}', '}']) = some (cs, []) := by
  have hcut : cutAt? ['{', '{'] ('{' :: '{' :: (cs ++ ['}', '}'])) = some ([], cs ++ ['}', '}']) :=
    cutAt?_braces_eq_some_iff.mpr ⟨rfl, by decide⟩
  rw [ofChars_eq, hcut]
  cases hclose : cutClose? none (cs ++ ['}', '}']) with
  | none => simp [literals, hclose]
  | some found =>
    obtain ⟨i, rest⟩ := found
    have hsplit := eq_append_of_cutClose? hclose
    simp only [hclose, literals, List.isEmpty_nil, if_true, List.nil_append, List.cons.injEq,
      inside.injEq, ofChars_eq_nil_iff, Option.some.injEq, Prod.mk.injEq]
    constructor
    · rintro ⟨rfl, rfl⟩
      obtain rfl : cs = i := List.append_cancel_right hsplit
      exact ⟨rfl, rfl, rfl⟩
    · rintro ⟨rfl, rfl, rfl⟩
      exact ⟨rfl, rfl⟩

/-- The segments of a text in braces stand for one expression exactly if the text is its inside. -/
theorem denotes_braced_iff {cs : List Char} {e : Expr} :
    List.Forall₂ Denotes (ofChars ('{' :: '{' :: (cs ++ ['}', '}']))) [.expr e] ↔ Interior cs e := by
  constructor
  · intro h
    obtain ⟨s, ss, hs, hss, hsegments⟩ := List.forall₂_cons_right_iff.mp h
    obtain rfl := List.forall₂_nil_right_iff.mp hss
    cases hs with
    | inside hinterior =>
      obtain ⟨rfl, -⟩ := ofChars_braced_eq_iff.mp hsegments
      exact hinterior
  · rintro ⟨ts, hlexes, hgrammar⟩
    -- braces in quoted texts close nothing, so the ones after the text are the first
    have hclose : cutClose? none (cs ++ ['}', '}']) = some (cs, []) := by
      rw [cutClose?_of_lexes hlexes, cutClose?, pass_some, List.append_nil]
    rw [ofChars_braced_eq_iff.mpr ⟨rfl, hclose⟩]
    exact .cons (.inside ⟨ts, hlexes, hgrammar⟩) .nil

end Segment

/-! ## The three ways agree -/

namespace Expr

/-- A text that is not in braces is parsed as it is. -/
theorem parse_of_not_isBraced {e : String} (h : ¬ IsBraced e.toList) :
    parse e = (ofChars e.toList).mapError (SyntaxError.report e) := by
  rw [parse, unwrap?_eq_none h]

/-- A text that is not in braces means the same by itself, in braces with blanks around them, and as the
only expression of a template: it gives the same tree, or an error with the same reason and expectation,
which in braces stands further to the right by the length of what comes before the text. -/
theorem parse_braced {e w w' : String} (he : ¬ IsBraced e.toList) (hw : isAllBlank w.toList)
    (hw' : isAllBlank w'.toList) :
    let braced := Template.openBraces ++ e ++ Template.closeBraces
    let padded := w ++ braced ++ w'
    parse padded = ((parse e).mapError fun err =>
      { err with source := padded, offset := err.offset + (w.length + 2 : Nat) }) ∧
    ∀ x, Template.parse braced = .ok ⟨[.expr x], braced⟩ ↔ parse e = .ok x := by
  intro braced padded
  have hbraced : braced.toList = '{' :: '{' :: (e.toList ++ ['}', '}']) := by
    simp [braced, Template.openBraces, Template.closeBraces]
  have hpadded : padded.toList = w.toList ++ '{' :: '{' :: (e.toList ++ '}' :: '}' :: w'.toList) := by
    simp [padded, hbraced]
  constructor
  · simp only [parse, hpadded, unwrap?_braced hw hw', unwrap?_eq_none he]
    cases ofChars e.toList <;> simp [SyntaxError.report, SyntaxError.shift, String.length_toList]
  · intro x
    rw [Template.parse_eq_ok_iff, hbraced, Segment.denotes_braced_iff, ← ofChars_eq_ok_iff,
      parse_of_not_isBraced he]
    cases ofChars e.toList <;> simp

/-- Closing braces in a quoted text do not end the expression, and a quote that is not closed is the same
error three characters further to the right. -/
theorem parse_braced_quoted :
    ¬ IsBraced "f('\x7d\x7d')".toList ∧ ¬ IsBraced "f('\x7d\x7d".toList ∧ isAllBlank "\n".toList ∧
    parse "\n\x7b\x7bf('\x7d\x7d')\x7d\x7d\n" = .ok (.call "f" [.text "\x7d\x7d"]) ∧
    Template.parse "\x7b\x7bf('\x7d\x7d')\x7d\x7d" =
      .ok ⟨[.expr (.call "f" [.text "\x7d\x7d"])], "\x7b\x7bf('\x7d\x7d')\x7d\x7d"⟩ ∧
    parse "f('\x7d\x7d" = .error ⟨"unterminated string literal", "f('\x7d\x7d", 2, ""⟩ ∧
    parse "\n\x7b\x7bf('\x7d\x7d\x7d\x7d\n" =
      .error ⟨"unterminated string literal", "\n\x7b\x7bf('\x7d\x7d\x7d\x7d\n", 5, ""⟩ := by
  have hblank : isAllBlank "\n".toList := by decide
  have hclosed : ¬ IsBraced "f('\x7d\x7d')".toList := by decide
  have hopen : ¬ IsBraced "f('\x7d\x7d".toList := by decide
  have hparse : parse "f('\x7d\x7d')" = .ok (.call "f" [.text "\x7d\x7d"]) := by cbv
  have herror : parse "f('\x7d\x7d" =
      .error ⟨"unterminated string literal", "f('\x7d\x7d", 2, ""⟩ := by
    have hinside : ofChars "f('\x7d\x7d".toList = .error ⟨.openQuote, 2, []⟩ := by cbv
    rw [parse_of_not_isBraced hopen, hinside]
    rfl
  obtain ⟨hpadded, htemplate⟩ := parse_braced hclosed hblank hblank
  obtain ⟨hshifted, -⟩ := parse_braced hopen hblank hblank
  rw [hparse] at hpadded
  rw [herror] at hshifted
  exact ⟨hclosed, hopen, hblank, hpadded, (htemplate _).mpr hparse, herror, hshifted⟩

end Expr

end PathTemplates
