import PathTemplates.Proofs.Expr.Lexing
import PathTemplates.Template.Segment

/-! # Splitting a template text

Where the segments of a template text begin and end:

* an expression opens at the first pair of opening braces, and no earlier pair overlaps these
  (`cutAt?_braces_eq_some_iff`);
* a text that splits into tokens is passed over when the closing braces are looked for, whatever
  braces its quoted texts hold (`cutClose?_of_lexes`), so it is the inside of an expression up to the
  braces right after it (`ofChars_span`). -/

namespace PathTemplates

/-! ## Searching for a piece -/

/-- A piece is not found exactly if it stands nowhere. -/
theorem cutAt?_eq_none_iff {piece cs : List Char} : cutAt? piece cs = none ↔ ¬ piece <:+: cs := by
  induction cs with
  | nil =>
    rw [cutAt?]
    cases piece <;> simp
  | cons c cs ih =>
    rw [cutAt?, List.infix_cons_iff]
    by_cases h : piece <+: c :: cs
    · simp [List.isPrefixOf_iff_prefix.mpr h, h]
    · rw [if_neg (mt List.isPrefixOf_iff_prefix.mp h)]
      simp [h, ih]

/-- No pair of braces starts in a text before a brace exactly if the text holds none and does not end
in a brace. -/
theorem infix_braces_concat_iff {cs : List Char} :
    ['{', '{'] <:+: cs ++ ['{'] ↔ ['{', '{'] <:+: cs ∨ cs.getLast? = some '{' := by
  -- a pair that holds the last brace starts at the brace before it
  have hsuffix : ['{', '{'] <:+ cs ++ ['{'] ↔ ['{'] <:+ cs := by
    constructor
    · rintro ⟨t, ht⟩
      have hinit : t ++ ['{'] ++ ['{'] = cs ++ ['{'] := by simpa using ht
      exact ⟨t, List.append_cancel_right hinit⟩
    · rintro ⟨t, rfl⟩
      exact ⟨t, by simp⟩
  rw [List.infix_concat_iff, hsuffix, List.singleton_suffix_iff_getLast?_eq_some, or_comm]

/-- Braces at the start of a text are not preceded by other braces. -/
theorem eq_nil_of_first_braces {before after rest : List Char}
    (h : '{' :: '{' :: rest = before ++ '{' :: '{' :: after)
    (hfirst : ¬ ['{', '{'] <:+: before ++ ['{']) : before = [] := by
  rcases before with - | ⟨b, - | ⟨d, before⟩⟩
  · rfl
  · obtain ⟨rfl, -⟩ : '{' = b ∧ rest = '{' :: after := by simpa using h
    exact absurd (List.infix_refl _) hfirst
  · obtain ⟨rfl, rfl, -⟩ : '{' = b ∧ '{' = d ∧ rest = before ++ '{' :: '{' :: after := by
      simpa using h
    exact absurd (List.prefix_append ['{', '{'] _).isInfix hfirst

/-- The first pair of opening braces is found: no pair starts before it. -/
theorem cutAt?_braces_eq_some_iff {cs before after : List Char} :
    cutAt? ['{', '{'] cs = some (before, after) ↔
      cs = before ++ '{' :: '{' :: after ∧ ¬ ['{', '{'] <:+: before ++ ['{'] := by
  induction cs generalizing before with
  | nil => simp [cutAt?]
  | cons c cs ih =>
    rw [cutAt?]
    by_cases h : ['{', '{'] <+: c :: cs
    · rw [if_pos (List.isPrefixOf_iff_prefix.mpr h)]
      obtain ⟨rest, hrest⟩ := h
      obtain ⟨rfl, rfl⟩ : '{' = c ∧ '{' :: rest = cs := by simpa using hrest
      -- a pair right at the start leaves no room for an earlier one
      constructor
      · intro heq
        obtain ⟨rfl, rfl⟩ : [] = before ∧ rest = after := by simpa using heq
        exact ⟨rfl, by decide⟩
      · rintro ⟨heq, hfirst⟩
        obtain rfl := eq_nil_of_first_braces heq hfirst
        simpa using heq
    · rw [if_neg (mt List.isPrefixOf_iff_prefix.mp h), Option.map_eq_some_iff]
      constructor
      · rintro ⟨⟨b, a⟩, hcut, heq⟩
        obtain ⟨rfl, rfl⟩ : c :: b = before ∧ a = after := by simpa using heq
        obtain ⟨rfl, hfirst⟩ := ih.mp hcut
        refine ⟨rfl, ?_⟩
        rw [List.cons_append, List.infix_cons_iff, not_or]
        exact ⟨fun hp => h (hp.trans (by simp)), hfirst⟩
      · rintro ⟨heq, hfirst⟩
        rcases before with - | ⟨b, before⟩
        · exact absurd (by rw [heq]; exact List.prefix_append ['{', '{'] after) h
        · obtain ⟨rfl, rfl⟩ : c = b ∧ cs = before ++ '{' :: '{' :: after := by simpa using heq
          rw [List.cons_append, List.infix_cons_iff, not_or] at hfirst
          exact ⟨(before, after), ih.mpr ⟨rfl, hfirst.2⟩, rfl⟩

namespace Segment

/-! ## The closing braces -/

/-- What `cutClose?` finds after characters that belong to the inside of an expression. -/
def pass (cs : List Char) (found : Option (List Char × List Char)) :
    Option (List Char × List Char) := found.map fun (i, r) => (cs ++ i, r)

@[simp] theorem pass_nil (found : Option (List Char × List Char)) : pass [] found = found := by
  simp [pass]

@[simp] theorem pass_pass (cs ds : List Char) (found : Option (List Char × List Char)) :
    pass cs (pass ds found) = pass (cs ++ ds) found := by
  simp [pass, Function.comp_def]

@[simp] theorem pass_some (cs i r : List Char) : pass cs (some (i, r)) = some (cs ++ i, r) := rfl

/-- The search for closing braces passes over a character that is no brace, noting a quote. -/
theorem cutClose?_cons {c : Char} (cs : List Char) (hc : c ≠ '}') :
    cutClose? none (c :: cs) = pass [c] (cutClose? (QuoteMark.ofChar? c) cs) := by
  rw [cutClose?]
  · rfl
  · rintro rest rfl
    exact absurd rfl hc

/-- The search for closing braces passes over characters that are no braces and no quotes. -/
theorem cutClose?_plain {cs : List Char} (rest : List Char)
    (h : ∀ c ∈ cs, c ≠ '}' ∧ QuoteMark.ofChar? c = none) :
    cutClose? none (cs ++ rest) = pass cs (cutClose? none rest) := by
  induction cs with
  | nil => simp
  | cons c cs ih =>
    rw [List.forall_mem_cons] at h
    rw [List.cons_append, cutClose?_cons _ h.1.1, h.1.2, ih h.2, pass_pass, List.singleton_append]

/-- Inside a quoted text the search for closing braces goes on after the next mark of its kind. -/
theorem cutClose?_quoted {mark : QuoteMark} {text : List Char} (rest : List Char)
    (h : mark.char ∉ text) :
    cutClose? (some mark) (text ++ mark.char :: rest) =
      pass (text ++ [mark.char]) (cutClose? none rest) := by
  induction text with
  | nil =>
    rw [List.nil_append, cutClose?, if_pos (by simp)]
    rfl
  | cons c text ih =>
    obtain ⟨hne, hmem⟩ := List.ne_and_not_mem_of_not_mem_cons h
    rw [List.cons_append, cutClose?, if_neg (by simpa using hne.symm), ih hmem]
    exact pass_pass [c] _ _

/-- The search for closing braces passes over a text that splits into tokens. -/
theorem cutClose?_of_lexes {cs : List Char} {ts : List Token} (h : Lexes cs ts)
    (rest : List Char) : cutClose? none (cs ++ rest) = pass cs (cutClose? none rest) := by
  induction h with
  | nil => simp
  | @gap c cs _ hc _ ih =>
    have hplain : ∀ d ∈ [c], d ≠ '}' ∧ QuoteMark.ofChar? d = none := by
      rw [List.forall_mem_singleton]
      rcases eq_of_isGap hc with rfl | rfl | rfl | rfl | rfl <;> decide
    have hpass := cutClose?_plain (cs ++ rest) hplain
    rw [List.cons_append, ← List.singleton_append, hpass, ih, pass_pass]
    rfl
  | @token t cs _ hwf _ _ ih =>
    rw [List.append_assoc]
    cases t with
    | identifier name =>
      have hplain : ∀ c ∈ name, c ≠ '}' ∧ QuoteMark.ofChar? c = none := by
        intro c hc
        have hident := hwf.2 c hc
        exact ⟨ne_of_isIdentChar hident (by decide), ofChar?_of_isIdentChar hident⟩
      rw [Token.chars, cutClose?_plain _ hplain, ih, pass_pass]
    | quoted mark text =>
      -- braces in a quoted text do not close the expression
      have hne : mark.char ≠ '}' := by cases mark <;> decide
      rw [Token.chars, List.append_assoc, List.cons_append, cutClose?_cons _ hne,
        QuoteMark.ofChar?_char, List.singleton_append, cutClose?_quoted _ hwf, ih, pass_pass,
        pass_pass]
      simp
    | opening | closing | comma | dot =>
      rw [Token.chars, cutClose?_plain _ (List.forall_mem_singleton.mpr (by decide)), ih, pass_pass]

/-! ## The segments -/

/-- The segments of a text, by where its first expression opens and closes. -/
theorem ofChars_eq (cs : List Char) :
    ofChars cs = match cutAt? ['{', '{'] cs with
      | none => literals cs
      | some (before, after) =>
        match cutClose? none after with
        | none => literals before ++ [unclosed after]
        | some (text, rest) => literals before ++ inside text :: ofChars rest := by
  rw [ofChars]
  split
  · rename_i h
    rw [h]
  · rename_i before after h
    simp only [h]
    split
    · rename_i h'
      simp only [h']
    · rename_i text rest h'
      simp only [h']

/-- A text without opening braces is literal. -/
theorem ofChars_literal {cs : List Char} (h : ¬ ['{', '{'] <:+: cs) : ofChars cs = literals cs := by
  rw [ofChars_eq, cutAt?_eq_none_iff.mpr h]

/-- The first opening braces end a literal text and start an expression, which reaches to its closing
braces. -/
theorem ofChars_span {before cs rest : List Char} {ts : List Token}
    (hbefore : ¬ ['{', '{'] <:+: before ++ ['{']) (hcs : Lexes cs ts) :
    ofChars (before ++ '{' :: '{' :: (cs ++ '}' :: '}' :: rest)) =
      literals before ++ inside cs :: ofChars rest := by
  have hclose : cutClose? none (cs ++ '}' :: '}' :: rest) = some (cs, rest) := by
    rw [cutClose?_of_lexes hcs, cutClose?, pass_some, List.append_nil]
  rw [ofChars_eq, cutAt?_braces_eq_some_iff.mpr ⟨rfl, hbefore⟩]
  simp only [hclose]

end Segment

end PathTemplates
