import Mathlib.Order.Bounds.Basic
import PathTemplates.Proofs.Template.Concatenation

/-! # How segments tile a template text

* An expression ends at the first closing braces before which every quoted text is complete
  (`cutClose?_eq_some_iff`), and it does not end if there are none (`cutClose?_eq_none_iff`). A quote that
  is not paired hides whatever follows it.
* The segments of a text cover it, and each of them stands before the others as its kind demands; no
  other segments do (`tiles_iff`). -/

namespace PathTemplates

/-! ## Paired quotes -/

/-- Quotes are paired from left to right, and none is left over. Inside a quoted text those of the other
kind do not count. -/
inductive QuotesPaired : List Char → Prop
  /-- No characters. -/
  | nil : QuotesPaired []
  /-- A character that is no quote. -/
  | plain {c : Char} {cs : List Char} :
      QuoteMark.ofChar? c = none → QuotesPaired cs → QuotesPaired (c :: cs)
  /-- A quoted text, which reaches to the next mark of its kind. -/
  | quoted {mark : QuoteMark} {text cs : List Char} :
      mark.char ∉ text → QuotesPaired cs → QuotesPaired (mark.char :: (text ++ mark.char :: cs))

/-- The quote that is open after a character, given the one that is open before it. -/
def QuoteMark.openAfter : Option QuoteMark → Char → Option QuoteMark
  | none, c => ofChar? c
  | some mark, c => if c == mark.char then none else some mark

/-- Quotes are paired in what follows the quote that is open, if there is one, and its partner. -/
def PairedAfter : Option QuoteMark → List Char → Prop
  | none, cs => QuotesPaired cs
  | some mark, cs =>
    ∃ text rest, cs = text ++ mark.char :: rest ∧ mark.char ∉ text ∧ QuotesPaired rest

/-- A quote that is open wants its partner. -/
theorem pairedAfter_nil_iff {q : Option QuoteMark} : PairedAfter q [] ↔ q = none := by
  cases q with
  | none => simpa [PairedAfter] using QuotesPaired.nil
  | some mark => simp [PairedAfter]

/-- A character may open a quoted text, complete the open one or leave things as they are. -/
theorem pairedAfter_cons_iff {q : Option QuoteMark} {c : Char} {cs : List Char} :
    PairedAfter q (c :: cs) ↔ PairedAfter (QuoteMark.openAfter q c) cs := by
  cases q with
  | none =>
    rw [QuoteMark.openAfter]
    constructor
    · intro h
      rw [PairedAfter] at h
      cases h with
      | plain hc hcs => rwa [hc]
      | quoted htext hcs =>
        rw [QuoteMark.ofChar?_char]
        exact ⟨_, _, rfl, htext, hcs⟩
    · intro h
      cases hc : QuoteMark.ofChar? c with
      | none => exact .plain hc (by rwa [hc] at h)
      | some mark =>
        rw [hc] at h
        obtain ⟨text, rest, rfl, htext, hrest⟩ := h
        obtain rfl := QuoteMark.ofChar?_eq_some_iff.mp hc
        exact .quoted htext hrest
  | some mark =>
    rw [QuoteMark.openAfter]
    by_cases hc : c = mark.char
    · subst hc
      rw [if_pos (beq_self_eq_true _)]
      constructor
      · rintro ⟨text, rest, hsplit, htext, hrest⟩
        rcases List.cons_eq_append_iff.mp hsplit with ⟨-, heq⟩ | ⟨more, rfl, -⟩
        · obtain ⟨-, rfl⟩ := List.cons.inj heq
          exact hrest
        · exact absurd (List.mem_cons_self ..) htext
      · exact fun h => ⟨[], cs, rfl, List.not_mem_nil, h⟩
    · rw [if_neg (by simpa using hc)]
      constructor
      · rintro ⟨text, rest, hsplit, htext, hrest⟩
        rcases List.cons_eq_append_iff.mp hsplit with ⟨-, heq⟩ | ⟨more, rfl, rfl⟩
        · exact absurd (List.cons.inj heq).1.symm hc
        · exact ⟨more, rest, rfl, List.not_mem_of_not_mem_cons htext, hrest⟩
      · rintro ⟨text, rest, rfl, htext, hrest⟩
        exact ⟨c :: text, rest, rfl, List.not_mem_cons_of_ne_of_not_mem (Ne.symm hc) htext, hrest⟩

namespace Segment

/-! ## The first closing braces -/

/-- Closing braces stand at a place, and no quoted text is open there. -/
def ClosesFrom (q : Option QuoteMark) (cs : List Char) (i : Nat) : Prop :=
  (cs.drop i).take 2 = ['}', '}'] ∧ PairedAfter q (cs.take i)

/-- Closing braces stand at a place that is outside the quoted texts, where quotes are paired from
`start` on. -/
def ClosesAt (cs : List Char) (start i : Nat) : Prop :=
  start ≤ i ∧ (cs.drop i).take 2 = ['}', '}'] ∧ QuotesPaired ((cs.drop start).take (i - start))

variable {q : Option QuoteMark} {c : Char} {cs text rest : List Char} {start i : Nat}

/-- The places after the first character are those in what follows it. -/
theorem closesFrom_cons_succ_iff :
    ClosesFrom q (c :: cs) (i + 1) ↔ ClosesFrom (QuoteMark.openAfter q c) cs i := by
  rw [ClosesFrom, ClosesFrom, List.drop_succ_cons, List.take_succ_cons, pairedAfter_cons_iff]

/-- Braces at the very start close an expression unless a quoted text is open. -/
theorem closesFrom_zero_iff : ClosesFrom q cs 0 ↔ cs.take 2 = ['}', '}'] ∧ q = none := by
  rw [ClosesFrom, List.drop_zero, List.take_zero, pairedAfter_nil_iff]

/-- The search stops at braces right at the start. -/
theorem cutClose?_of_closesFrom (h : ClosesFrom q cs 0) : cutClose? q cs = some ([], cs.drop 2) := by
  obtain ⟨hbraces, rfl⟩ := closesFrom_zero_iff.mp h
  match cs, hbraces with
  | _ :: _ :: cs, hbraces =>
    obtain ⟨rfl, rfl⟩ := by simpa using hbraces
    rw [cutClose?, List.drop_succ_cons, List.drop_succ_cons, List.drop_zero]

/-- The search passes over any other character and notes the quote that is open after it. -/
theorem cutClose?_cons_of_not_closesFrom (h : ¬ ClosesFrom q (c :: cs) 0) :
    cutClose? q (c :: cs) = pass [c] (cutClose? (QuoteMark.openAfter q c) cs) := by
  rw [closesFrom_zero_iff] at h
  cases q with
  | none =>
    rw [cutClose?]
    · rfl
    · rintro rest rfl rfl
      exact h ⟨rfl, rfl⟩
  | some mark =>
    rw [cutClose?]
    rfl

/-- What the search passes over reaches to the first closing braces. -/
theorem isLeast_of_cutClose? (h : cutClose? q cs = some (text, rest)) :
    IsLeast {i | ClosesFrom q cs i} text.length := by
  induction cs generalizing q text with
  | nil => simp [cutClose?] at h
  | cons c cs ih =>
    by_cases hstart : ClosesFrom q (c :: cs) 0
    · rw [cutClose?_of_closesFrom hstart] at h
      obtain ⟨rfl, -⟩ := Prod.mk.inj (Option.some.inj h)
      exact ⟨hstart, fun _ _ => Nat.zero_le _⟩
    · rw [cutClose?_cons_of_not_closesFrom hstart] at h
      obtain ⟨⟨inner, r⟩, hcut, heq⟩ := Option.map_eq_some_iff.mp h
      obtain ⟨rfl, rfl⟩ := Prod.mk.inj heq
      obtain ⟨hcloses, hfirst⟩ := ih hcut
      refine ⟨closesFrom_cons_succ_iff.mpr hcloses, ?_⟩
      -- an earlier place would be an earlier one after the first character too
      intro j hj
      cases j with
      | zero => exact absurd hj hstart
      | succ j => exact Nat.succ_le_succ (hfirst (closesFrom_cons_succ_iff.mp hj))

/-- If the search fails, no braces close the expression. -/
theorem not_closesFrom_of_cutClose? (h : cutClose? q cs = none) : ¬ ClosesFrom q cs i := by
  induction cs generalizing q i with
  | nil => simp [ClosesFrom]
  | cons c cs ih =>
    by_cases hstart : ClosesFrom q (c :: cs) 0
    · rw [cutClose?_of_closesFrom hstart] at h
      cases h
    · rw [cutClose?_cons_of_not_closesFrom hstart] at h
      cases i with
      | zero => exact hstart
      | succ i =>
        rw [closesFrom_cons_succ_iff]
        exact ih (Option.map_eq_none_iff.mp h)

/-- Places are counted from the start of the text or from where the expression starts. -/
theorem closesAt_add_iff : ClosesAt cs start (start + i) ↔ ClosesFrom none (cs.drop start) i := by
  rw [ClosesAt, ClosesFrom, List.drop_drop, Nat.add_sub_cancel_left]
  exact and_iff_right (Nat.le_add_right ..)

/-- The first place at which an expression closes, counted from the start of the text. -/
theorem isLeast_closesAt_add (h : IsLeast {i | ClosesFrom none (cs.drop start) i} i) :
    IsLeast {j | ClosesAt cs start j} (start + i) := by
  refine ⟨closesAt_add_iff.mpr h.1, ?_⟩
  intro j hj
  obtain ⟨k, rfl⟩ := Nat.exists_eq_add_of_le hj.1
  exact Nat.add_le_add_left (h.2 (closesAt_add_iff.mp hj)) start

/-- The search finds the first closing braces outside quoted texts, and gives what stands before and
after them. -/
theorem cutClose?_eq_some_iff : cutClose? none (cs.drop start) = some (text, rest) ↔
    ∃ i, IsLeast {i | ClosesAt cs start i} i ∧
      text = (cs.drop start).take (i - start) ∧ rest = cs.drop (i + 2) := by
  -- what is found tells where it was found
  have hfound {text rest : List Char} (h : cutClose? none (cs.drop start) = some (text, rest)) :
      IsLeast {i | ClosesAt cs start i} (start + text.length) ∧
        text = (cs.drop start).take (start + text.length - start) ∧
        rest = cs.drop (start + text.length + 2) := by
    have hsplit := eq_append_of_cutClose? h
    refine ⟨isLeast_closesAt_add (isLeast_of_cutClose? h), ?_, ?_⟩
    · rw [hsplit, Nat.add_sub_cancel_left, List.take_left]
    · rw [Nat.add_assoc, ← List.drop_drop, hsplit, ← List.drop_drop, List.drop_left]
      rfl
  constructor
  · exact fun h => ⟨_, hfound h⟩
  · rintro ⟨i, hleast, rfl, rfl⟩
    cases hcut : cutClose? none (cs.drop start) with
    | none =>
      obtain ⟨k, rfl⟩ := Nat.exists_eq_add_of_le hleast.1.1
      exact absurd (closesAt_add_iff.mp hleast.1) (not_closesFrom_of_cutClose? hcut)
    | some found =>
      obtain ⟨text, rest⟩ := found
      obtain ⟨hleast', htext, hrest⟩ := hfound hcut
      obtain rfl := hleast'.unique hleast
      rw [← htext, ← hrest]

/-- The search fails exactly if no braces outside quoted texts close the expression. -/
theorem cutClose?_eq_none_iff :
    cutClose? none (cs.drop start) = none ↔ ∀ i, ¬ ClosesAt cs start i := by
  constructor
  · intro h i hi
    obtain ⟨k, rfl⟩ := Nat.exists_eq_add_of_le hi.1
    exact not_closesFrom_of_cutClose? h (closesAt_add_iff.mp hi)
  · intro h
    cases hcut : cutClose? none (cs.drop start) with
    | none => rfl
    | some found =>
      obtain ⟨i, hleast, -⟩ := cutClose?_eq_some_iff.mp hcut
      exact absurd hleast.1 (h i)

/-! ## The segments of a text -/

/-- How a segment stands in a text before the segments after it. A literal text is not empty, opens no
expression, not even together with what follows it, and reaches to the next expression; an expression
ends at its first closing braces; one without any is the last segment. -/
def StandsBefore : Segment → List Segment → Prop
  | literal text, after => text ≠ [] ∧ ¬ ['{', '{'] <:+: text ∧
      (∀ other, after.head? ≠ some (literal other)) ∧ (after ≠ [] → text.getLast? ≠ some '{')
  | inside text, after =>
    cutClose? none (text ++ '}' :: '}' :: after.flatMap chars) = some (text, after.flatMap chars)
  | unclosed text, after => after = [] ∧ cutClose? none text = none

/-- Segments that cover a text, each of them standing as it must. -/
structure Tiles (segments : List Segment) (cs : List Char) : Prop where
  /-- Written one after another they are the text. -/
  covers : segments.flatMap chars = cs
  /-- Each stands before those after it. -/
  each : ∀ s after, s :: after <:+ segments → s.StandsBefore after

namespace Tiles

variable {s : Segment} {segments after : List Segment}

/-- Only the empty text has no segments. -/
theorem nil_iff : Tiles [] cs ↔ cs = [] := by
  constructor
  · exact fun h => h.covers.symm
  · rintro rfl
    exact ⟨rfl, fun s after h => absurd (List.suffix_nil.mp h) (List.cons_ne_nil _ _)⟩

/-- A segment before others that tile the rest of the text. -/
theorem cons_iff : Tiles (s :: after) cs ↔
    s.StandsBefore after ∧ ∃ rest, cs = s.chars ++ rest ∧ Tiles after rest := by
  constructor
  · intro h
    refine ⟨h.each s after (List.suffix_refl _), after.flatMap chars, ?_, rfl, ?_⟩
    · rw [← h.covers, List.flatMap_cons]
    · exact fun t later hsuffix => h.each t later (hsuffix.trans (List.suffix_cons ..))
  · rintro ⟨hs, rest, rfl, hrest⟩
    refine ⟨by rw [List.flatMap_cons, hrest.covers], fun t later hsuffix => ?_⟩
    rcases List.suffix_cons_iff.mp hsuffix with heq | hsuffix
    · obtain ⟨rfl, rfl⟩ := List.cons.inj heq
      exact hs
    · exact hrest.each t later hsuffix

/-- A literal text, if there is one, before an expression. -/
theorem literals_append {before : List Char} (hbefore : ¬ ['{', '{'] <:+: before ++ ['{'])
    (hs : ∀ other, s ≠ literal other) (h : Tiles (s :: after) cs) :
    Tiles (literals before ++ s :: after) (before ++ cs) := by
  rw [infix_braces_concat_iff, not_or] at hbefore
  rw [literals]
  split_ifs with hempty
  · rw [List.isEmpty_iff.mp hempty]
    exact h
  · refine cons_iff.mpr ⟨⟨mt List.isEmpty_iff.mpr hempty, hbefore.1, ?_, fun _ => hbefore.2⟩, cs, rfl, h⟩
    intro other hhead
    exact hs other (Option.some.inj hhead)

end Tiles

/-- The segments of a text tile it. -/
theorem tiles_ofChars (cs : List Char) : Tiles (ofChars cs) cs := by
  -- the induction follows the scan, expression by expression
  fun_induction ofChars cs with
  | case1 cs hcut =>
    rw [literals]
    split_ifs with hempty
    · exact Tiles.nil_iff.mpr (List.isEmpty_iff.mp hempty)
    · have hstands : (literal cs).StandsBefore [] :=
        ⟨mt List.isEmpty_iff.mpr hempty, cutAt?_eq_none_iff.mp hcut, by simp, by simp⟩
      exact Tiles.cons_iff.mpr ⟨hstands, [], (List.append_nil cs).symm, Tiles.nil_iff.mpr rfl⟩
  | case2 cs before after hcut hclose =>
    obtain ⟨rfl, hbefore⟩ := cutAt?_braces_eq_some_iff.mp hcut
    have hlast : Tiles [unclosed after] ('{' :: '{' :: after) :=
      Tiles.cons_iff.mpr ⟨⟨rfl, hclose⟩, [], by simp [chars], Tiles.nil_iff.mpr rfl⟩
    exact Tiles.literals_append hbefore (by simp) hlast
  | case3 cs before after hcut text rest hclose ih =>
    obtain ⟨rfl, hbefore⟩ := cutAt?_braces_eq_some_iff.mp hcut
    obtain rfl := eq_append_of_cutClose? hclose
    have hstands : (inside text).StandsBefore (ofChars rest) := by
      rw [StandsBefore, ih.covers]
      exact hclose
    have hspan : Tiles (inside text :: ofChars rest) ('{' :: '{' :: (text ++ '}' :: '}' :: rest)) :=
      Tiles.cons_iff.mpr ⟨hstands, rest, by simp [chars], ih⟩
    exact Tiles.literals_append hbefore (by simp) hspan

/-- No other segments tile a text. -/
theorem Tiles.eq_ofChars {segments : List Segment} (h : Tiles segments cs) : segments = ofChars cs := by
  induction segments generalizing cs with
  | nil =>
    obtain rfl := Tiles.nil_iff.mp h
    rw [ofChars_literal (by simp)]
    rfl
  | cons s after ih =>
    obtain ⟨hstands, rest, rfl, hrest⟩ := Tiles.cons_iff.mp h
    have hafter := ih hrest
    cases s with
    | literal text =>
      obtain ⟨hne, hfree, hnext, hlast⟩ := hstands
      have hliterals : literals text = [literal text] := if_neg (mt List.isEmpty_iff.mp hne)
      have hborder : ¬ (text.getLast? = some '{' ∧ rest.head? = some '{') := by
        rintro ⟨hbrace, hhead⟩
        refine hlast ?_ hbrace
        rintro rfl
        obtain rfl := Tiles.nil_iff.mp hrest
        cases hhead
      -- no literal text follows, so that this one is not made longer
      obtain ⟨before, tail, htail, happend, -⟩ := exists_ofChars_append hfree hborder
      obtain rfl : before = [] := by
        by_contra hbefore
        rw [hafter, htail, literals, if_neg (mt List.isEmpty_iff.mp hbefore)] at hnext
        exact hnext before rfl
      rw [List.append_nil, hliterals] at happend
      rw [chars, happend, hafter, htail]
      rfl
    | inside text =>
      rw [StandsBefore, hrest.covers] at hstands
      have hcut : cutAt? ['{', '{'] ((inside text).chars ++ rest) =
          some ([], text ++ '}' :: '}' :: rest) :=
        cutAt?_braces_eq_some_iff.mpr ⟨by simp [chars], by decide⟩
      rw [ofChars_eq, hcut]
      simp only [hstands, hafter]
      rfl
    | unclosed text =>
      obtain ⟨rfl, hclose⟩ := hstands
      obtain rfl := Tiles.nil_iff.mp hrest
      have hcut : cutAt? ['{', '{'] ((unclosed text).chars ++ []) = some ([], text) :=
        cutAt?_braces_eq_some_iff.mpr ⟨by simp [chars], by decide⟩
      rw [ofChars_eq, hcut]
      simp only [hclose]
      rfl

/-- The segments of a text are the only ones that tile it. -/
theorem tiles_iff {segments : List Segment} : Tiles segments cs ↔ segments = ofChars cs :=
  ⟨Tiles.eq_ofChars, fun h => h ▸ tiles_ofChars cs⟩

/-- The segments of a text tile it. They are the only ones that cover it such that literal texts are not
empty, open no expression and are never adjacent, that expressions reach to their closing braces, and that
nothing stands after an expression that is not closed. The closing braces of an expression that starts at a
place are the first ones from there on that stand outside quoted texts; an expression has none exactly if
all braces from there on stand inside. -/
theorem segments_tile :
    (∀ (segments : List Segment) (cs : List Char), Tiles segments cs ↔ segments = ofChars cs) ∧
    ∀ (cs : List Char) (start : Nat),
      (∀ text rest, cutClose? none (cs.drop start) = some (text, rest) ↔
        ∃ i, IsLeast {i | ClosesAt cs start i} i ∧
          text = (cs.drop start).take (i - start) ∧ rest = cs.drop (i + 2)) ∧
      (cutClose? none (cs.drop start) = none ↔ ∀ i, ¬ ClosesAt cs start i) :=
  ⟨fun _ _ => tiles_iff, fun _ _ => ⟨fun _ _ => cutClose?_eq_some_iff, cutClose?_eq_none_iff⟩⟩

/-- Of three braces the first two open and the first two close, and a quote that is not paired hides the
braces after it. -/
example : ofChars "a\x7b\x7b\x7bx\x7d\x7d\x7d\x7b\x7b'\x7d\x7d".toList =
    [literal ['a'], inside ['\x7b', 'x'], literal ['\x7d'], unclosed ['\'', '\x7d', '\x7d']] := by
  cbv

end Segment

end PathTemplates
