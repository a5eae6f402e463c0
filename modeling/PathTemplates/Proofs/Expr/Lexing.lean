import Mathlib.Tactic.SplitIfs
import PathTemplates.Expr.Token

/-! # The words of a text

How a text splits into tokens, said without a procedure: blanks between tokens are dropped, a name
takes every character it can, and a quoted text reaches to the next mark of its kind. The scan finds
this split exactly where there is one (`lexes_iff_scan`). -/

namespace PathTemplates

namespace QuoteMark

/-- A character is read as a mark exactly if it is the character of the mark. -/
theorem ofChar?_eq_some_iff {c : Char} {mark : QuoteMark} :
    ofChar? c = some mark ↔ c = mark.char := by
  constructor
  · intro h
    rw [ofChar?] at h
    split_ifs at h with hs hd
    · rw [← Option.some.inj h]
      exact eq_of_beq hs
    · rw [← Option.some.inj h]
      exact eq_of_beq hd
  · rintro rfl
    cases mark <;> rfl

/-- The character of a mark is read as that mark. -/
@[simp] theorem ofChar?_char (mark : QuoteMark) : ofChar? mark.char = some mark :=
  ofChar?_eq_some_iff.mpr rfl

end QuoteMark

/-- A character of identifiers differs from every character that no identifier has. -/
theorem ne_of_isIdentChar {c d : Char} (hc : isIdentChar c) (hd : isIdentChar d = false) :
    c ≠ d := by
  rintro rfl
  simp [hc] at hd

/-- A character of identifiers is no quote. -/
theorem ofChar?_of_isIdentChar {c : Char} (hc : isIdentChar c) : QuoteMark.ofChar? c = none := by
  have hsingle : c ≠ '\'' := ne_of_isIdentChar hc (by decide)
  have hdouble : c ≠ '"' := ne_of_isIdentChar hc (by decide)
  simp [QuoteMark.ofChar?, hsingle, hdouble]

/-- A blank between tokens is one of five characters. -/
theorem eq_of_isGap {c : Char} (h : isGap c) :
    c = ' ' ∨ c = '\t' ∨ c = '\n' ∨ c = '\r' ∨ c = '\x0c' := by
  have hfeed (hc : c.toNat = 12) : c = '\x0c' := Char.toNat_inj.mp hc
  simp only [isGap, Bool.or_eq_true, beq_iff_eq] at h
  rcases h with (((h | h) | h) | h) | h
  · simp [h]
  · simp [h]
  · simp [h]
  · simp [h]
  · simp [hfeed h]

/-- No name goes on with the given characters. -/
def EndsName : List Char → Prop
  | [] => True
  | c :: _ => isIdentChar c = false

/-- A name ends at the end of a text. -/
theorem EndsName.nil : EndsName [] := trivial

/-- A name ends before a character that no identifier has. -/
theorem EndsName.cons {c : Char} (rest : List Char) (h : isIdentChar c = false) :
    EndsName (c :: rest) := h

/-- Where a name ends before two texts, it ends before the one followed by the other. -/
theorem EndsName.append {cs rest : List Char} (h : EndsName cs) (hrest : EndsName rest) :
    EndsName (cs ++ rest) := by
  cases cs with
  | nil => exact hrest
  | cons c cs => exact h

/-- A name ends where characters of identifiers have been taken off. -/
theorem endsName_dropWhile (cs : List Char) : EndsName (cs.dropWhile isIdentChar) := by
  have hhead := List.head?_dropWhile_not isIdentChar cs
  cases hd : cs.dropWhile isIdentChar with
  | nil => trivial
  | cons d after =>
    have hend : isIdentChar d = false := by simpa [hd] using hhead
    exact hend

namespace Token

/-- What a token may be made of: a name of characters of identifiers, at least one, and a quoted
text of anything but the mark around it. -/
def WellFormed : Token → Prop
  | identifier name => name ≠ [] ∧ ∀ c ∈ name, isIdentChar c
  | quoted mark text => mark.char ∉ text
  | opening | closing | comma | dot => True

/-- Whether a token ends before the given characters: a name takes every character that it can. -/
def EndsBefore : Token → List Char → Prop
  | identifier _, rest => EndsName rest
  | _, _ => True

/-- Every token ends where a name ends. -/
theorem endsBefore_of_endsName {rest : List Char} (t : Token) (h : EndsName rest) :
    t.EndsBefore rest := by
  cases t with
  | identifier => exact h
  | quoted | opening | closing | comma | dot => trivial

end Token

/-- How a text splits into tokens by longest match, with the blanks between them dropped. -/
inductive Lexes : List Char → List Token → Prop
  /-- The empty text has no tokens. -/
  | nil : Lexes [] []
  /-- A blank is dropped. -/
  | gap {c : Char} {cs : List Char} {ts : List Token} :
      isGap c → Lexes cs ts → Lexes (c :: cs) ts
  /-- A token stands before the tokens of what follows it. -/
  | token {t : Token} {cs : List Char} {ts : List Token} :
      t.WellFormed → t.EndsBefore cs → Lexes cs ts → Lexes (t.chars ++ cs) (t :: ts)

/-- The tokens of a text are made of the characters that tokens may be made of. -/
theorem Lexes.wellFormed {cs : List Char} {ts : List Token} (h : Lexes cs ts) :
    ∀ t ∈ ts, t.WellFormed := by
  induction h with
  | nil => simp
  | gap _ _ ih => exact ih
  | token hwf _ _ ih => exact List.forall_mem_cons.mpr ⟨hwf, ih⟩

namespace Token

/-- The characters of a name, up to the first one that no identifier has. -/
theorem takeWhile_name {name rest : List Char} (hname : ∀ c ∈ name, isIdentChar c)
    (hrest : (identifier name).EndsBefore rest) :
    (name ++ rest).takeWhile isIdentChar = name ∧ (name ++ rest).dropWhile isIdentChar = rest := by
  rw [List.takeWhile_append_of_pos hname, List.dropWhile_append_of_pos hname]
  cases rest with
  | nil => simp
  | cons c cs =>
    have hc : isIdentChar c = false := hrest
    simp [hc]

/-- The characters of a quoted text, up to the next mark of its kind. -/
theorem takeWhile_text {mark : Char} {text : List Char} (rest : List Char) (h : mark ∉ text) :
    (text ++ mark :: rest).takeWhile (· != mark) = text ∧
      (text ++ mark :: rest).dropWhile (· != mark) = mark :: rest := by
  have hne : ∀ c ∈ text, (c != mark) = true := fun c hc =>
    bne_iff_ne.mpr fun he => h (he ▸ hc)
  rw [List.takeWhile_append_of_pos hne, List.dropWhile_append_of_pos hne]
  simp

/-- A name is read back from its characters. -/
theorem first?_identifier {name rest : List Char} (h : (identifier name).WellFormed)
    (hrest : (identifier name).EndsBefore rest) :
    first? (name ++ rest) = some (identifier name, rest) := by
  obtain ⟨htake, hdrop⟩ := takeWhile_name h.2 hrest
  obtain ⟨hne, hall⟩ := h
  cases name with
  | nil => exact absurd rfl hne
  | cons c name =>
    have hc : isIdentChar c := hall c (by simp)
    -- the first character is none of the marks of punctuation, so the token is a name
    have hother (d : Char) (hd : isIdentChar d = false) : (c == d) = false :=
      beq_eq_false_iff_ne.mpr (ne_of_isIdentChar hc hd)
    simp only [List.cons_append, List.takeWhile_cons_of_pos hc, List.dropWhile_cons_of_pos hc]
      at htake hdrop
    simp only [first?, List.cons_append, ofChar?_of_isIdentChar hc, hother '(' (by decide),
      hother ')' (by decide), hother ',' (by decide), hother '.' (by decide), hc, if_true,
      Bool.false_eq_true, if_false]
    rw [htake, hdrop]

/-- A quoted text is read back from its characters. -/
theorem first?_quoted {mark : QuoteMark} {text : List Char} (rest : List Char)
    (h : mark.char ∉ text) :
    first? (mark.char :: (text ++ mark.char :: rest)) = some (quoted mark text, rest) := by
  obtain ⟨htake, hdrop⟩ := takeWhile_text rest h
  simp only [first?, QuoteMark.ofChar?_char, htake, hdrop]

/-- A quote at the start of a text starts a quoted text. -/
theorem quoted_of_first? {c : Char} {rest tail : List Char} {t : Token} {mark : QuoteMark}
    (hc : QuoteMark.ofChar? c = some mark) (h : first? (c :: rest) = some (t, tail)) :
    ∃ text, t = quoted mark text ∧ mark.char ∉ text ∧ rest = text ++ mark.char :: tail := by
  -- the text is what stands before the next mark of its kind, if there is one
  have hsplit := List.takeWhile_append_dropWhile (p := (· != mark.char)) (l := rest)
  have hhead := List.head?_dropWhile_not (· != mark.char) rest
  simp only [first?, hc] at h
  cases hd : rest.dropWhile (· != mark.char) with
  | nil => simp [hd] at h
  | cons d after =>
    simp only [hd, Option.some.injEq, Prod.mk.injEq] at h
    obtain ⟨rfl, rfl⟩ := h
    have hmark : d = mark.char := by simpa [hd] using hhead
    rw [hd, hmark] at hsplit
    refine ⟨_, rfl, fun hmem => ?_, hsplit.symm⟩
    have := List.all_eq_true.mp (List.all_takeWhile (p := (· != mark.char)) (l := rest)) _ hmem
    simp at this

/-- A token that starts with no quote is a mark of punctuation or a name that takes every character
it can. -/
theorem unquoted_of_first? {c : Char} {rest tail : List Char} {t : Token}
    (hc : QuoteMark.ofChar? c = none) (h : first? (c :: rest) = some (t, tail)) :
    t.WellFormed ∧ t.EndsBefore tail ∧ c :: rest = t.chars ++ tail := by
  simp only [first?, hc] at h
  split_ifs at h with hopen hclose hcomma hdot hname
  · obtain ⟨rfl, rfl⟩ : opening = t ∧ rest = tail := by simpa using h
    exact ⟨trivial, trivial, by simp [chars, eq_of_beq hopen]⟩
  · obtain ⟨rfl, rfl⟩ : closing = t ∧ rest = tail := by simpa using h
    exact ⟨trivial, trivial, by simp [chars, eq_of_beq hclose]⟩
  · obtain ⟨rfl, rfl⟩ : comma = t ∧ rest = tail := by simpa using h
    exact ⟨trivial, trivial, by simp [chars, eq_of_beq hcomma]⟩
  · obtain ⟨rfl, rfl⟩ : dot = t ∧ rest = tail := by simpa using h
    exact ⟨trivial, trivial, by simp [chars, eq_of_beq hdot]⟩
  · simp only [Option.some.injEq, Prod.mk.injEq] at h
    obtain ⟨rfl, rfl⟩ := h
    refine ⟨⟨by simp, ?_⟩, endsName_dropWhile rest, ?_⟩
    · have := List.all_eq_true.mp (List.all_takeWhile (p := isIdentChar) (l := rest))
      simpa [hname] using this
    · simp [chars, List.takeWhile_append_dropWhile]

/-- The token at the start of a text is what the text starts with, up to where the token ends. -/
theorem first?_eq_some_iff {cs tail : List Char} {t : Token} :
    first? cs = some (t, tail) ↔ t.WellFormed ∧ t.EndsBefore tail ∧ cs = t.chars ++ tail := by
  constructor
  · intro h
    cases cs with
    | nil => simp [first?] at h
    | cons c rest =>
      cases hc : QuoteMark.ofChar? c with
      | none => exact unquoted_of_first? hc h
      | some mark =>
        obtain ⟨text, rfl, hmem, rfl⟩ := quoted_of_first? hc h
        rw [QuoteMark.ofChar?_eq_some_iff.mp hc]
        exact ⟨hmem, trivial, by simp [chars]⟩
  · rintro ⟨hwf, hend, rfl⟩
    -- only a name needs to know where it ends
    cases t with
    | identifier name => exact first?_identifier hwf hend
    | quoted mark text => simpa [chars] using first?_quoted tail hwf
    | opening | closing | comma | dot => rfl

/-- No token starts with a blank. -/
theorem first?_gap {c : Char} (rest : List Char) (h : isGap c) : first? (c :: rest) = none := by
  rcases eq_of_isGap h with rfl | rfl | rfl | rfl | rfl <;> rfl

end Token

/-! ## The scan -/

namespace Scan

/-- The scan of the empty text. -/
@[simp] theorem scanFrom_nil (offset : Nat) : scanFrom offset [] = ⟨[], none⟩ := by
  rw [scanFrom]

/-- The scan passes over a blank. -/
theorem scanFrom_gap (offset : Nat) {c : Char} (cs : List Char) (h : isGap c) :
    scanFrom offset (c :: cs) = scanFrom (offset + 1) cs := by
  rw [scanFrom, if_pos h]

/-- The scan takes the token at the start of a text. -/
theorem scanFrom_token (offset : Nat) {cs tail : List Char} {t : Token}
    (h : Token.first? cs = some (t, tail)) :
    scanFrom offset cs = ⟨⟨offset, t⟩ :: (scanFrom (offset + t.chars.length) tail).tokens,
      (scanFrom (offset + t.chars.length) tail).stuck⟩ := by
  cases cs with
  | nil => simp [Token.first?] at h
  | cons c rest =>
    have hgap : ¬ isGap c := fun hc => by simp [Token.first?_gap rest hc] at h
    rw [scanFrom, if_neg hgap]
    split
    · simp_all
    · rename_i u after hu
      rw [h] at hu
      obtain ⟨rfl, rfl⟩ : t = u ∧ tail = after := by simpa using hu
      rfl

/-- The tokens without their offsets. -/
def words (s : Scan) : List Token := s.tokens.map (·.token)

/-- The scan gives the tokens of every text that splits into tokens. -/
theorem scanFrom_of_lexes {cs : List Char} {ts : List Token} (h : Lexes cs ts) (offset : Nat) :
    (scanFrom offset cs).stuck = none ∧ (scanFrom offset cs).words = ts := by
  induction h generalizing offset with
  | nil => simp [words]
  | gap hc _ ih =>
    rw [scanFrom_gap offset _ hc]
    exact ih _
  | token hwf hend _ ih =>
    rw [scanFrom_token offset (Token.first?_eq_some_iff.mpr ⟨hwf, hend, rfl⟩)]
    obtain ⟨hstuck, hwords⟩ := ih (offset + _)
    exact ⟨hstuck, by rw [words, List.map_cons, ← words, hwords]⟩

/-- A text that the scan reads to its end splits into the tokens that the scan gives. -/
theorem lexes_of_scanFrom (offset : Nat) (cs : List Char)
    (h : (scanFrom offset cs).stuck = none) : Lexes cs (scanFrom offset cs).words := by
  fun_induction scanFrom offset cs with
  | case1 => exact .nil
  | case2 offset c rest hc ih => exact .gap hc (ih h)
  | case3 => simp at h
  | case4 offset c rest hc t tail hfirst later ih =>
    obtain ⟨hwf, hend, hcs⟩ := Token.first?_eq_some_iff.mp hfirst
    rw [hcs]
    exact .token hwf hend (ih h)

/-- A text splits into tokens exactly if the scan reads it to its end, and then into those that the
scan gives. -/
theorem lexes_iff_scan {cs : List Char} {ts : List Token} :
    Lexes cs ts ↔ (ofChars cs).stuck = none ∧ (ofChars cs).words = ts := by
  constructor
  · intro h
    exact scanFrom_of_lexes h 0
  · rintro ⟨hstuck, rfl⟩
    exact lexes_of_scanFrom 0 cs hstuck

end Scan

end PathTemplates
