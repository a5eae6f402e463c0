import PathTemplates.Expr.SyntaxError
import PathTemplates.Proofs.Expr.Lexing
import PathTemplates.Text.Blank

/-! # Tokens at the start of a text

The tokens up to some place of a text, said with what comes after the place: a name must end there, and
nothing else about the rest matters (`LexesBefore`).

* What is split up to a place goes on with the tokens of any rest before which the last name ends
  (`LexesBefore.append`, `LexesBefore.of_rest`), and the scan does the same (`Scan.scanFrom_append`).
* Every token of a scan, and the character at which a scan stops, stands at such a place
  (`Scan.exists_before_token`, `Scan.exists_before_stuck`). -/

namespace PathTemplates

/-- The blanks between tokens count as blank space. -/
theorem isBlank_of_isGap {c : Char} (h : isGap c) : isBlank c := by
  rcases eq_of_isGap h with rfl | rfl | rfl | rfl | rfl <;> rfl

/-- The characters of identifiers do not. -/
theorem isBlank_of_isIdentChar {c : Char} (h : isIdentChar c) : isBlank c = false := by
  have hcode : c.val.toNat = c.toNat := rfl
  simp only [isIdentChar, Bool.or_eq_true, Bool.and_eq_true, decide_eq_true_eq, beq_iff_eq,
    Char.le_def, UInt32.le_iff_toNat_le] at h
  simp only [isBlank, Bool.or_eq_false_iff, Bool.and_eq_false_iff, decide_eq_false_iff_not,
    beq_eq_false_iff_ne]
  rcases h with ((h | h) | h) | rfl
  · simp at h
    omega
  · simp at h
    omega
  · simp at h
    omega
  · decide

namespace Token

/-- A token starts with a character that is neither blank nor a brace. -/
theorem WellFormed.exists_chars_eq {t : Token} (h : t.WellFormed) :
    ∃ c cs, t.chars = c :: cs ∧ isBlank c = false ∧ c ≠ '{' := by
  cases t with
  | identifier name =>
    obtain ⟨hne, hall⟩ := h
    cases name with
    | nil => exact absurd rfl hne
    | cons c cs =>
      have hc : isIdentChar c := hall c (by simp)
      exact ⟨c, cs, rfl, isBlank_of_isIdentChar hc, ne_of_isIdentChar hc (by decide)⟩
  | quoted mark text =>
    exact ⟨mark.char, text ++ [mark.char], rfl, by cases mark <;> decide, by cases mark <;> decide⟩
  | opening | closing | comma | dot => exact ⟨_, [], rfl, by decide, by decide⟩

/-- A token that ends before a text ends before every other text before which names end. -/
theorem EndsBefore.of_imp {t : Token} {rest rest' : List Char} (h : t.EndsBefore rest)
    (hrest : EndsName rest → EndsName rest') : t.EndsBefore rest' := by
  cases t with
  | identifier => exact hrest h
  | quoted | opening | closing | comma | dot => trivial

/-- The kind of a token, as it is named among what could stand at a place. -/
def kind : Token → Expectation
  | identifier _ => .identifier
  | quoted _ _ => .quotedString
  | opening => .opening
  | closing => .closing
  | comma => .comma
  | dot => .dot

/-- Where a text begins with a token, a token of its kind starts the text; a name may go on after its
beginning. -/
theorem exists_first?_of_prefix {t : Token} {cs : List Char} (hwf : t.WellFormed)
    (h : t.chars <+: cs) : ∃ u tail, first? cs = some (u, tail) ∧ u.kind = t.kind := by
  obtain ⟨tail, rfl⟩ := h
  cases t with
  | identifier name =>
    have hall : ∀ c ∈ name ++ tail.takeWhile isIdentChar, isIdentChar c := by
      intro c hc
      rcases List.mem_append.mp hc with hname | htail
      · exact hwf.2 c hname
      · exact List.all_eq_true.mp List.all_takeWhile c htail
    have hlonger : (identifier (name ++ tail.takeWhile isIdentChar)).WellFormed :=
      ⟨by simp [hwf.1], hall⟩
    refine ⟨_, _, first?_eq_some_iff.mpr ⟨hlonger, endsName_dropWhile tail, ?_⟩, rfl⟩
    simp [chars]
  | quoted | opening | closing | comma | dot =>
    exact ⟨_, tail, first?_eq_some_iff.mpr ⟨hwf, trivial, rfl⟩, rfl⟩

/-- No token starts a text exactly if none of its beginnings is a token. -/
theorem first?_eq_none_iff {cs : List Char} :
    first? cs = none ↔ ∀ t : Token, t.WellFormed → ¬ t.chars <+: cs := by
  constructor
  · intro hnone t hwf hprefix
    obtain ⟨u, tail, hsome, -⟩ := exists_first?_of_prefix hwf hprefix
    simp [hnone] at hsome
  · intro h
    cases hfirst : first? cs with
    | none => rfl
    | some found =>
      obtain ⟨t, tail⟩ := found
      obtain ⟨hwf, -, rfl⟩ := first?_eq_some_iff.mp hfirst
      exact absurd (List.prefix_append _ _) (h t hwf)

/-- A character at which no token starts ends a name. -/
theorem endsName_of_first?_eq_none {c : Char} {rest : List Char} (h : first? (c :: rest) = none) :
    EndsName (c :: rest) := by
  cases hc : isIdentChar c with
  | false => exact hc
  | true =>
    have hname : (identifier [c]).WellFormed := ⟨by simp, by simpa using hc⟩
    exact absurd (List.prefix_append [c] rest) (first?_eq_none_iff.mp h _ hname)

end Token

/-- How a text splits into tokens in front of a given rest, with the blanks between them dropped. -/
inductive LexesBefore (rest : List Char) : List Char → List Token → Prop
  /-- The empty text has no tokens. -/
  | nil : LexesBefore rest [] []
  /-- A blank is dropped. -/
  | gap {c : Char} {cs : List Char} {ts : List Token} :
      isGap c → LexesBefore rest cs ts → LexesBefore rest (c :: cs) ts
  /-- A token stands before the tokens of what follows it. -/
  | token {t : Token} {cs : List Char} {ts : List Token} :
      t.WellFormed → t.EndsBefore (cs ++ rest) → LexesBefore rest cs ts →
      LexesBefore rest (t.chars ++ cs) (t :: ts)

namespace LexesBefore

variable {rest rest' cs : List Char} {ts us : List Token}

/-- Followed by the tokens of the rest these are the tokens of the whole text. -/
theorem append (h : LexesBefore rest cs ts) (hrest : Lexes rest us) :
    Lexes (cs ++ rest) (ts ++ us) := by
  induction h with
  | nil => exact hrest
  | gap hc _ ih => exact .gap hc ih
  | token hwf hend _ ih =>
    rw [List.append_assoc]
    exact .token hwf hend ih

/-- The tokens do not depend on the rest, as long as names end before it. -/
theorem of_rest (h : LexesBefore rest cs ts) (hrest : EndsName rest → EndsName rest') :
    LexesBefore rest' cs ts := by
  induction h with
  | nil => exact .nil
  | gap hc _ ih => exact .gap hc ih
  | @token t cs ts hwf hend _ ih =>
    refine .token hwf (hend.of_imp fun hends => ?_) ih
    cases cs with
    | nil => exact hrest hends
    | cons c cs => exact hends

/-- By itself the text splits into the same tokens. -/
theorem lexes (h : LexesBefore rest cs ts) : Lexes cs ts := by
  have hend : LexesBefore [] cs ts := h.of_rest fun _ => .nil
  simpa using hend.append .nil

/-- A text splits into its tokens in front of every rest before which names end. -/
theorem of_lexes (h : Lexes cs ts) (hrest : EndsName rest) : LexesBefore rest cs ts := by
  induction h with
  | nil => exact .nil
  | gap hc _ ih => exact .gap hc ih
  | token hwf hend _ ih =>
    exact .token hwf (hend.of_imp fun hends => hends.append hrest) ih

end LexesBefore

/-- A text, a blank and another text have the tokens of both. -/
theorem Lexes.append_blank {cs ds : List Char} {ts us : List Token} (h : Lexes cs ts)
    (hd : Lexes ds us) : Lexes (cs ++ ' ' :: ds) (ts ++ us) :=
  (LexesBefore.of_lexes h (EndsName.cons ds rfl)).append (.gap rfl hd)

/-- Any tokens can be written, with a blank after each of them. -/
theorem exists_lexes {ts : List Token} (h : ∀ t ∈ ts, t.WellFormed) : ∃ cs, Lexes cs ts := by
  induction ts with
  | nil => exact ⟨[], .nil⟩
  | cons t ts ih =>
    obtain ⟨ht, hts⟩ := List.forall_mem_cons.mp h
    obtain ⟨cs, hcs⟩ := ih hts
    exact ⟨t.chars ++ ' ' :: cs,
      .token ht (t.endsBefore_of_endsName (EndsName.cons cs rfl)) (.gap rfl hcs)⟩

namespace Scan

/-- A scan takes the tokens up to a place and goes on there. -/
theorem scanFrom_append {rest cs : List Char} {ts : List Token} (h : LexesBefore rest cs ts)
    (offset : Nat) :
    ∃ placed : List PlacedToken, placed.map (·.token) = ts ∧
      scanFrom offset (cs ++ rest) = ⟨placed ++ (scanFrom (offset + cs.length) rest).tokens,
        (scanFrom (offset + cs.length) rest).stuck⟩ := by
  induction h generalizing offset with
  | nil => exact ⟨[], rfl, rfl⟩
  | @gap c cs ts hc _ ih =>
    obtain ⟨placed, hplaced, hscan⟩ := ih (offset + 1)
    refine ⟨placed, hplaced, ?_⟩
    rw [List.cons_append, scanFrom_gap offset _ hc, hscan, List.length_cons,
      Nat.add_assoc, Nat.add_comm 1]
  | @token t cs ts hwf hend _ ih =>
    obtain ⟨placed, hplaced, hscan⟩ := ih (offset + t.chars.length)
    refine ⟨⟨offset, t⟩ :: placed, by rw [List.map_cons, hplaced], ?_⟩
    have hfirst := Token.first?_eq_some_iff.mpr ⟨hwf, hend, rfl⟩
    rw [List.append_assoc, scanFrom_token offset hfirst, hscan, List.length_append, Nat.add_assoc,
      List.cons_append]

/-- A scan stops at once where neither a blank nor a token starts. -/
theorem scanFrom_stuck (offset : Nat) {c : Char} {rest : List Char} (hgap : isGap c = false)
    (hnone : Token.first? (c :: rest) = none) :
    scanFrom offset (c :: rest) = ⟨[], some (offset, c)⟩ := by
  rw [scanFrom, if_neg (by simp [hgap])]
  split
  · rfl
  · simp_all

/-- The tokens of a scan before one of them are those of the text up to its place. -/
theorem exists_before_token {offset : Nat} {cs : List Char} {before after : List PlacedToken}
    {t : PlacedToken} (h : (scanFrom offset cs).tokens = before ++ t :: after) :
    ∃ ds rest, cs = ds ++ (t.token.chars ++ rest) ∧ t.offset = offset + ds.length ∧
      t.token.WellFormed ∧ t.token.EndsBefore rest ∧
      LexesBefore (t.token.chars ++ rest) ds (before.map (·.token)) := by
  fun_induction scanFrom offset cs generalizing before with
  | case1 => simp at h
  | case2 offset c rest hc ih =>
    obtain ⟨ds, rest, hcs, hoffset, hwf, hend, hbefore⟩ := ih h
    refine ⟨c :: ds, rest, by rw [hcs, List.cons_append], ?_, hwf, hend, .gap hc hbefore⟩
    rw [hoffset, List.length_cons]
    omega
  | case3 => simp at h
  | case4 offset c rest hc u tail hfirst later =>
    rename_i ih
    obtain ⟨hwf, hend, hcs⟩ := Token.first?_eq_some_iff.mp hfirst
    rw [hcs]
    cases before with
    | nil =>
      obtain ⟨rfl, -⟩ := List.cons.inj h
      exact ⟨[], tail, rfl, rfl, hwf, hend, .nil⟩
    | cons first before =>
      obtain ⟨rfl, hlater⟩ := List.cons.inj h
      obtain ⟨ds, rest, htail, hoffset, hwf', hend', hbefore⟩ := ih hlater
      rw [htail] at hend ⊢
      refine ⟨u.chars ++ ds, rest, (List.append_assoc ..).symm, ?_, hwf', hend',
        .token hwf hend hbefore⟩
      rw [hoffset, List.length_append, Nat.add_assoc]

/-- A scan that stops has read the tokens up to the place where it stops, and no token starts there. -/
theorem exists_before_stuck {offset place : Nat} {cs : List Char} {c : Char}
    (h : (scanFrom offset cs).stuck = some (place, c)) :
    ∃ ds rest, cs = ds ++ c :: rest ∧ place = offset + ds.length ∧ isGap c = false ∧
      Token.first? (c :: rest) = none ∧
      LexesBefore (c :: rest) ds (scanFrom offset cs).words := by
  fun_induction scanFrom offset cs with
  | case1 => simp at h
  | case2 offset d rest hd ih =>
    obtain ⟨ds, rest, hcs, hplace, hgap, hnone, hwords⟩ := ih h
    refine ⟨d :: ds, rest, by rw [hcs, List.cons_append], ?_, hgap, hnone, .gap hd hwords⟩
    rw [hplace, List.length_cons]
    omega
  | case3 offset d rest hd hnone =>
    obtain ⟨rfl, rfl⟩ : offset = place ∧ d = c := by simpa using h
    exact ⟨[], rest, rfl, rfl, by simpa using hd, hnone, .nil⟩
  | case4 offset d rest hd u tail hfirst later ih =>
    obtain ⟨hwf, hend, hcs⟩ := Token.first?_eq_some_iff.mp hfirst
    obtain ⟨ds, rest, htail, hplace, hgap, hnone, hwords⟩ := ih h
    rw [htail] at hend
    refine ⟨u.chars ++ ds, rest, by rw [hcs, htail, List.append_assoc], ?_, hgap, hnone,
      .token hwf hend hwords⟩
    rw [hplace, List.length_append, Nat.add_assoc]

end Scan

end PathTemplates
