import PathTemplates.Expr.Token
import PathTemplates.Text.Search

/-! # Splitting a template

A template text is split into literal stretches and the insides of expressions. An expression starts
at the first pair of opening braces and ends at the first pair of closing braces outside quotes; one
that does not end reaches to the end of the text. -/

namespace PathTemplates

/-- A stretch of a template text. -/
inductive Segment
  /-- Text outside braces. -/
  | literal (text : List Char)
  /-- The inside of an expression, between its braces. -/
  | inside (text : List Char)
  /-- The inside of an expression that is not closed. -/
  | unclosed (text : List Char)
  deriving DecidableEq

namespace Segment

/-- The stretch of the template text that a segment covers. -/
def chars : Segment → List Char
  | literal text => text
  | inside text => ['{', '{'] ++ text ++ ['}', '}']
  | unclosed text => ['{', '{'] ++ text

/-- The inside of an expression and what follows its closing braces, given the quote that is open. -/
def cutClose? : Option QuoteMark → List Char → Option (List Char × List Char)
  | _, [] => none
  | some mark, c :: rest =>
    (cutClose? (if c == mark.char then none else some mark) rest).map fun (i, r) => (c :: i, r)
  | none, '}' :: '}' :: rest => some ([], rest)
  | none, c :: rest => (cutClose? (QuoteMark.ofChar? c) rest).map fun (i, r) => (c :: i, r)

/-- What follows the closing braces is shorter. -/
theorem length_le_of_cutClose? {q : Option QuoteMark} {cs inside rest : List Char}
    (h : cutClose? q cs = some (inside, rest)) : rest.length ≤ cs.length := by
  fun_induction cutClose? q cs generalizing inside rest with
  | case1 => simp at h
  | case2 mark c cs ih =>
    simp only [Option.map_eq_some_iff, Prod.exists, Prod.mk.injEq] at h
    obtain ⟨i, r, hr, -, rfl⟩ := h
    have := ih hr
    simp only [List.length_cons]
    omega
  | case3 r =>
    simp only [Option.some.injEq, Prod.mk.injEq] at h
    rw [← h.2]
    simp only [List.length_cons]
    omega
  | case4 c cs _ ih =>
    simp only [Option.map_eq_some_iff, Prod.exists, Prod.mk.injEq] at h
    obtain ⟨i, r, hr, -, rfl⟩ := h
    have := ih hr
    simp only [List.length_cons]
    omega

/-- What follows the opening braces is shorter. -/
theorem length_lt_of_cutAt? {cs before after : List Char}
    (h : cutAt? ['{', '{'] cs = some (before, after)) : after.length < cs.length := by
  fun_induction cutAt? ['{', '{'] cs generalizing before after with
  | case1 h' => simp at h'
  | case2 => simp at h
  | case3 c rest hp =>
    simp only [Option.some.injEq, Prod.mk.injEq] at h
    rw [← h.2]
    simp only [List.length_drop, List.length_cons, List.length_nil]
    omega
  | case4 c rest _ ih =>
    simp only [Option.map_eq_some_iff, Prod.exists, Prod.mk.injEq] at h
    obtain ⟨b, a, ha, -, rfl⟩ := h
    have := ih ha
    simp only [List.length_cons]
    omega

/-- A literal segment, unless its text is empty. -/
def literals (text : List Char) : List Segment := if text.isEmpty then [] else [literal text]

/-- The segments of a template text. -/
def ofChars (cs : List Char) : List Segment :=
  match _h : cutAt? ['{', '{'] cs with
  | none => literals cs
  | some (before, after) =>
    match _h' : cutClose? none after with
    | none => literals before ++ [unclosed after]
    | some (text, rest) => literals before ++ inside text :: ofChars rest
  termination_by cs.length
  decreasing_by
    have := length_lt_of_cutAt? _h
    have := length_le_of_cutClose? _h'
    omega

end Segment

end PathTemplates
