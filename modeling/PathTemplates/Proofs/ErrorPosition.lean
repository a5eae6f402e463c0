import PathTemplates.Proofs.Expr.Spacing
import PathTemplates.Proofs.Expr.Viability
import PathTemplates.Proofs.Template.Concatenation
import PathTemplates.Proofs.Text.Position

/-! # Where errors are reported

An error in an expression or a template is reported at a place inside the text, its end included. The
report gives the line and the column of the place and shows the line with a caret under the place
(`ParseError.placed_exactly`). -/

namespace PathTemplates

/-! ## Expressions -/

namespace Expr

/-- The place of an error in an expression is inside the text. -/
theorem Refused.offset_le {cs : List Char} {err : SyntaxError} (h : Refused cs err) :
    err.offset ≤ cs.length := by
  cases h with
  | token hcs | character hcs | openQuote hcs =>
    rw [hcs, List.length_append]
    exact Nat.le_add_right ..
  | blank | unfinished => exact Nat.le_refl _

/-- What stands between braces is inside the text. -/
theorem add_length_le_of_unwrap? {cs inner : List Char} {offset : Nat}
    (h : unwrap? cs = some (offset, inner)) : offset + inner.length ≤ cs.length := by
  have htrim : (trimBlank cs).length ≤ (cs.dropWhile isBlank).length := by
    rw [trimBlank, trimWhile, trimEndWhile, List.length_reverse]
    exact (List.dropWhile_sublist _).length_le.trans_eq (List.length_reverse ..)
  have hsplit := congrArg List.length (List.takeWhile_append_dropWhile (p := isBlank) (l := cs))
  rw [List.length_append] at hsplit
  rw [unwrap?] at h
  split at h
  · next body hbraced =>
    split at h
    · next body' hclosed =>
      obtain ⟨rfl, rfl⟩ := Prod.mk.inj (Option.some.inj h)
      have hbody := congrArg List.length hclosed
      rw [hbraced] at htrim
      simp only [List.length_cons, List.length_reverse] at hbody htrim ⊢
      omega
    · cases h
  · cases h

end Expr

/-! ## Templates -/

namespace Segment

/-- The place of an error in a segment is inside the text that the segment stands in. -/
theorem offset_le_of_node {s : Segment} {offset total : Nat} {err : SyntaxError}
    (h : s.node offset total = .error err) (htotal : offset + s.chars.length ≤ total) :
    err.offset ≤ total := by
  have hshift {text : List Char} {cause : SyntaxError} (hcause : Expr.ofChars text = .error cause)
      (hlength : offset + 2 + text.length ≤ total) : (cause.shift (offset + 2)).offset ≤ total := by
    have hle := (Expr.refused_of_ofChars hcause).offset_le
    show cause.offset + (offset + 2) ≤ total
    omega
  cases s with
  | literal text => cases h
  | inside text =>
    have hlength : offset + 2 + text.length ≤ total := by
      simp only [chars, List.length_append, List.length_cons, List.length_nil] at htotal
      omega
    obtain ⟨cause, hcause, rfl⟩ := mapError_eq_error_iff.mp h
    exact hshift (map_eq_error_iff.mp hcause) hlength
  | unclosed text =>
    have hlength : offset + 2 + text.length ≤ total := by
      simp only [chars, List.length_append, List.length_cons, List.length_nil] at htotal
      omega
    -- braces that are not closed are an error at the end of the text
    have hend : (⟨.openBraces, total, [.braces]⟩ : SyntaxError).offset ≤ total := Nat.le_refl _
    rw [node] at h
    split at h
    · obtain rfl := Except.error.inj h
      exact hend
    · split at h
      · next cause hcause =>
        obtain rfl := Except.error.inj h
        exact hshift hcause hlength
      · obtain rfl := Except.error.inj h
        exact hend

/-- So is the place of the first error in several segments. -/
theorem offset_le_of_nodes {segments : List Segment} {offset total : Nat} {err : SyntaxError}
    (h : nodes offset total segments = .error err)
    (htotal : offset + (segments.flatMap chars).length ≤ total) : err.offset ≤ total := by
  -- each segment starts where the one before it ends
  induction segments generalizing offset with
  | nil => cases h
  | cons s rest ih =>
    rw [List.flatMap_cons, List.length_append] at htotal
    rw [nodes] at h
    rcases bind_eq_error_iff.mp h with hfirst | ⟨first, -, hothers⟩
    · exact offset_le_of_node hfirst (by omega)
    · rcases bind_eq_error_iff.mp hothers with hrest | ⟨others, -, hpure⟩
      · exact ih hrest (by omega)
      · cases hpure

end Segment

/-! ## Reports -/

namespace ParseError

/-- A report on a text, of a place inside it. -/
def OnInside (source : String) (e : ParseError) : Prop :=
  ∃ err : SyntaxError, err.offset ≤ source.length ∧ e = err.report source

variable {source : String} {e : ParseError}

/-- What the parsers refuse they report on the text that they are given. -/
theorem onInside_of_parse (h : Expr.parse source = .error e) : e.OnInside source := by
  rw [Expr.parse] at h
  obtain ⟨err, herr, rfl⟩ := mapError_eq_error_iff.mp h
  refine ⟨err, ?_, rfl⟩
  rw [← String.length_toList]
  cases hunwrap : Expr.unwrap? source.toList with
  | none =>
    rw [hunwrap] at herr
    exact (Expr.refused_of_ofChars herr).offset_le
  | some found =>
    obtain ⟨offset, inner⟩ := found
    rw [hunwrap] at herr
    obtain ⟨cause, hcause, rfl⟩ := mapError_eq_error_iff.mp herr
    have hle := (Expr.refused_of_ofChars hcause).offset_le
    have hinside := Expr.add_length_le_of_unwrap? hunwrap
    show cause.offset + offset ≤ source.toList.length
    omega

theorem onInside_of_all (h : Token.all source = .error e) : e.OnInside source := by
  cases hstuck : (Scan.ofChars source.toList).stuck with
  | none => simp [Token.all, hstuck] at h
  | some found =>
    obtain ⟨place, c⟩ := found
    obtain ⟨ds, rest, hcs, hplace, -⟩ := Scan.exists_before_stuck hstuck
    obtain ⟨problem, expected, hall, -⟩ := Token.all_of_stuck hstuck
    refine ⟨⟨problem, place, expected⟩, ?_, Except.error.inj (h.symm.trans hall)⟩
    rw [← String.length_toList, hcs, List.length_append]
    show place ≤ _
    omega

theorem onInside_of_parse_template (h : Template.parse source = .error e) : e.OnInside source := by
  rw [Template.parse_eq] at h
  obtain ⟨err, herr, rfl⟩ := mapError_eq_error_iff.mp h
  refine ⟨err, ?_, rfl⟩
  rw [← String.length_toList]
  refine Segment.offset_le_of_nodes (map_eq_error_iff.mp herr) ?_
  rw [Segment.chars_ofChars, Nat.zero_add]

/-- Errors are reported at exact places. The place of an error is inside the text that is parsed, its end
included. For every report on such a place, the line is one of the text and the column is on the line or
right behind it; the lines before it, each with its line break, and the characters before the column are
all that stands before the place; and the wording ends with the whole line and, below it, a caret after as
many spaces. -/
theorem placed_exactly :
    (∀ (source : String) (e : ParseError), (Template.parse source = .error e ∨
        Expr.parse source = .error e ∨ Token.all source = .error e) →
      e.source = source ∧ 0 ≤ e.offset ∧ e.offset ≤ source.length) ∧
    ∀ e : ParseError, 0 ≤ e.offset → e.offset ≤ e.source.length →
      let lines := e.source.toList.splitOn '\n'
      let number := e.position.line
      let column := e.position.column
      ∃ line, lines[number - 1]? = some line ∧ 1 ≤ number ∧ number ≤ lines.length ∧
        1 ≤ column ∧ column ≤ line.length + 1 ∧
        e.offset = (((lines.take (number - 1)).map fun l => l.length + 1).sum : Nat) + (column - 1) ∧
        e.message = e.summary ++ " at line " ++ toString number ++ ", column " ++ toString column ++
          ":\n" ++ String.ofList line ++ "\n" ++ spaces (column - 1).toNat ++ "^" := by
  constructor
  · intro source e h
    have hinside : e.OnInside source := by
      rcases h with htemplate | hexpr | htokens
      · exact onInside_of_parse_template htemplate
      · exact onInside_of_parse hexpr
      · exact onInside_of_all htokens
    obtain ⟨err, hle, rfl⟩ := hinside
    exact ⟨rfl, Int.natCast_nonneg _, Int.ofNat_le.mpr hle⟩
  · intro e hnonneg hle lines number column
    obtain ⟨n, hn⟩ := Int.eq_ofNat_of_zero_le hnonneg
    have hplace : e.position = positionAt e.source n := by rw [position, hn]
    obtain ⟨line, start, hline, hsum, hstart, hstop, hcolumn, hexcerpt⟩ :=
      @exists_line_positionAt e.source n (by omega)
    rw [← hplace] at hline hsum hcolumn
    have hcolumn' : column - 1 = ((n - start : Nat) : Int) := by
      show e.position.column - 1 = _
      omega
    have hone : 1 ≤ number := by
      show 1 ≤ e.position.line
      rw [hplace]
      exact Nat.le_add_left ..
    have hnumber : number - 1 < lines.length := (List.getElem?_eq_some_iff.mp hline).1
    refine ⟨line, hline, hone, by omega, by omega, by omega, ?_, ?_⟩
    · rw [hsum, hcolumn', hn]
      omega
    · rw [message, hn, hexcerpt, hcolumn', Int.toNat_natCast]
      simp only [number, column, String.append_assoc]

/-- A call that is not complete on the second of three lines. -/
theorem placed_exactly_second_line :
    let e : ParseError := ⟨"unexpected end of expression", "a\n-\x7b\x7bf(\x7d\x7d\nb", 7,
      "one of identifier, quoted string, ')'"⟩
    Template.parse e.source = .error e ∧ 0 ≤ e.offset ∧ e.offset ≤ e.source.length ∧
      e.position = ⟨2, 6⟩ ∧ e.message = e.summary ++ " at line 2, column 6:\n-\x7b\x7bf(\x7d\x7d\n     ^" := by
  intro e
  have hparse : Template.parse e.source = .error e := by
    have hnodes : Template.ofChars e.source.toList =
        .error ⟨.unfinished, 7, [.identifier, .quotedString, .closing]⟩ := by cbv
    rw [Template.parse_eq, hnodes]
    rfl
  have hposition : e.position = ⟨2, 6⟩ := by decide
  obtain ⟨-, hfirst, hlast⟩ := placed_exactly.1 e.source e (.inl hparse)
  obtain ⟨line, hline, -, -, -, -, -, hmessage⟩ := placed_exactly.2 e hfirst hlast
  have hsecond : (e.source.toList.splitOn '\n')[1]? = some "-\x7b\x7bf(\x7d\x7d".toList := by decide
  rw [hposition] at hline hmessage
  obtain rfl := Option.some.inj (hline.symm.trans hsecond)
  refine ⟨hparse, hfirst, hlast, hposition, ?_⟩
  rw [hmessage]
  decide

end ParseError

end PathTemplates
