import PathTemplates.Proofs.Expr.Viability

/-! # What could have stood at an error

Every error but that of an open quote lists what could have stood at its place. The list is told in one
order and never lies: a token of any kind in it continues what comes before to an expression, the end is
in it only if that is an expression already, and what belongs to a call only inside one
(`Expr.expected_continues`). -/

namespace PathTemplates

/-! ## The list in a message -/

namespace Expectation

/-- The order in which a message lists what could stand at a place of an expression. -/
def order : List Expectation :=
  [.identifier, .quotedString, .opening, .closing, .comma, .dot, .finish]

/-- No two of them are named alike. -/
theorem nodup_labels_order : (order.map label).Nodup := by decide

/-- A name of what is expected does not start like a list of several. -/
theorem not_prefix_label (e : Expectation) : ¬ "one of ".toList <+: e.label.toList := by
  cases e <;> decide

/-- A list that is not empty is told by its names, after "one of" exactly if there are several. -/
theorem describe_eq {es : List Expectation} (h : es ≠ []) :
    describe es = (if 2 ≤ es.length then "one of " else "") ++ joinWith ", " (es.map label) ∧
      ("one of ".toList <+: (describe es).toList ↔ 2 ≤ es.length) := by
  match es with
  | [] => exact absurd rfl h
  | [e] =>
    refine ⟨?_, iff_of_false (not_prefix_label e) (by simp)⟩
    simp [describe, joinWith]
  | e :: d :: rest =>
    have htold : describe (e :: d :: rest) =
        "one of " ++ joinWith ", " ((e :: d :: rest).map label) := rfl
    have hlength : 2 ≤ (e :: d :: rest).length := by simp
    refine ⟨by rw [if_pos hlength, htold], iff_of_true ?_ hlength⟩
    rw [htold, String.toList_append]
    exact List.prefix_append _ _

/-- A list that is not empty is told by some text. -/
theorem describe_ne_empty {es : List Expectation} (h : es ≠ []) : describe es ≠ "" := by
  match es with
  | [] => exact absurd rfl h
  | [e] => cases e <;> decide
  | e :: d :: rest =>
    intro hempty
    have hprefix := (describe_eq h).2.mpr (by simp)
    rw [hempty] at hprefix
    exact absurd hprefix (by decide)

end Expectation

/-! ## What a state expects -/

/-- What may come next is listed in the order of messages. -/
theorem Focus.followers_sublist (nested : Bool) (f : Focus) :
    (f.followers nested).Sublist Expectation.order := by
  cases f <;> cases nested <;> simp only [followers, Bool.false_eq_true, if_true, if_false] <;> decide

/-- Something may always come next. -/
theorem Focus.followers_ne_nil (nested : Bool) (f : Focus) : f.followers nested ≠ [] := by
  cases f <;> cases nested <;> simp [followers]

namespace ParserState

/-- A state that has read some tokens lets every token stand next whose kind it expects. -/
theorem Reads.exists_step? {s : ParserState} {ts : List Token} {t : Token} (h : Reads s ts)
    (ht : t.kind ∈ s.expected) : ∃ next, s.step? t = some next := by
  have hinside := h.inside
  obtain ⟨calls, focus⟩ := s
  cases t with
  | identifier n | quoted mark text | opening | dot =>
    -- the focus alone decides, inside a call and outside
    cases focus <;> cases calls <;> simp [expected, Focus.followers, Token.kind] at ht <;>
      exact ⟨_, rfl⟩
  | closing | comma =>
    -- there is a call to go on with
    cases calls with
    | nil => cases focus <;> simp [expected, Focus.followers, Token.kind] at ht hinside
    | cons call outer =>
      cases focus <;> simp [expected, Focus.followers, Token.kind] at ht <;> exact ⟨_, rfl⟩

/-- The end is expected only after an expression outside all calls. -/
theorem settle_of_finish_mem {s : ParserState} (h : .finish ∈ s.expected) :
    s.calls = [] ∧ ∃ e, s.focus.settle = .complete e := by
  obtain ⟨calls, focus⟩ := s
  cases calls with
  | nil =>
    cases focus <;> simp [expected, Focus.followers] at h <;> exact ⟨rfl, _, rfl⟩
  | cons call outer => cases focus <;> simp [expected, Focus.followers] at h

/-- A comma or a closing parenthesis is expected only inside a call. -/
theorem Reads.calls_ne_nil {s : ParserState} {ts : List Token} (h : Reads s ts)
    (hmem : .closing ∈ s.expected ∨ .comma ∈ s.expected) : s.calls ≠ [] := by
  have hinside := h.inside
  obtain ⟨calls, focus⟩ := s
  rintro rfl
  cases focus <;> simp [expected, Focus.followers] at hmem hinside

end ParserState

/-! ## What an error lists -/

namespace Expr

/-- An error other than that of an open quote lists what a state expects that has read the text up to the
place of the error. -/
theorem Refused.exists_expected {cs : List Char} {err : SyntaxError} (h : Refused cs err)
    (hquote : err.problem ≠ .openQuote) :
    ∃ ts s, Lexes (cs.take err.offset) ts ∧ ParserState.Reads s ts ∧ err.expected = s.expected ∧
      ts.count .opening = s.calls.length + ts.count .closing := by
  have hreads {ts : List Token} {s : ParserState} (hsteps : ParserState.initial.steps? ts = some s) :
      s.Reads ts ∧ ts.count .opening = s.calls.length + ts.count .closing := by
    have hcount := ParserState.count_steps? hsteps
    exact ⟨ParserState.reads_initial.steps hsteps, by simpa [ParserState.initial] using hcount⟩
  cases h with
  | @token ds rest ts t s hcs hread _ hsteps _ =>
    obtain ⟨hs, hcount⟩ := hreads hsteps
    have hlexes : Lexes (cs.take ds.length) ts := by simpa [hcs] using hread.lexes
    -- a comma or a closing parenthesis has finished the name or path before it
    cases hfinishes : ParserState.finishes t with
    | true => exact ⟨ts, s.settle, hlexes, hs.settle, rfl, hcount⟩
    | false => exact ⟨ts, s, hlexes, hs, rfl, hcount⟩
  | @character ds rest ts c s hcs hread _ _ _ hsteps =>
    obtain ⟨hs, hcount⟩ := hreads hsteps
    exact ⟨ts, s, by simpa [hcs] using hread.lexes, hs, rfl, hcount⟩
  | openQuote => exact absurd rfl hquote
  | blank hlexes => exact ⟨[], .initial, by simpa using hlexes, ParserState.reads_initial, rfl, rfl⟩
  | @unfinished ts s hlexes _ hsteps =>
    obtain ⟨hs, hcount⟩ := hreads hsteps
    exact ⟨ts, s.settle, by simpa using hlexes, hs.settle, rfl, hcount⟩

/-- What an error lists could have stood at its place, whatever is wrong there but an open quote.

The list is not empty, its names are distinct and told in one order, after "one of" exactly if there are
several. With a token of any kind that it names, the tokens before the place go on to those of a text that
is parsed. The end is named only if the text before the place is parsed by itself, a comma or a closing
parenthesis only inside a call, and the end never there. -/
theorem expected_continues {cs : List Char} {err : SyntaxError} (h : ofChars cs = .error err)
    (hquote : err.problem ≠ .openQuote) :
    (Expectation.describe err.expected ≠ "" ∧ err.expected.Sublist Expectation.order ∧
      (err.expected.map Expectation.label).Nodup ∧
      Expectation.describe err.expected = (if 2 ≤ err.expected.length then "one of " else "") ++
        joinWith ", " (err.expected.map Expectation.label) ∧
      ("one of ".toList <+: (Expectation.describe err.expected).toList ↔
        2 ≤ err.expected.length)) ∧
    ∃ ts, Lexes (cs.take err.offset) ts ∧
      (∀ t : Token, t.WellFormed → t.kind ∈ err.expected →
        ∃ ds us x, Lexes ds (ts ++ t :: us) ∧ ofChars ds = .ok x) ∧
      (.finish ∈ err.expected → (∃ x, ofChars (cs.take err.offset) = .ok x) ∧
        ts.count .opening = ts.count .closing) ∧
      (.closing ∈ err.expected ∨ .comma ∈ err.expected →
        ts.count .closing < ts.count .opening) := by
  obtain ⟨ts, s, hlexes, hreads, hexpected, hcount⟩ := (refused_of_ofChars h).exists_expected hquote
  have hne : err.expected ≠ [] := hexpected ▸ Focus.followers_ne_nil _ _
  have hsublist : err.expected.Sublist Expectation.order :=
    hexpected ▸ Focus.followers_sublist _ _
  obtain ⟨hdescribe, hseveral⟩ := Expectation.describe_eq hne
  refine ⟨⟨Expectation.describe_ne_empty hne, hsublist,
    Expectation.nodup_labels_order.sublist (hsublist.map _), hdescribe, hseveral⟩, ts, hlexes, ?_, ?_, ?_⟩
  · intro t hwf ht
    rw [hexpected] at ht
    obtain ⟨next, hstep⟩ := hreads.exists_step? ht
    obtain ⟨us, x, hus, hexpr⟩ := (hreads.step hstep).viable
    rw [List.append_assoc, List.singleton_append] at hexpr
    have hall : ∀ u ∈ ts ++ t :: us, u.WellFormed :=
      List.forall_mem_append.mpr ⟨hlexes.wellFormed, List.forall_mem_cons.mpr ⟨hwf, hus⟩⟩
    obtain ⟨ds, hds⟩ := exists_lexes hall
    exact ⟨ds, us, x, hds, ofChars_eq_ok_iff.mpr ⟨_, hds, hexpr⟩⟩
  · intro hfinish
    rw [hexpected] at hfinish
    obtain ⟨hcalls, e, he⟩ := ParserState.settle_of_finish_mem hfinish
    obtain ⟨calls, focus⟩ := s
    obtain rfl : calls = [] := hcalls
    refine ⟨⟨e, ofChars_eq_ok_iff.mpr ⟨ts, hlexes, hreads.expression he⟩⟩, ?_⟩
    simpa using hcount
  · intro hmem
    rw [hexpected] at hmem
    have hinside := List.length_pos_iff.mpr (hreads.calls_ne_nil hmem)
    omega

/-- After a path inside a call a dot, a comma and a closing parenthesis are listed, and after a call outside
all others only the end. -/
theorem expected_continues_path :
    ofChars "f(g(), a.b $".toList = .error ⟨.character '$', 11, [.closing, .comma, .dot]⟩ ∧
      (∃ ts, Lexes "f(g(), a.b ".toList ts ∧ ts.count .closing < ts.count .opening ∧
        ∃ ds us x, Lexes ds (ts ++ .dot :: us) ∧ ofChars ds = .ok x) ∧
      ofChars "f(g(a)) (".toList = .error ⟨.token .opening, 8, [.finish]⟩ ∧
      ∃ x, ofChars "f(g(a)) ".toList = .ok x := by
  have hinside : ofChars "f(g(), a.b $".toList =
      .error ⟨.character '$', 11, [.closing, .comma, .dot]⟩ := by cbv
  have houtside : ofChars "f(g(a)) (".toList = .error ⟨.token .opening, 8, [.finish]⟩ := by cbv
  obtain ⟨-, ts, hlexes, hcontinues, -, hopen⟩ := expected_continues hinside (by decide)
  obtain ⟨-, us, -, -, hfinish, -⟩ := expected_continues houtside (by decide)
  refine ⟨hinside, ⟨ts, hlexes, hopen (by decide), hcontinues .dot trivial (by decide)⟩, houtside, ?_⟩
  exact (hfinish (by decide)).1

end Expr

end PathTemplates
