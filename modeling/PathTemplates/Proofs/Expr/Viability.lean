import PathTemplates.Proofs.Expr.Expected

/-! # Where reading an expression fails

Reading stops as soon as no expression starts with what has been read.

* From every state of the parser some tokens finish the expression, so what has been read can always be
  completed (`ParserState.Reads.viable`).
* A failure is one of five kinds (`Expr.Refused`): a token that the state refuses, a character at which no
  token starts, an open quote, nothing but blanks, or an end that comes too early. In each the text up to
  the place splits into the tokens that led to the state.
* The place is therefore that of the first offence (`Expr.error_at_first_offence`). -/

namespace PathTemplates

namespace ParserState

/-! ## Completing what has been read -/

/-- Once the expression that is being read is finished, closing all calls finishes the whole. -/
theorem steps?_closings (calls : List OpenCall) {f : Focus} {e : Expr} (hf : f.settle = .complete e) :
    ∃ f' e', steps? ⟨calls, f⟩ (List.replicate calls.length .closing) = some ⟨[], f'⟩ ∧
      f'.settle = .complete e' := by
  induction calls generalizing f e with
  | nil => exact ⟨f, e, rfl, hf⟩
  | cons call outer ih =>
    obtain ⟨f', e', hsteps, hf'⟩ := ih (f := .complete (.call call.name (e :: call.args).reverse)) rfl
    refine ⟨f', e', ?_, hf'⟩
    rw [List.length_cons, List.replicate_succ, steps?_cons, step?_closing call outer hf]
    exact hsteps

/-- From every state some tokens finish the expression. -/
theorem exists_completion (s : ParserState) :
    ∃ ts f e, (∀ t ∈ ts, t.WellFormed) ∧ s.steps? ts = some ⟨[], f⟩ ∧ f.settle = .complete e := by
  obtain ⟨calls, focus⟩ := s
  have hclosings (n : Nat) : ∀ t ∈ List.replicate n Token.closing, t.WellFormed := by
    intro t ht
    rw [List.eq_of_mem_replicate ht]
    trivial
  -- a name finishes whatever needs one, and then all calls are closed
  have hname {f : Focus} (hstep : step? ⟨calls, focus⟩ (.identifier ['a']) = some ⟨calls, f⟩)
      {e : Expr} (hf : f.settle = .complete e) :
      ∃ ts f e, (∀ t ∈ ts, t.WellFormed) ∧ steps? ⟨calls, focus⟩ ts = some ⟨[], f⟩ ∧
        f.settle = .complete e := by
    obtain ⟨f', e', hsteps, hf'⟩ := steps?_closings calls hf
    refine ⟨.identifier ['a'] :: List.replicate calls.length .closing, f', e',
      List.forall_mem_cons.mpr ⟨⟨by simp, List.forall_mem_singleton.mpr (by decide)⟩, hclosings _⟩, ?_, hf'⟩
    rw [steps?_cons, hstep]
    exact hsteps
  cases focus with
  | start | opened | separated => exact hname rfl rfl
  | dotted root fields => exact hname rfl rfl
  | name n =>
    obtain ⟨f', e', hsteps, hf'⟩ := steps?_closings calls (f := .name n) rfl
    exact ⟨_, f', e', hclosings _, hsteps, hf'⟩
  | path root fields =>
    obtain ⟨f', e', hsteps, hf'⟩ := steps?_closings calls (f := .path root fields) rfl
    exact ⟨_, f', e', hclosings _, hsteps, hf'⟩
  | complete e =>
    obtain ⟨f', e', hsteps, hf'⟩ := steps?_closings calls (f := .complete e) rfl
    exact ⟨_, f', e', hclosings _, hsteps, hf'⟩

/-- What has been read is the beginning of an expression. -/
theorem Reads.viable {s : ParserState} {ts : List Token} (h : Reads s ts) :
    ∃ us e, (∀ u ∈ us, u.WellFormed) ∧ Grammar.Expression (ts ++ us) e := by
  obtain ⟨us, f, e, hwf, hsteps, hf⟩ := exists_completion s
  exact ⟨us, e, hwf, (h.steps hsteps).expression hf⟩

/-! ## Refusals -/

/-- Whether a token may stand at a place depends on its kind alone. -/
theorem step?_isSome_of_kind_eq {t u : Token} (h : t.kind = u.kind) (s : ParserState) :
    (s.step? t).isSome = (s.step? u).isSome := by
  obtain ⟨calls, focus⟩ := s
  cases t <;> cases u <;> simp only [Token.kind, reduceCtorEq] at h <;>
    first
    | rfl
    | cases focus <;> rfl

/-- A run that fails refuses one of its tokens, the character at which the text stops, or its end. -/
theorem exists_of_run_eq_error {s : ParserState} {stuck : Option (Nat × Char)} {n : Nat}
    {ts : List PlacedToken} {err : SyntaxError} (h : s.run stuck n ts = .error err) :
    (∃ before t after last, ts = before ++ t :: after ∧
      s.steps? (before.map (·.token)) = some last ∧ last.step? t.token = none ∧
      err = last.refuse t) ∨
    ∃ last, s.steps? (ts.map (·.token)) = some last ∧
      ((∃ place c, stuck = some (place, c) ∧ err = last.refuseChar place c) ∨
        stuck = none ∧ last.finish n = .error err) := by
  induction ts generalizing s with
  | nil =>
    right
    refine ⟨s, rfl, ?_⟩
    cases stuck with
    | none => exact .inr ⟨rfl, h⟩
    | some found => exact .inl ⟨found.1, found.2, rfl, (Except.error.inj h).symm⟩
  | cons t ts ih =>
    rw [run] at h
    cases hstep : s.step? t.token with
    | none =>
      rw [hstep] at h
      exact .inl ⟨[], t, ts, s, rfl, rfl, hstep, (Except.error.inj h).symm⟩
    | some next =>
      rw [hstep] at h
      rcases ih h with ⟨before, u, after, last, rfl, hsteps, hrefused, herr⟩ | ⟨last, hsteps, hend⟩
      · left
        refine ⟨t :: before, u, after, last, rfl, ?_, hrefused, herr⟩
        rw [List.map_cons, steps?_cons, hstep]
        exact hsteps
      · right
        refine ⟨last, ?_, hend⟩
        rw [List.map_cons, steps?_cons, hstep]
        exact hsteps

/-- A text that may not end either has no tokens or ends too early. -/
theorem finish_eq_error {s : ParserState} {n : Nat} {err : SyntaxError}
    (h : s.finish n = .error err) :
    s.focus = .start ∧ err = ⟨.emptyExpression, n, s.listedSettled⟩ ∨
      s.focus ≠ .start ∧ err = ⟨.unfinished, n, s.listedSettled⟩ := by
  obtain ⟨calls, focus⟩ := s
  cases focus with
  | start => exact .inl ⟨rfl, by cases calls <;> exact (Except.error.inj h).symm⟩
  | opened | separated | dotted =>
    exact .inr ⟨by simp, by cases calls <;> exact (Except.error.inj h).symm⟩
  | name | path | complete =>
    refine .inr ⟨by simp, ?_⟩
    cases calls with
    | nil => cases h
    | cons => exact (Except.error.inj h).symm

/-- Before anything is read the parser is at the start, and only then. -/
theorem Reads.focus_eq_start_iff {s : ParserState} {ts : List Token} (h : Reads s ts)
    (hsteps : initial.steps? ts = some s) : s.focus = .start ↔ ts = [] := by
  constructor
  · intro hstart
    obtain @⟨calls, focus, us, vs, hcalls, hfocus⟩ := h
    obtain rfl : focus = .start := hstart
    cases hfocus
    cases hcalls
    rfl
  · rintro rfl
    obtain rfl := Option.some.inj hsteps
    rfl

end ParserState

namespace Expr

/-- How a text is refused as the inside of an expression. -/
inductive Refused (cs : List Char) : SyntaxError → Prop
  /-- A token may not stand where it does. -/
  | token {ds rest : List Char} {ts : List Token} {t : Token} {s : ParserState} :
      cs = ds ++ (t.chars ++ rest) → LexesBefore (t.chars ++ rest) ds ts → t.WellFormed →
      ParserState.initial.steps? ts = some s → s.step? t = none →
      Refused cs ⟨.token t, ds.length,
        (if ParserState.finishes t then s.settle else s).expected⟩
  /-- No token starts at a character, which is no quote. -/
  | character {ds rest : List Char} {ts : List Token} {c : Char} {s : ParserState} :
      cs = ds ++ c :: rest → LexesBefore (c :: rest) ds ts → isGap c = false →
      Token.first? (c :: rest) = none → QuoteMark.ofChar? c = none →
      ParserState.initial.steps? ts = some s →
      Refused cs ⟨.character c, ds.length, s.expected⟩
  /-- A quote is not closed. -/
  | openQuote {ds rest : List Char} {ts : List Token} {mark : QuoteMark} {s : ParserState} :
      cs = ds ++ mark.char :: rest → LexesBefore (mark.char :: rest) ds ts →
      Token.first? (mark.char :: rest) = none → ParserState.initial.steps? ts = some s →
      Refused cs ⟨.openQuote, ds.length, []⟩
  /-- There are no tokens. -/
  | blank : Lexes cs [] → Refused cs ⟨.emptyExpression, cs.length, ParserState.initial.expected⟩
  /-- The text ends before the expression does. -/
  | unfinished {ts : List Token} {s : ParserState} :
      Lexes cs ts → ts ≠ [] → ParserState.initial.steps? ts = some s →
      Refused cs ⟨.unfinished, cs.length, s.settle.expected⟩

/-- A text that cannot be parsed is refused in one of these ways. -/
theorem refused_of_ofChars {cs : List Char} {err : SyntaxError} (h : ofChars cs = .error err) :
    Refused cs err := by
  -- the run stops with what the tables list, which is narrowed afterwards
  obtain ⟨stop, hrun, rfl⟩ := mapError_eq_error_iff.mp h
  rcases ParserState.exists_of_run_eq_error hrun with
    ⟨before, ⟨offset, t⟩, after, last, htokens, hsteps, hrefused, rfl⟩ | ⟨last, hsteps, hend⟩
  · obtain ⟨ds, rest, hcs, hoffset, hwf, -, hread⟩ := Scan.exists_before_token htokens
    obtain rfl : offset = ds.length := by simpa using hoffset
    have hrefuse := Refused.token hcs hread hwf hsteps hrefused
    rw [ParserState.refuse]
    cases hfinishes : ParserState.finishes t with
    | true =>
      rw [hfinishes, if_pos rfl] at hrefuse
      rwa [if_pos rfl, SyntaxError.narrow_listedSettled hcs hread.lexes hsteps]
    | false =>
      rw [hfinishes, if_neg Bool.false_ne_true] at hrefuse
      rwa [if_neg Bool.false_ne_true, SyntaxError.narrow_listed hcs hread.lexes hsteps]
  · rcases hend with ⟨place, c, hstuck, rfl⟩ | ⟨hstuck, hfinish⟩
    · obtain ⟨ds, rest, hcs, hplace, hgap, hnone, hread⟩ := Scan.exists_before_stuck hstuck
      obtain rfl : place = ds.length := by simpa using hplace
      rw [ParserState.refuseChar]
      cases hmark : QuoteMark.ofChar? c with
      | none =>
        rw [SyntaxError.narrow_listed hcs hread.lexes hsteps]
        exact .character hcs hread hgap hnone hmark hsteps
      | some mark =>
        obtain rfl := QuoteMark.ofChar?_eq_some_iff.mp hmark
        rw [SyntaxError.narrow_nil]
        exact .openQuote hcs hread hnone hsteps
    · have hlexes : Lexes cs (Scan.ofChars cs).words := Scan.lexes_iff_scan.mpr ⟨hstuck, rfl⟩
      have hreads : ParserState.Reads last (Scan.ofChars cs).words := by
        simpa [Scan.words] using ParserState.reads_initial.steps hsteps
      have hstart := hreads.focus_eq_start_iff hsteps
      have hnarrow := SyntaxError.narrow_listedSettled (List.append_nil cs).symm hlexes hsteps
      rcases ParserState.finish_eq_error hfinish with ⟨hfocus, rfl⟩ | ⟨hfocus, rfl⟩
      · have hwords := hstart.mp hfocus
        rw [← Scan.words, hwords] at hsteps
        obtain rfl := Option.some.inj hsteps
        rw [hnarrow]
        exact .blank (hwords ▸ hlexes)
      · rw [hnarrow]
        exact .unfinished hlexes (mt hstart.mpr hfocus) hsteps

/-- What has been read can be completed to a text that is parsed. -/
theorem exists_ofChars_append_eq_ok {ds : List Char} {ts : List Token} {s : ParserState}
    (hlexes : Lexes ds ts) (hsteps : ParserState.initial.steps? ts = some s) :
    ∃ rest x, ofChars (ds ++ rest) = .ok x := by
  obtain ⟨us, x, hwf, hexpr⟩ := (ParserState.reads_initial.steps hsteps).viable
  obtain ⟨more, hmore⟩ := exists_lexes hwf
  exact ⟨' ' :: more, x, ofChars_eq_ok_iff.mpr ⟨_, hlexes.append_blank hmore, hexpr⟩⟩

/-- After what has been read no text goes on with a token that is refused. -/
theorem ofChars_ne_ok_of_step? {ds rest : List Char} {ts : List Token} {t : Token} {s : ParserState}
    (hread : LexesBefore (t.chars ++ rest) ds ts) (hwf : t.WellFormed)
    (hsteps : ParserState.initial.steps? ts = some s) (hrefused : s.step? t = none)
    (other : List Char) (x : Expr) : ofChars (ds ++ t.chars ++ other) ≠ .ok x := by
  intro hok
  -- the other text goes on with a token of the same kind, which is refused too
  obtain ⟨u, tail, hfirst, hkind⟩ := Token.exists_first?_of_prefix hwf (List.prefix_append t.chars other)
  have hother : LexesBefore (t.chars ++ other) ds ts := by
    refine hread.of_rest fun hends => ?_
    obtain ⟨c, cs, hchars, -⟩ := hwf.exists_chars_eq
    rw [hchars] at hends ⊢
    exact hends
  obtain ⟨placed, hplaced, hscan⟩ := Scan.scanFrom_append hother 0
  rw [Scan.scanFrom_token _ hfirst] at hscan
  rw [ofChars, Scan.ofChars, List.append_assoc, hscan, mapError_eq_ok_iff,
    ParserState.run_eq_ok_iff] at hok
  obtain ⟨-, last, hlast, -⟩ := hok
  rw [List.map_append, hplaced, ParserState.steps?_append, hsteps, Option.bind_some, List.map_cons,
    ParserState.steps?_cons, Option.bind_eq_some_iff] at hlast
  obtain ⟨next, hnext, -⟩ := hlast
  have hsome := ParserState.step?_isSome_of_kind_eq hkind s
  simp [hnext, hrefused] at hsome

/-- After what has been read no text goes on with a character at which no token starts. -/
theorem ofChars_ne_ok_of_first? {ds rest : List Char} {ts : List Token} {c : Char}
    (hread : LexesBefore (c :: rest) ds ts) (hgap : isGap c = false)
    (hnone : Token.first? (c :: rest) = none) (hmark : QuoteMark.ofChar? c = none)
    (other : List Char) (x : Expr) : ofChars (ds ++ [c] ++ other) ≠ .ok x := by
  intro hok
  -- without a quote the first character alone decides that no token starts
  have hother : Token.first? (c :: other) = none := by
    simp only [Token.first?, hmark] at hnone ⊢
    split_ifs at hnone ⊢
    rfl
  have hbefore : LexesBefore (c :: other) ds ts := hread.of_rest id
  obtain ⟨placed, -, hscan⟩ := Scan.scanFrom_append hbefore 0
  rw [Scan.scanFrom_stuck _ hgap hother] at hscan
  rw [ofChars, Scan.ofChars, List.append_assoc, List.singleton_append, hscan, mapError_eq_ok_iff,
    ParserState.run_eq_ok_iff] at hok
  simp at hok

/-- A quote at which no quoted text starts has no other of its kind after it. -/
theorem notMem_of_first?_eq_none {mark : QuoteMark} {rest : List Char}
    (h : Token.first? (mark.char :: rest) = none) : mark.char ∉ rest := by
  intro hmem
  obtain ⟨text, after, rfl, htext⟩ := List.eq_append_cons_of_mem hmem
  exact Token.first?_eq_none_iff.mp h (.quoted mark text) htext ⟨after, by simp [Token.chars]⟩

/-- A text without tokens is blank, and no other that splits into tokens is. -/
theorem isAllBlank_iff_of_lexes {cs : List Char} {ts : List Token} (h : Lexes cs ts) :
    isAllBlank cs ↔ ts = [] := by
  induction h with
  | nil => simp [isAllBlank]
  | gap hc _ ih => simpa [isAllBlank, isBlank_of_isGap hc] using ih
  | token hwf _ _ _ =>
    obtain ⟨c, more, hchars, hblank, -⟩ := hwf.exists_chars_eq
    simp [isAllBlank, hchars, hblank]

/-- An error stands at the first offence: what comes before its place can be completed to a text that is
parsed, and with what stands at the place it cannot. A character is refused where no token starts, a token
where it may not stand, a quote if there is no other of its kind after it, and the end of the text if it
comes too early, or if there is nothing but blanks. -/
theorem error_at_first_offence {cs : List Char} {err : SyntaxError} (h : ofChars cs = .error err) :
    (∃ rest x, ofChars (cs.take err.offset ++ rest) = .ok x) ∧
      match err.problem with
      | .character c => cs[err.offset]? = some c ∧
          ∀ rest x, ofChars (cs.take (err.offset + 1) ++ rest) ≠ .ok x
      | .token t => (cs.drop err.offset).take t.chars.length = t.chars ∧
          ∀ rest x, ofChars (cs.take (err.offset + t.chars.length) ++ rest) ≠ .ok x
      | .openQuote => ∃ mark : QuoteMark, cs[err.offset]? = some mark.char ∧
          mark.char ∉ cs.drop (err.offset + 1)
      | .emptyExpression => err.offset = cs.length ∧ isAllBlank cs
      | .unfinished => err.offset = cs.length ∧ ¬ isAllBlank cs
      | .openBraces => False := by
  cases refused_of_ofChars h with
  | @token ds rest ts t s hcs hread hwf hsteps hrefused =>
    subst hcs
    refine ⟨?_, by simp, fun other x => ?_⟩
    · simpa using exists_ofChars_append_eq_ok hread.lexes hsteps
    · have hne := ofChars_ne_ok_of_step? hread hwf hsteps hrefused other x
      rwa [List.take_length_add_append, List.take_left]
  | @character ds rest ts c s hcs hread hgap hnone hmark hsteps =>
    subst hcs
    refine ⟨?_, by simp, fun other x => ?_⟩
    · simpa using exists_ofChars_append_eq_ok hread.lexes hsteps
    · have hne := ofChars_ne_ok_of_first? hread hgap hnone hmark other x
      simpa [List.take_length_add_append] using hne
  | @openQuote ds rest ts mark s hcs hread hnone hsteps =>
    subst hcs
    refine ⟨?_, mark, by simp, ?_⟩
    · simpa using exists_ofChars_append_eq_ok hread.lexes hsteps
    · have hlast := notMem_of_first?_eq_none hnone
      simpa [List.drop_length_add_append] using hlast
  | blank hlexes =>
    refine ⟨?_, rfl, (isAllBlank_iff_of_lexes hlexes).mpr rfl⟩
    simpa using exists_ofChars_append_eq_ok (s := .initial) hlexes rfl
  | @unfinished ts s hlexes hne hsteps =>
    refine ⟨?_, rfl, mt (isAllBlank_iff_of_lexes hlexes).mp hne⟩
    simpa using exists_ofChars_append_eq_ok hlexes hsteps

/-- A name after a finished argument is refused where it starts, and a quote that is not closed at the
quote. -/
theorem error_at_first_offence_argument :
    ofChars "f(a.b, g('x') y)".toList =
        .error ⟨.token (.identifier ['y']), 14, [.closing, .comma]⟩ ∧
      ofChars "f(a.b, g('x') \"y)".toList = .error ⟨.openQuote, 14, []⟩ ∧
      (∃ rest x, ofChars ("f(a.b, g('x') ".toList ++ rest) = .ok x) ∧
      ∀ rest x, ofChars ("f(a.b, g('x') y".toList ++ rest) ≠ .ok x := by
  have htoken : ofChars "f(a.b, g('x') y)".toList =
      .error ⟨.token (.identifier ['y']), 14, [.closing, .comma]⟩ := by cbv
  have hquote : ofChars "f(a.b, g('x') \"y)".toList = .error ⟨.openQuote, 14, []⟩ := by cbv
  obtain ⟨-, -, hrefused⟩ := error_at_first_offence htoken
  obtain ⟨hviable, -⟩ := error_at_first_offence hquote
  exact ⟨htoken, hquote, hviable, hrefused⟩

end Expr

end PathTemplates
