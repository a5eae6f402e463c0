import PathTemplates.Proofs.Expr.Parsing
import PathTemplates.Proofs.Expr.Prefix

/-! # What may come next

What a state of the parser lets come next follows from what was read last and from whether a call is
open (`ParserState.expected`). An error gets there in another way: the tables list what comes next in a
call and outside alike, and the list is narrowed by the calls that the characters before the place leave
open.

* The characters leave as many calls open as the tokens that they split into (`openCalls_of_lexes`), and
  these as many as the state that has read them (`ParserState.count_steps?`).
* So a narrowed list is what the state lets come next (`ParserState.Reads.narrow_listed`,
  `ParserState.Reads.narrow_listedSettled`). -/

namespace PathTemplates

/-! ## Counting calls in a text -/

/-- Between quotes nothing is counted. -/
theorem openCallsFrom_quoted (depth : Int) {mark : QuoteMark} {text : List Char} (rest : List Char)
    (h : mark.char ∉ text) :
    openCallsFrom depth (some mark) (text ++ mark.char :: rest) = openCallsFrom depth none rest := by
  induction text with
  | nil => simp [openCallsFrom]
  | cons c text ih =>
    obtain ⟨hne, htext⟩ := List.ne_and_not_mem_of_not_mem_cons h
    have hc : (c == mark.char) = false := beq_eq_false_iff_ne.mpr hne.symm
    rw [List.cons_append, openCallsFrom, hc, if_neg Bool.false_ne_true, ih htext]

/-- A character that is neither a quote nor a parenthesis changes nothing. -/
theorem openCallsFrom_other (depth : Int) {c : Char} (rest : List Char)
    (hquote : QuoteMark.ofChar? c = none) (hopening : c ≠ '(') (hclosing : c ≠ ')') :
    openCallsFrom depth none (c :: rest) = openCallsFrom depth none rest := by
  simp [openCallsFrom, hquote, hopening, hclosing]

/-- A name opens and closes nothing. -/
theorem openCallsFrom_name (depth : Int) {name : List Char} (rest : List Char)
    (h : ∀ c ∈ name, isIdentChar c) :
    openCallsFrom depth none (name ++ rest) = openCallsFrom depth none rest := by
  induction name with
  | nil => rfl
  | cons c name ih =>
    obtain ⟨hc, hname⟩ := List.forall_mem_cons.mp h
    rw [List.cons_append, openCallsFrom_other depth _ (ofChar?_of_isIdentChar hc)
      (ne_of_isIdentChar hc (by decide)) (ne_of_isIdentChar hc (by decide)), ih hname]

/-- A token counts by its kind. -/
theorem openCallsFrom_token (depth : Int) {t : Token} (rest : List Char) (h : t.WellFormed) :
    openCallsFrom depth none (t.chars ++ rest) =
      openCallsFrom (depth + [t].count .opening - [t].count .closing) none rest := by
  cases t with
  | identifier name => simpa [Token.chars] using openCallsFrom_name depth rest h.2
  | quoted mark text =>
    have hquoted := openCallsFrom_quoted depth rest h
    simpa [Token.chars, openCallsFrom] using hquoted
  | opening | closing | comma | dot => simp [Token.chars, openCallsFrom, QuoteMark.ofChar?]

/-- A text leaves those calls open whose opening parenthesis is among its tokens and whose closing one
is not. -/
theorem openCallsFrom_of_lexes {cs : List Char} {ts : List Token} (h : Lexes cs ts) (depth : Int) :
    openCallsFrom depth none cs = depth + ts.count .opening - ts.count .closing := by
  induction h generalizing depth with
  | nil => simp [openCallsFrom]
  | @gap c cs ts hc _ ih =>
    have hother : openCallsFrom depth none (c :: cs) = openCallsFrom depth none cs := by
      rcases eq_of_isGap hc with rfl | rfl | rfl | rfl | rfl <;> rfl
    rw [hother, ih]
  | @token t cs ts hwf _ _ ih =>
    have hcount (u : Token) : (t :: ts).count u = [t].count u + ts.count u := by
      rw [← List.singleton_append, List.count_append]
    rw [openCallsFrom_token depth cs hwf, ih, hcount, hcount]
    omega

/-- The calls that a text leaves open are counted in its tokens. -/
theorem openCalls_of_lexes {cs : List Char} {ts : List Token} (h : Lexes cs ts) :
    openCalls cs = ts.count .opening - ts.count .closing := by
  rw [openCalls, openCallsFrom_of_lexes h, Int.zero_add]

/-! ## What a state lets come next -/

/-- What may come next after what was read last, inside a call or outside all of them. -/
def Focus.followers (nested : Bool) : Focus → List Expectation
  | start => [.identifier]
  | opened => [.identifier, .quotedString, .closing]
  | separated => [.identifier, .quotedString]
  | name _ => if nested then [.opening, .closing, .comma, .dot] else [.opening, .dot, .finish]
  | dotted _ _ => [.identifier]
  | path _ _ => if nested then [.closing, .comma, .dot] else [.dot, .finish]
  | complete _ => if nested then [.closing, .comma] else [.finish]

namespace ParserState

/-- What may come next. -/
def expected (s : ParserState) : List Expectation := s.focus.followers (!s.calls.isEmpty)

/-- A call has been opened before its first argument, and before every other. -/
theorem Reads.inside {s : ParserState} {ts : List Token} (h : Reads s ts)
    (hfocus : s.focus = .opened ∨ s.focus = .separated) : ∃ call outer, s.calls = call :: outer := by
  obtain @⟨calls, focus, us, vs, -, hread⟩ := h
  rcases hfocus with hfocus | hfocus <;> obtain rfl : focus = _ := hfocus <;> cases hread <;>
    exact ⟨_, _, rfl⟩

/-- A step keeps account of the calls that are open. -/
theorem count_step? {s s' : ParserState} {t : Token} (h : s.step? t = some s') :
    s.calls.length + [t].count .opening = s'.calls.length + [t].count .closing := by
  obtain ⟨calls, focus⟩ := s
  cases t with
  | identifier n | quoted mark text | dot =>
    cases focus <;> simp only [step?, Option.some.injEq, reduceCtorEq] at h <;> subst h <;> rfl
  | opening =>
    cases focus <;> simp only [step?, Option.some.injEq, reduceCtorEq] at h
    subst h
    rfl
  | closing =>
    simp only [step?] at h
    split at h <;> simp only [Option.some.injEq, reduceCtorEq] at h <;> subst h <;> rfl
  | comma =>
    simp only [step?] at h
    split at h <;> simp only [Option.some.injEq, reduceCtorEq] at h
    subst h
    rfl

/-- The open calls are those whose opening parenthesis has been read and whose closing one has not. -/
theorem count_steps? {s s' : ParserState} {ts : List Token} (h : s.steps? ts = some s') :
    s.calls.length + ts.count .opening = s'.calls.length + ts.count .closing := by
  induction ts generalizing s with
  | nil =>
    obtain rfl := Option.some.inj h
    rfl
  | cons t ts ih =>
    rw [steps?_cons, Option.bind_eq_some_iff] at h
    obtain ⟨next, hstep, hsteps⟩ := h
    have hfirst := count_step? hstep
    have hrest := ih hsteps
    rw [← List.singleton_append, List.count_append, List.count_append]
    omega

/-- What is read stays read when the name or path at its end is finished. -/
theorem Reads.settle {s : ParserState} {ts : List Token} (h : Reads s ts) : Reads s.settle ts := by
  obtain @⟨calls, focus, us, vs, hcalls, hfocus⟩ := h
  exact .mk hcalls hfocus.settle

/-! ## Narrowing what the tables list -/

/-- Inside a call everything that the tables list may come next. -/
theorem narrow_followers_inside {depth : Int} (h : 0 < depth) (f : Focus) :
    Expectation.narrow depth f.listed = f.followers true := by
  rw [Expectation.narrow, if_pos h]
  cases f <;> rfl

/-- Narrowed by the open calls, what the tables list is what may come next. -/
theorem Reads.narrow_listed {s : ParserState} {ts : List Token} (h : Reads s ts) :
    Expectation.narrow s.calls.length s.focus.listed = s.expected := by
  have hinside := h.inside
  obtain ⟨calls, focus⟩ := s
  cases calls with
  | cons call outer =>
    exact narrow_followers_inside (by simp only [List.length_cons]; omega) focus
  | nil =>
    cases focus with
    | opened | separated => simp at hinside
    | start | name | dotted | path | complete => rfl

/-- The same holds once the name or path at the end is finished. -/
theorem Reads.narrow_listedSettled {s : ParserState} {ts : List Token} (h : Reads s ts) :
    Expectation.narrow s.calls.length s.listedSettled = s.settle.expected := by
  rw [← h.settle.narrow_listed, ParserState.settle, listedSettled]
  split
  · rename_i hcalls hfocus
    rw [hcalls, hfocus]
    rfl
  · rfl

end ParserState

/-- Of all kinds of tokens those that go on with arguments are left inside a call only, and outside the
end takes their place. -/
theorem Expectation.narrow_kinds (depth : Int) :
    narrow depth Token.kinds = if 0 < depth then Token.kinds
      else [.identifier, .quotedString, .opening, .dot, .finish] := by
  rw [narrow]
  split <;> rfl

namespace SyntaxError

open ParserState

variable {cs ds rest : List Char} {ts : List Token} {s : ParserState}

/-- Nothing is left of an empty list. -/
theorem narrow_nil (cs : List Char) (problem : SyntaxProblem) (offset : Nat) :
    narrow cs ⟨problem, offset, []⟩ = ⟨problem, offset, []⟩ := by
  simp [narrow, Expectation.narrow]

/-- At a place up to which a state has read the text, an error is narrowed by the calls that are open in
the state. -/
theorem narrow_of_steps? (hcs : cs = ds ++ rest) (hlexes : Lexes ds ts)
    (hsteps : initial.steps? ts = some s) (problem : SyntaxProblem) (listed : List Expectation) :
    narrow cs ⟨problem, ds.length, listed⟩ =
      ⟨problem, ds.length, Expectation.narrow s.calls.length listed⟩ := by
  have hopen : openCalls ds = s.calls.length := by
    have hcount := count_steps? hsteps
    simp only [initial, List.length_nil] at hcount
    rw [openCalls_of_lexes hlexes]
    omega
  rw [narrow, hcs, List.take_left, hopen]

/-- There the tables list what may come next. -/
theorem narrow_listed (hcs : cs = ds ++ rest) (hlexes : Lexes ds ts)
    (hsteps : initial.steps? ts = some s) (problem : SyntaxProblem) :
    narrow cs ⟨problem, ds.length, s.focus.listed⟩ = ⟨problem, ds.length, s.expected⟩ := by
  have hreads : Reads s ts := reads_initial.steps hsteps
  rw [narrow_of_steps? hcs hlexes hsteps, hreads.narrow_listed]

/-- The same holds once the name or path before the place is finished. -/
theorem narrow_listedSettled (hcs : cs = ds ++ rest) (hlexes : Lexes ds ts)
    (hsteps : initial.steps? ts = some s) (problem : SyntaxProblem) :
    narrow cs ⟨problem, ds.length, s.listedSettled⟩ = ⟨problem, ds.length, s.settle.expected⟩ := by
  have hreads : Reads s ts := reads_initial.steps hsteps
  rw [narrow_of_steps? hcs hlexes hsteps, hreads.narrow_listedSettled]

end SyntaxError

end PathTemplates
