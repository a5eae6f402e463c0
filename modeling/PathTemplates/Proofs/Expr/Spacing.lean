import PathTemplates.Proofs.Expr.Expected
import PathTemplates.Proofs.Template.Braces

/-! # Blanks between tokens

A text that splits into tokens is made of these and of blanks before, between and after them
(`withGaps`), with at least one blank between two names (`Separates`). The blanks do not matter:

* any other ones give the same tokens, and a text that does not split stops at the one place where
  neither a blank nor a token starts (`stopsAt_iff`);
* two texts with the same tokens are parsed alike, an error standing at the same token
  (`ParserState.run_sameTokens`). -/

namespace PathTemplates

namespace Token

/-- Whether a token is a name. -/
def isName : Token → Bool
  | identifier _ => true
  | _ => false

/-- A name that goes on does not end. -/
theorem WellFormed.not_endsName {name : List Char} (h : (identifier name).WellFormed)
    (cs : List Char) : ¬ EndsName (name ++ cs) := by
  obtain ⟨hne, hall⟩ := h
  cases name with
  | nil => exact absurd rfl hne
  | cons c name =>
    intro hend
    have hc : isIdentChar c = false := hend
    simp [hall c (by simp)] at hc

/-- A name ends before every other token. -/
theorem endsName_chars {t : Token} (h : t.isName = false) (cs : List Char) :
    EndsName (t.chars ++ cs) := by
  cases t with
  | identifier name => simp [isName] at h
  | quoted mark text => cases mark <;> exact EndsName.cons _ rfl
  | opening | closing | comma | dot => exact EndsName.cons _ rfl

/-- A token is told by its text. -/
theorem eq_of_text_eq {t u : Token} (ht : t.WellFormed) (hu : u.WellFormed) (h : t.text = u.text) :
    t = u := by
  have hends (v : Token) : v.EndsBefore [] := v.endsBefore_of_endsName .nil
  have hchars : t.chars = u.chars := String.ofList_injective h
  have hfirst := first?_eq_some_iff.mpr ⟨ht, hends t, rfl⟩
  rw [hchars, first?_eq_some_iff.mpr ⟨hu, hends u, rfl⟩] at hfirst
  simpa using hfirst.symm

/-- Tokens are told by their texts. -/
theorem eq_of_map_text_eq {ts us : List Token} (hts : ∀ t ∈ ts, t.WellFormed)
    (hus : ∀ u ∈ us, u.WellFormed) (h : ts.map text = us.map text) : ts = us := by
  induction ts generalizing us with
  | nil => simpa using h.symm
  | cons t ts ih =>
    cases us with
    | nil => simp at h
    | cons u us =>
      rw [List.map_cons, List.map_cons, List.cons.injEq] at h
      rw [List.forall_mem_cons] at hts hus
      rw [eq_of_text_eq hts.1 hus.1 h.1, ih hts.2 hus.2 h.2]

end Token

/-- The text of a first gap and of tokens, each with the gap after it. -/
def withGaps (first : List Char) : List (Token × List Char) → List Char
  | [] => first
  | (t, gap) :: rest => first ++ (t.chars ++ withGaps gap rest)

/-- Gaps that may stand around tokens: they are made of blanks, and two names are not without one
between them. -/
structure Separates (first : List Char) (pairs : List (Token × List Char)) : Prop where
  /-- The first gap is made of blanks. -/
  first_blank : ∀ c ∈ first, isGap c
  /-- The other gaps are made of blanks. -/
  blank : ∀ p ∈ pairs, ∀ c ∈ p.2, isGap c
  /-- Between two names there is a blank. -/
  apart : pairs.IsChain fun p q => p.1.isName → q.1.isName → p.2 ≠ []

/-- The tokens up to a place end there: neither a gap nor a token starts at it, and the text goes on. -/
def StopsAt (cs : List Char) (place : Nat) : Prop :=
  ∃ first pairs c rest, cs = withGaps first pairs ++ c :: rest ∧
    place = (withGaps first pairs).length ∧ Separates first pairs ∧
    (∀ p ∈ pairs, p.1.WellFormed) ∧ isGap c = false ∧
    ∀ t : Token, t.WellFormed → ¬ t.chars <+: c :: rest

/-- The token with an index stands at a place of a text, or the text ends there after so many
tokens. -/
def IsTokenPlace (cs : List Char) (index place : Nat) : Prop :=
  ∃ first pairs, cs = withGaps first pairs ∧ Separates first pairs ∧
    (∀ p ∈ pairs, p.1.WellFormed) ∧ index ≤ pairs.length ∧
    place = (withGaps first (pairs.take index)).length

/-- The gaps after the first token separate the tokens after it. -/
theorem Separates.tail {first gap : List Char} {t : Token} {rest : List (Token × List Char)}
    (h : Separates first ((t, gap) :: rest)) : Separates gap rest :=
  ⟨h.blank (t, gap) (by simp), fun p hp => h.blank p (List.mem_cons_of_mem _ hp), h.apart.tail⟩

/-- A name ends before a blank. -/
theorem endsName_of_isGap {c : Char} (h : isGap c) (cs : List Char) : EndsName (c :: cs) := by
  rcases eq_of_isGap h with rfl | rfl | rfl | rfl | rfl <;> exact EndsName.cons cs rfl

/-- Each token ends before the gap and the tokens after it. -/
theorem Separates.endsBefore {first gap rest : List Char} {t : Token}
    {pairs : List (Token × List Char)} (h : Separates first ((t, gap) :: pairs))
    (hrest : EndsName rest) : t.EndsBefore (withGaps gap pairs ++ rest) := by
  cases hname : t.isName with
  | false =>
    cases t with
    | identifier => simp [Token.isName] at hname
    | quoted | opening | closing | comma | dot => trivial
  | true =>
    refine t.endsBefore_of_endsName ?_
    cases gap with
    | cons c gap =>
      have hc : isGap c := h.blank (t, c :: gap) (by simp) c (by simp)
      cases pairs <;> exact endsName_of_isGap hc _
    | nil =>
      cases pairs with
      | nil => exact hrest
      | cons p pairs =>
        -- without a blank after the name, what follows is no name
        have hp : p.1.isName = false := by
          have happart := (List.isChain_cons_cons.mp h.apart).1
          simpa [hname] using happart
        obtain ⟨u, gap⟩ := p
        rw [withGaps, List.nil_append, List.append_assoc]
        exact Token.endsName_chars hp _

namespace LexesBefore

/-- Blanks before tokens are dropped. -/
theorem gaps {rest gap cs : List Char} {ts : List Token} (hgap : ∀ c ∈ gap, isGap c)
    (h : LexesBefore rest cs ts) : LexesBefore rest (gap ++ cs) ts := by
  induction gap with
  | nil => exact h
  | cons c gap ih =>
    rw [List.forall_mem_cons] at hgap
    exact .gap hgap.1 (ih hgap.2)

/-- Tokens with gaps that separate them are read back. -/
theorem of_separates {rest first : List Char} {pairs : List (Token × List Char)}
    (h : Separates first pairs) (hwf : ∀ p ∈ pairs, p.1.WellFormed) (hrest : EndsName rest) :
    LexesBefore rest (withGaps first pairs) (pairs.map (·.1)) := by
  induction pairs generalizing first with
  | nil =>
    rw [withGaps, ← List.append_nil first]
    exact .gaps h.first_blank .nil
  | cons p pairs ih =>
    obtain ⟨t, gap⟩ := p
    rw [List.forall_mem_cons] at hwf
    exact .gaps h.first_blank (.token hwf.1 (h.endsBefore hrest) (ih h.tail hwf.2))

/-- What splits into tokens is made of them and of gaps that separate them. -/
theorem exists_separates {rest cs : List Char} {ts : List Token} (h : LexesBefore rest cs ts) :
    ∃ first pairs, cs = withGaps first pairs ∧ pairs.map (·.1) = ts ∧ Separates first pairs ∧
      ∀ p ∈ pairs, p.1.WellFormed := by
  induction h with
  | nil => exact ⟨[], [], rfl, rfl, ⟨by simp, by simp, .nil⟩, by simp⟩
  | @gap c cs ts hc _ ih =>
    obtain ⟨first, pairs, hcs, hts, hsep, hwf⟩ := ih
    refine ⟨c :: first, pairs, ?_, hts, ⟨?_, hsep.blank, hsep.apart⟩, hwf⟩
    · cases pairs <;> simp [hcs, withGaps]
    · exact List.forall_mem_cons.mpr ⟨hc, hsep.first_blank⟩
  | @token t cs ts ht hend _ ih =>
    obtain ⟨first, pairs, hcs, hts, hsep, hwf⟩ := ih
    refine ⟨[], (t, first) :: pairs, by rw [hcs, withGaps, List.nil_append],
      by rw [List.map_cons, hts], ⟨by simp, ?_, ?_⟩, List.forall_mem_cons.mpr ⟨ht, hwf⟩⟩
    · exact List.forall_mem_cons.mpr ⟨hsep.first_blank, hsep.blank⟩
    · cases pairs with
      | nil => exact .singleton _
      | cons q pairs =>
        refine List.isChain_cons_cons.mpr ⟨fun hname hnext hempty => ?_, hsep.apart⟩
        -- two names without a blank between them would be one
        obtain ⟨u, gap⟩ := q
        cases t <;> cases u <;> simp only [Token.isName, Bool.false_eq_true] at hname hnext
        obtain rfl : first = [] := hempty
        rw [hcs, withGaps, List.nil_append, List.append_assoc] at hend
        exact (hwf _ (List.mem_cons_self ..)).not_endsName _ hend

end LexesBefore

/-- A text splits into tokens exactly if it is made of them and of gaps that separate them. -/
theorem lexes_iff_withGaps {cs : List Char} {ts : List Token} :
    Lexes cs ts ↔ ∃ first pairs, cs = withGaps first pairs ∧ pairs.map (·.1) = ts ∧
      Separates first pairs ∧ ∀ p ∈ pairs, p.1.WellFormed := by
  constructor
  · intro h
    exact (LexesBefore.of_lexes h .nil).exists_separates
  · rintro ⟨first, pairs, rfl, rfl, hsep, hwf⟩
    exact (LexesBefore.of_separates hsep hwf .nil).lexes

/-- The first tokens and the gaps around them are separated like all of them. -/
theorem Separates.take {first : List Char} {pairs : List (Token × List Char)}
    (h : Separates first pairs) (k : Nat) : Separates first (pairs.take k) :=
  ⟨h.first_blank, fun p hp => h.blank p (List.mem_of_mem_take hp), h.apart.take k⟩

/-- The first tokens and the gaps around them start the text. -/
theorem prefix_withGaps_take (first : List Char) (pairs : List (Token × List Char)) (k : Nat) :
    withGaps first (pairs.take k) <+: withGaps first pairs := by
  induction pairs generalizing first k with
  | nil => simp only [List.take_nil, List.prefix_rfl]
  | cons p pairs ih =>
    obtain ⟨t, gap⟩ := p
    cases k with
    | zero => exact List.prefix_append _ _
    | succ k =>
      rw [List.take_succ_cons, withGaps, withGaps, List.prefix_append_right_inj,
        List.prefix_append_right_inj]
      exact ih gap k

/-- Where an error stands at a token, it is narrowed by the calls that the tokens before it leave open. -/
theorem SyntaxError.narrow_withGaps {first : List Char} {pairs : List (Token × List Char)}
    (h : Separates first pairs) (hwf : ∀ p ∈ pairs, p.1.WellFormed) (k : Nat)
    (problem : SyntaxProblem) (listed : List Expectation) :
    narrow (withGaps first pairs) ⟨problem, (withGaps first (pairs.take k)).length, listed⟩ =
      ⟨problem, (withGaps first (pairs.take k)).length, Expectation.narrow
        (((pairs.map (·.1)).take k).count .opening - ((pairs.map (·.1)).take k).count .closing)
        listed⟩ := by
  have hlexes : Lexes (withGaps first (pairs.take k)) ((pairs.map (·.1)).take k) := by
    rw [← List.map_take]
    exact lexes_iff_withGaps.mpr ⟨first, pairs.take k, rfl, rfl, h.take k,
      fun p hp => hwf p (List.mem_of_mem_take hp)⟩
  rw [narrow, ← List.prefix_iff_eq_take.mp (prefix_withGaps_take first pairs k),
    openCalls_of_lexes hlexes]

/-- The scan stops exactly where the tokens of a text end before it does. -/
theorem stopsAt_iff {cs : List Char} {place : Nat} :
    StopsAt cs place ↔ ∃ c, (Scan.ofChars cs).stuck = some (place, c) := by
  constructor
  · rintro ⟨first, pairs, c, rest, rfl, rfl, hsep, hwf, hgap, hnone⟩
    rw [← Token.first?_eq_none_iff] at hnone
    have hread := LexesBefore.of_separates hsep hwf (Token.endsName_of_first?_eq_none hnone)
    obtain ⟨placed, -, hscan⟩ := Scan.scanFrom_append hread 0
    refine ⟨c, ?_⟩
    rw [Scan.ofChars, hscan, Scan.scanFrom_stuck _ hgap hnone, Nat.zero_add]
  · rintro ⟨c, hstuck⟩
    obtain ⟨ds, rest, hcs, hplace, hgap, hnone, hread⟩ := Scan.exists_before_stuck hstuck
    obtain ⟨first, pairs, rfl, -, hsep, hwf⟩ := hread.exists_separates
    exact ⟨first, pairs, c, rest, hcs, by rw [hplace, Nat.zero_add], hsep, hwf, hgap,
      Token.first?_eq_none_iff.mp hnone⟩

/-! ## Tokens and their places -/

/-- Tokens at their places, the first of them at an offset, each with the gap after it. -/
def placedFrom (offset : Nat) : List (Token × List Char) → List PlacedToken
  | [] => []
  | (t, gap) :: rest => ⟨offset, t⟩ :: placedFrom (offset + t.chars.length + gap.length) rest

/-- The scan passes over a gap. -/
theorem Scan.scanFrom_gaps (offset : Nat) {gap : List Char} (cs : List Char)
    (hgap : ∀ c ∈ gap, isGap c) :
    scanFrom offset (gap ++ cs) = scanFrom (offset + gap.length) cs := by
  induction gap generalizing offset with
  | nil => rfl
  | cons c gap ih =>
    rw [List.forall_mem_cons] at hgap
    rw [List.cons_append, scanFrom_gap offset _ hgap.1, ih (offset + 1) hgap.2, List.length_cons,
      Nat.add_assoc, Nat.add_comm 1]

/-- The scan finds each token at its place. -/
theorem Scan.scanFrom_withGaps (offset : Nat) {first : List Char} {pairs : List (Token × List Char)}
    (h : Separates first pairs) (hwf : ∀ p ∈ pairs, p.1.WellFormed) :
    scanFrom offset (withGaps first pairs) = ⟨placedFrom (offset + first.length) pairs, none⟩ := by
  induction pairs generalizing offset first with
  | nil =>
    have hgaps := scanFrom_gaps offset [] h.first_blank
    rw [List.append_nil] at hgaps
    rw [withGaps, hgaps, scanFrom_nil, placedFrom]
  | cons p pairs ih =>
    obtain ⟨t, gap⟩ := p
    rw [List.forall_mem_cons] at hwf
    have hend : t.EndsBefore (withGaps gap pairs) := by simpa using h.endsBefore .nil
    have hfirst := Token.first?_eq_some_iff.mpr ⟨hwf.1, hend, rfl⟩
    rw [withGaps, scanFrom_gaps offset _ h.first_blank, scanFrom_token _ hfirst,
      ih _ h.tail hwf.2, placedFrom]

namespace ParserState

/-- Tokens are parsed alike whatever the gaps between them: to the same tree, or with the same error at
the same token. -/
theorem run_sameTokens (s : ParserState) (offset offset' : Nat) (first first' : List Char)
    {pairs pairs' : List (Token × List Char)} (h : pairs.map (·.1) = pairs'.map (·.1)) :
    (∃ e, s.run none (offset + (withGaps first pairs).length)
        (placedFrom (offset + first.length) pairs) = .ok e ∧
      s.run none (offset' + (withGaps first' pairs').length)
        (placedFrom (offset' + first'.length) pairs') = .ok e) ∨
    ∃ problem expected, ∃ k ≤ pairs.length,
      s.run none (offset + (withGaps first pairs).length)
        (placedFrom (offset + first.length) pairs) =
        .error ⟨problem, offset + (withGaps first (pairs.take k)).length, expected⟩ ∧
      s.run none (offset' + (withGaps first' pairs').length)
        (placedFrom (offset' + first'.length) pairs') =
        .error ⟨problem, offset' + (withGaps first' (pairs'.take k)).length, expected⟩ := by
  induction pairs generalizing s offset offset' first first' pairs' with
  | nil =>
    obtain rfl : pairs' = [] := by simpa using h.symm
    -- at the end of the text only the state counts
    simp only [placedFrom, run, List.take_nil]
    cases hfinish : s.finish (offset + (withGaps first []).length) with
    | ok e =>
      left
      exact ⟨e, rfl, finish_eq_ok_iff.mpr (finish_eq_ok_iff.mp hfinish)⟩
    | error err =>
      right
      rw [finish] at hfinish ⊢
      split at hfinish
      · cases hfinish
      · obtain rfl := Except.error.inj hfinish
        exact ⟨_, _, 0, le_rfl, rfl, rfl⟩
      · obtain rfl := Except.error.inj hfinish
        exact ⟨_, _, 0, le_rfl, rfl, rfl⟩
  | cons p pairs ih =>
    obtain ⟨t, gap⟩ := p
    cases pairs' with
    | nil => simp at h
    | cons p' pairs' =>
      obtain ⟨t', gap'⟩ := p'
      obtain ⟨rfl, htokens⟩ : t = t' ∧ pairs.map (·.1) = pairs'.map (·.1) := by simpa using h
      simp only [placedFrom, run]
      cases hstep : s.step? t with
      | none =>
        right
        exact ⟨_, _, 0, by simp, rfl, rfl⟩
      | some next =>
        -- the lengths of the first gap and token go into the offset
        have hlength (o : Nat) (w g : List Char) (ps : List (Token × List Char)) :
            o + (withGaps w ((t, g) :: ps)).length =
              o + w.length + t.chars.length + (withGaps g ps).length := by
          simp only [withGaps, List.length_append]
          omega
        simp only [hlength]
        rcases ih next (offset + first.length + t.chars.length)
          (offset' + first'.length + t.chars.length) gap gap' htokens with hok | hfail
        · exact .inl hok
        · right
          obtain ⟨problem, expected, k, hk, herror, herror'⟩ := hfail
          refine ⟨problem, expected, k + 1, by simpa using hk, ?_, ?_⟩
          · rw [List.take_succ_cons, hlength]
            exact herror
          · rw [List.take_succ_cons, hlength]
            exact herror'

end ParserState

/-! ## Splitting and parsing -/

namespace Token

/-- A text is split into tokens exactly if it has them. -/
theorem all_eq_ok_iff {e : String} {ts : List Token} : all e = .ok ts ↔ Lexes e.toList ts := by
  rw [Scan.lexes_iff_scan, all]
  cases (Scan.ofChars e.toList).stuck with
  | none => simp [Scan.words]
  | some place => simp

/-- A text at which the scan stops is refused because of the character there. -/
theorem all_of_stuck {e : String} {place : Nat} {c : Char}
    (h : (Scan.ofChars e.toList).stuck = some (place, c)) :
    ∃ problem expected, all e = .error (SyntaxError.report e ⟨problem, place, expected⟩) ∧
      ((∃ mark : QuoteMark, c = mark.char) ∧ problem = .openQuote ∨
        (¬ ∃ mark : QuoteMark, c = mark.char) ∧ problem = .character c) := by
  cases hmark : QuoteMark.ofChar? c with
  | some mark =>
    refine ⟨.openQuote, Expectation.narrow (openCalls (e.toList.take place)) [],
      by simp only [all, h, hmark, SyntaxError.narrow], .inl ⟨⟨mark, ?_⟩, rfl⟩⟩
    exact QuoteMark.ofChar?_eq_some_iff.mp hmark
  | none =>
    refine ⟨.character c, Expectation.narrow (openCalls (e.toList.take place)) kinds,
      by simp only [all, h, hmark, SyntaxError.narrow], .inr ⟨?_, rfl⟩⟩
    rintro ⟨mark, rfl⟩
    simp at hmark

/-- Where splitting stops at a character that is no quote, any token is listed in a call; outside, those
that go on with arguments give way to the end. -/
theorem all_of_stuck_other {e : String} {place : Nat} {c : Char}
    (h : (Scan.ofChars e.toList).stuck = some (place, c)) (hmark : QuoteMark.ofChar? c = none) :
    ∃ ts, Lexes (e.toList.take place) ts ∧
      all e = .error (SyntaxError.report e ⟨.character c, place,
        if ts.count .closing < ts.count .opening then kinds
        else [.identifier, .quotedString, .opening, .dot, .finish]⟩) := by
  obtain ⟨ds, rest, hcs, hplace, -, -, hread⟩ := Scan.exists_before_stuck h
  obtain rfl : place = ds.length := by simpa using hplace
  have htake : e.toList.take ds.length = ds := by rw [hcs, List.take_left]
  refine ⟨_, htake.symm ▸ hread.lexes, ?_⟩
  simp only [all, h, hmark, SyntaxError.narrow, htake, openCalls_of_lexes hread.lexes,
    Expectation.narrow_kinds, Int.sub_pos, Int.ofNat_lt]

/-- A text that is not split is refused at the place where its tokens end, because of a quote exactly if
one stands there. -/
theorem stopsAt_of_all_eq_error {e : String} {err : ParseError} (h : all e = .error err) :
    ∃ place : Nat, err.offset = place ∧ StopsAt e.toList place ∧
      (err.reason = "unterminated string literal" ↔
        ∃ mark : QuoteMark, e.toList[place]? = some mark.char) := by
  cases hstuck : (Scan.ofChars e.toList).stuck with
  | none => simp [all, hstuck] at h
  | some found =>
    obtain ⟨place, c⟩ := found
    obtain ⟨ds, rest, hcs, hplace, -⟩ := Scan.exists_before_stuck hstuck
    have hat : e.toList[place]? = some c := by simp [hcs, hplace]
    obtain ⟨problem, expected, hall, hproblem⟩ := all_of_stuck hstuck
    obtain rfl : SyntaxError.report e ⟨problem, place, expected⟩ = err := by simpa [hall] using h
    refine ⟨place, rfl, stopsAt_iff.mpr ⟨c, hstuck⟩, ?_⟩
    simp only [hat, Option.some.injEq, SyntaxError.report]
    rcases hproblem with ⟨hquote, rfl⟩ | ⟨hquote, rfl⟩
    · exact iff_of_true rfl hquote
    · refine iff_of_false (fun hreason => ?_) hquote
      -- the two reasons differ in their third character
      have hchars := congrArg String.toList hreason
      simp at hchars

end Token

/-- The first character of a text of tokens that is not blank is no brace. -/
theorem Lexes.head?_dropWhile_ne {cs : List Char} {ts : List Token} (h : Lexes cs ts) :
    (cs.dropWhile isBlank).head? ≠ some '{' := by
  induction h with
  | nil => simp
  | gap hc _ ih => rwa [List.dropWhile_cons_of_pos (isBlank_of_isGap hc)]
  | token hwf _ _ _ =>
    obtain ⟨c, more, hchars, hblank, hbrace⟩ := hwf.exists_chars_eq
    rw [hchars, List.cons_append, List.dropWhile_cons_of_neg (by simp [hblank])]
    simpa using hbrace

/-- A text that splits into tokens is not in braces. -/
theorem Lexes.not_isBraced {cs : List Char} {ts : List Token} (h : Lexes cs ts) :
    ¬ Expr.IsBraced cs := by
  rintro ⟨hopen, -⟩
  -- what is left of the text after trimming starts where its blanks end
  have hprefix : trimBlank cs <+: cs.dropWhile isBlank := by
    have hsuffix := List.dropWhile_suffix isBlank (l := (cs.dropWhile isBlank).reverse)
    simpa [trimBlank, trimWhile, trimEndWhile] using List.reverse_prefix.mpr hsuffix
  obtain ⟨after, hafter⟩ := hopen.trans hprefix
  exact h.head?_dropWhile_ne (by rw [← hafter]; rfl)

/-- A text of tokens with gaps is parsed token by token. -/
theorem Expr.parse_withGaps {e : String} {first : List Char} {pairs : List (Token × List Char)}
    (he : e.toList = withGaps first pairs) (hsep : Separates first pairs)
    (hwf : ∀ p ∈ pairs, p.1.WellFormed) :
    parse e = ((ParserState.initial.run none (0 + (withGaps first pairs).length)
      (placedFrom (0 + first.length) pairs)).mapError (SyntaxError.narrow (withGaps first pairs))).mapError
        (SyntaxError.report e) := by
  have hlexes : Lexes e.toList (pairs.map (·.1)) :=
    lexes_iff_withGaps.mpr ⟨first, pairs, he, rfl, hsep, hwf⟩
  rw [parse_of_not_isBraced hlexes.not_isBraced, ofChars, Scan.ofChars, he,
    Scan.scanFrom_withGaps 0 hsep hwf, Nat.zero_add (withGaps first pairs).length]

namespace Token

/-- Splitting a text into tokens loses nothing but the blanks between them, and these do not matter.

* The text is made of the tokens and of gaps around them, and with any other gaps it has the same
  tokens. A text that is not split is refused at the one place where its tokens end and the text does
  not, with the reason for an open quote exactly if a quote stands there.
* Two texts whose tokens read the same are parsed to the same tree, or refused with the same reason and
  the same expectation at the same token. -/
theorem gaps_do_not_matter :
    (∀ e : String, match all e with
      | .ok ts =>
        (∃ first pairs, e.toList = withGaps first pairs ∧ pairs.map (·.1) = ts ∧
          Separates first pairs) ∧
        ∀ first pairs, pairs.map (·.1) = ts → Separates first pairs →
          all (String.ofList (withGaps first pairs)) = .ok ts
      | .error err => ∃ place : Nat, err.offset = place ∧ StopsAt e.toList place ∧
          (∀ other, StopsAt e.toList other → other = place) ∧
          (err.reason = "unterminated string literal" ↔
            ∃ mark : QuoteMark, e.toList[place]? = some mark.char)) ∧
    ∀ (e e' : String) (ts ts' : List Token), all e = .ok ts → all e' = .ok ts' →
      ts.map text = ts'.map text →
      (∃ x, Expr.parse e = .ok x ∧ Expr.parse e' = .ok x) ∨
      ∃ err err', ∃ k place place' : Nat, Expr.parse e = .error err ∧ Expr.parse e' = .error err' ∧
        err.reason = err'.reason ∧ err.expected = err'.expected ∧
        err.offset = place ∧ IsTokenPlace e.toList k place ∧
        err'.offset = place' ∧ IsTokenPlace e'.toList k place' := by
  constructor
  · intro e
    cases hall : all e with
    | ok ts =>
      have hlexes := all_eq_ok_iff.mp hall
      obtain ⟨first, pairs, he, hts, hsep, hwf⟩ := lexes_iff_withGaps.mp hlexes
      refine ⟨⟨first, pairs, he, hts, hsep⟩, fun first' pairs' hts' hsep' => ?_⟩
      rw [all_eq_ok_iff, String.toList_ofList]
      refine lexes_iff_withGaps.mpr ⟨first', pairs', rfl, hts', hsep', fun p hp => ?_⟩
      exact hlexes.wellFormed _ (hts' ▸ List.mem_map_of_mem hp)
    | error err =>
      obtain ⟨place, hplace, hstops, hreason⟩ := stopsAt_of_all_eq_error hall
      refine ⟨place, hplace, hstops, fun other hother => ?_, hreason⟩
      obtain ⟨c, hc⟩ := stopsAt_iff.mp hstops
      obtain ⟨d, hd⟩ := stopsAt_iff.mp hother
      rw [hc, Option.some.injEq, Prod.mk.injEq] at hd
      exact hd.1.symm
  · intro e e' ts ts' hall hall' htext
    obtain ⟨first, pairs, he, rfl, hsep, hwf⟩ := lexes_iff_withGaps.mp (all_eq_ok_iff.mp hall)
    obtain ⟨first', pairs', he', rfl, hsep', hwf'⟩ := lexes_iff_withGaps.mp (all_eq_ok_iff.mp hall')
    have htokens : pairs.map (·.1) = pairs'.map (·.1) :=
      eq_of_map_text_eq (by simpa using hwf) (by simpa using hwf') htext
    rw [Expr.parse_withGaps he hsep hwf, Expr.parse_withGaps he' hsep' hwf']
    rcases ParserState.initial.run_sameTokens 0 0 first first' htokens with
      ⟨x, hok, hok'⟩ | ⟨problem, listed, k, hk, herror, herror'⟩
    · left
      exact ⟨x, by rw [hok, mapError_ok, mapError_ok], by rw [hok', mapError_ok, mapError_ok]⟩
    · right
      have hlength : pairs.length = pairs'.length := by simpa using congrArg List.length htokens
      have hk' : k ≤ pairs'.length := hlength ▸ hk
      -- both lists are narrowed by the same tokens
      rw [Nat.zero_add (withGaps first (pairs.take k)).length] at herror
      rw [Nat.zero_add (withGaps first' (pairs'.take k)).length] at herror'
      simp only [herror, herror', mapError_error, SyntaxError.narrow_withGaps hsep hwf,
        SyntaxError.narrow_withGaps hsep' hwf', htokens]
      exact ⟨_, _, k, _, _, rfl, rfl, rfl, rfl, rfl, ⟨first, pairs, he, hsep, hwf, hk, rfl⟩, rfl,
        ⟨first', pairs', he', hsep', hwf', hk', rfl⟩⟩

end Token

end PathTemplates
