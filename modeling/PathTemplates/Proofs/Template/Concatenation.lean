import PathTemplates.Proofs.Evaluation
import PathTemplates.Proofs.Template.RoundTrip

/-! # Templates one after another

A template text followed by another means the first template followed by the second, unless a brace at
the end of the first and one at the start of the second become opening braces together.

* Whatever follows an expression that is closed leaves it as it is (`cutClose?_append`), so the
  segments of the first text are kept, and only its last literal text may grow.
* The parts are those of both texts with the literal texts at the border joined (`Node.concat`), and an
  error of the second text is the same error further to the right (`nodes_ofChars_append`). -/

namespace PathTemplates

namespace Node

/-- The parts of one template before those of another: a literal text at the end of the first and one
at the start of the second are a single literal text. -/
def concat (ms ns : List Node) : List Node :=
  match ms.getLast?, ns with
  | some (literal s), literal d :: rest => ms.dropLast ++ literal (s ++ d) :: rest
  | _, _ => ms ++ ns

/-- Literal texts at the border are joined. -/
theorem concat_literals (ms rest : List Node) (s d : String) :
    concat (ms ++ [literal s]) (literal d :: rest) = ms ++ literal (s ++ d) :: rest := by
  simp [concat]

/-- Where no literal texts meet, the parts stay as they are. -/
theorem concat_eq_append {ms ns : List Node}
    (h : ∀ s d, ms.getLast? = some (literal s) → ns.head? ≠ some (literal d)) :
    concat ms ns = ms ++ ns := by
  rw [concat]
  rintro s d rest hlast rfl
  exact h s d hlast rfl

/-- At the border there are two literal texts, which are joined, or the parts stay as they are. -/
theorem concat_cases (ms ns : List Node) :
    (∃ init s d rest, ms = init ++ [literal s] ∧ ns = literal d :: rest ∧
      concat ms ns = init ++ literal (s ++ d) :: rest) ∨ concat ms ns = ms ++ ns := by
  by_cases h : ∃ s d, ms.getLast? = some (literal s) ∧ ns.head? = some (literal d)
  · obtain ⟨s, d, hlast, hhead⟩ := h
    obtain ⟨init, rfl⟩ := List.getLast?_eq_some_iff.mp hlast
    obtain ⟨rest, rfl⟩ := List.head?_eq_some_iff.mp hhead
    exact .inl ⟨init, s, d, rest, rfl, rfl, concat_literals init rest s d⟩
  · exact .inr (concat_eq_append fun s d hlast hhead => h ⟨s, d, hlast, hhead⟩)

/-- Nothing before the parts of a template changes nothing. -/
@[simp] theorem concat_nil_left (ns : List Node) : concat [] ns = ns :=
  concat_eq_append (by simp)

/-- Up to an expression the parts stay as they are. -/
theorem concat_expr (before after ns : List Node) (e : Expr) :
    concat (before ++ expr e :: after) ns = before ++ expr e :: concat after ns := by
  rcases List.eq_nil_or_concat' after with rfl | ⟨init, last, rfl⟩
  · rw [concat_nil_left, concat_eq_append (by simp)]
    simp
  · -- both lists end in the same part, which alone decides what happens at the border
    have hsplit : before ++ expr e :: (init ++ [last]) = before ++ expr e :: init ++ [last] := by
      simp
    rw [hsplit]
    simp only [concat, List.getLast?_concat, List.dropLast_concat]
    split <;> simp

end Node

/-! ## The segments of two texts -/

/-- The first opening braces of a text stay the first ones whatever follows the text. -/
theorem cutAt?_braces_append {cs before after : List Char} (ds : List Char)
    (h : cutAt? ['{', '{'] cs = some (before, after)) :
    cutAt? ['{', '{'] (cs ++ ds) = some (before, after ++ ds) := by
  obtain ⟨rfl, hfirst⟩ := cutAt?_braces_eq_some_iff.mp h
  exact cutAt?_braces_eq_some_iff.mpr ⟨by simp, hfirst⟩

/-- After a text without opening braces, the first ones are those of what follows it, if none arise at
the border. -/
theorem cutAt?_braces_append_of_free {cs ds : List Char} (hfree : ¬ ['{', '{'] <:+: cs)
    (hborder : ¬ (cs.getLast? = some '{' ∧ ds.head? = some '{')) :
    cutAt? ['{', '{'] (cs ++ ds) =
      (cutAt? ['{', '{'] ds).map fun (before, after) => (cs ++ before, after) := by
  induction cs with
  | nil => simp
  | cons c cs ih =>
    rw [List.infix_cons_iff, not_or] at hfree
    -- braces right at the start would stand in the text itself or across the border
    have hnone : ¬ ['{', '{'] <+: c :: (cs ++ ds) := by
      intro hprefix
      obtain ⟨rfl, hsecond⟩ := List.cons_prefix_cons.mp hprefix
      cases cs with
      | nil =>
        obtain ⟨after, rfl⟩ := hsecond
        exact hborder ⟨rfl, rfl⟩
      | cons d cs =>
        obtain ⟨rfl, -⟩ := List.cons_prefix_cons.mp hsecond
        exact hfree.1 (List.prefix_append ['{', '{'] cs)
    have hrest : ¬ (cs.getLast? = some '{' ∧ ds.head? = some '{') := by
      rintro ⟨hlast, hhead⟩
      exact hborder ⟨by simp [List.getLast?_cons, hlast], hhead⟩
    rw [List.cons_append, cutAt?, if_neg (mt List.isPrefixOf_iff_prefix.mp hnone), ih hfree.2 hrest]
    simp [Function.comp_def]

namespace Segment

/-- Closing braces that are found stay the closing ones whatever follows. -/
theorem cutClose?_append {q : Option QuoteMark} {cs text rest : List Char} (ds : List Char)
    (h : cutClose? q cs = some (text, rest)) : cutClose? q (cs ++ ds) = some (text, rest ++ ds) := by
  fun_induction cutClose? q cs generalizing text rest with
  | case1 => simp at h
  | case2 mark c cs ih =>
    obtain ⟨⟨i, r⟩, hcut, heq⟩ := Option.map_eq_some_iff.mp h
    obtain ⟨rfl, rfl⟩ := Prod.mk.inj heq
    rw [List.cons_append, cutClose?, ih hcut, Option.map_some]
  | case3 cs =>
    obtain ⟨rfl, rfl⟩ : [] = text ∧ cs = rest := by simpa using h
    rw [List.cons_append, List.cons_append, cutClose?]
  | case4 c cs hne ih =>
    obtain ⟨⟨i, r⟩, hcut, heq⟩ := Option.map_eq_some_iff.mp h
    obtain ⟨rfl, rfl⟩ := Prod.mk.inj heq
    -- the character after a brace that does not close is there already, so it stays the same
    have hne' : ∀ after, c = '}' → cs ++ ds = '}' :: after → False := by
      rintro after rfl heq
      cases cs with
      | nil => simp [cutClose?] at hcut
      | cons d cs =>
        obtain ⟨rfl, -⟩ := List.cons.inj heq
        exact hne cs rfl rfl
    rw [List.cons_append, cutClose?, ih hcut, Option.map_some]
    exact hne'

/-- The closing braces that are found stand between the inside of an expression and the rest. -/
theorem eq_append_of_cutClose? {q : Option QuoteMark} {cs text rest : List Char}
    (h : cutClose? q cs = some (text, rest)) : cs = text ++ '}' :: '}' :: rest := by
  fun_induction cutClose? q cs generalizing text rest with
  | case1 => simp at h
  | case2 mark c cs ih =>
    obtain ⟨⟨i, r⟩, hcut, heq⟩ := Option.map_eq_some_iff.mp h
    obtain ⟨rfl, rfl⟩ := Prod.mk.inj heq
    rw [ih hcut, List.cons_append]
  | case3 cs =>
    obtain ⟨rfl, rfl⟩ : [] = text ∧ cs = rest := by simpa using h
    rfl
  | case4 c cs _ ih =>
    obtain ⟨⟨i, r⟩, hcut, heq⟩ := Option.map_eq_some_iff.mp h
    obtain ⟨rfl, rfl⟩ := Prod.mk.inj heq
    rw [ih hcut, List.cons_append]

/-- The literal segment of a text covers it. -/
@[simp] theorem chars_literals (text : List Char) : (literals text).flatMap chars = text := by
  rw [literals]
  split
  · rename_i h
    rw [List.isEmpty_iff.mp h]
    rfl
  · simp [chars]

/-- The segments of a text cover it. -/
theorem chars_ofChars (cs : List Char) : (ofChars cs).flatMap chars = cs := by
  fun_induction ofChars cs with
  | case1 => exact chars_literals _
  | case2 cs before after hcut =>
    obtain ⟨rfl, -⟩ := cutAt?_braces_eq_some_iff.mp hcut
    simp [chars]
  | case3 cs before after hcut text rest hclose ih =>
    obtain ⟨rfl, -⟩ := cutAt?_braces_eq_some_iff.mp hcut
    obtain rfl := eq_append_of_cutClose? hclose
    simp [chars, ih]

/-- A text without opening braces makes the literal text at the start of what follows it longer, and
leaves the other segments as they are. -/
theorem exists_ofChars_append {cs ds : List Char} (hfree : ¬ ['{', '{'] <:+: cs)
    (hborder : ¬ (cs.getLast? = some '{' ∧ ds.head? = some '{')) :
    ∃ before tail, ofChars ds = literals before ++ tail ∧
      ofChars (cs ++ ds) = literals (cs ++ before) ++ tail ∧
      ∀ text, tail.head? ≠ some (literal text) := by
  rw [ofChars_eq ds, ofChars_eq (cs ++ ds), cutAt?_braces_append_of_free hfree hborder]
  cases cutAt? ['{', '{'] ds with
  | none => exact ⟨ds, [], by simp⟩
  | some cut =>
    obtain ⟨before, after⟩ := cut
    cases hclose : cutClose? none after with
    | none => exact ⟨before, [unclosed after], by simp [hclose]⟩
    | some found => exact ⟨before, inside found.1 :: ofChars found.2, by simp [hclose]⟩

/-! ## The parts of two texts -/

/-- Segments before others stand for the parts before those of the others. -/
theorem exists_append_of_denotes {xs ys : List Segment} {ns : List Node}
    (h : List.Forall₂ Denotes (xs ++ ys) ns) :
    ∃ us vs, ns = us ++ vs ∧ List.Forall₂ Denotes xs us ∧ List.Forall₂ Denotes ys vs :=
  ⟨ns.take xs.length, ns.drop xs.length, (List.take_append_drop _ _).symm,
    (List.forall₂_take_append ns xs ys h.flip).flip, (List.forall₂_drop_append ns xs ys h.flip).flip⟩

/-- Segments that stand for parts come before whatever the segments after them give. -/
theorem nodes_append_of_denotes {xs ys : List Segment} {ms : List Node}
    (h : List.Forall₂ Denotes xs ms) (offset total : Nat) :
    nodes offset total (xs ++ ys) =
      (nodes (offset + (xs.flatMap chars).length) total ys).map (ms ++ ·) := by
  induction h generalizing offset with
  | nil =>
    simp only [List.nil_append, List.flatMap_nil, List.length_nil, Nat.add_zero]
    cases nodes offset total ys <;> rfl
  | @cons s m xs ms hs _ ih =>
    rw [List.cons_append, nodes, node_eq_ok_iff.mpr hs, ok_bind, ih, List.flatMap_cons,
      List.length_append, Nat.add_assoc]
    cases nodes (offset + (s.chars.length + (xs.flatMap chars).length)) total ys <;> rfl

/-- A segment further to the right gives the same part, or the same error further to the right. -/
theorem node_shift (s : Segment) (k offset total : Nat) :
    s.node (k + offset) (k + total) = (s.node offset total).mapError (SyntaxError.shift k) := by
  have hshift (e : SyntaxError) : e.shift (k + offset + 2) = (e.shift (offset + 2)).shift k := by
    simp only [SyntaxError.shift, SyntaxError.mk.injEq, true_and, and_true]
    omega
  cases s with
  | literal text => rfl
  | inside text =>
    rw [node, node]
    cases Expr.ofChars text with
    | ok e => rfl
    | error e => simp [hshift]
  | unclosed text =>
    rw [node, node]
    split
    · simp [SyntaxError.shift, Nat.add_comm]
    · cases Expr.ofChars text with
      | ok e => simp [SyntaxError.shift, Nat.add_comm]
      | error e => simp [hshift]

/-- Segments further to the right give the same parts, or the same error further to the right. -/
theorem nodes_shift (ss : List Segment) (k offset total : Nat) :
    nodes (k + offset) (k + total) ss = (nodes offset total ss).mapError (SyntaxError.shift k) := by
  induction ss generalizing offset with
  | nil => rfl
  | cons s ss ih =>
    rw [nodes, nodes, node_shift, Nat.add_assoc, ih]
    cases s.node offset total with
    | error e => rfl
    | ok n => cases nodes (offset + s.chars.length) total ss <;> rfl

/-- Parts start with no literal text if the segments that stand for them do not. -/
theorem head?_ne_literal_of_denotes {ss : List Segment} {ns : List Node}
    (h : List.Forall₂ Denotes ss ns) (hss : ∀ text, ss.head? ≠ some (literal text)) (s : String) :
    ns.head? ≠ some (.literal s) := by
  cases h with
  | nil => simp
  | cons hs _ =>
    cases hs with
    | literal => exact absurd rfl (hss _)
    | inside => simp

/-- A literal segment stands before other segments. -/
theorem nodes_literals_append {text : List Char} (hne : text ≠ []) (ss : List Segment)
    (offset total : Nat) :
    nodes offset total (literals text ++ ss) =
      (nodes (offset + text.length) total ss).map (Node.literal (String.ofList text) :: ·) := by
  have hdenotes : List.Forall₂ Denotes [literal text] [.literal (String.ofList text)] :=
    .cons .literal .nil
  rw [literals, if_neg (mt List.isEmpty_iff.mp hne), nodes_append_of_denotes hdenotes]
  simp [chars]

/-- The parts of a literal text and what follows it. -/
theorem nodes_literal_append {cs ds : List Char} (hfree : ¬ ['{', '{'] <:+: cs) (hne : cs ≠ [])
    (hborder : ¬ (cs.getLast? = some '{' ∧ ds.head? = some '{')) (offset total : Nat) :
    nodes offset total (ofChars (cs ++ ds)) =
      (nodes (offset + cs.length) total (ofChars ds)).map
        (Node.concat [.literal (String.ofList cs)]) := by
  obtain ⟨before, tail, hds, happend, hhead⟩ := exists_ofChars_append hfree hborder
  have hne' : cs ++ before ≠ [] := by simp [hne]
  rw [hds, happend, nodes_literals_append hne', List.length_append, ← Nat.add_assoc]
  by_cases hbefore : before = []
  · -- no literal text follows, so that the first one ends at the border
    subst hbefore
    cases hns : nodes (offset + cs.length) total tail with
    | error e => simp [literals, hns]
    | ok ns =>
      have hconcat : Node.concat [.literal (String.ofList cs)] ns = .literal (String.ofList cs) :: ns :=
        Node.concat_eq_append fun _ d _ =>
          head?_ne_literal_of_denotes (nodes_eq_ok_iff.mp hns) hhead d
      simp [literals, hns, hconcat]
  · rw [nodes_literals_append hbefore]
    cases nodes (offset + cs.length + before.length) total tail with
    | error e => rfl
    | ok ns =>
      have hconcat := Node.concat_literals [] ns (String.ofList cs) (String.ofList before)
      rw [List.nil_append, List.nil_append, ← String.ofList_append] at hconcat
      simp [hconcat]

/-- The parts of a text and what follows it: those of the text, and those of what follows it or its
error, further to the right. -/
theorem nodes_ofChars_append {cs ds : List Char} {ms : List Node}
    (h : List.Forall₂ Denotes (ofChars cs) ms)
    (hborder : ¬ (cs.getLast? = some '{' ∧ ds.head? = some '{')) (offset total : Nat) :
    nodes offset total (ofChars (cs ++ ds)) =
      (nodes (offset + cs.length) total (ofChars ds)).map (Node.concat ms) := by
  fun_induction ofChars cs generalizing ms offset with
  | case1 cs hcut =>
    have hliterals : List.Forall₂ Denotes (literals cs ++ []) ms := by simpa using h
    rcases forall₂_literals_append hliterals with ⟨rfl, hnil⟩ | ⟨ms', hne, rfl, hnil⟩
    · obtain rfl := List.forall₂_nil_left_iff.mp hnil
      cases hns : nodes offset total (ofChars ds) <;> simp [hns]
    · obtain rfl := List.forall₂_nil_left_iff.mp hnil
      exact nodes_literal_append (cutAt?_eq_none_iff.mp hcut) hne hborder offset total
  | case2 cs before after hcut hclose =>
    -- an expression that is not closed stands for no part
    obtain ⟨us, vs, -, -, hunclosed⟩ := exists_append_of_denotes h
    obtain ⟨n, -, hn, -⟩ := List.forall₂_cons_left_iff.mp hunclosed
    cases hn
  | case3 cs before after hcut text rest hclose ih =>
    obtain ⟨us, vs, rfl, hus, hvs⟩ := exists_append_of_denotes h
    obtain ⟨n, others, hn, hothers, rfl⟩ := List.forall₂_cons_left_iff.mp hvs
    obtain ⟨e, rfl⟩ : ∃ e, n = .expr e := by cases hn; exact ⟨_, rfl⟩
    -- the first expression is found in the longer text too, with the rest of it longer
    have hsegments : ofChars (cs ++ ds) =
        literals before ++ [inside text] ++ ofChars (rest ++ ds) := by
      rw [ofChars_eq, cutAt?_braces_append ds hcut]
      simp [cutClose?_append ds hclose]
    have hchars : cs = (literals before ++ [inside text]).flatMap chars ++ rest := by
      rw [(cutAt?_braces_eq_some_iff.mp hcut).1, eq_append_of_cutClose? hclose]
      simp [chars]
    have hrest : ¬ (rest.getLast? = some '{' ∧ ds.head? = some '{') := by
      rintro ⟨hlast, hhead⟩
      exact hborder ⟨by simp [hchars, hlast], hhead⟩
    have hspan : List.Forall₂ Denotes (literals before ++ [inside text]) (us ++ [.expr e]) :=
      List.rel_append hus (.cons hn .nil)
    rw [hsegments, nodes_append_of_denotes hspan, ih hothers hrest]
    conv_rhs => rw [hchars, List.length_append, ← Nat.add_assoc]
    cases nodes _ total (ofChars ds) with
    | error err => rfl
    | ok ns => simp [Node.concat_expr]

end Segment

namespace Template

variable {r : Registry} {c : Context}

/-! ## The output of two templates -/

/-- Joining literal texts at the border changes nothing in the output. -/
theorem renderNodes_concat (ms ns : List Node) :
    renderNodes r c (Node.concat ms ns) = renderNodes r c (ms ++ ns) := by
  rcases Node.concat_cases ms ns with ⟨init, s, d, rest, rfl, rfl, hconcat⟩ | hconcat
  · have hjoined : renderNodes r c (.literal (s ++ d) :: rest) =
        renderNodes r c (.literal s :: .literal d :: rest) := by
      simp only [renderNodes_cons, renderNode, ok_bind]
      cases renderNodes r c rest <;> simp [String.append_assoc]
    rw [hconcat, List.append_assoc, renderNodes_append, renderNodes_append, hjoined]
    rfl
  · rw [hconcat]

/-- The output of two templates one after another, if both have one. -/
theorem render_concat_eq_ok_iff {t u : Template} {source out : String} :
    render ⟨Node.concat t.nodes u.nodes, source⟩ r c = .ok out ↔
      ∃ x y, t.render r c = .ok x ∧ u.render r c = .ok y ∧ out = x ++ y := by
  simp only [render_eq_renderNodes, renderNodes_concat, renderNodes_append]
  cases renderNodes r c t.nodes with
  | error e => simp
  | ok x =>
    cases renderNodes r c u.nodes with
    | error e => simp
    | ok y => simp [eq_comm]

/-! ## Parsing two texts -/

/-- The parts of a text followed by another one. -/
theorem ofChars_append {cs ds : List Char} {ms : List Node} (h : ofChars cs = .ok ms)
    (hborder : ¬ (cs.getLast? = some '{' ∧ ds.head? = some '{')) :
    ofChars (cs ++ ds) =
      ((ofChars ds).map (Node.concat ms)).mapError (SyntaxError.shift cs.length) := by
  have hshift : Segment.nodes cs.length (cs.length + ds.length) (Segment.ofChars ds) =
      (ofChars ds).mapError (SyntaxError.shift cs.length) :=
    Segment.nodes_shift _ cs.length 0 ds.length
  rw [ofChars, Segment.nodes_ofChars_append (Segment.nodes_eq_ok_iff.mp h) hborder, Nat.zero_add,
    List.length_append, hshift]
  cases ofChars ds <;> rfl

/-- Parsing a text whose parts are known. -/
theorem parse_eq (source : String) :
    parse source = ((ofChars source.toList).map fun nodes => ⟨nodes, source⟩).mapError
      (SyntaxError.report source) := by
  rw [parse]
  cases ofChars source.toList <;> rfl

/-- Parsing and rendering are local: after a text that parses, another text parses exactly if it does
by itself, unless braces at the border become opening braces together. The parts are then those of
both texts, with literal texts at the border joined, and the output is that of both. An error of the
second text is the same error, further to the right by the length of the first. -/
theorem parse_append {a b : String} {t : Template} (ha : parse a = .ok t)
    (hborder : ¬ (a.toList.getLast? = some '{' ∧ b.toList.head? = some '{')) :
    ((∃ w, parse (a ++ b) = .ok w) ↔ ∃ u, parse b = .ok u) ∧
    (∀ u, parse b = .ok u →
      ∃ w, parse (a ++ b) = .ok w ∧ w.nodes = Node.concat t.nodes u.nodes ∧
        ∀ r c out, w.render r c = .ok out ↔
          ∃ x y, t.render r c = .ok x ∧ u.render r c = .ok y ∧ out = x ++ y) ∧
    ∀ e, parse b = .error e → parse (a ++ b) =
      .error { e with source := a ++ b, offset := e.offset + a.length } := by
  have hms : ofChars a.toList = .ok t.nodes :=
    Segment.nodes_eq_ok_iff.mpr (parse_eq_ok_iff.mp ha).1
  have happend := ofChars_append hms hborder
  rw [parse_eq, parse_eq, String.toList_append, happend, String.length_toList]
  cases ofChars b.toList with
  | ok ns =>
    refine ⟨by simp, ?_, by simp⟩
    intro u hu
    obtain rfl := Except.ok.inj hu
    exact ⟨_, rfl, rfl, fun r c out => render_concat_eq_ok_iff (t := t) (u := ⟨ns, b⟩)⟩
  | error e =>
    refine ⟨by simp, by simp, ?_⟩
    intro error herror
    obtain rfl := Except.error.inj herror
    simp [SyntaxError.report, SyntaxError.shift]

/-- A brace before the border, and closing braces on both sides of it: those in the quoted text close
nothing, and the one after the border closes nothing of the first text. -/
theorem parse_append_border_brace :
    (∃ t, parse "\x7b\x7bf('\x7d\x7d')\x7d\x7d\x7b" = .ok t ∧
      t.nodes = [.expr (.call "f" [.text "\x7d\x7d"]), .literal "\x7b"]) ∧
    (∃ u, parse "\x7d\x7b\x7bx\x7d\x7d" = .ok u ∧ u.nodes = [.literal "\x7d", .expr (.path "x" [])]) ∧
    ∃ w, parse ("\x7b\x7bf('\x7d\x7d')\x7d\x7d\x7b" ++ "\x7d\x7b\x7bx\x7d\x7d") = .ok w ∧
      w.nodes = [.expr (.call "f" [.text "\x7d\x7d"]), .literal "\x7b\x7d", .expr (.path "x" [])] := by
  have ha : parse "\x7b\x7bf('\x7d\x7d')\x7d\x7d\x7b" = .ok
      ⟨[.expr (.call "f" [.text "\x7d\x7d"]), .literal "\x7b"],
        "\x7b\x7bf('\x7d\x7d')\x7d\x7d\x7b"⟩ := by
    cbv
  have hb : parse "\x7d\x7b\x7bx\x7d\x7d" = .ok
      ⟨[.literal "\x7d", .expr (.path "x" [])], "\x7d\x7b\x7bx\x7d\x7d"⟩ := by
    cbv
  obtain ⟨-, hok, -⟩ := parse_append ha (b := "\x7d\x7b\x7bx\x7d\x7d") (by decide)
  obtain ⟨w, hw, hnodes, -⟩ := hok _ hb
  exact ⟨⟨_, ha, rfl⟩, ⟨_, hb, rfl⟩, w, hw, hnodes⟩

end Template

end PathTemplates
