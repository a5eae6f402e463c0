import Mathlib.Data.List.Chain
import Mathlib.Data.List.Forall2
import PathTemplates.Proofs.Expr.Printing
import PathTemplates.Proofs.Outcome
import PathTemplates.Proofs.Template.Segmentation
import PathTemplates.Template.Parser

/-! # Templates and their written forms

Which lists of parts a template text can have (`WellFormed`), and that writing such a list and
parsing the text gives the list back. -/

namespace PathTemplates

namespace Node

/-- A part that can stand in a template: a literal text is not empty and opens no expression, and an
expression can be written and is no quoted text. -/
def WellFormed : Node → Prop
  | literal s => s ≠ "" ∧ ¬ ['{', '{'] <:+: s.toList
  | expr e => e.Writable ∧ e.IsReference

/-- Whether a part can stand right before another: literal texts are never adjacent, and one before
an expression does not end in a brace, which would belong to the opening braces. -/
def MayPrecede : Node → Node → Prop
  | literal _, literal _ => False
  | literal s, expr _ => s.toList.getLast? ≠ some '{'
  | expr _, _ => True

end Node

/-- The parts of a template, as parsing gives them. -/
structure WellFormed (nodes : List Node) : Prop where
  /-- Each part can stand in a template. -/
  each : ∀ n ∈ nodes, n.WellFormed
  /-- Each part can stand before the next one. -/
  chain : nodes.IsChain Node.MayPrecede

namespace WellFormed

/-- The empty template has no parts. -/
theorem nil : WellFormed [] := ⟨by simp, .nil⟩

/-- A part before others. -/
theorem cons_iff {n : Node} {ns : List Node} :
    WellFormed (n :: ns) ↔ n.WellFormed ∧ (∀ m ∈ ns.head?, n.MayPrecede m) ∧ WellFormed ns := by
  constructor
  · rintro ⟨heach, hchain⟩
    rw [List.forall_mem_cons] at heach
    rw [List.isChain_cons] at hchain
    exact ⟨heach.1, hchain.1, heach.2, hchain.2⟩
  · rintro ⟨hn, hnext, heach, hchain⟩
    exact ⟨List.forall_mem_cons.mpr ⟨hn, heach⟩, List.isChain_cons.mpr ⟨hnext, hchain⟩⟩

end WellFormed

namespace Segment

/-- The part of a template that a segment stands for. -/
inductive Denotes : Segment → Node → Prop
  /-- A literal text stands for itself. -/
  | literal {text : List Char} : Denotes (literal text) (.literal (String.ofList text))
  /-- The inside of an expression stands for its tree. -/
  | inside {text : List Char} {e : Expr} : Interior text e → Denotes (inside text) (.expr e)

/-- A segment has a part exactly if it stands for it. -/
theorem node_eq_ok_iff {s : Segment} {offset total : Nat} {n : Node} :
    s.node offset total = .ok n ↔ Denotes s n := by
  cases s with
  | literal text =>
    constructor
    · intro h
      obtain rfl := Except.ok.inj h
      exact .literal
    · rintro ⟨⟩
      rfl
  | inside text =>
    constructor
    · intro h
      rw [node] at h
      cases he : Expr.ofChars text with
      | error => simp [he] at h
      | ok e =>
        obtain rfl : Node.expr e = n := by simpa [he] using h
        exact .inside (Expr.ofChars_eq_ok_iff.mp he)
    · rintro (_ | he)
      rw [node, Expr.ofChars_eq_ok_iff.mpr he]
      rfl
  | unclosed text =>
    constructor
    · intro h
      rw [node] at h
      split at h
      · simp at h
      · split at h <;> simp at h
    · rintro ⟨⟩

/-- Segments have parts exactly if each stands for its own. -/
theorem nodes_eq_ok_iff {segments : List Segment} {offset total : Nat} {ns : List Node} :
    nodes offset total segments = .ok ns ↔ List.Forall₂ Denotes segments ns := by
  induction segments generalizing offset ns with
  | nil => simp [nodes, eq_comm]
  | cons s rest ih =>
    rw [nodes, List.forall₂_cons_left_iff, bind_eq_ok_iff]
    constructor
    · rintro ⟨n, hn, h⟩
      obtain ⟨others, hothers, hpure⟩ := bind_eq_ok_iff.mp h
      obtain rfl : n :: others = ns := Except.ok.inj hpure
      exact ⟨n, others, node_eq_ok_iff.mp hn, ih.mp hothers, rfl⟩
    · rintro ⟨n, others, hn, hothers, rfl⟩
      exact ⟨n, node_eq_ok_iff.mpr hn, by rw [ih.mpr hothers, ok_bind, pure_eq_ok]⟩

end Segment

/-- A text parses to given parts exactly if its segments stand for them. -/
theorem Template.parse_eq_ok_iff {source : String} {t : Template} :
    Template.parse source = .ok t ↔
      List.Forall₂ Segment.Denotes (Segment.ofChars source.toList) t.nodes ∧
        t.source = source := by
  have hnodes : Template.ofChars source.toList = .ok t.nodes ↔
      List.Forall₂ Segment.Denotes (Segment.ofChars source.toList) t.nodes :=
    Segment.nodes_eq_ok_iff
  rw [Template.parse, ← hnodes]
  cases Template.ofChars source.toList with
  | error => simp
  | ok nodes =>
    obtain ⟨ns, s⟩ := t
    simp [eq_comm]

/-! ## Parsed templates are well formed -/

namespace Segment

/-- A literal segment, if there is one, stands for a literal text that is not empty. -/
theorem forall₂_literals_append {before : List Char} {segments : List Segment} {ns : List Node}
    (h : List.Forall₂ Denotes (literals before ++ segments) ns) :
    (before = [] ∧ List.Forall₂ Denotes segments ns) ∨
      ∃ ns', before ≠ [] ∧ ns = .literal (String.ofList before) :: ns' ∧
        List.Forall₂ Denotes segments ns' := by
  rw [literals] at h
  split_ifs at h with hempty
  · exact .inl ⟨List.isEmpty_iff.mp hempty, h⟩
  · rw [List.singleton_append, List.forall₂_cons_left_iff] at h
    obtain ⟨n, ns', hn, hns, rfl⟩ := h
    cases hn
    exact .inr ⟨ns', mt List.isEmpty_iff.mpr hempty, rfl, hns⟩

/-- What the segments of a text stand for is well formed. -/
theorem wellFormed_of_denotes {cs : List Char} {ns : List Node}
    (h : List.Forall₂ Denotes (ofChars cs) ns) : WellFormed ns := by
  fun_induction ofChars cs generalizing ns with
  | case1 cs hcut =>
    -- no braces open an expression: there is one literal text at most
    have hfree := cutAt?_eq_none_iff.mp hcut
    have hliterals : List.Forall₂ Denotes (literals cs ++ []) ns := by simpa using h
    rcases forall₂_literals_append hliterals with ⟨-, hnil⟩ | ⟨ns', hne, rfl, hnil⟩
    · obtain rfl := List.forall₂_nil_left_iff.mp hnil
      exact .nil
    · obtain rfl := List.forall₂_nil_left_iff.mp hnil
      exact WellFormed.cons_iff.mpr ⟨⟨by simpa using hne, by simpa using hfree⟩, by simp, .nil⟩
  | case2 cs before after hcut hclose =>
    -- an expression that is not closed stands for no part
    exfalso
    obtain ⟨n, hn⟩ : ∃ n, Denotes (unclosed after) n := by
      rcases forall₂_literals_append h with ⟨-, h⟩ | ⟨ns', -, -, h⟩ <;>
      · obtain ⟨n, -, hn, -⟩ := List.forall₂_cons_left_iff.mp h
        exact ⟨n, hn⟩
    cases hn
  | case3 cs before after hcut text rest hclose ih =>
    -- the first braces end the literal text, so that it neither holds a pair nor ends in a brace
    obtain ⟨-, hbefore⟩ := cutAt?_braces_eq_some_iff.mp hcut
    rw [infix_braces_concat_iff, not_or] at hbefore
    have hspan {ns' : List Node} (h : List.Forall₂ Denotes (inside text :: ofChars rest) ns') :
        WellFormed ns' ∧ ∃ e others, ns' = .expr e :: others := by
      obtain ⟨n, others, hn, hothers, rfl⟩ := List.forall₂_cons_left_iff.mp h
      cases hn with
      | inside he =>
        refine ⟨WellFormed.cons_iff.mpr ⟨he.writable, ?_, ih hothers⟩, _, others, rfl⟩
        intro m _
        trivial
    rcases forall₂_literals_append h with ⟨-, hrest⟩ | ⟨ns', hne, rfl, hrest⟩
    · exact (hspan hrest).1
    · obtain ⟨hwf, e, others, rfl⟩ := hspan hrest
      refine WellFormed.cons_iff.mpr ⟨⟨by simpa using hne, by simpa using hbefore.1⟩, ?_, hwf⟩
      simpa [Node.MayPrecede] using hbefore.2

end Segment

/-! ## Written templates are read back -/

namespace Segment

/-- A literal segment stands for its text. -/
theorem denotes_literals {s : String} (hs : s ≠ "") :
    List.Forall₂ Denotes (literals s.toList) [.literal s] := by
  have hliteral := @Denotes.literal s.toList
  rw [String.ofList_toList] at hliteral
  rw [literals, if_neg (by simpa using hs)]
  exact .cons hliteral .nil

/-- The segments of a literal text, an expression between braces and what follows these. -/
theorem denotes_span {before cs rest : List Char} {e : Expr} {ms ns : List Node}
    (hbefore : ¬ ['{', '{'] <:+: before ++ ['{']) (hms : List.Forall₂ Denotes (literals before) ms)
    (he : Interior cs e) (hns : List.Forall₂ Denotes (ofChars rest) ns) :
    List.Forall₂ Denotes (ofChars (before ++ ('{' :: '{' :: (cs ++ ['}', '}']) ++ rest)))
      (ms ++ .expr e :: ns) := by
  obtain ⟨ts, hlexes, -⟩ := id he
  have hsegments : ofChars (before ++ ('{' :: '{' :: (cs ++ ['}', '}']) ++ rest)) =
      literals before ++ inside cs :: ofChars rest := by
    rw [← ofChars_span hbefore hlexes]
    simp
  rw [hsegments]
  exact List.rel_append hms (.cons (.inside he) hns)

end Segment

namespace Template

/-- The characters of texts, one after another. -/
def joined (parts : List String) : List Char := parts.flatMap String.toList

@[simp] theorem joined_nil : joined [] = [] := rfl

@[simp] theorem joined_cons (part : String) (parts : List String) :
    joined (part :: parts) = part.toList ++ joined parts := rfl

/-- Texts are joined to the text of their characters. -/
theorem toList_join (parts : List String) : (String.join parts).toList = joined parts := by
  simp [joined]

/-- An expression is written between braces, as an inside that is read as its tree. -/
theorem exists_nodeSource_expr {e : Expr} (h : (Node.expr e).WellFormed) :
    ∃ part cs, nodeSource (.expr e) = .ok part ∧ Interior cs e ∧
      part.toList = '{' :: '{' :: (cs ++ ['}', '}']) := by
  obtain ⟨s, hs, hinterior⟩ := h.1.interior h.2
  refine ⟨openBraces ++ " " ++ s ++ " " ++ closeBraces, _, ?_, hinterior, ?_⟩
  · rw [nodeSource, hs, map_ok]
  · simp [openBraces, closeBraces]

/-- A well-formed template is written as parts whose text has its segments. -/
theorem exists_nodeSources : {ns : List Node} → WellFormed ns →
    ∃ parts, List.Forall₂ (fun n part => nodeSource n = .ok part) ns parts ∧
      List.Forall₂ Segment.Denotes (Segment.ofChars (joined parts)) ns
  | [], _ => by
    refine ⟨[], .nil, ?_⟩
    rw [joined_nil, Segment.ofChars_literal (by simp)]
    exact .nil
  | .expr e :: rest, h => by
    obtain ⟨he, -, hrest⟩ := WellFormed.cons_iff.mp h
    obtain ⟨parts, hparts, hdenotes⟩ := exists_nodeSources hrest
    obtain ⟨part, cs, hpart, hinterior, hchars⟩ := exists_nodeSource_expr he
    refine ⟨part :: parts, .cons hpart hparts, ?_⟩
    rw [joined_cons, hchars]
    have hempty : ¬ ['{', '{'] <:+: [] ++ ['{'] := by decide
    exact Segment.denotes_span hempty .nil hinterior hdenotes
  | [.literal s], h => by
    obtain ⟨hs, -, -⟩ := WellFormed.cons_iff.mp h
    refine ⟨[s], .cons rfl .nil, ?_⟩
    rw [joined_cons, joined_nil, List.append_nil, Segment.ofChars_literal hs.2]
    exact Segment.denotes_literals hs.1
  | .literal s :: .expr e :: rest, h => by
    obtain ⟨hs, hnext, h⟩ := WellFormed.cons_iff.mp h
    obtain ⟨he, -, hrest⟩ := WellFormed.cons_iff.mp h
    obtain ⟨parts, hparts, hdenotes⟩ := exists_nodeSources hrest
    obtain ⟨part, cs, hpart, hinterior, hchars⟩ := exists_nodeSource_expr he
    -- the literal text does not end in a brace, so the braces of the expression are the first ones
    have hbefore : ¬ ['{', '{'] <:+: s.toList ++ ['{'] := by
      rw [infix_braces_concat_iff, not_or]
      exact ⟨hs.2, hnext _ rfl⟩
    refine ⟨s :: part :: parts, .cons rfl (.cons hpart hparts), ?_⟩
    rw [joined_cons, joined_cons, hchars]
    exact Segment.denotes_span hbefore (Segment.denotes_literals hs.1) hinterior hdenotes
  | .literal s :: .literal d :: rest, h => by
    obtain ⟨-, hnext, -⟩ := WellFormed.cons_iff.mp h
    exact absurd (hnext _ rfl) id

/-- The written form of a well-formed template parses to its parts. -/
theorem parse_toSource {nodes : List Node} (h : WellFormed nodes) (source : String) :
    ∃ printed, toSource ⟨nodes, source⟩ = .ok printed ∧ parse printed = .ok ⟨nodes, printed⟩ := by
  obtain ⟨parts, hparts, hdenotes⟩ := exists_nodeSources h
  refine ⟨String.join parts, ?_, ?_⟩
  · rw [toSource, mapM_eq_ok_iff.mpr hparts, map_ok]
  · rw [parse_eq_ok_iff, toList_join]
    exact ⟨hdenotes, rfl⟩

/-- What a text parses to is well formed. -/
theorem wellFormed_of_parse {source : String} {t : Template} (h : parse source = .ok t) :
    WellFormed t.nodes :=
  Segment.wellFormed_of_denotes (parse_eq_ok_iff.mp h).1

/-- Templates with the same parts have the same written form. -/
theorem toSource_congr {t t' : Template} (h : t.nodes = t'.nodes) : t.toSource = t'.toSource := by
  rw [toSource, h, toSource]

/-- Templates are the same exactly if their parts are equal. -/
theorem same_iff {t t' : Template} : t.same t' ↔ t.nodes = t'.nodes := by
  rw [same, beq_iff_eq]

/-- A template that was parsed has a written form that parses to it. -/
theorem exists_toSource_of_parse {source : String} {t : Template} (h : parse source = .ok t) :
    ∃ printed, t.toSource = .ok printed ∧ parse printed = .ok ⟨t.nodes, printed⟩ :=
  parse_toSource (wellFormed_of_parse h) t.source

/-- Parsing and writing are inverse to each other: the lists of parts that texts parse to are the
well-formed ones, these are also the ones whose written form parses to them, and two texts parse to
the same template exactly if their templates have the same written form. -/
theorem parse_inverse_toSource :
    (∀ nodes, (∃ source t, parse source = .ok t ∧ t.nodes = nodes) ↔ WellFormed nodes) ∧
    (∀ t : Template, WellFormed t.nodes ↔
      ∃ printed t', t.toSource = .ok printed ∧ parse printed = .ok t' ∧ t'.nodes = t.nodes) ∧
    ∀ source source',
      (∃ t t', parse source = .ok t ∧ parse source' = .ok t' ∧ t.same t') ↔
        ∃ t t' printed, parse source = .ok t ∧ parse source' = .ok t' ∧
          t.toSource = .ok printed ∧ t'.toSource = .ok printed := by
  refine ⟨fun nodes => ⟨?_, fun h => ?_⟩, fun t => ⟨fun h => ?_, ?_⟩, fun source source' => ⟨?_, ?_⟩⟩
  · rintro ⟨source, t, ht, rfl⟩
    exact wellFormed_of_parse ht
  · obtain ⟨printed, -, hparse⟩ := parse_toSource h ""
    exact ⟨printed, _, hparse, rfl⟩
  · obtain ⟨printed, hprinted, hparse⟩ := parse_toSource h t.source
    exact ⟨printed, _, hprinted, hparse, rfl⟩
  · rintro ⟨printed, t', -, hparse, hnodes⟩
    rw [← hnodes]
    exact wellFormed_of_parse hparse
  · rintro ⟨t, t', ht, ht', hsame⟩
    obtain ⟨printed, hprinted, -⟩ := exists_toSource_of_parse ht
    exact ⟨t, t', printed, ht, ht', hprinted, toSource_congr (same_iff.mp hsame) ▸ hprinted⟩
  -- what both are written as parses to the parts of either
  · rintro ⟨t, t', printed, ht, ht', hprinted, hprinted'⟩
    obtain ⟨p, hp, hparse⟩ := exists_toSource_of_parse ht
    obtain ⟨p', hp', hparse'⟩ := exists_toSource_of_parse ht'
    obtain rfl : p = printed := Except.ok.inj (hp.symm.trans hprinted)
    obtain rfl : p' = p := Except.ok.inj (hp'.symm.trans hprinted')
    have hnodes := (Template.mk.inj (Except.ok.inj (hparse.symm.trans hparse'))).1
    exact ⟨t, t', ht, ht', same_iff.mpr hnodes⟩

end Template

end PathTemplates
