import PathTemplates.Proofs.Expr.Places
import PathTemplates.Proofs.Expr.Preorder
import PathTemplates.Proofs.Template.RoundTrip

/-! # Names in order of first use

* The expressions that the walk visits stand in the canonical form of a template one after another, each
  spelled at a place behind those of the expressions visited before it (`exists_places`). The order of the
  walk is the order of reading.
* The variables and functions that a template collects are those that occur in it, each once, in the
  order in which they are first met (`inFirstUse_eraseDups`). -/

namespace PathTemplates

/-! ## First use -/

/-- One name is used before any use of another. -/
def Precedes (uses : List String) (a b : String) : Prop :=
  ∃ before after, uses = before ++ a :: after ∧ b ∉ before ++ [a]

/-- Names in the order of their first use. -/
structure InFirstUse (names uses : List String) : Prop where
  /-- Every name is there once. -/
  nodup : names.Nodup
  /-- The names are those that are used. -/
  mem_iff : ∀ name, name ∈ names ↔ name ∈ uses
  /-- Each is used before any use of those after it. -/
  ordered : names.Pairwise (Precedes uses)

/-- Uses of a third name do not matter. -/
theorem Precedes.of_filter {uses : List String} {a b c : String}
    (h : Precedes (uses.filter fun d => !d == c) a b) (hb : b ≠ c) : Precedes (c :: uses) a b := by
  obtain ⟨before, after, hsplit, hnot⟩ := h
  obtain ⟨front, back, rfl, rfl, hback⟩ := List.filter_eq_append_iff.mp hsplit
  obtain ⟨others, rest, rfl, hothers, -, -⟩ := List.filter_eq_cons_iff.mp hback
  refine ⟨c :: (front ++ others), rest, by simp, ?_⟩
  rw [List.mem_append, not_or] at hnot
  rw [List.cons_append, List.append_assoc, List.mem_cons, List.mem_append, List.mem_append, not_or,
    not_or, not_or]
  refine ⟨hb, fun hfront => hnot.1 (List.mem_filter.mpr ⟨hfront, by simpa using hb⟩), ?_, hnot.2⟩
  intro hmem
  exact hothers b hmem (by simpa using hb)

/-- When repeated names are left out, the first use of each is kept. -/
theorem pairwise_precedes_eraseDups : (uses : List String) → uses.eraseDups.Pairwise (Precedes uses)
  | [] => .nil
  | c :: uses => by
    rw [List.eraseDups_cons, List.pairwise_cons]
    have hne {b : String} (hb : b ∈ (uses.filter fun d => !d == c).eraseDups) : b ≠ c := by
      have hkept := (List.mem_filter.mp (List.mem_eraseDups.mp hb)).2
      simpa using hkept
    refine ⟨fun b hb => ⟨[], uses, rfl, by simpa using hne hb⟩, ?_⟩
    exact (pairwise_precedes_eraseDups (uses.filter fun d => !d == c)).imp_of_mem
      fun _ hb h => h.of_filter (hne hb)
  termination_by uses => uses.length
  decreasing_by exact Nat.lt_succ_of_le (List.length_filter_le _ _)

/-- Leaving out repeated names puts the names in the order of their first use. -/
theorem inFirstUse_eraseDups (uses : List String) : InFirstUse uses.eraseDups uses where
  nodup := (pairwise_precedes_eraseDups uses).imp fun h => by
    rintro rfl
    obtain ⟨before, after, -, hnot⟩ := h
    exact hnot (List.mem_append_right before (List.mem_singleton_self _))
  mem_iff _ := List.mem_eraseDups
  ordered := pairwise_precedes_eraseDups uses

/-! ## The canonical form -/

namespace Node

/-- The spelling of a part: a literal text as it is, and an expression between braces and blanks. -/
def spelling : Node → String
  | literal s => s
  | expr e => Template.openBraces ++ " " ++ e.spelling ++ " " ++ Template.closeBraces

/-- The spelling of an expression starts after the braces and a blank. -/
theorem toList_spelling_expr (e : Expr) :
    (expr e).spelling.toList = ['{', '{', ' '] ++ (e.spelling.toList ++ [' ', '}', '}']) := by
  simp [spelling, Template.openBraces, Template.closeBraces]

end Node

namespace Template

/-- The places of the expressions that are visited in the parts of a template, if these are spelled from a
given place on. -/
def placesOf (start : Nat) : List Node → List Nat
  | [] => []
  | .literal s :: rest => placesOf (start + s.length) rest
  | .expr e :: rest => e.places (start + 3) ++ placesOf (start + (Node.expr e).spelling.length) rest

/-- What is visited in the parts of a template is spelled at its places. -/
theorem spelledAt_placesOf {cs : List Char} {start : Nat} (source : String) {ns : List Node}
    (h : joined (ns.map Node.spelling) <+: cs.drop start) :
    List.Forall₂ (Expr.SpelledAt cs) (expressions ⟨ns, source⟩) (placesOf start ns) := by
  induction ns generalizing start with
  | nil => exact .nil
  | cons n rest ih =>
    rw [List.map_cons, joined_cons, append_prefix_drop_iff, String.length_toList] at h
    cases n with
    | literal s => exact ih h.2
    | expr e =>
      have he := h.1
      rw [Node.toList_spelling_expr, append_prefix_drop_iff] at he
      rw [expressions_expr_cons, placesOf]
      exact List.rel_append (Expr.spelledAt_places e (append_prefix_drop_iff.mp he.2).1) (ih h.2)

/-- The places inside the spelling of a template ascend. -/
theorem ascend_placesOf (start : Nat) (ns : List Node) :
    Ascend start (start + (joined (ns.map Node.spelling)).length) (placesOf start ns) := by
  induction ns generalizing start with
  | nil => exact .nil
  | cons n rest ih =>
    rw [List.map_cons, joined_cons, List.length_append, String.length_toList]
    cases n with
    | literal s => exact (ih (start + s.length)).mono (Nat.le_add_right ..) (by simp [Node.spelling]; omega)
    | expr e =>
      have hlength : (Node.expr e).spelling.length = 3 + (e.spelling.length + 3) := by
        rw [← String.length_toList, Node.toList_spelling_expr]
        simp only [List.length_append, String.length_toList, List.length_cons, List.length_nil]
      have hfirst := Expr.ascend_places (start + 3) e
      have hrest := ih (start + (Node.expr e).spelling.length)
      rw [placesOf]
      exact (hfirst.append hrest (by omega) (by omega) (by omega)).mono (by omega) (by omega)

/-- The written form of a part is its spelling. -/
theorem eq_spelling_of_nodeSource {n : Node} {part : String} (h : nodeSource n = .ok part) :
    part = n.spelling := by
  cases n with
  | literal s => exact (Except.ok.inj h).symm
  | expr e =>
    obtain ⟨inner, hinner, rfl⟩ := map_eq_ok_iff.mp h
    obtain ⟨rfl, -⟩ := Expr.toSource_eq_ok_iff.mp hinner
    rfl

/-- The canonical form of a template has the spellings of its parts, one after another. -/
theorem toList_of_toSource {t : Template} {printed : String} (h : t.toSource = .ok printed) :
    printed.toList = joined (t.nodes.map Node.spelling) := by
  obtain ⟨parts, hparts, rfl⟩ := map_eq_ok_iff.mp h
  have hspelled := (mapM_eq_ok_iff.mp hparts).imp fun _ _ => eq_spelling_of_nodeSource
  rw [toList_join]
  congr 1
  rw [← List.forall₂_eq_eq_eq, List.forall₂_map_right_iff]
  exact hspelled.flip

/-- Everything that is visited in a template with a canonical form can be written. -/
theorem toSource_of_mem_expressions {t : Template} {printed : String} (h : t.toSource = .ok printed)
    {x : Expr} (hx : x ∈ t.expressions) : x.toSource = .ok x.spelling := by
  obtain ⟨e, he, hxe⟩ := mem_expressions.mp hx
  obtain ⟨parts, hparts, -⟩ := map_eq_ok_iff.mp h
  obtain ⟨part, -, hpart⟩ := exists_of_forall₂_of_mem (mapM_eq_ok_iff.mp hparts).flip he
  obtain ⟨inner, hinner, -⟩ := map_eq_ok_iff.mp hpart
  have hquotable := (Expr.toSource_eq_ok_iff.mp hinner).2
  exact Expr.toSource_eq_ok_iff.mpr
    ⟨rfl, fun s hs => hquotable s (Expr.mem_subterms_trans hxe hs)⟩

/-- What is visited in a template stands in its canonical form, each expression behind those visited
before it. -/
theorem exists_places {t : Template} {printed : String} (h : t.toSource = .ok printed) :
    ∃ places : List Nat, places.Pairwise (· < ·) ∧
      List.Forall₂ (fun x place => ∃ s, x.toSource = .ok s ∧ s.toList <+: printed.toList.drop place)
        t.expressions places := by
  have hwhole : joined (t.nodes.map Node.spelling) = printed.toList.drop 0 := by
    rw [toList_of_toSource h, List.drop_zero]
  have hspelled := spelledAt_placesOf t.source ⟨[], (List.append_nil _).trans hwhole⟩
  have hwritten := (List.forall₂_and_left ..).mpr
    ⟨fun x hx => toSource_of_mem_expressions h hx, hspelled⟩
  exact ⟨placesOf 0 t.nodes, (ascend_placesOf 0 t.nodes).ordered,
    hwritten.imp fun x place hx => ⟨_, hx.1, hx.2⟩⟩

/-- The variables and functions of a template are collected in reading order. The walk of an expression is
its preorder: it visits every position exactly once, a call before its arguments and these from left to
right. The collected names are therefore those of all variables and all calls anywhere in the template,
each once, in the order in which they are first met, and in its canonical form, if there is one, what is
visited stands at ascending places. -/
theorem names_in_reading_order :
    (∀ e : Expr, e.walk = e.subterms ∧ ∃ positions : List (List Nat),
      positions.Pairwise (· < ·) ∧ (∀ p, p ∈ positions ↔ (e.subterm? p).isSome) ∧
        positions.map e.subterm? = e.walk.map some) ∧
    ∀ t : Template,
      (∀ root, root ∈ t.roots ↔
        ∃ e p fields, .expr e ∈ t.nodes ∧ e.subterm? p = some (.path root fields)) ∧
      (∀ name, name ∈ t.callees ↔
        ∃ e p args, .expr e ∈ t.nodes ∧ e.subterm? p = some (.call name args)) ∧
      InFirstUse t.roots (t.expressions.filterMap Expr.root?) ∧
      InFirstUse t.callees (t.expressions.filterMap Expr.callee?) ∧
      ∀ printed, t.toSource = .ok printed → ∃ places : List Nat, places.Pairwise (· < ·) ∧
        List.Forall₂ (fun x place => ∃ s, x.toSource = .ok s ∧ s.toList <+: printed.toList.drop place)
          t.expressions places := by
  refine ⟨fun e => ⟨e.walk_eq_subterms, e.exists_positions⟩, fun t => ⟨fun root => ?_, fun name => ?_,
    ?_, ?_, fun printed h => exists_places h⟩⟩
  · simp only [mem_roots, Expr.mem_subterms_iff]
    constructor
    · rintro ⟨e, fields, he, p, hp⟩
      exact ⟨e, p, fields, he, hp⟩
    · rintro ⟨e, p, fields, he, hp⟩
      exact ⟨e, fields, he, p, hp⟩
  · simp only [mem_callees, Expr.mem_subterms_iff]
    constructor
    · rintro ⟨e, args, he, p, hp⟩
      exact ⟨e, p, args, he, hp⟩
    · rintro ⟨e, p, args, he, hp⟩
      exact ⟨e, args, he, p, hp⟩
  · rw [roots, Expr.rootsOf_eq]
    exact inFirstUse_eraseDups _
  · rw [callees, Expr.calleesOf_eq]
    exact inFirstUse_eraseDups _

/-- A call in a call, with a variable that is used again and one that is first met in the inner call. -/
theorem names_in_reading_order_nested :
    let t : Template := ⟨[.literal "a/", .expr (.call "f"
      [.path "x" [], .call "g" [.path "y" ["z"], .path "x" []]])], ""⟩
    t.toSource = .ok "a/\x7b\x7b f(x, g(y.z, x)) \x7d\x7d" ∧
      t.roots = ["x", "y"] ∧ t.callees = ["f", "g"] ∧
      ∃ places : List Nat, places.Pairwise (· < ·) ∧
        List.Forall₂ (fun x place => ∃ s, x.toSource = .ok s ∧
          s.toList <+: "a/\x7b\x7b f(x, g(y.z, x)) \x7d\x7d".toList.drop place) t.expressions places := by
  intro t
  have hcall : (Expr.call "f" [.path "x" [], .call "g" [.path "y" ["z"], .path "x" []]]).toSource =
      .ok "f(x, g(y.z, x))" := by
    rw [Expr.toSource_eq]
    decide
  have hsource : t.toSource = .ok "a/\x7b\x7b f(x, g(y.z, x)) \x7d\x7d" := by
    simp only [t, toSource, List.mapM_cons, List.mapM_nil, nodeSource, hcall, map_ok, ok_bind, pure_eq_ok]
    decide
  have hroots : t.roots = ["x", "y"] := by cbv
  have hcallees : t.callees = ["f", "g"] := by cbv
  obtain ⟨-, -, -, -, hplaces⟩ := names_in_reading_order.2 t
  exact ⟨hsource, hroots, hcallees, hplaces _ hsource⟩

end Template

end PathTemplates
