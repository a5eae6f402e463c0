import Mathlib.Data.List.Forall2
import PathTemplates.Proofs.Expr.Spelling

/-! # Where the parts of an expression are spelled

An expression that the walk visits has its spelling inside that of the whole, at a place behind those of the
expressions visited before it: the spelling of a call goes on with its arguments only after the name
(`spelledAt_places`, `ascend_places`). -/

namespace PathTemplates

/-! ## Ascending places -/

/-- Places that ascend from one place to another. -/
structure Ascend (start stop : Nat) (places : List Nat) : Prop where
  /-- Each is behind those before it. -/
  ordered : places.Pairwise (· < ·)
  /-- None is outside. -/
  inside : ∀ place ∈ places, start ≤ place ∧ place ≤ stop

namespace Ascend

variable {start stop next last : Nat} {places others : List Nat}

theorem nil : Ascend start stop [] := ⟨.nil, by simp⟩

theorem singleton (h : start ≤ stop) : Ascend start stop [start] :=
  ⟨List.pairwise_singleton .., by simpa using h⟩

/-- Places before others, if there is room between them. -/
theorem append (h : Ascend start stop places) (h' : Ascend next last others) (hstart : start ≤ next)
    (hroom : stop < next) (hlast : stop ≤ last) : Ascend start last (places ++ others) := by
  constructor
  · rw [List.pairwise_append]
    refine ⟨h.ordered, h'.ordered, fun p hp q hq => ?_⟩
    have := (h.inside p hp).2
    have := (h'.inside q hq).1
    omega
  · intro p hp
    rcases List.mem_append.mp hp with hp | hp
    · have := h.inside p hp
      omega
    · have := h'.inside p hp
      omega

/-- Places may be looked at in a larger part of a text. -/
theorem mono (h : Ascend next stop places) (hstart : start ≤ next) (hstop : stop ≤ last) :
    Ascend start last places := by
  refine ⟨h.ordered, fun p hp => ?_⟩
  have := h.inside p hp
  omega

end Ascend

/-- Characters one after another stand at a place exactly if each part stands at its own. -/
theorem append_prefix_drop_iff {xs ys cs : List Char} {n : Nat} :
    xs ++ ys <+: cs.drop n ↔ xs <+: cs.drop n ∧ ys <+: cs.drop (n + xs.length) := by
  rw [← List.drop_drop]
  constructor
  · rintro ⟨rest, hrest⟩
    rw [← hrest, List.append_assoc, List.drop_left]
    exact ⟨List.prefix_append .., List.prefix_append ..⟩
  · rintro ⟨⟨rest, hrest⟩, h⟩
    rw [← hrest, List.drop_left] at h
    rw [← hrest]
    exact (List.prefix_append_right_inj xs).mpr h

namespace Expr

mutual

/-- The places of the expressions that are visited in an expression, if its own spelling starts at a given
place. -/
def places (start : Nat) : Expr → List Nat
  | call name args => start :: placesOfArgs (start + name.length + 1) args
  | path _ _ | text _ => [start]

/-- The places of the expressions that are visited in arguments with commas between them. -/
def placesOfArgs (start : Nat) : List Expr → List Nat
  | [] => []
  | e :: rest => places start e ++ placesOfArgs (start + e.spelling.length + 2) rest

end

/-- The spelling of an expression stands at a place. -/
def SpelledAt (cs : List Char) (e : Expr) (place : Nat) : Prop :=
  e.spelling.toList <+: cs.drop place

/-- The spelling of a call, with that of its arguments after the name. -/
theorem toList_spelling_call (name : String) (args : List Expr) :
    (call name args).spelling.toList = (name.toList ++ ['(']) ++
      ((joinWith ", " (spellings args)).toList ++ [')']) := by
  simp [spelling]

/-- The spelling of several arguments, with that of the others after the first. -/
theorem toList_spellings (e d : Expr) (rest : List Expr) :
    (joinWith ", " (spellings (e :: d :: rest))).toList =
      (e.spelling.toList ++ [',', ' ']) ++ (joinWith ", " (spellings (d :: rest))).toList := by
  rw [joinWith_spellings_cons_cons]
  simp

mutual

/-- What is visited in an expression is spelled at its places. -/
theorem spelledAt_places {cs : List Char} {start : Nat} : (e : Expr) → SpelledAt cs e start →
    List.Forall₂ (SpelledAt cs) e.subterms (places start e)
  | call name args, h => by
    rw [places, subterms]
    refine .cons h (spelledAt_placesOfArgs args ?_)
    rw [SpelledAt, toList_spelling_call, append_prefix_drop_iff, List.length_append,
      String.length_toList] at h
    exact (append_prefix_drop_iff.mp h.2).1
  | path _ _, h => by
    rw [places, subterms_path]
    exact .cons h .nil
  | text _, h => by
    rw [places, subterms_text]
    exact .cons h .nil

/-- What is visited in arguments is spelled at their places. -/
theorem spelledAt_placesOfArgs {cs : List Char} {start : Nat} : (args : List Expr) →
    (joinWith ", " (spellings args)).toList <+: cs.drop start →
      List.Forall₂ (SpelledAt cs) (subtermsList args) (placesOfArgs start args)
  | [], _ => by
    rw [placesOfArgs, subtermsList]
    exact .nil
  | [e], h => by
    rw [joinWith_spellings_singleton] at h
    rw [placesOfArgs, placesOfArgs, subtermsList, subtermsList, List.append_nil, List.append_nil]
    exact spelledAt_places e h
  | e :: d :: rest, h => by
    rw [toList_spellings, append_prefix_drop_iff, List.length_append, String.length_toList] at h
    have he := (append_prefix_drop_iff.mp h.1).1
    rw [placesOfArgs, subtermsList]
    exact List.rel_append (spelledAt_places e he) (spelledAt_placesOfArgs (d :: rest) h.2)

end

mutual

/-- The places inside the spelling of an expression ascend. -/
theorem ascend_places (start : Nat) : (e : Expr) →
    Ascend start (start + e.spelling.length) (places start e)
  | call name args => by
    have hlength : (call name args).spelling.length =
        name.length + 1 + ((joinWith ", " (spellings args)).length + 1) := by
      rw [← String.length_toList, toList_spelling_call]
      simp only [List.length_append, String.length_toList, List.length_singleton]
    have hargs := ascend_placesOfArgs (start + name.length + 1) args
    rw [places, ← List.singleton_append]
    exact ((Ascend.singleton (Nat.le_refl start)).append hargs (by omega) (by omega) (by omega)).mono
      (by omega) (by omega)
  | path _ _ => by
    rw [places]
    exact .singleton (Nat.le_add_right ..)
  | text _ => by
    rw [places]
    exact .singleton (Nat.le_add_right ..)

/-- The places inside the spelling of arguments ascend. -/
theorem ascend_placesOfArgs (start : Nat) : (args : List Expr) →
    Ascend start (start + (joinWith ", " (spellings args)).length) (placesOfArgs start args)
  | [] => by
    rw [placesOfArgs]
    exact .nil
  | [e] => by
    rw [joinWith_spellings_singleton, placesOfArgs, placesOfArgs, List.append_nil]
    exact ascend_places start e
  | e :: d :: rest => by
    have hlength : (joinWith ", " (spellings (e :: d :: rest))).length =
        e.spelling.length + 2 + (joinWith ", " (spellings (d :: rest))).length := by
      rw [← String.length_toList, toList_spellings]
      simp only [List.length_append, String.length_toList, List.length_cons, List.length_nil]
    have hrest := ascend_placesOfArgs (start + e.spelling.length + 2) (d :: rest)
    rw [placesOfArgs, hlength]
    exact ((ascend_places start e).append hrest (by omega) (by omega) (by omega)).mono
      (by omega) (by omega)

end

end Expr

end PathTemplates
