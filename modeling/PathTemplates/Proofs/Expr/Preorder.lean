import PathTemplates.Proofs.Expr.Walking

/-! # Positions inside an expression

A position leads from an expression to an argument, to an argument of that one, and so on. Positions are
compared like words: one comes before those that lead on from it, and before those that turn to a later
argument. In this order the walk visits every position exactly once (`exists_positions`). -/

namespace PathTemplates.Expr

/-- The expression at a position: each number picks an argument. -/
def subterm? (e : Expr) : List Nat → Option Expr
  | [] => some e
  | i :: p =>
    match e.children[i]? with
    | some a => a.subterm? p
    | none => none

mutual

/-- The positions inside an expression, in the order of the walk. -/
def positions : Expr → List (List Nat)
  | call _ args => [] :: positionsFrom 0 args
  | path _ _ | text _ => [[]]

/-- The positions inside arguments, the first of which has a given number. -/
def positionsFrom (i : Nat) : List Expr → List (List Nat)
  | [] => []
  | e :: rest => (positions e).map (i :: ·) ++ positionsFrom (i + 1) rest

end

variable {i : Nat} {p : List Nat} {args : List Expr}

/-- Positions inside arguments start with the number of one of these. -/
theorem exists_of_mem_positionsFrom (h : p ∈ positionsFrom i args) : ∃ j q, i ≤ j ∧ p = j :: q := by
  induction args generalizing i with
  | nil => simp [positionsFrom] at h
  | cons e rest ih =>
    rw [positionsFrom, List.mem_append, List.mem_map] at h
    rcases h with ⟨q, -, rfl⟩ | h
    · exact ⟨i, q, Nat.le_refl i, rfl⟩
    · obtain ⟨j, q, hj, rfl⟩ := ih h
      exact ⟨j, q, Nat.le_of_succ_le hj, rfl⟩

mutual

/-- The positions inside an expression ascend. -/
theorem pairwise_positions : (e : Expr) → e.positions.Pairwise (· < ·)
  | call name args => by
    rw [positions, List.pairwise_cons]
    refine ⟨fun p hp => ?_, pairwise_positionsFrom 0 args⟩
    obtain ⟨j, q, -, rfl⟩ := exists_of_mem_positionsFrom hp
    exact List.nil_lt_cons j q
  | path _ _ => by
    rw [positions]
    exact List.pairwise_singleton ..
  | text _ => by
    rw [positions]
    exact List.pairwise_singleton ..

/-- The positions inside arguments ascend. -/
theorem pairwise_positionsFrom (i : Nat) : (args : List Expr) →
    (positionsFrom i args).Pairwise (· < ·)
  | [] => by
    rw [positionsFrom]
    exact .nil
  | e :: rest => by
    rw [positionsFrom, List.pairwise_append]
    refine ⟨?_, pairwise_positionsFrom (i + 1) rest, ?_⟩
    · rw [List.pairwise_map]
      exact (pairwise_positions e).imp fun h => List.cons_lt_cons_iff.mpr (.inr ⟨rfl, h⟩)
    · intro p hp q hq
      obtain ⟨p', -, rfl⟩ := List.mem_map.mp hp
      obtain ⟨j, q', hj, rfl⟩ := exists_of_mem_positionsFrom hq
      exact List.cons_lt_cons_iff.mpr (.inl hj)

end

mutual

/-- At the positions stand the expressions that are visited. -/
theorem map_subterm?_positions : (e : Expr) → e.positions.map e.subterm? = e.subterms.map some
  | call name args => by
    have hargs := map_subterm?_positionsFrom name [] args
    rw [List.length_nil, List.nil_append] at hargs
    rw [positions, subterms, List.map_cons, List.map_cons, hargs]
    rfl
  | path _ _ => by
    rw [positions, subterms_path]
    rfl
  | text _ => by
    rw [positions, subterms_text]
    rfl

/-- At the positions inside the later arguments of a call stand the expressions inside them. -/
theorem map_subterm?_positionsFrom (name : String) (before : List Expr) : (args : List Expr) →
    (positionsFrom before.length args).map (call name (before ++ args)).subterm? =
      (subtermsList args).map some
  | [] => by
    rw [positionsFrom, subtermsList]
    rfl
  | e :: rest => by
    have hfirst : (call name (before ++ e :: rest)).subterm? ∘ (before.length :: ·) = e.subterm? := by
      funext p
      simp [subterm?, children]
    have hrest := map_subterm?_positionsFrom name (before ++ [e]) rest
    rw [List.append_assoc, List.singleton_append, List.length_append, List.length_singleton] at hrest
    rw [positionsFrom, subtermsList, List.map_append, List.map_append, List.map_map, hfirst, hrest,
      map_subterm?_positions e]

end

/-- A position inside an argument is one inside the call. -/
theorem cons_mem_positionsFrom {j : Nat} {a : Expr} (ha : args[j]? = some a)
    (hp : p ∈ a.positions) : (i + j) :: p ∈ positionsFrom i args := by
  induction args generalizing i j with
  | nil => cases ha
  | cons e rest ih =>
    rw [positionsFrom, List.mem_append]
    cases j with
    | zero =>
      obtain rfl := Option.some.inj ha
      exact .inl (List.mem_map_of_mem hp)
    | succ j =>
      have hrest := ih (i := i + 1) ha
      rw [Nat.add_right_comm] at hrest
      exact .inr hrest

/-- The positions are those that lead to an expression. -/
theorem mem_positions_iff {e : Expr} : p ∈ e.positions ↔ (e.subterm? p).isSome := by
  constructor
  · intro hp
    have hmem := List.mem_map_of_mem (f := e.subterm?) hp
    rw [map_subterm?_positions] at hmem
    obtain ⟨x, -, hx⟩ := List.mem_map.mp hmem
    rw [← hx, Option.isSome_some]
  · induction p generalizing e with
    | nil => cases e <;> simp [positions]
    | cons i p ih =>
      intro h
      rw [subterm?] at h
      cases ha : e.children[i]? with
      | none => simp [ha] at h
      | some a =>
        cases e with
        | call name args =>
          have hmem : (0 + i) :: p ∈ positionsFrom 0 args :=
            cons_mem_positionsFrom ha (ih (by simpa [ha] using h))
          rw [Nat.zero_add] at hmem
          exact List.mem_cons_of_mem [] hmem
        | path | text => cases ha

/-- The walk visits every position of an expression exactly once, in ascending order. -/
theorem exists_positions (e : Expr) : ∃ positions : List (List Nat),
    positions.Pairwise (· < ·) ∧ (∀ p, p ∈ positions ↔ (e.subterm? p).isSome) ∧
      positions.map e.subterm? = e.walk.map some := by
  refine ⟨e.positions, pairwise_positions e, fun p => mem_positions_iff, ?_⟩
  rw [walk_eq_subterms, map_subterm?_positions]

/-- What is visited in an expression are the expressions at its positions. -/
theorem mem_subterms_iff {e x : Expr} : x ∈ e.subterms ↔ ∃ p, e.subterm? p = some x := by
  have hmem : some x ∈ e.positions.map e.subterm? ↔ x ∈ e.subterms := by
    rw [map_subterm?_positions, List.mem_map]
    simp
  rw [← hmem, List.mem_map]
  constructor
  · rintro ⟨p, -, hp⟩
    exact ⟨p, hp⟩
  · rintro ⟨p, hp⟩
    exact ⟨p, mem_positions_iff.mpr (by rw [hp, Option.isSome_some]), hp⟩

/-- Positions lead on from one another. -/
theorem subterm?_append (e : Expr) (p q : List Nat) :
    e.subterm? (p ++ q) = (e.subterm? p).bind (·.subterm? q) := by
  induction p generalizing e with
  | nil => rfl
  | cons i p ih =>
    rw [List.cons_append, subterm?, subterm?]
    cases e.children[i]? with
    | none => rfl
    | some a => exact ih a

/-- What is inside a part of an expression is inside the expression. -/
theorem mem_subterms_trans {e x y : Expr} (hx : x ∈ e.subterms) (hy : y ∈ x.subterms) :
    y ∈ e.subterms := by
  obtain ⟨p, hp⟩ := mem_subterms_iff.mp hx
  obtain ⟨q, hq⟩ := mem_subterms_iff.mp hy
  exact mem_subterms_iff.mpr ⟨p ++ q, by rw [subterm?_append, hp, Option.bind_some, hq]⟩

end PathTemplates.Expr
