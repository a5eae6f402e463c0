import Mathlib.Data.List.Forall2

/-! # Values and errors

How values and errors go through steps that may fail: one step after another, and the same step for
every element of a list, where the first failure is that of the whole. -/

namespace PathTemplates

universe u v w

variable {ε : Type u} {α : Type v} {β : Type v}

@[simp] theorem ok_bind (a : α) (f : α → Except ε β) : (Except.ok a >>= f) = f a := rfl

@[simp] theorem error_bind (e : ε) (f : α → Except ε β) :
    ((Except.error e : Except ε α) >>= f) = .error e := rfl

@[simp] theorem pure_eq_ok (a : α) : (pure a : Except ε α) = .ok a := rfl

@[simp] theorem map_ok (f : α → β) (a : α) : (Except.ok a : Except ε α).map f = .ok (f a) := rfl

@[simp] theorem map_error (f : α → β) (e : ε) :
    (Except.error e : Except ε α).map f = .error e := rfl

@[simp] theorem mapError_ok {ε' : Type w} (f : ε → ε') (a : α) :
    (Except.ok a : Except ε α).mapError f = .ok a := rfl

@[simp] theorem mapError_error {ε' : Type w} (f : ε → ε') (e : ε) :
    (Except.error e : Except ε α).mapError f = .error (f e) := rfl

/-- What a step gives is told by the value that it leaves without its error. -/
theorem eq_ok_of_toOption {x : Except ε α} {a : α} (h : x.toOption = some a) : x = .ok a := by
  cases x with
  | error e => cases h
  | ok b => exact congrArg Except.ok (Option.some.inj h)

/-- Two steps give a value exactly if the first one gives one from which the second goes on. -/
theorem bind_eq_ok_iff {x : Except ε α} {f : α → Except ε β} {b : β} :
    x >>= f = .ok b ↔ ∃ a, x = .ok a ∧ f a = .ok b := by
  cases x <;> simp

/-- Two steps fail exactly if the first one does or the second one does after it. -/
theorem bind_eq_error_iff {x : Except ε α} {f : α → Except ε β} {e : ε} :
    x >>= f = .error e ↔ x = .error e ∨ ∃ a, x = .ok a ∧ f a = .error e := by
  cases x <;> simp

/-- A function of a step's value is a value exactly if the step gives one. -/
theorem map_eq_ok_iff {x : Except ε α} {f : α → β} {b : β} :
    x.map f = .ok b ↔ ∃ a, x = .ok a ∧ f a = b := by
  cases x <;> simp

/-- A function of a step's value fails exactly if the step does. -/
theorem map_eq_error_iff {x : Except ε α} {f : α → β} {e : ε} :
    x.map f = .error e ↔ x = .error e := by
  cases x <;> simp

/-- A step whose errors are reworded gives the same values. -/
theorem mapError_eq_ok_iff {ε' : Type w} {x : Except ε α} {f : ε → ε'} {a : α} :
    x.mapError f = .ok a ↔ x = .ok a := by
  cases x <;> simp

/-- It fails with the reworded errors. -/
theorem mapError_eq_error_iff {ε' : Type w} {x : Except ε α} {f : ε → ε'} {e : ε'} :
    x.mapError f = .error e ↔ ∃ cause, x = .error cause ∧ f cause = e := by
  cases x <;> simp

/-- A step gives values for all elements exactly if it gives one for each. -/
theorem mapM_eq_ok_iff {f : α → Except ε β} {xs : List α} {ys : List β} :
    xs.mapM f = .ok ys ↔ List.Forall₂ (fun x y => f x = .ok y) xs ys := by
  induction xs generalizing ys with
  | nil => simp [eq_comm]
  | cons x xs ih =>
    rw [List.mapM_cons, List.forall₂_cons_left_iff, bind_eq_ok_iff]
    constructor
    · rintro ⟨y, hy, h⟩
      obtain ⟨others, hothers, hpure⟩ := bind_eq_ok_iff.mp h
      obtain rfl : y :: others = ys := Except.ok.inj hpure
      exact ⟨y, others, hy, ih.mp hothers, rfl⟩
    · rintro ⟨y, others, hy, hothers, rfl⟩
      exact ⟨y, hy, by rw [ih.mpr hothers]; rfl⟩

/-- A way to gather results one by one gives all values exactly if each result is one. -/
theorem gather_eq_ok_iff {gather : List (Except ε α) → Except ε (List α)} (hnil : gather [] = .ok [])
    (hcons : ∀ x xs ys, gather (x :: xs) = .ok ys ↔
      ∃ y others, x = .ok y ∧ gather xs = .ok others ∧ y :: others = ys)
    {xs : List (Except ε α)} {ys : List α} :
    gather xs = .ok ys ↔ List.Forall₂ (fun x y => x = .ok y) xs ys := by
  induction xs generalizing ys with
  | nil => simp [hnil, eq_comm]
  | cons x xs ih =>
    rw [hcons, List.forall₂_cons_left_iff]
    constructor
    · rintro ⟨y, others, hy, hothers, rfl⟩
      exact ⟨y, others, hy, ih.mp hothers, rfl⟩
    · rintro ⟨y, others, hy, hothers, rfl⟩
      exact ⟨y, others, hy, ih.mpr hothers, rfl⟩

/-- An element of the second of two lists that go together has its fellow in the first. -/
theorem exists_of_forall₂_of_mem {R : α → β → Prop} {xs : List α} {ys : List β}
    (h : List.Forall₂ R xs ys) {y : β} (hy : y ∈ ys) : ∃ x ∈ xs, R x y := by
  induction h with
  | nil => simp at hy
  | cons hx _ ih =>
    rcases List.mem_cons.mp hy with rfl | hrest
    · exact ⟨_, List.mem_cons_self .., hx⟩
    · obtain ⟨x, hmem, hvalue⟩ := ih hrest
      exact ⟨x, List.mem_cons_of_mem _ hmem, hvalue⟩

/-- A step fails for elements in order exactly if it gives values up to the one where it fails. -/
theorem mapM_eq_error_iff {f : α → Except ε β} {xs : List α} {e : ε} :
    xs.mapM f = .error e ↔ ∃ before x after, xs = before ++ x :: after ∧
      (∀ b ∈ before, ∃ y, f b = .ok y) ∧ f x = .error e := by
  induction xs with
  | nil => simp
  | cons x xs ih =>
    -- the first failure is either at the head or at the first failure of the tail
    have hcons : (x :: xs).mapM f = .error e ↔
        f x = .error e ∨ ∃ y, f x = .ok y ∧ xs.mapM f = .error e := by
      rw [List.mapM_cons, bind_eq_error_iff]
      simp [bind_eq_error_iff]
    rw [hcons, ih]
    constructor
    · rintro (hx | ⟨y, hy, before, z, after, rfl, hbefore, hz⟩)
      · exact ⟨[], x, xs, rfl, by simp, hx⟩
      · exact ⟨x :: before, z, after, rfl, List.forall_mem_cons.mpr ⟨⟨y, hy⟩, hbefore⟩, hz⟩
    · rintro ⟨- | ⟨b, before⟩, z, after, heq, hbefore, hz⟩
      · obtain ⟨rfl, -⟩ : x = z ∧ xs = after := by simpa using heq
        exact .inl hz
      · obtain ⟨rfl, rfl⟩ : x = b ∧ xs = before ++ z :: after := by simpa using heq
        obtain ⟨⟨y, hy⟩, hothers⟩ := List.forall_mem_cons.mp hbefore
        exact .inr ⟨y, hy, before, z, after, rfl, hothers, hz⟩

/-- A step gives values for all elements if and only if it gives some value for each. -/
theorem exists_mapM_eq_ok_iff {f : α → Except ε β} {xs : List α} :
    (∃ ys, xs.mapM f = .ok ys) ↔ ∀ x ∈ xs, ∃ y, f x = .ok y := by
  induction xs with
  | nil => simp
  | cons x xs ih =>
    rw [List.forall_mem_cons, ← ih, List.mapM_cons]
    constructor
    · rintro ⟨ys, hys⟩
      obtain ⟨y, hy, hrest⟩ := bind_eq_ok_iff.mp hys
      obtain ⟨others, hothers, -⟩ := bind_eq_ok_iff.mp hrest
      exact ⟨⟨y, hy⟩, others, hothers⟩
    · rintro ⟨⟨y, hy⟩, others, hothers⟩
      exact ⟨y :: others, by rw [hy, hothers]; rfl⟩

/-- A function of each value is one of all values together. -/
theorem mapM_map_eq {γ : Type v} (f : α → Except ε β) (g : β → γ) (xs : List α) :
    (xs.mapM fun x => (f x).map g) = (xs.mapM f).map (List.map g) := by
  induction xs with
  | nil => rfl
  | cons x xs ih =>
    rw [List.mapM_cons, List.mapM_cons, ih]
    cases f x with
    | error e => rfl
    | ok y => cases xs.mapM f <;> rfl

/-- A check of the first element and of the others. -/
theorem forM_cons_eq {f : α → Except ε Unit} {x : α} {xs : List α} :
    (x :: xs).forM f = (f x >>= fun _ => xs.forM f) := rfl

/-- A check passes for all elements exactly if it passes for each. -/
theorem forM_eq_ok_iff {f : α → Except ε Unit} {xs : List α} :
    xs.forM f = .ok () ↔ ∀ x ∈ xs, f x = .ok () := by
  induction xs with
  | nil => simp [List.forM]
  | cons x xs ih =>
    rw [forM_cons_eq, bind_eq_ok_iff, ih, List.forall_mem_cons]
    constructor
    · rintro ⟨⟨⟩, hx, hxs⟩
      exact ⟨hx, hxs⟩
    · rintro ⟨hx, hxs⟩
      exact ⟨⟨⟩, hx, hxs⟩

/-- A check that fails for the elements of a list fails for one of them. -/
theorem exists_eq_error_of_forM {f : α → Except ε Unit} {xs : List α} {e : ε}
    (h : xs.forM f = .error e) : ∃ x ∈ xs, f x = .error e := by
  induction xs with
  | nil => simp [List.forM] at h
  | cons x xs ih =>
    rw [forM_cons_eq] at h
    rcases bind_eq_error_iff.mp h with hx | ⟨_, -, hxs⟩
    · exact ⟨x, List.mem_cons_self .., hx⟩
    · obtain ⟨y, hy, he⟩ := ih hxs
      exact ⟨y, List.mem_cons_of_mem x hy, he⟩

end PathTemplates
