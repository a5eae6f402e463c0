import Mathlib.Data.List.Nodup
import Mathlib.Data.String.Basic
import PathTemplates.Bindings

/-! # Names and what they are bound to

Which names are bound after an operation on bindings, and to what. Bindings that bind each name once
are told by what is found under the names, up to their order (`perm_of_get?_eq`). -/

namespace PathTemplates.Bindings

variable {α : Type} {b : Bindings α} {name : String} {value : α}

/-- A name is bound if it is bound to something. -/
theorem mem_names_iff : name ∈ b.names ↔ ∃ value, (name, value) ∈ b := by
  simp [names]

/-- The test for bound names. -/
theorem has_iff : b.has name ↔ name ∈ b.names := by
  simp [has, mem_names_iff]

/-- What is found for a name is bound to it. -/
theorem mem_of_get?_eq_some (h : b.get? name = some value) : (name, value) ∈ b := by
  obtain ⟨⟨key, v⟩, hfind, rfl⟩ := Option.map_eq_some_iff.mp h
  have hkey := List.find?_some hfind
  rw [beq_iff_eq] at hkey
  exact hkey ▸ List.mem_of_find?_eq_some hfind

/-- Nothing is found for a name exactly if it is not bound. -/
theorem get?_eq_none_iff : b.get? name = none ↔ name ∉ b.names := by
  rw [get?, Option.map_eq_none_iff, List.find?_eq_none, mem_names_iff]
  constructor
  · rintro h ⟨value, hmem⟩
    exact h _ hmem (beq_self_eq_true name)
  · rintro h ⟨key, value⟩ hmem hkey
    exact h ⟨value, eq_of_beq hkey ▸ hmem⟩

/-- A name is found in the first bindings that have it. -/
theorem get?_append (more : Bindings α) :
    get? (b ++ more) name = (b.get? name).or (more.get? name) := by
  rw [get?, List.find?_append, Option.map_or]
  rfl

/-- What is found after all that is bound has been changed. -/
theorem get?_map {β : Type} (f : α → β) :
    get? (b.map fun entry => (entry.1, f entry.2)) name = (b.get? name).map f := by
  rw [get?, get?, List.find?_map, Option.map_map, Option.map_map]
  rfl

/-- A name that is set is found bound to the new value, and every other name as before. -/
theorem get?_set (other : String) :
    (b.set name value).get? other = if other = name then some value else b.get? other := by
  -- replacing an entry keeps its name, so the entry that is found stands where it stood
  have hreplace (entry : String × α) :
      ((if entry.1 == name then (name, value) else entry).1 == other) = (entry.1 == other) := by
    by_cases hentry : entry.1 = name <;> simp [hentry]
  rw [set]
  by_cases hbound : b.has name
  · rw [if_pos hbound, get?, get?, List.find?_map, Option.map_map]
    simp only [Function.comp_def, hreplace]
    cases hfind : b.find? (·.1 == other) with
    | none =>
      have hfree : other ∉ b.names := get?_eq_none_iff.mp (by rw [get?, hfind]; rfl)
      have hne : other ≠ name := fun heq => hfree (heq ▸ has_iff.mp hbound)
      simp [hne]
    | some entry =>
      have hkey : entry.1 = other := by simpa using List.find?_some hfind
      by_cases heq : other = name <;> simp [hkey, heq]
  · have hfree : b.get? name = none := get?_eq_none_iff.mpr (mt has_iff.mpr hbound)
    rw [if_neg hbound, get?, List.find?_append]
    by_cases heq : other = name
    · subst heq
      rw [Option.map_eq_none_iff.mp hfree]
      simp
    · have hname : (name == other) = false := by simpa using Ne.symm heq
      rw [if_neg heq, get?]
      simp [hname]

/-- A name that is removed leaves the others in order. -/
theorem names_erase : (b.erase name).names = b.names.filter (· != name) := by
  rw [erase, names, names, List.filter_map]
  rfl

/-- A new name comes last, and one that is bound keeps its place. -/
theorem names_set :
    (b.set name value).names = if name ∈ b.names then b.names else b.names ++ [name] := by
  rw [set]
  by_cases h : b.has name
  · -- only what the name is bound to is replaced
    rw [if_pos h, if_pos (has_iff.mp h), names, names, List.map_map]
    refine List.map_congr_left fun entry _ => ?_
    by_cases hentry : entry.1 = name <;> simp [hentry]
  · rw [if_neg h, if_neg (mt has_iff.mpr h)]
    simp [names]

/-- A name that is moved comes after all others. -/
theorem names_moveLast (h : name ∈ b.names) :
    (b.moveLast name).names = b.names.filter (· != name) ++ [name] := by
  cases hget : b.get? name with
  | none => exact absurd h (get?_eq_none_iff.mp hget)
  | some value =>
    rw [moveLast, hget, ← names_erase]
    simp [names]

/-- Binding a name changes nothing else. -/
theorem eq_or_mem_of_mem_set {entry : String × α} (h : entry ∈ b.set name value) :
    entry = (name, value) ∨ entry ∈ b := by
  rw [set] at h
  split at h
  · obtain ⟨old, hold, rfl⟩ := List.mem_map.mp h
    by_cases hname : old.1 = name
    · simp [hname]
    · simp [hname, hold]
  · simpa [or_comm] using h

/-- What is bound after binding several names was given or was bound before. -/
theorem mem_or_mem_of_mem_setAll {entries : List (String × α)} {entry : String × α}
    (h : entry ∈ b.setAll entries) : entry ∈ entries ∨ entry ∈ b := by
  induction entries generalizing b with
  | nil => exact .inr h
  | cons first rest ih =>
    rcases ih h with hrest | hset
    · exact .inl (List.mem_cons_of_mem first hrest)
    · rcases eq_or_mem_of_mem_set hset with rfl | hold
      · exact .inl (List.mem_cons_self ..)
      · exact .inr hold

/-- Moving a name changes nothing but the order. -/
theorem mem_of_mem_moveLast {entry : String × α} (h : entry ∈ b.moveLast name) : entry ∈ b := by
  rw [moveLast] at h
  cases hget : b.get? name with
  | none => rwa [hget] at h
  | some value =>
    rw [hget, List.mem_append, List.mem_singleton] at h
    rcases h with h | rfl
    · exact (List.mem_filter.mp h).1
    · exact mem_of_get?_eq_some hget

/-! ## Names bound once -/

/-- A new name comes last. -/
theorem set_of_notMem (h : name ∉ b.names) : b.set name value = b ++ [(name, value)] := by
  rw [set, if_neg (mt has_iff.mp h)]

/-- Binding a name does not bind it twice. -/
theorem nodup_names_set (h : b.names.Nodup) : (b.set name value).names.Nodup := by
  rw [names_set]
  split
  · exact h
  · rename_i hname
    exact List.nodup_append_comm.mp (List.nodup_cons.mpr ⟨hname, h⟩)

/-- A name that is bound before other new ones comes last, and the others are still new. -/
theorem set_of_nodup {more : List String} (h : (b.names ++ name :: more).Nodup) (value : α) :
    b.set name value = b ++ [(name, value)] ∧ (names (b ++ [(name, value)]) ++ more).Nodup := by
  have hnew : name ∉ b.names := fun hmem =>
    (List.nodup_append.mp h).2.2 name hmem name (List.mem_cons_self ..) rfl
  exact ⟨set_of_notMem hnew, by simpa [names] using h⟩

/-- Names that are new and different are bound in their order after the others. -/
theorem setAll_of_nodup {entries : List (String × α)} (h : (b.names ++ names entries).Nodup) :
    b.setAll entries = b ++ entries := by
  induction entries generalizing b with
  | nil => exact (List.append_nil b).symm
  | cons entry rest ih =>
    obtain ⟨name, value⟩ := entry
    obtain ⟨hset, hrest⟩ := set_of_nodup h value
    have hall : b.setAll ((name, value) :: rest) = setAll (b.set name value) rest := rfl
    rw [hall, hset, ih hrest, List.append_assoc]
    rfl

/-- A list in which no name stands twice is bound as it is. -/
theorem ofList_of_nodup {entries : List (String × α)} (h : (names entries).Nodup) :
    ofList entries = entries := setAll_of_nodup (b := []) h

/-- A name that is bound once is found bound to what stands with it. -/
theorem mem_iff_get?_eq_some (h : b.names.Nodup) : (name, value) ∈ b ↔ b.get? name = some value := by
  refine ⟨fun hmem => ?_, mem_of_get?_eq_some⟩
  obtain ⟨found, hfound⟩ : ∃ found, b.get? name = some found := by
    rw [← Option.ne_none_iff_exists']
    exact fun hnone => get?_eq_none_iff.mp hnone (mem_names_iff.mpr ⟨value, hmem⟩)
  -- two entries of one name are one entry, since their names are different elements of the list
  have heq : (name, found) = (name, value) :=
    List.inj_on_of_nodup_map h (mem_of_get?_eq_some hfound) hmem rfl
  rw [hfound, (Prod.mk.inj heq).2]

/-- Bindings in which the same is found under every name differ in their order at most. -/
theorem perm_of_get?_eq {b' : Bindings α} (h : b.names.Nodup) (h' : b'.names.Nodup)
    (hget : ∀ name, b.get? name = b'.get? name) : b.Perm b' := by
  rw [List.perm_ext_iff_of_nodup (List.Nodup.of_map _ h) (List.Nodup.of_map _ h')]
  rintro ⟨name, value⟩
  rw [mem_iff_get?_eq_some h, mem_iff_get?_eq_some h', hget]

/-- Bindings that bind each name once ascend strictly once they are sorted by name. -/
theorem pairwise_mergeSort (h : b.names.Nodup) :
    (b.mergeSort fun x y => decide (x.1 ≤ y.1)).Pairwise fun x y => x.1 < y.1 := by
  have htrans (x y z : String × α) (hxy : decide (x.1 ≤ y.1)) (hyz : decide (y.1 ≤ z.1)) :
      decide (x.1 ≤ z.1) :=
    decide_eq_true ((of_decide_eq_true hxy).trans (of_decide_eq_true hyz))
  have htotal (x y : String × α) : decide (x.1 ≤ y.1) || decide (y.1 ≤ x.1) := by
    simpa using le_total x.1 y.1
  have hle := List.pairwise_mergeSort htrans htotal b
  have hperm := List.mergeSort_perm b fun x y => decide (x.1 ≤ y.1)
  have hne : (b.mergeSort fun x y => decide (x.1 ≤ y.1)).Pairwise fun x y => x.1 ≠ y.1 :=
    List.pairwise_map.mp ((hperm.map Prod.fst).nodup_iff.mpr h)
  refine (hle.and hne).imp ?_
  intro x y hxy
  exact lt_of_le_of_ne (of_decide_eq_true hxy.1) hxy.2

/-- So the order in which names were bound does not matter once they are sorted. -/
theorem mergeSort_eq_iff_perm {b' : Bindings α} (h : b.names.Nodup) (h' : b'.names.Nodup) :
    (b.mergeSort fun x y => decide (x.1 ≤ y.1)) = b'.mergeSort (fun x y => decide (x.1 ≤ y.1)) ↔
      b.Perm b' := by
  have hperm := List.mergeSort_perm b fun x y => decide (x.1 ≤ y.1)
  have hperm' := List.mergeSort_perm b' fun x y => decide (x.1 ≤ y.1)
  constructor
  · intro heq
    exact hperm.symm.trans (heq ▸ hperm')
  · intro hbb'
    have hlt : ∀ x y : String × α, x.1 < y.1 → y.1 < x.1 → x = y :=
      fun x y hxy hyx => absurd (hxy.trans hyx) (lt_irrefl _)
    exact ((hperm.trans hbb').trans hperm'.symm).eq_of_pairwise (fun x y _ _ => hlt x y)
      (pairwise_mergeSort h) (pairwise_mergeSort h')

/-- Two names can be bound in either order. -/
theorem get?_set_comm {other : String} {value' : α} (h : name ≠ other) (n : String) :
    ((b.set name value).set other value').get? n = ((b.set other value').set name value).get? n := by
  simp only [get?_set]
  by_cases hname : n = name
  · simp [hname, h]
  · simp [hname]

end PathTemplates.Bindings
