import PathTemplates.Dict
import PathTemplates.Proofs.Bindings

/-! # Dictionaries as bindings

A dictionary is told by its entries (`Dict.eq_of_entries_eq`), and of these no two have the same name. So
what holds of bindings that bind each name once holds of the entries of every dictionary of names, without
any condition: setting, looking up and comparing are those of bindings (`Dict.entries_set`). -/

namespace PathTemplates.Dict

section

variable {κ α β : Type} [Key κ] {d e : Dict κ α}

/-- A dictionary is told by its entries. -/
theorem eq_of_entries_eq (h : d.entries = e.entries) : d = e := by
  have hkeys : d.keys = e.keys := by rw [← map_fst_entries d, h, map_fst_entries]
  obtain ⟨keys, distinct, item⟩ := d
  obtain ⟨keys', distinct', item'⟩ := e
  obtain rfl : keys = keys' := hkeys
  have hitem : item = item' := by
    funext i
    have hplace := congrArg (·[i.val]?) h
    simpa [entries] using hplace
  rw [hitem]

@[simp] theorem entries_empty : (empty : Dict κ α).entries = [] := entries_ofEntries _

/-- Another item under each key changes each entry by itself. -/
@[simp] theorem entries_map (f : α → β) (d : Dict κ α) :
    (d.map f).entries = d.entries.map fun entry => (entry.1, f entry.2) := by
  simp [entries, map, List.map_ofFn, Function.comp_def]

/-- There are as many entries as keys. -/
@[simp] theorem length_entries (d : Dict κ α) : d.entries.length = d.keys.length := by
  simp [entries]

end

variable {α : Type} {d e : Dict String α} {name : String} {a : α}

/-- The names of the entries are the keys. -/
@[simp] theorem names_entries (d : Dict String α) : Bindings.names d.entries = d.keys :=
  d.map_fst_entries

/-- No name is bound twice. -/
theorem nodup_names_entries (d : Dict String α) : (Bindings.names d.entries).Nodup := by
  have hnames : d.entries.filterMap (Key.name? ·.1) = Bindings.names d.entries :=
    congrFun (List.filterMap_eq_map (f := Prod.fst)) d.entries
  exact hnames ▸ d.distinct_entries

/-- The test for names. -/
theorem has_eq (d : Dict String α) (name : String) : d.has name = Bindings.has d.entries name := by
  rw [has, ← map_fst_entries, List.any_map, Bindings.has]
  simp [Function.comp_def, Key.name?]

/-- Setting a name binds it. -/
@[simp] theorem entries_set (d : Dict String α) (name : String) (a : α) :
    (d.set name a).entries = Bindings.set d.entries name a := by
  rw [set, Bindings.set, ← has_eq]
  split
  · refine List.ext_getElem (by simp) fun i hi hi' => ?_
    have hplace : i < d.keys.length := by simpa [entries] using hi'
    simp only [entries, List.getElem_ofFn, List.getElem_map]
    -- the item is replaced at the place of the name, and no other is
    by_cases hname : d.keys[i] = name
    · simp [Key.name?, hname]
    · simp [Key.name?, hname]
  · exact entries_ofEntries _

/-- Setting several names binds them one after another. -/
@[simp] theorem entries_setAll (d : Dict String α) (entries : List (String × α)) :
    (d.setAll entries).entries = Bindings.setAll d.entries entries := by
  induction entries generalizing d with
  | nil => rfl
  | cons entry rest ih =>
    have hset := ih (d.set entry.1 entry.2)
    rwa [entries_set] at hset

/-- A list of entries is bound from the start. -/
@[simp] theorem entries_ofList (entries : List (String × α)) :
    (ofList entries).entries = Bindings.ofList entries := by
  rw [ofList, entries_setAll, entries_empty]
  rfl

/-- A list in which no name stands twice makes the entries as they are. -/
theorem entries_ofList_of_nodup {entries : List (String × α)} (h : (Bindings.names entries).Nodup) :
    (ofList entries).entries = entries := by
  rw [entries_ofList, Bindings.ofList_of_nodup h]

/-- The entries of a dictionary make it again. -/
@[simp] theorem ofList_entries (d : Dict String α) : ofList d.entries = d :=
  eq_of_entries_eq (entries_ofList_of_nodup d.nodup_names_entries)

/-- A new name comes last. -/
theorem entries_set_of_notMem (h : name ∉ d.keys) (a : α) :
    (d.set name a).entries = d.entries ++ [(name, a)] := by
  rw [entries_set, Bindings.set_of_notMem (by rwa [names_entries])]

/-- What is found after a name has been set. -/
theorem get?_set (other : String) :
    (d.set name a).get? other = if other = name then some a else d.get? other := by
  rw [get?, entries_set, Bindings.get?_set]
  rfl

/-- What is found in a dictionary of a list is what is found in its bindings. -/
theorem get?_ofList (entries : List (String × α)) :
    (ofList entries).get? name = (Bindings.ofList entries).get? name := by
  rw [get?, entries_ofList]

/-- What is found under a name stands in its entry. -/
theorem mem_entries_iff : (name, a) ∈ d.entries ↔ d.get? name = some a :=
  Bindings.mem_iff_get?_eq_some d.nodup_names_entries

/-- Dictionaries in which the same is found under every name differ in their order at most. -/
theorem perm_of_get?_eq (h : ∀ name, d.get? name = e.get? name) : d.entries.Perm e.entries :=
  Bindings.perm_of_get?_eq d.nodup_names_entries e.nodup_names_entries h

/-- Two names can be set in either order. -/
theorem get?_set_comm {other : String} {b : α} (h : name ≠ other) (n : String) :
    ((d.set name a).set other b).get? n = ((d.set other b).set name a).get? n := by
  simp only [get?, entries_set]
  exact Bindings.get?_set_comm h n

end PathTemplates.Dict
