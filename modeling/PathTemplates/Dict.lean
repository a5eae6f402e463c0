import PathTemplates.Bindings

/-! # Dictionaries

Keys with an item each, in the order in which the keys were first given. No two keys are the same name:
the type holds the proof of it, so nothing that takes a dictionary has to ask for it. Setting a name that
is there replaces its item and leaves its place.

A dictionary is given by its keys and a function from their places to the items, so that a type of values
can have dictionaries of its own values as a case. -/

namespace PathTemplates

/-- What a dictionary may have as keys. -/
class Key (κ : Type) where
  /-- The name that a key is, if it is one. -/
  name? : κ → Option String

/-- A text is a name. -/
instance : Key String := ⟨some⟩

/-- Keys with their items, where no name is a key twice. -/
structure Dict (κ : Type) [Key κ] (α : Type) where
  /-- The keys in order. -/
  keys : List κ
  /-- No name is a key twice. -/
  distinct : (keys.filterMap Key.name?).Nodup
  /-- The item of the key at a place. -/
  item : Fin keys.length → α

namespace Dict

variable {κ α β : Type} [Key κ]

/-- The keys with their items. -/
def entries (d : Dict κ α) : List (κ × α) := List.ofFn fun i => (d.keys[i], d.item i)

/-- The dictionary of given entries. -/
def ofEntries (entries : List (κ × α)) (h : (entries.filterMap (Key.name? ·.1)).Nodup) : Dict κ α where
  keys := entries.map (·.1)
  distinct := by rwa [List.filterMap_map]
  item i := (entries.get (i.cast (List.length_map ..))).2

/-- A dictionary is made of the entries that were given. -/
@[simp] theorem entries_ofEntries {entries : List (κ × α)}
    (h : (entries.filterMap (Key.name? ·.1)).Nodup) : (ofEntries entries h).entries = entries := by
  refine List.ext_getElem ?_ fun i _ _ => ?_
  · simp [Dict.entries, ofEntries]
  · simp [Dict.entries, ofEntries]

/-- The entries have the keys in order. -/
@[simp] theorem map_fst_entries (d : Dict κ α) : d.entries.map (·.1) = d.keys := by
  simp [entries, List.map_ofFn, Function.comp_def]

/-- No two entries have the same name. -/
theorem distinct_entries (d : Dict κ α) : (d.entries.filterMap (Key.name? ·.1)).Nodup := by
  have hnames : d.entries.filterMap (Key.name? ·.1) = d.keys.filterMap Key.name? := by
    rw [← map_fst_entries, List.filterMap_map]
    rfl
  rw [hnames]
  exact d.distinct

/-- The dictionary without keys. -/
def empty : Dict κ α := ofEntries [] .nil

/-- The dictionary with another item under each key. -/
def map (f : α → β) (d : Dict κ α) : Dict κ β := ⟨d.keys, d.distinct, fun i => f (d.item i)⟩

/-- Whether a key is the name of one of the keys. -/
def has (d : Dict κ α) (key : κ) : Bool :=
  d.keys.any fun other => (Key.name? other).isSome && Key.name? other == Key.name? key

/-- A key that is not there may come after the others. -/
theorem distinct_append {d : Dict κ α} {key : κ} (h : ¬ d.has key) (a : α) :
    ((d.entries ++ [(key, a)]).filterMap (Key.name? ·.1)).Nodup := by
  rw [List.filterMap_append, List.nodup_append]
  refine ⟨d.distinct_entries, ?_, ?_⟩
  · cases hkey : Key.name? key <;> simp [hkey]
  · intro name hname other hother heq
    obtain ⟨entry, hentry, hfirst⟩ := List.mem_filterMap.mp hname
    have hkey : Key.name? key = some other := by simpa using hother
    refine h (List.any_eq_true.mpr ⟨entry.1, ?_, by simp [hfirst, hkey, heq]⟩)
    rw [← map_fst_entries]
    exact List.mem_map_of_mem hentry

/-- The dictionary with an item under a key. -/
def set (d : Dict κ α) (key : κ) (a : α) : Dict κ α :=
  if h : d.has key then
    ⟨d.keys, d.distinct, fun i => if Key.name? d.keys[i] == Key.name? key then a else d.item i⟩
  else ofEntries (d.entries ++ [(key, a)]) (distinct_append h a)

/-- The dictionary with items under several keys, one after another. -/
def setAll (d : Dict κ α) (entries : List (κ × α)) : Dict κ α :=
  entries.foldl (fun d entry => d.set entry.1 entry.2) d

/-- The dictionary of entries of which a later one replaces an earlier one of its name. -/
def ofList (entries : List (κ × α)) : Dict κ α := setAll empty entries

/-- What is found under a name. -/
def get? (d : Dict String α) (name : String) : Option α := Bindings.get? d.entries name

end Dict

end PathTemplates
