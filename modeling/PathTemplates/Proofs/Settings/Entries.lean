import Mathlib.Data.List.Induction
import PathTemplates.Settings.Source

/-! # Entries laid over one another

What is found under a name in entries that are laid over others: the two values over one another
(`Entries.get?_overlay`), if no name stands twice in the upper ones. Data without repeated names
(`Data.Regular`) stays so when it is laid over other such data (`Data.regular_overlayAll`). -/

namespace PathTemplates

variable {d : Data} {es base upper : Entries} {key value : Data} {name : String}

/-! ## Names -/

namespace Data

/-- The text of a text. -/
def name? : Data → Option String
  | text s => some s
  | _ => none

theorem name?_eq_some_iff : d.name? = some name ↔ d = .text name := by
  cases d <;> simp [name?]

/-- A text is the same key as itself only. -/
theorem sameKey_text_iff : d.sameKey (.text name) ↔ d = .text name := by
  cases d <;> simp [sameKey, number?]

/-- A text is the same key as itself only, whichever is asked. -/
theorem text_sameKey_iff : (text name).sameKey d ↔ d = .text name := by
  cases d with
  | text s =>
    simp only [sameKey, beq_iff_eq, text.injEq]
    exact eq_comm
  | _ => simp [sameKey, number?]

/-- Anything but a text is another key. -/
theorem sameKey_text_eq_false (h : d ≠ .text name) : d.sameKey (.text name) = false := by
  rw [Bool.eq_false_iff]
  exact mt sameKey_text_iff.mp h

/-- Anything but a text is another key, whichever is asked. -/
theorem text_sameKey_eq_false (h : d ≠ .text name) : (text name).sameKey d = false := by
  rw [Bool.eq_false_iff]
  exact mt text_sameKey_iff.mp h

/-- Data with entries of its own. -/
def IsGroup (d : Data) : Prop := ∃ es, d = .mapping es

@[simp] theorem isGroup_mapping : (mapping es).IsGroup := ⟨es, rfl⟩

end Data

namespace Entries

/-- The names of entries. -/
def names (es : Entries) : List String := es.filterMap (·.1.name?)

theorem mem_names_iff : name ∈ es.names ↔ ∃ value, (.text name, value) ∈ es := by
  simp only [names, List.mem_filterMap, Data.name?_eq_some_iff]
  constructor
  · rintro ⟨⟨key, value⟩, hmem, rfl⟩
    exact ⟨value, hmem⟩
  · rintro ⟨value, hmem⟩
    exact ⟨_, hmem, rfl⟩

@[simp] theorem get?_nil : get? [] name = none := rfl

/-- The first entry is found under its name. -/
@[simp] theorem get?_cons_text : get? ((.text name, value) :: es) name = some value := by
  simp [get?, Data.sameKey]

/-- The first entry is not found under another name. -/
theorem get?_cons_of_ne (h : key ≠ .text name) : get? ((key, value) :: es) name = es.get? name := by
  simp [get?, Data.sameKey_text_eq_false h]

/-- Nothing is found under a name exactly if no entry has it. -/
theorem get?_eq_none_iff : es.get? name = none ↔ name ∉ es.names := by
  rw [get?, Option.map_eq_none_iff, List.find?_eq_none, mem_names_iff]
  constructor
  · rintro h ⟨value, hmem⟩
    exact h _ hmem (Data.sameKey_text_iff.mpr rfl)
  · rintro h ⟨key, value⟩ hmem hkey
    exact h ⟨value, Data.sameKey_text_iff.mp hkey ▸ hmem⟩

/-- What is found under a name is in an entry. -/
theorem mem_of_get?_eq_some (h : es.get? name = some value) : (.text name, value) ∈ es := by
  obtain ⟨⟨key, v⟩, hfind, rfl⟩ := Option.map_eq_some_iff.mp h
  have hsame := List.find?_some hfind
  rw [← Data.sameKey_text_iff.mp hsame]
  exact List.mem_of_find?_eq_some hfind

/-- The value under a name is changed where it stands. -/
theorem get?_map (f : Data → Data → Data) :
    get? (es.map fun (k, v) => (k, f k v)) name = (es.get? name).map (f (.text name)) := by
  induction es with
  | nil => rfl
  | cons entry rest ih =>
    obtain ⟨key, value⟩ := entry
    by_cases hkey : key = .text name
    · subst hkey
      simp
    · simpa [get?_cons_of_ne hkey] using ih

/-- In two lists of entries, the first one that has a name decides. -/
theorem get?_append {more : Entries} :
    get? (es ++ more) name = (es.get? name).or (more.get? name) := by
  rw [get?, List.find?_append, Option.map_or]
  rfl

/-! ## Entries that are put -/

/-- A name is used if it is the key of an entry. -/
theorem any_sameKey_text_iff : (es.any (·.1.sameKey (.text name))) ↔ name ∈ es.names := by
  simp [mem_names_iff, Data.sameKey_text_iff]

/-- Putting an entry replaces the values of its key. -/
theorem putEntry_of_any (h : es.any (·.1.sameKey key)) :
    Data.putEntry es key value = es.map fun (k, v) => (k, if k.sameKey key then value else v) := by
  rw [Data.putEntry, if_pos h]
  refine List.map_congr_left fun entry _ => ?_
  simp only
  split <;> rfl

/-- An entry with a new key comes last. -/
theorem putEntry_of_not_any (h : ¬ es.any (·.1.sameKey key)) :
    Data.putEntry es key value = es ++ [(key, value)] := by
  rw [Data.putEntry, if_neg h]

/-- What is put under a name is found there. -/
theorem get?_putEntry_text : get? (Data.putEntry es (.text name) value) name = some value := by
  by_cases h : es.any (·.1.sameKey (.text name))
  · have hfound : es.get? name ≠ none :=
      fun hnone => get?_eq_none_iff.mp hnone (any_sameKey_text_iff.mp h)
    obtain ⟨old, hold⟩ := Option.ne_none_iff_exists'.mp hfound
    rw [putEntry_of_any h, get?_map fun k v => if k.sameKey (.text name) then value else v, hold]
    simp [Data.sameKey]
  · have hnone : es.get? name = none := get?_eq_none_iff.mpr (mt any_sameKey_text_iff.mpr h)
    rw [putEntry_of_not_any h, get?_append, hnone]
    simp

/-- What is put under another key leaves a name as it is. -/
theorem get?_putEntry_of_ne (h : key ≠ .text name) :
    get? (Data.putEntry es key value) name = es.get? name := by
  by_cases hany : es.any (·.1.sameKey key)
  · rw [putEntry_of_any hany, get?_map fun k v => if k.sameKey key then value else v]
    simp [Data.text_sameKey_eq_false h]
  · rw [putEntry_of_not_any hany, get?_append, get?_cons_of_ne h]
    simp

/-- A new name comes last, and the others stay. -/
theorem names_putEntry :
    names (Data.putEntry es key value) =
      if es.any (·.1.sameKey key) then es.names else es.names ++ key.name?.toList := by
  by_cases hany : es.any (·.1.sameKey key)
  · rw [if_pos hany, putEntry_of_any hany, names, names, List.filterMap_map]
    rfl
  · rw [if_neg hany, putEntry_of_not_any hany, names, names, List.filterMap_append]
    cases key <;> rfl

/-- Putting an entry changes no other value. -/
theorem eq_or_mem_of_mem_putEntry {entry : Data × Data} (h : entry ∈ Data.putEntry es key value) :
    entry.2 = value ∨ entry ∈ es := by
  by_cases hany : es.any (·.1.sameKey key)
  · rw [putEntry_of_any hany] at h
    obtain ⟨⟨k, v⟩, hmem, rfl⟩ := List.mem_map.mp h
    by_cases hkey : k.sameKey key
    · simp [hkey]
    · simp [hkey, hmem]
  · rw [putEntry_of_not_any hany, List.mem_append, List.mem_singleton] at h
    rcases h with hmem | rfl
    · exact .inr hmem
    · exact .inl rfl

end Entries

/-! ## Regular data -/

/-- Data in which no group has a name twice. What stands in lists does not count. -/
inductive Data.Regular : Data → Prop
  /-- A group of distinct names and regular values. -/
  | group {es : Entries} (hnames : es.names.Nodup) (hvalues : ∀ entry ∈ es, entry.2.Regular) :
      Regular (.mapping es)
  /-- Anything but a group. -/
  | other {d : Data} (h : ¬ d.IsGroup) : Regular d

namespace Data

theorem regular_mapping_iff :
    (mapping es).Regular ↔ es.names.Nodup ∧ ∀ entry ∈ es, entry.2.Regular := by
  constructor
  · rintro (⟨hnames, hvalues⟩ | hother)
    · exact ⟨hnames, hvalues⟩
    · exact absurd isGroup_mapping hother
  · rintro ⟨hnames, hvalues⟩
    exact .group hnames hvalues

theorem regular_empty : (mapping []).Regular := .group List.nodup_nil (by simp)

/-- What is found in regular entries is regular. -/
theorem Regular.get? (h : (mapping es).Regular) (hget : Entries.get? es name = some value) :
    value.Regular :=
  (regular_mapping_iff.mp h).2 _ (Entries.mem_of_get?_eq_some hget)

/-- Regular entries stay so when a regular value is put. -/
theorem Regular.putEntry (h : (mapping es).Regular) (hvalue : value.Regular) :
    (mapping (putEntry es key value)).Regular := by
  obtain ⟨hnames, hvalues⟩ := regular_mapping_iff.mp h
  refine .group ?_ fun entry hentry => ?_
  · rw [Entries.names_putEntry]
    split
    · exact hnames
    · next hany =>
      refine List.nodup_append.mpr ⟨hnames, by cases key <;> simp [name?], ?_⟩
      rintro old hold new hnew rfl
      obtain rfl : key = .text old := name?_eq_some_iff.mp (Option.mem_toList.mp hnew)
      exact hany (Entries.any_sameKey_text_iff.mpr hold)
  · rcases Entries.eq_or_mem_of_mem_putEntry hentry with heq | hmem
    · exact heq ▸ hvalue
    · exact hvalues entry hmem

/-- Entries that are put one after another are regular if their values are. -/
theorem regular_foldl_putEntry {more : Entries} (h : (mapping es).Regular)
    (hmore : ∀ entry ∈ more, entry.2.Regular) :
    (mapping (more.foldl (fun es entry => Data.putEntry es entry.1 entry.2) es)).Regular := by
  refine List.foldlRecOn more _ (motive := fun es => (mapping es).Regular) h ?_
  intro kept hkept entry hentry
  exact hkept.putEntry (hmore entry hentry)

end Data

/-! ## Laying entries over others -/

@[simp] theorem overlay_nil : overlay base [] = base := by rw [overlay]

/-- The first entry is laid over what is under its key, and the others over the result. -/
theorem overlay_cons {rest : Entries} : overlay base ((key, value) :: rest) =
    overlay (Data.putEntry base key
      (overlayValue ((base.find? fun (k, _) => k.sameKey key).map (·.2)) value)) rest := by
  rw [overlay]

/-- Anything but a group hides what is under it. -/
theorem overlayValue_of_not_isGroup {under : Option Data} (h : ¬ d.IsGroup) :
    overlayValue under d = d := by
  cases d with
  | mapping es => exact absurd Data.isGroup_mapping h
  | _ => rw [overlayValue]; simp

/-- A group is joined with a group that is under it. -/
theorem overlayValue_mapping_mapping :
    overlayValue (some (.mapping base)) (.mapping es) = .mapping (overlay base es) := by
  rw [overlayValue]

/-- A group hides anything else that is under it. -/
theorem overlayValue_mapping {under : Option Data} (h : ∀ u ∈ under, ¬ u.IsGroup) :
    overlayValue under (.mapping es) = .mapping es := by
  rw [overlayValue]
  exact fun inner hinner => h _ hinner Data.isGroup_mapping

/-- What comes of a value over another: it hides what is not a group, or two groups are joined. -/
theorem overlayValue_cases (under : Option Data) (d : Data) :
    (¬ d.IsGroup ∧ overlayValue under d = d) ∨
    (d.IsGroup ∧ (∀ u ∈ under, ¬ u.IsGroup) ∧ overlayValue under d = d) ∨
    ∃ base es, under = some (.mapping base) ∧ d = .mapping es ∧
      overlayValue under d = .mapping (overlay base es) := by
  by_cases hd : d.IsGroup
  · obtain ⟨es, rfl⟩ := hd
    by_cases hunder : ∀ u ∈ under, ¬ u.IsGroup
    · exact .inr (.inl ⟨Data.isGroup_mapping, hunder, overlayValue_mapping hunder⟩)
    · push Not at hunder
      obtain ⟨u, rfl, base, rfl⟩ := hunder
      exact .inr (.inr ⟨base, es, rfl, rfl, overlayValue_mapping_mapping⟩)
  · exact .inl ⟨hd, overlayValue_of_not_isGroup hd⟩

/-- A group stays one over anything. -/
theorem isGroup_overlayValue_iff {under : Option Data} : (overlayValue under d).IsGroup ↔ d.IsGroup := by
  rcases overlayValue_cases under d with ⟨-, heq⟩ | ⟨-, -, heq⟩ | ⟨base, es, -, rfl, heq⟩
  · rw [heq]
  · rw [heq]
  · simp [heq]

/-- One value laid over another, either of which may be missing. -/
def overlayOption (under : Option Data) : Option Data → Option Data
  | some d => some (overlayValue under d)
  | none => under

namespace Entries

/-- Under each name, the values are laid over one another. -/
theorem get?_overlay (h : upper.names.Nodup) (base : Entries) (name : String) :
    get? (overlay base upper) name = overlayOption (base.get? name) (upper.get? name) := by
  induction upper generalizing base with
  | nil => simp [overlayOption]
  | cons entry rest ih =>
    obtain ⟨key, value⟩ := entry
    rw [overlay_cons]
    by_cases hkey : key = .text name
    · subst hkey
      have hnames : name ∉ names rest ∧ (names rest).Nodup := by
        simpa [names, Data.name?] using h
      have hrest : get? rest name = none := get?_eq_none_iff.mpr hnames.1
      rw [ih hnames.2, get?_putEntry_text, hrest, get?_cons_text]
      rfl
    · have hnames : (names rest).Nodup := by
        refine List.Nodup.sublist ?_ h
        exact (List.sublist_cons_self _ rest).filterMap _
      rw [ih hnames, get?_putEntry_of_ne hkey, get?_cons_of_ne hkey]

end Entries

/-- Under each name of regular entries, the values are laid over one another. -/
theorem Data.Regular.get?_overlay (h : (mapping upper).Regular) (base : Entries) (name : String) :
    Entries.get? (overlay base upper) name =
      overlayOption (Entries.get? base name) (Entries.get? upper name) :=
  Entries.get?_overlay (regular_mapping_iff.mp h).1 base name

mutual

/-- A regular value over a regular value is regular. -/
theorem Data.regular_overlayValue (under : Option Data) (d : Data) (hunder : ∀ u ∈ under, u.Regular)
    (hd : d.Regular) : (overlayValue under d).Regular := by
  rcases overlayValue_cases under d with ⟨-, heq⟩ | ⟨-, -, heq⟩ | ⟨base, es, rfl, rfl, heq⟩
  · rwa [heq]
  · rwa [heq]
  · rw [heq]
    exact Data.regular_overlay base es (hunder _ rfl) hd
termination_by sizeOf d

/-- Regular entries over regular entries are regular. -/
theorem Data.regular_overlay (base upper : Entries) (hbase : (mapping base).Regular)
    (hupper : (mapping upper).Regular) : (mapping (overlay base upper)).Regular := by
  match upper with
  | [] => rwa [overlay_nil]
  | (key, value) :: rest =>
    obtain ⟨hnames, hvalues⟩ := regular_mapping_iff.mp hupper
    obtain ⟨hvalue, hrest⟩ := List.forall_mem_cons.mp hvalues
    have hrestNames : (Entries.names rest).Nodup :=
      hnames.sublist ((List.sublist_cons_self _ rest).filterMap _)
    have hunder : ∀ u ∈ (base.find? fun (k, _) => k.sameKey key).map (·.2), u.Regular := by
      intro u hu
      obtain ⟨entry, hentry, rfl⟩ := Option.map_eq_some_iff.mp hu
      exact (regular_mapping_iff.mp hbase).2 entry (List.mem_of_find?_eq_some hentry)
    rw [overlay_cons]
    exact Data.regular_overlay _ rest
      (hbase.putEntry (Data.regular_overlayValue _ value hunder hvalue)) (.group hrestNames hrest)
termination_by sizeOf upper

end

/-- Layers over one another, with one more under all of them. -/
theorem overlayAll_concat {sources : List Entries} :
    overlayAll (sources ++ [base]) = overlay base (overlayAll sources) := by
  simp [overlayAll]

/-- Regular layers over one another are regular. -/
theorem Data.regular_overlayAll {sources : List Entries} (h : ∀ es ∈ sources, (mapping es).Regular) :
    (mapping (overlayAll sources)).Regular := by
  induction sources using List.reverseRecOn with
  | nil => exact regular_empty
  | append_singleton above base ih =>
    rw [overlayAll_concat]
    exact regular_overlay _ _ (h base (by simp)) (ih fun es hes => h es (by simp [hes]))

end PathTemplates
