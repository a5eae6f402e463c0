import PathTemplates.Proofs.Settings.Entries

/-! # Paths through layers

A path of names leads through groups to a value. In layers that lie over one another, the uppermost one
that sets a path decides, unless the path is cut off (`Entries.lookup?_overlayAll`). What a path leads to
in a layer has no effect if a layer above sets it to anything but a group
(`overlayAll_change`). -/

namespace PathTemplates

variable {d : Data} {es base upper : Entries} {key value : Data} {name : String} {path : List String}

/-- Entries with another value under a name. -/
def Entries.changeAt (es : Entries) (name : String) (f : Data → Data) : Entries :=
  es.map fun (k, v) => (k, if k.sameKey (.text name) then f v else v)

namespace Data

/-- What a path of names leads to. -/
def lookup? : List String → Data → Option Data
  | [], d => some d
  | name :: rest, mapping es => (Entries.get? es name).bind (lookup? rest)
  | _ :: _, _ => none

/-- Data in which a path does not lead to a group. -/
def NoGroup (path : List String) (d : Data) : Prop := ∀ v ∈ d.lookup? path, ¬ v.IsGroup

/-- Data in which a path leads through groups, as far as it leads to anything. -/
def Open : List String → Data → Prop
  | [], _ => True
  | name :: rest, mapping es => ∀ d, Entries.get? es name = some d → d.Open rest
  | _ :: _, _ => False

/-- Data in which a path comes to something that is no group, at its end or before. -/
def Blocks : List String → Data → Prop
  | [], d => ¬ d.IsGroup
  | name :: rest, mapping es => ∃ d, Entries.get? es name = some d ∧ d.Blocks rest
  | _ :: _, _ => True

/-- Data with another value at the end of a path. -/
def change : Data → List String → Data → Data
  | _, [], new => new
  | mapping es, name :: rest, new => mapping (Entries.changeAt es name fun v => v.change rest new)
  | d, _ :: _, _ => d

/-- In a group, a path leads to what the rest of it leads to in the value under its first name. -/
theorem noGroup_cons_iff {rest : List String} :
    (mapping es).NoGroup (name :: rest) ↔ ∀ v, Entries.get? es name = some v → v.NoGroup rest := by
  simp only [NoGroup, lookup?, Option.mem_def, Option.bind_eq_some_iff]
  constructor
  · exact fun h v hv g hg => h g ⟨v, hv, hg⟩
  · rintro h g ⟨v, hv, hg⟩
    exact h v hv g hg

/-- Only in a group a path leads on. -/
theorem exists_eq_mapping_of_open {rest : List String} (h : d.Open (name :: rest)) :
    ∃ es, d = mapping es := by
  cases d with
  | mapping es => exact ⟨es, rfl⟩
  | _ => exact absurd h (by simp [Open])

theorem lookup?_of_not_isGroup {rest : List String} (h : ¬ d.IsGroup) :
    d.lookup? (name :: rest) = none := by
  cases d with
  | mapping es => exact absurd isGroup_mapping h
  | _ => rfl

end Data

/-- What a path of names leads to in entries. -/
def Entries.lookup? (es : Entries) (path : List String) : Option Data := (Data.mapping es).lookup? path

/-- Entries with another value at the end of a path. -/
def Entries.change (es : Entries) : List String → Data → Entries
  | [], _ => es
  | name :: rest, new => es.changeAt name fun v => v.change rest new

namespace Data

/-! ## The first layer that sets a path -/

/-- If a path is open in a value over another, it is open in the upper one. -/
theorem Open.of_overlayValue {under : Option Data} (hd : d.Regular)
    (h : (overlayValue under d).Open path) : d.Open path := by
  induction path generalizing under d with
  | nil => trivial
  | cons name rest ih =>
    rcases overlayValue_cases under d with ⟨-, heq⟩ | ⟨-, -, heq⟩ | ⟨base, es, rfl, rfl, heq⟩
    · rwa [heq] at h
    · rwa [heq] at h
    · rw [heq] at h
      intro v hv
      have hstep : (overlayValue (Entries.get? base name) v).Open rest := by
        refine h _ ?_
        rw [hd.get?_overlay, hv]
        rfl
      exact ih (hd.get? hv) hstep

/-- In a value over another, an open path that does not lead to a group leads to what it leads to in the
upper one, or else in the lower one. -/
theorem lookup?_overlayValue {under : Option Data} (hd : d.Regular)
    (hopen : (overlayValue under d).Open path)
    (hplain : (overlayValue under d).NoGroup path) :
    (overlayValue under d).lookup? path = (d.lookup? path).or (under.bind (lookup? path)) := by
  induction path generalizing under d with
  | nil =>
    have hgroup : ¬ d.IsGroup := mt isGroup_overlayValue_iff.mpr (hplain _ rfl)
    rw [overlayValue_of_not_isGroup hgroup]
    rfl
  | cons name rest ih =>
    rcases overlayValue_cases under d with
      ⟨hgroup, heq⟩ | ⟨-, hunder, heq⟩ | ⟨base, es, rfl, rfl, heq⟩
    · -- an open path starts in a group
      rw [heq] at hopen
      obtain ⟨es, rfl⟩ := exists_eq_mapping_of_open hopen
      exact absurd isGroup_mapping hgroup
    · -- nothing is found under a group that hides something else
      have hnone : under.bind (lookup? (name :: rest)) = none := by
        rw [Option.bind_eq_none_iff]
        exact fun u hu => lookup?_of_not_isGroup (hunder u hu)
      rw [heq, hnone, Option.or_none]
    · -- two groups are joined, and the path goes on in what the first name has in both
      rw [heq] at hopen hplain ⊢
      have hget := hd.get?_overlay base name
      simp only [Open, hget] at hopen
      simp only [noGroup_cons_iff, hget] at hplain
      simp only [lookup?, hget, Option.bind_some]
      cases hv : Entries.get? es name with
      | none => simp [overlayOption]
      | some v =>
        rw [hv] at hopen hplain
        exact ih (hd.get? hv) (hopen _ rfl) (hplain _ rfl)

end Data

/-- In layers over one another, an open path that does not lead to a group leads to what it leads to in the
first layer that sets it. -/
theorem Entries.lookup?_overlayAll {sources : List Entries}
    (hregular : ∀ es ∈ sources, (Data.mapping es).Regular)
    (hopen : (Data.mapping (overlayAll sources)).Open path)
    (hplain : (Data.mapping (overlayAll sources)).NoGroup path) :
    (overlayAll sources).lookup? path = sources.findSome? (·.lookup? path) := by
  induction sources using List.reverseRecOn with
  | nil =>
    cases path with
    | nil => exact absurd Data.isGroup_mapping (hplain _ rfl)
    | cons name rest => rfl
  | append_singleton above base ih =>
    have habove : ∀ es ∈ above, (Data.mapping es).Regular := fun es hes => hregular es (by simp [hes])
    have hmerged : (Data.mapping (overlayAll above)).Regular := Data.regular_overlayAll habove
    simp only [overlayAll_concat, ← overlayValue_mapping_mapping, lookup?] at hopen hplain ⊢
    have hstep := Data.lookup?_overlayValue hmerged hopen hplain
    have habovePlain : (Data.mapping (overlayAll above)).NoGroup path := by
      intro v hv
      refine hplain v ?_
      rw [Option.mem_def] at hv ⊢
      rw [hstep, hv, Option.some_or]
    have hfirst := ih habove (hopen.of_overlayValue hmerged) habovePlain
    rw [lookup?] at hfirst
    rw [hstep, hfirst, List.findSome?_append]
    simp [lookup?]

/-! ## Values without effect -/

namespace Entries

variable {f : Data → Data}

/-- Changing a value leaves the keys. -/
theorem any_sameKey_changeAt :
    (es.changeAt name f).any (·.1.sameKey key) = es.any (·.1.sameKey key) := by
  simp [changeAt, Function.comp_def]

/-- What is put under a name hides that it was changed. -/
theorem putEntry_changeAt_text :
    Data.putEntry (es.changeAt name f) (.text name) value = Data.putEntry es (.text name) value := by
  by_cases hany : es.any (·.1.sameKey (.text name))
  · rw [putEntry_of_any hany, putEntry_of_any (any_sameKey_changeAt.trans hany), changeAt, List.map_map]
    refine List.map_congr_left fun entry _ => ?_
    simp only [Function.comp_apply]
    split <;> rfl
  · -- without an entry of the name there is nothing to change
    have hsame : es.changeAt name f = es := by
      refine (List.map_congr_left fun entry hentry => ?_).trans (List.map_id es)
      have hkey : ¬ entry.1.sameKey (.text name) := fun h => hany (List.any_eq_true.mpr ⟨entry, hentry, h⟩)
      simp [hkey]
    rw [hsame]

/-- What is put under another key leaves the change. -/
theorem putEntry_changeAt_of_ne (h : key ≠ .text name) :
    Data.putEntry (es.changeAt name f) key value = changeAt (Data.putEntry es key value) name f := by
  by_cases hany : es.any (·.1.sameKey key)
  · rw [putEntry_of_any hany, putEntry_of_any (any_sameKey_changeAt.trans hany), changeAt, changeAt,
      List.map_map, List.map_map]
    refine List.map_congr_left fun entry _ => ?_
    obtain ⟨k, v⟩ := entry
    by_cases hk : k = .text name
    · subst hk
      simp [Data.text_sameKey_eq_false h]
    · simp [Data.sameKey_text_eq_false hk]
  · have hany' : ¬ (es.changeAt name f).any (·.1.sameKey key) := by rwa [any_sameKey_changeAt]
    rw [putEntry_of_not_any hany, putEntry_of_not_any hany', changeAt, changeAt, List.map_append]
    simp [Data.sameKey_text_eq_false h]

/-- The changed value is found under its name. -/
theorem get?_changeAt : get? (es.changeAt name f) name = (es.get? name).map f := by
  rw [changeAt, get?_map fun k v => if k.sameKey (.text name) then f v else v]
  simp [Data.sameKey]

/-- Under another key, a change is not found. -/
theorem find?_changeAt_of_ne (h : key ≠ .text name) :
    ((es.changeAt name f).find? fun (k, _) => k.sameKey key).map (·.2) =
      (es.find? fun (k, _) => k.sameKey key).map (·.2) := by
  induction es with
  | nil => rfl
  | cons entry rest ih =>
    obtain ⟨k, v⟩ := entry
    by_cases hk : k = .text name
    · subst hk
      simpa [changeAt, Data.text_sameKey_eq_false h] using ih
    · by_cases hsame : k.sameKey key
      · simp [changeAt, Data.sameKey_text_eq_false hk, hsame]
      · simpa [changeAt, Data.sameKey_text_eq_false hk, hsame] using ih

/-- A change under a name has no effect if it has none under the value that is laid over it. -/
theorem overlay_changeAt (hget : upper.get? name = some value)
    (hvalue : ∀ under : Option Data, overlayValue (under.map f) value = overlayValue under value) :
    overlay (es.changeAt name f) upper = overlay es upper := by
  induction upper generalizing es with
  | nil => simp at hget
  | cons entry rest ih =>
    obtain ⟨key, v⟩ := entry
    rw [overlay_cons, overlay_cons]
    by_cases hkey : key = .text name
    · -- the change is hidden here, and the rest is laid over the same entries
      subst hkey
      obtain rfl : v = value := by simpa using hget
      have hunder : ((es.changeAt name f).find? fun (k, _) => k.sameKey (.text name)).map (·.2) =
          ((es.find? fun (k, _) => k.sameKey (.text name)).map (·.2)).map f := get?_changeAt
      rw [hunder, hvalue, putEntry_changeAt_text]
    · rw [get?_cons_of_ne hkey] at hget
      rw [find?_changeAt_of_ne hkey, putEntry_changeAt_of_ne hkey, ih hget]

end Entries

namespace Data

theorem change_of_not_isGroup {rest : List String} {new : Data} (h : ¬ d.IsGroup) :
    d.change (name :: rest) new = d := by
  cases d with
  | mapping es => exact absurd isGroup_mapping h
  | _ => rfl

theorem blocks_of_not_isGroup (h : ¬ d.IsGroup) : d.Blocks path := by
  cases path with
  | nil => exact h
  | cons name rest =>
    cases d with
    | mapping es => exact absurd isGroup_mapping h
    | _ => trivial

/-- A path that leads to anything but a group is blocked there. -/
theorem blocks_of_lookup? (h : d.lookup? path = some value) (hplain : ¬ value.IsGroup) :
    d.Blocks path := by
  induction path generalizing d with
  | nil =>
    obtain rfl : d = value := Option.some.inj h
    exact hplain
  | cons name rest ih =>
    by_cases hd : d.IsGroup
    · obtain ⟨es, rfl⟩ := hd
      obtain ⟨v, hv, hrest⟩ := Option.bind_eq_some_iff.mp h
      exact ⟨v, hv, ih hrest⟩
    · exact blocks_of_not_isGroup hd

/-- Under data that blocks a path, a change at its end has no effect. -/
theorem overlayValue_change (under : Option Data) (new : Data) (h : d.Blocks path) :
    overlayValue (under.map fun u => u.change path new) d = overlayValue under d := by
  induction path generalizing under d with
  | nil => rw [overlayValue_of_not_isGroup h, overlayValue_of_not_isGroup h]
  | cons name rest ih =>
    rcases overlayValue_cases under d with
      ⟨hd, heq⟩ | ⟨-, hunder, heq⟩ | ⟨base, es, rfl, rfl, heq⟩
    · rw [overlayValue_of_not_isGroup hd, heq]
    · -- what a group hides has no entries that could change
      have hsame : (under.map fun u => u.change (name :: rest) new) = under := by
        cases under with
        | none => rfl
        | some u => exact congrArg some (change_of_not_isGroup (hunder u rfl))
      rw [hsame]
    · obtain ⟨v, hv, hblocks⟩ := h
      rw [heq, Option.map_some, change, overlayValue_mapping_mapping,
        Entries.overlay_changeAt hv fun u => ih u hblocks]

/-- Data that blocks a path does so over anything. -/
theorem Blocks.overlayValue {under : Option Data} (hd : d.Regular) (h : d.Blocks path) :
    (overlayValue under d).Blocks path := by
  induction path generalizing under d with
  | nil => exact mt isGroup_overlayValue_iff.mp h
  | cons name rest ih =>
    rcases overlayValue_cases under d with ⟨-, heq⟩ | ⟨-, -, heq⟩ | ⟨base, es, rfl, rfl, heq⟩
    · rwa [heq]
    · rwa [heq]
    · obtain ⟨v, hv, hblocks⟩ := h
      rw [heq]
      refine ⟨PathTemplates.overlayValue (Entries.get? base name) v, ?_, ih (hd.get? hv) hblocks⟩
      rw [hd.get?_overlay, hv]
      rfl

/-- A path that leads to anything but a group is blocked there, unless what is laid over it has a group at
the end of the path. -/
theorem blocks_overlayValue {u : Data} (hd : d.Regular) (hu : u.lookup? path = some value)
    (hplain : ¬ value.IsGroup) (hover : d.NoGroup path) :
    (overlayValue (some u) d).Blocks path := by
  induction path generalizing u d with
  | nil => exact mt isGroup_overlayValue_iff.mp (hover d rfl)
  | cons name rest ih =>
    rcases overlayValue_cases (some u) d with
      ⟨hgroup, heq⟩ | ⟨-, hunder, -⟩ | ⟨base, es, heq', rfl, heq⟩
    · rw [heq]
      exact blocks_of_not_isGroup hgroup
    · rw [lookup?_of_not_isGroup (hunder u rfl)] at hu
      cases hu
    · obtain rfl : u = mapping base := Option.some.inj heq'
      obtain ⟨b, hb, hrest⟩ := Option.bind_eq_some_iff.mp hu
      rw [heq]
      have hget := hd.get?_overlay base name
      rw [hb] at hget
      cases hv : Entries.get? es name with
      | none =>
        -- the upper group does not set the name, so the lower value stays
        rw [hv] at hget
        exact ⟨b, hget, blocks_of_lookup? hrest hplain⟩
      | some v =>
        rw [hv] at hget
        exact ⟨_, hget, ih (hd.get? hv) hrest (noGroup_cons_iff.mp hover v hv)⟩

/-- A path that leads to a group neither in a value nor in what is under it does not when one is laid over
the other. -/
theorem NoGroup.overlayValue {under : Option Data} (hregular : d.Regular) (hd : d.NoGroup path)
    (hunder : ∀ u ∈ under, u.NoGroup path) : (overlayValue under d).NoGroup path := by
  induction path generalizing under d with
  | nil =>
    rintro v hv
    obtain rfl : PathTemplates.overlayValue under d = v := Option.some.inj hv
    exact mt isGroup_overlayValue_iff.mp (hd d rfl)
  | cons name rest ih =>
    rcases overlayValue_cases under d with ⟨-, heq⟩ | ⟨-, -, heq⟩ | ⟨base, es, rfl, rfl, heq⟩
    · rwa [heq]
    · rwa [heq]
    · have hlower := noGroup_cons_iff.mp (hunder _ rfl)
      rw [heq, noGroup_cons_iff, hregular.get?_overlay]
      cases hv : Entries.get? es name with
      | none => exact hlower
      | some v =>
        rintro merged hmerged
        obtain rfl : PathTemplates.overlayValue (Entries.get? base name) v = merged :=
          Option.some.inj hmerged
        exact ih (hregular.get? hv) (noGroup_cons_iff.mp hd v hv) hlower

end Data

/-- A path that leads to a group in no layer does not when they are laid over one another. -/
theorem Data.noGroup_overlayAll {sources : List Entries} {rest : List String}
    (hregular : ∀ es ∈ sources, (mapping es).Regular)
    (hsources : ∀ es ∈ sources, (mapping es).NoGroup (name :: rest)) :
    (mapping (overlayAll sources)).NoGroup (name :: rest) := by
  induction sources using List.reverseRecOn with
  | nil => exact noGroup_cons_iff.mpr fun v hv => by cases hv
  | append_singleton above base ih =>
    have habove : ∀ es ∈ above, (mapping es).Regular := fun es hes => hregular es (by simp [hes])
    rw [overlayAll_concat, ← overlayValue_mapping_mapping]
    refine NoGroup.overlayValue (regular_overlayAll habove) (ih habove fun es hes => ?_) ?_
    · exact hsources es (by simp [hes])
    · rintro u ⟨⟩
      exact hsources base (by simp)

/-- A path is blocked under a layer that sets it to anything but a group, unless a layer above sets it to a
group. -/
theorem Data.blocks_overlayAll {above between : List Entries} {higher : Entries}
    (hregular : ∀ es ∈ above ++ [higher] ++ between, (mapping es).Regular)
    (hhigher : higher.lookup? path = some value) (hplain : ¬ value.IsGroup)
    (habove : ∀ es ∈ above, (mapping es).NoGroup path) :
    (mapping (overlayAll (above ++ [higher] ++ between))).Blocks path := by
  induction between using List.reverseRecOn with
  | nil =>
    have hregularAbove : ∀ es ∈ above, (mapping es).Regular := fun es hes => hregular es (by simp [hes])
    cases path with
    | nil =>
      -- a layer is itself a group
      obtain rfl : mapping higher = value := Option.some.inj hhigher
      exact absurd isGroup_mapping hplain
    | cons name rest =>
      rw [List.append_nil, overlayAll_concat, ← overlayValue_mapping_mapping]
      exact blocks_overlayValue (regular_overlayAll hregularAbove) hhigher hplain
        (noGroup_overlayAll hregularAbove habove)
  | append_singleton between base ih =>
    have hregularOver : ∀ es ∈ above ++ [higher] ++ between, (mapping es).Regular := by
      intro es hes
      exact hregular es (by rw [← List.append_assoc]; exact List.mem_append_left _ hes)
    rw [← List.append_assoc, overlayAll_concat, ← overlayValue_mapping_mapping]
    exact (ih hregularOver).overlayValue (regular_overlayAll hregularOver)

/-- Under a layer that sets a path to anything but a group, what the path leads to in another layer has no
effect, unless a layer above both sets the path to a group. -/
theorem overlayAll_change {above between below : List Entries} {higher lower : Entries} {new : Data}
    (hregular : ∀ es ∈ above ++ [higher] ++ between, (Data.mapping es).Regular)
    (hhigher : higher.lookup? path = some value) (hplain : ¬ value.IsGroup)
    (habove : ∀ es ∈ above, (Data.mapping es).NoGroup path) :
    overlayAll (above ++ [higher] ++ between ++ lower.change path new :: below) =
      overlayAll (above ++ [higher] ++ between ++ lower :: below) := by
  have hblocks := Data.blocks_overlayAll hregular hhigher hplain habove
  have hchange : overlay (lower.change path new) (overlayAll (above ++ [higher] ++ between)) =
      overlay lower (overlayAll (above ++ [higher] ++ between)) := by
    cases path with
    | nil => rfl
    | cons name rest =>
      have hsame := Data.overlayValue_change (some (.mapping lower)) new hblocks
      rw [Option.map_some, Data.change, overlayValue_mapping_mapping,
        overlayValue_mapping_mapping] at hsame
      exact Data.mapping.inj hsame
  simp only [overlayAll, List.foldl_append, List.foldl_cons] at hchange ⊢
  rw [hchange]

end PathTemplates
