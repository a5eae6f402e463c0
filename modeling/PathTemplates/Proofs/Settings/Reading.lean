import PathTemplates.Proofs.Outcome
import PathTemplates.Proofs.Settings.Entries

/-! # What sources hold is regular

Documents, JSON and the environment all put a repeated name where it stood first, so no group that is
read has a name twice (`Data.Regular`). -/

namespace PathTemplates

/-! ## Documents -/

namespace Yaml

/-- Two results come from two results. -/
theorem both_eq_ok_iff {α β : Type} {a : Except Failure α} {b : Except Failure β} {x : α} {y : β} :
    both a b = .ok (x, y) ↔ a = .ok x ∧ b = .ok y := by
  cases a <;> cases b <;> simp [both]

/-- All results come from results, one by one. -/
theorem allOf_eq_ok_iff {α : Type} {as : List (Except Failure α)} {xs : List α} :
    allOf as = .ok xs ↔ List.Forall₂ (fun a x => a = .ok x) as xs := by
  refine gather_eq_ok_iff (by rw [allOf]) fun a rest xs => ?_
  simp only [allOf, map_eq_ok_iff, Prod.exists, both_eq_ok_iff, and_assoc]

/-- A date and time is no group. -/
theorem not_isGroup_of_timestampValue {s : String} {d : Data} (h : timestampValue s = .ok d) :
    ¬ d.IsGroup := by
  rintro ⟨es, rfl⟩
  unfold timestampValue at h
  split at h
  · cases h
  · simp only at h
    split at h
    · simp [mapError_eq_ok_iff, map_eq_ok_iff] at h
    · simp [mapError_eq_ok_iff, map_eq_ok_iff] at h

/-- A scalar is no group. -/
theorem not_isGroup_of_scalarValue {t : Tag} {s : String} {d : Data} (h : scalarValue t s = .ok d) :
    ¬ d.IsGroup := by
  rintro ⟨es, rfl⟩
  cases t with
  | timestamp => exact not_isGroup_of_timestampValue (mapError_eq_ok_iff.mp h) Data.isGroup_mapping
  | binary =>
    rw [scalarValue] at h
    split at h <;> cases h
  | bool | int | float => simp [scalarValue, mapError_eq_ok_iff, map_eq_ok_iff] at h
  | _ => cases h

/-- What a node stands for is regular. -/
theorem regular_of_dataOf {fuel level : Nat} {n : Node} {d : Data} (h : dataOf fuel level n = .ok d) :
    d.Regular := by
  induction fuel generalizing level n d with
  | zero => simp [dataOf] at h
  | succ fuel ih =>
    simp only [dataOf] at h
    split at h
    case h_2 =>
      -- a mapping is put together entry by entry, and its values are regular
      obtain ⟨es, hes, rfl⟩ := map_eq_ok_iff.mp h
      split at hes
      · cases hes
      · obtain ⟨all, hall, rfl⟩ := map_eq_ok_iff.mp hes
        rw [allOf_eq_ok_iff, List.forall₂_map_left_iff] at hall
        refine Data.regular_foldl_putEntry Data.regular_empty fun entry hentry => ?_
        obtain ⟨kv, -, hkv⟩ := exists_of_forall₂_of_mem hall hentry
        exact ih (both_eq_ok_iff.mp hkv).2
    case h_9 =>
      split at h
      · exact .other (not_isGroup_of_scalarValue (mapError_eq_ok_iff.mp h))
      · cases h
    case h_1 | h_3 | h_4 =>
      -- lists and sets are no groups
      obtain ⟨items, -, rfl⟩ := map_eq_ok_iff.mp h
      exact .other (by simp [Data.IsGroup])
    all_goals cases h

/-- What a document holds is regular. -/
theorem regular_of_read {s : String} {d : Data} (h : read s = .ok (some d)) : d.Regular := by
  rw [read] at h
  obtain ⟨tokens, -, h⟩ := bind_eq_ok_iff.mp h
  obtain ⟨node, -, h⟩ := bind_eq_ok_iff.mp h
  split at h
  · cases h
  · next n =>
    split at h
    · next d' hd =>
      obtain rfl : d' = d := Option.some.inj (Except.ok.inj h)
      exact regular_of_dataOf hd
    · cases h

end Yaml

/-! ## JSON -/

namespace Data

/-- Members are taken over one by one. -/
theorem ofJsonMembers_eq_map (members : List (String × Json)) :
    ofJsonMembers members = members.map fun m => (text m.1, ofJson m.2) := by
  induction members with
  | nil => rw [ofJsonMembers, List.map_nil]
  | cons m rest ih => rw [ofJsonMembers, ih, List.map_cons]

/-- A member is added as an entry is put. -/
theorem ofJsonMembers_putMember {members : List (String × Json)} {name : String} {value : Json} :
    ofJsonMembers (Json.putMember members name value) =
      putEntry (ofJsonMembers members) (.text name) (ofJson value) := by
  have hany : (ofJsonMembers members).any (·.1.sameKey (.text name)) = members.any (·.1 == name) := by
    simp [ofJsonMembers_eq_map, Function.comp_def, sameKey]
  by_cases h : members.any (·.1 == name)
  · rw [Json.putMember, if_pos h, Entries.putEntry_of_any (hany.trans h), ofJsonMembers_eq_map,
      ofJsonMembers_eq_map, List.map_map, List.map_map]
    refine List.map_congr_left fun m _ => ?_
    by_cases hm : m.1 = name <;> simp [sameKey, hm]
  · rw [Json.putMember, if_neg h, Entries.putEntry_of_not_any (by rwa [hany]), ofJsonMembers_eq_map,
      ofJsonMembers_eq_map, List.map_append]
    rfl

/-- Members that are gathered are entries that are put one after another. -/
theorem ofJsonMembers_gatherMembers (members : List (String × Json)) :
    ofJsonMembers (Json.gatherMembers members) =
      (ofJsonMembers members).foldl (fun es entry => putEntry es entry.1 entry.2) [] := by
  have hfold (kept : List (String × Json)) :
      ofJsonMembers (members.foldl (fun kept m => Json.putMember kept m.1 m.2) kept) =
        (ofJsonMembers members).foldl (fun es entry => putEntry es entry.1 entry.2)
          (ofJsonMembers kept) := by
    induction members generalizing kept with
    | nil => rw [ofJsonMembers, List.foldl_nil, List.foldl_nil]
    | cons m rest ih =>
      rw [ofJsonMembers, List.foldl_cons, List.foldl_cons, ih, ofJsonMembers_putMember]
  exact hfold []

end Data

namespace Json

/-- What is no object is no group. -/
theorem regular_of_ne_object {v : Json} (h : ∀ members, v ≠ .object members) : (Data.ofJson v).Regular := by
  refine .other ?_
  cases v with
  | object members => exact absurd rfl (h members)
  | _ => simp [Data.ofJson, Data.IsGroup]

/-- A number is regular. -/
theorem regular_of_readNumber? {negative : Bool} {cs rest : List Char} {v : Json}
    (h : readNumber? negative cs = some (v, rest)) : (Data.ofJson v).Regular := by
  refine regular_of_ne_object ?_
  rintro members rfl
  simp only [readNumber?] at h
  split at h
  all_goals
    split at h
    · cases h
    · split at h
      · split at h <;> simp at h
      · simp at h

/-- Members whose values are regular make regular entries. -/
theorem regular_gatherMembers {members : List (String × Json)}
    (h : ∀ m ∈ members, (Data.ofJson m.2).Regular) :
    (Data.ofJson (.object (gatherMembers members))).Regular := by
  rw [Data.ofJson, Data.ofJsonMembers_gatherMembers]
  refine Data.regular_foldl_putEntry Data.regular_empty fun entry hentry => ?_
  rw [Data.ofJsonMembers_eq_map] at hentry
  obtain ⟨m, hm, rfl⟩ := List.mem_map.mp hentry
  exact h m hm

variable {fuel : Nat}

/-- A value is regular if the members in it are. -/
theorem regular_of_readValue?_succ
    (hmembers : ∀ cs members rest, readMembers? fuel cs = some (members, rest) →
      ∀ m ∈ members, (Data.ofJson m.2).Regular) {cs rest : List Char} {v : Json}
    (h : readValue? (fuel + 1) cs = some (v, rest)) : (Data.ofJson v).Regular := by
  rw [readValue?.eq_def] at h
  simp only at h
  split at h
  · obtain ⟨⟨s, r⟩, -, heq⟩ := Option.map_eq_some_iff.mp h
    obtain ⟨rfl, -⟩ := Prod.mk.inj heq
    exact regular_of_ne_object (by simp)
  · split at h
    · obtain ⟨rfl, -⟩ := Prod.mk.inj (Option.some.inj h)
      exact regular_of_ne_object (by simp)
    · obtain ⟨⟨items, r⟩, -, heq⟩ := Option.map_eq_some_iff.mp h
      obtain ⟨rfl, -⟩ := Prod.mk.inj heq
      exact regular_of_ne_object (by simp)
  · -- an object is the only value with members
    split at h
    · obtain ⟨rfl, -⟩ := Prod.mk.inj (Option.some.inj h)
      exact regular_gatherMembers (List.forall_mem_nil _)
    · obtain ⟨⟨members, r⟩, hread, heq⟩ := Option.map_eq_some_iff.mp h
      obtain ⟨rfl, -⟩ := Prod.mk.inj heq
      exact regular_gatherMembers (hmembers _ _ _ hread)
  · split at h
    · obtain ⟨rfl, -⟩ := Prod.mk.inj (Option.some.inj h)
      exact regular_of_ne_object (by simp)
    · exact regular_of_readNumber? h
  · -- names of values, and numbers
    split at h
    · obtain ⟨rfl, -⟩ := Prod.mk.inj (Option.some.inj h)
      exact regular_of_ne_object (by simp)
    · obtain ⟨rfl, -⟩ := Prod.mk.inj (Option.some.inj h)
      exact regular_of_ne_object (by simp)
    · obtain ⟨rfl, -⟩ := Prod.mk.inj (Option.some.inj h)
      exact regular_of_ne_object (by simp)
    · split at h
      · obtain ⟨rfl, -⟩ := Prod.mk.inj (Option.some.inj h)
        exact regular_of_ne_object (by simp)
      · obtain ⟨rfl, -⟩ := Prod.mk.inj (Option.some.inj h)
        exact regular_of_ne_object (by simp)
      · exact regular_of_readNumber? h

/-- The values of members are regular if the values in them are. -/
theorem regular_of_readMembers?_succ
    (hvalue : ∀ cs v rest, readValue? fuel cs = some (v, rest) → (Data.ofJson v).Regular)
    (hmembers : ∀ cs members rest, readMembers? fuel cs = some (members, rest) →
      ∀ m ∈ members, (Data.ofJson m.2).Regular) {cs rest : List Char} {members : List (String × Json)}
    (h : readMembers? (fuel + 1) cs = some (members, rest)) : ∀ m ∈ members, (Data.ofJson m.2).Regular := by
  rw [readMembers?.eq_def] at h
  simp only at h
  split at h
  · split at h
    · cases h
    · split at h
      · split at h
        · cases h
        · next v tail hread =>
          have hv := hvalue _ _ _ hread
          split at h
          · obtain ⟨rfl, -⟩ := Prod.mk.inj (Option.some.inj h)
            simpa using hv
          · obtain ⟨⟨others, r⟩, hothers, heq⟩ := Option.map_eq_some_iff.mp h
            obtain ⟨rfl, -⟩ := Prod.mk.inj heq
            exact List.forall_mem_cons.mpr ⟨hv, hmembers _ _ _ hothers⟩
          · cases h
      · cases h
  · cases h

/-- What is read is regular, and so are the values of members that are read. -/
theorem regular_of_readValue? (fuel : Nat) :
    (∀ cs v rest, readValue? fuel cs = some (v, rest) → (Data.ofJson v).Regular) ∧
    ∀ cs members rest, readMembers? fuel cs = some (members, rest) →
      ∀ m ∈ members, (Data.ofJson m.2).Regular := by
  induction fuel with
  | zero => simp [readValue?, readMembers?]
  | succ fuel ih =>
    exact ⟨fun _ _ _ h => regular_of_readValue?_succ ih.2 h,
      fun _ _ _ h => regular_of_readMembers?_succ ih.1 ih.2 h⟩

/-- A text in JSON stands for regular data. -/
theorem regular_of_read? {s : String} {v : Json} (h : read? s = some v) : (Data.ofJson v).Regular := by
  rw [read?] at h
  split at h
  · next v' rest hread =>
    split at h
    · obtain rfl : v' = v := Option.some.inj h
      exact (regular_of_readValue? _).1 _ _ _ hread
    · cases h
  · cases h

end Json

/-! ## The environment -/

/-- A value that is set at the end of some steps leaves the entries regular. -/
theorem regular_setAt (value : String) (steps : List String) {es : Entries}
    (h : (Data.mapping es).Regular) : (Data.mapping (setAt value steps es)).Regular := by
  -- each step leads into a group of its own, which is regular as well
  induction steps generalizing es with
  | nil => rwa [setAt]
  | cons step rest ih =>
    have htext : (Data.text value).Regular := .other (by simp [Data.IsGroup])
    cases rest with
    | nil => exact h.putEntry htext
    | cons next rest =>
      rw [setAt]
      split
      · next inner hget => exact h.putEntry (ih (h.get? hget))
      · exact h
      · exact h.putEntry (ih Data.regular_empty)
      · simp

/-- Settings of a group that stand one by one are regular. -/
theorem regular_nestedSettings (env : Bindings String) (group : String) :
    (Data.mapping (nestedSettings env group)).Regular := by
  refine List.foldlRecOn env _ (motive := fun es => (Data.mapping es).Regular) Data.regular_empty ?_
  intro es hes entry _
  simp only
  split
  · exact regular_setAt _ _ hes
  · exact hes

/-- Settings under their proper names are regular if they were before. -/
theorem regular_properNames {group : String} {es : Entries} (h : (Data.mapping es).Regular) :
    (Data.mapping (properNames group es)).Regular := by
  refine List.foldlRecOn es _ (motive := fun es => (Data.mapping es).Regular) Data.regular_empty ?_
  intro kept hkept entry hentry
  exact hkept.putEntry ((Data.regular_mapping_iff.mp h).2 entry hentry)

/-- A group of settings in the environment is regular. -/
theorem regular_of_environmentGroup {env : Bindings String} {group : String} {d : Data}
    (h : environmentGroup env group = .ok (some d)) : d.Regular := by
  have hnested := regular_nestedSettings env group
  simp only [environmentGroup] at h
  split at h
  · simp only [Except.ok.injEq] at h
    split at h
    · cases h
    · obtain rfl := Option.some.inj h
      exact regular_properNames hnested
  · have hread {s : String} {d : Data} (hs : (Json.read? s).map Data.ofJson = some d) : d.Regular := by
      obtain ⟨v, hv, rfl⟩ := Option.map_eq_some_iff.mp hs
      exact Json.regular_of_read? hv
    split at h
    · cases h
    · cases h
    · next es hs =>
      obtain rfl := Option.some.inj (Except.ok.inj h)
      exact regular_properNames (Data.regular_overlay _ _ (hread hs) hnested)
    · next d' hs =>
      obtain rfl := Option.some.inj (Except.ok.inj h)
      exact hread hs

/-- An entry that has a name and a regular value, if it is there. -/
def HasName (name : String) (item : Option (Data × Data)) : Prop :=
  ∀ entry ∈ item, entry.1 = .text name ∧ entry.2.Regular

/-- Entries that each have their own name, if they are there, are regular. -/
theorem regular_filterMap {names : List String} {items : List (Option (Data × Data))}
    (hnames : names.Nodup) (h : List.Forall₂ HasName names items) :
    (Data.mapping (items.filterMap id)).Regular := by
  have hitems : (Entries.names (items.filterMap id)).Sublist names ∧
      ∀ entry ∈ items.filterMap id, entry.2.Regular := by
    clear hnames
    induction h with
    | nil => exact ⟨List.Sublist.refl _, by simp⟩
    | @cons name item names items hitem _ ih =>
      cases item with
      | none => exact ⟨ih.1.cons name, ih.2⟩
      | some entry =>
        obtain ⟨hname, hregular⟩ := hitem entry rfl
        have hcons : Entries.names ((some entry :: items).filterMap id) =
            name :: Entries.names (items.filterMap id) := by
          simp [Entries.names, Data.name?, hname]
        rw [hcons]
        exact ⟨ih.1.cons_cons name, List.forall_mem_cons.mpr ⟨hregular, ih.2⟩⟩
  exact .group (hitems.1.nodup hnames) hitems.2

/-- The settings in the environment each have their own name, if they are there. -/
theorem exists_items_of_environmentSettings {env : Bindings String} {es : Entries}
    (h : environmentSettings env = .ok es) : ∃ items, es = items.filterMap id ∧
      List.Forall₂ HasName ["templates", "context", "variables", "workers", "verbosity"] items := by
  simp only [environmentSettings] at h
  obtain ⟨groups, hgroups, h⟩ := bind_eq_ok_iff.mp h
  obtain rfl := Except.ok.inj h
  have hgroupNames : List.Forall₂ HasName ["templates", "context", "variables"] groups := by
    refine (mapM_eq_ok_iff.mp hgroups).imp fun group item hitem => ?_
    obtain ⟨found, hfound, heq⟩ := bind_eq_ok_iff.mp hitem
    obtain rfl := Except.ok.inj heq
    intro entry hentry
    obtain ⟨d, hd, rfl⟩ := Option.map_eq_some_iff.mp hentry
    exact ⟨rfl, regular_of_environmentGroup (hd ▸ hfound)⟩
  have hsingleNames : List.Forall₂ HasName ["workers", "verbosity"]
      (["workers", "verbosity"].map fun name =>
        (Bindings.get? (loweredNames env) (environmentMark ++ name)).map fun s =>
          (Data.text name, Data.text s)) := by
    refine List.forall₂_map_right_iff.mpr (List.forall₂_same.mpr fun name _ => ?_)
    intro entry hentry
    obtain ⟨s, -, rfl⟩ := Option.map_eq_some_iff.mp hentry
    exact ⟨rfl, .other (by simp [Data.IsGroup])⟩
  exact ⟨_, rfl, List.rel_append hgroupNames hsingleNames⟩

/-- The settings in the environment are regular. -/
theorem regular_of_environmentSettings {env : Bindings String} {es : Entries}
    (h : environmentSettings env = .ok es) : (Data.mapping es).Regular := by
  obtain ⟨items, rfl, hitems⟩ := exists_items_of_environmentSettings h
  exact regular_filterMap (by decide) hitems

/-! ## Files -/

/-- The settings in a file are regular. -/
theorem regular_of_fileSettings {t : FileTree} {p : Path} {es : Entries}
    (h : (fileSettings t p).1 = .ok es) : (Data.mapping es).Regular := by
  simp only [fileSettings] at h
  split at h
  · cases h
  · obtain rfl := Except.ok.inj h
    exact Data.regular_empty
  · split at h
    · cases h
    · split at h
      · cases h
      · cases h
      · obtain rfl := Except.ok.inj h
        exact Data.regular_empty
      · obtain rfl := Except.ok.inj h
        exact Data.regular_empty
      · next hread =>
        obtain rfl := Except.ok.inj h
        exact Yaml.regular_of_read hread
      · cases h

end PathTemplates
