import Mathlib.Data.List.Perm.Subperm
import PathTemplates.Proofs.Json.Compact
import PathTemplates.Proofs.Value.Coercion

/-! # The text of a mapping

A mapping is written as compact JSON with the names of every mapping in ascending order. The JSON value
behind it (`Value.toJson`) ascends at every level (`ascending_toJson`), stands for the data of the mapping
(`same_ofJson_toJson`), and is the same for two mappings exactly if they are the same up to the order of
names (`toJson_eq_iff_same`). The text is read back as this JSON value, so all of this holds of the text
too (`rendered_canonical`). -/

namespace PathTemplates

/-! ## JSON as plain data -/

namespace Datum

mutual

/-- The plain data that a JSON value stands for. -/
def ofJson : Json → Datum
  | .null => .foreign "NoneType"
  | .bool _ => .foreign "bool"
  | .int _ => .foreign "int"
  | .float _ => .foreign "float"
  | .text s => .text s
  | .array _ => .foreign "list"
  | .object members => .mapping (Dict.ofList (ofJsonMembers members)).named

/-- The plain data of the members of an object, in order. -/
def ofJsonMembers : List (String × Json) → List (String × Datum)
  | [] => []
  | (name, v) :: rest => (name, ofJson v) :: ofJsonMembers rest

end

/-- The members of an object are turned into plain data one by one. -/
theorem ofJsonMembers_eq_map (members : List (String × Json)) :
    ofJsonMembers members = members.map fun (name, v) => (name, ofJson v) := by
  induction members with
  | nil => rw [ofJsonMembers, List.map_nil]
  | cons member rest ih => rw [ofJsonMembers, ih, List.map_cons]

/-- An object whose names are different stands for a mapping of its members in their order. -/
theorem entries_ofJsonMembers {members : List (String × Json)} (h : (Bindings.names members).Nodup) :
    (Dict.ofList (ofJsonMembers members)).named.entries =
      members.map fun (name, v) => (.name name, ofJson v) := by
  have hnames : (Bindings.names (ofJsonMembers members)).Nodup := by
    rw [ofJsonMembers_eq_map]
    simpa [Bindings.names, Function.comp_def] using h
  rw [entries_named, Dict.entries_ofList_of_nodup hnames, ofJsonMembers_eq_map, List.map_map]
  rfl

mutual

/-- Equal plain data of texts and mappings: the entries of a mapping may come in another order. -/
inductive Same : Datum → Datum → Prop
  /-- A text. -/
  | text (s : String) : Same (.text s) (.text s)
  /-- Mappings with the same entries in some order. -/
  | mapping {d e : Dict DatumKey Datum} {arranged : List (DatumKey × Datum)} :
      d.entries.Perm arranged → SameEntries arranged e.entries → Same (.mapping d) (.mapping e)

/-- Equal items under the same keys in the same order. -/
inductive SameEntries : List (DatumKey × Datum) → List (DatumKey × Datum) → Prop
  /-- No entries. -/
  | nil : SameEntries [] []
  /-- An entry before others. -/
  | cons {key : DatumKey} {item other : Datum} {rest others : List (DatumKey × Datum)} :
      Same item other → SameEntries rest others →
      SameEntries ((key, item) :: rest) ((key, other) :: others)

end

/-- Entries whose items are equal under the same names. -/
theorem sameEntries_map {entries : Bindings Value} {f g : Value → Datum}
    (h : ∀ entry ∈ entries, (f entry.2).Same (g entry.2)) :
    SameEntries (entries.map fun entry => (.name entry.1, f entry.2))
      (entries.map fun entry => (.name entry.1, g entry.2)) := by
  induction entries with
  | nil => exact .nil
  | cons entry rest ih =>
    obtain ⟨hentry, hrest⟩ := List.forall_mem_cons.mp h
    exact .cons hentry (ih hrest)

end Datum

namespace Value

variable {d e : Dict String Value} {v w : Value}

/-! ## The JSON value of a mapping -/

/-- The JSON value of a value ascends at every level. -/
theorem ascending_toJson (v : Value) : v.toJson.Ascending := by
  induction v with
  | text s => exact .text s
  | mapping d ih =>
    rw [toJson_mapping]
    refine .object ?_ ?_
    · exact List.pairwise_map.mpr (Bindings.pairwise_mergeSort (d.map toJson).nodup_names_entries)
    · intro member hmember
      rw [(List.mergeSort_perm _ _).mem_iff, Dict.entries_map] at hmember
      obtain ⟨entry, hentry, rfl⟩ := List.mem_map.mp hmember
      exact ih entry hentry

/-- It stands for the data of the value. -/
theorem same_ofJson_toJson (v : Value) : (Datum.ofJson v.toJson).Same v.toDatum := by
  induction v with
  | text s => exact .text s
  | mapping d ih =>
    have hdatum : (mapping d).toDatum = .mapping (d.map toDatum).named := rfl
    have hperm := List.mergeSort_perm (d.map toJson).entries fun a b => decide (a.1 ≤ b.1)
    have hnames := (hperm.map Prod.fst).nodup_iff.mpr (d.map toJson).nodup_names_entries
    -- sorting is undone first, and then the items are compared one by one
    have hsorted := hperm.map fun (name, v) => (DatumKey.name name, Datum.ofJson v)
    rw [Dict.entries_map, List.map_map, ← Dict.entries_map, ← Datum.entries_ofJsonMembers hnames] at hsorted
    have hitems : Datum.SameEntries
        (d.entries.map fun entry => (.name entry.1, Datum.ofJson entry.2.toJson))
        (d.map toDatum).named.entries := by
      rw [Datum.entries_named, Dict.entries_map, List.map_map]
      exact Datum.sameEntries_map (f := fun v => Datum.ofJson v.toJson) ih
    rw [toJson_mapping, hdatum, Datum.ofJson]
    exact .mapping hsorted hitems

/-- Two mappings have the same JSON value exactly if their members are the same in some order. -/
theorem toJson_mapping_eq_iff :
    (mapping d).toJson = (mapping e).toJson ↔ (d.map toJson).entries.Perm (e.map toJson).entries := by
  rw [toJson_mapping, toJson_mapping, Json.object.injEq]
  exact Bindings.mergeSort_eq_iff_perm (d.map toJson).nodup_names_entries
    (e.map toJson).nodup_names_entries

/-- A name stands before the JSON value of what it is bound to. -/
theorem mem_entries_map_toJson_iff {member : String × Json} : member ∈ (d.map toJson).entries ↔
    ∃ v, (member.1, v) ∈ d.entries ∧ v.toJson = member.2 := by
  rw [Dict.entries_map, List.mem_map]
  constructor
  · rintro ⟨⟨name, v⟩, hmem, rfl⟩
    exact ⟨v, hmem, rfl⟩
  · rintro ⟨v, hmem, hv⟩
    exact ⟨(member.1, v), hmem, by simp [hv]⟩

/-- Values have the same JSON value exactly if they are the same. -/
theorem toJson_eq_iff_same : v.toJson = w.toJson ↔ v.same w := by
  induction v generalizing w with
  | text s => cases w <;> simp [toJson, same]
  | mapping d ih =>
    cases w with
    | text t => simp [toJson, same]
    | mapping e =>
      rw [toJson_mapping_eq_iff, same_mapping_iff]
      constructor
      · intro hperm
        have hlength : d.keys.length = e.keys.length := by simpa using hperm.length_eq
        refine ⟨hlength, fun entry hentry => ?_⟩
        have hmember : (entry.1, entry.2.toJson) ∈ (e.map toJson).entries :=
          hperm.subset (mem_entries_map_toJson_iff.mpr ⟨entry.2, hentry, rfl⟩)
        obtain ⟨other, hother, hjson⟩ := mem_entries_map_toJson_iff.mp hmember
        exact ⟨other, Dict.mem_entries_iff.mp hother, (ih entry hentry).mp hjson.symm⟩
      · rintro ⟨hlength, hfound⟩
        -- every member is one of the other mapping, and there are as many of them
        have hsubset : (d.map toJson).entries ⊆ (e.map toJson).entries := by
          intro member hmember
          obtain ⟨v, hmem, hv⟩ := mem_entries_map_toJson_iff.mp hmember
          obtain ⟨other, hget, hsame⟩ := hfound _ hmem
          have hjson := (ih _ hmem).mpr hsame
          exact mem_entries_map_toJson_iff.mpr
            ⟨other, Dict.mem_entries_iff.mpr hget, hjson.symm.trans hv⟩
        have hnodup : (d.map toJson).entries.Nodup :=
          List.Nodup.of_map Prod.fst (d.map toJson).nodup_names_entries
        have hle : (e.map toJson).entries.length ≤ (d.map toJson).entries.length := by simp [hlength]
        exact (List.subperm_of_subset hnodup hsubset).perm_of_length_le hle

/-! ## The text -/

/-- The text of a mapping is read back as its JSON value. -/
theorem read?_rendered (d : Dict String Value) :
    Json.read? (mapping d).rendered = some (mapping d).toJson :=
  Json.read?_compact (ascending_toJson (mapping d))

/-- The text of a mapping is canonical and loses nothing.

* It is JSON in which nothing stands between the tokens and the names of every object ascend strictly, and
  it is read back as the data of the mapping.
* Two mappings have the same text exactly if they are the same, in whatever order their names were
  bound. -/
theorem rendered_canonical (d e : Dict String Value) :
    (∃ j, Json.CompactText j (mapping d).rendered.toList ∧ j.Ascending ∧
      Json.read? (mapping d).rendered = some j ∧ (Datum.ofJson j).Same (mapping d).toDatum) ∧
    ((mapping d).rendered = (mapping e).rendered ↔ (mapping d).same (mapping e)) := by
  constructor
  · have hascending := ascending_toJson (mapping d)
    exact ⟨_, Json.compactText_compact hascending, hascending, read?_rendered d,
      same_ofJson_toJson (mapping d)⟩
  · rw [← toJson_eq_iff_same]
    constructor
    · intro htext
      have hread := read?_rendered d
      rw [htext, read?_rendered] at hread
      exact (Option.some.inj hread).symm
    · intro hjson
      have hrendered (m : Dict String Value) : (mapping m).rendered = (mapping m).toJson.compact := rfl
      rw [hrendered, hrendered, hjson]

/-- Two mappings whose names were bound in other orders, with quotes, a backslash and a line break in
them, have the same text. -/
theorem rendered_canonical_reordered :
    let m : Dict String Value := .ofList [("b\\", .text "say \"hi\"\n"),
      ("a", .mapping (.ofList [("é", .text ""), ("Z", .text "x")]))]
    let m' : Dict String Value := .ofList [("a", .mapping (.ofList [("Z", .text "x"), ("é", .text "")])),
      ("b\\", .text "say \"hi\"\n")]
    (mapping m).rendered = (mapping m').rendered ∧
    ∃ j, Json.read? (mapping m').rendered = some j ∧ (Datum.ofJson j).Same (mapping m).toDatum := by
  intro m m'
  obtain ⟨⟨j, -, -, hread, hdata⟩, hsame⟩ := rendered_canonical m m'
  have htext : (mapping m).rendered = (mapping m').rendered := hsame.mpr rfl
  exact ⟨htext, j, htext ▸ hread, hdata⟩

end Value

end PathTemplates
