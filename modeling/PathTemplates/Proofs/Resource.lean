import PathTemplates.Proofs.Calendar
import PathTemplates.Proofs.Value
import PathTemplates.Variable

/-! # Building contexts

When a context can be built for a file. What its path leads to may be missing or out of reach, but two
failures are not passed over: a null character in the path, and a time that has no date
(`Resource.exists_metadataValues_iff`). With texts as extra data nothing else fails but the variables
(`ContextFactory.exists_build_eq`). -/

namespace PathTemplates

/-! ## Size and time -/

namespace FileTree

variable {t : FileTree} {p : Path}

/-- Following names never comes to a time. -/
theorem follow_ne_time {path : String} {names place : List String} {e : DateError} :
    t.follow path place names ≠ .error (.time e) := by
  induction names generalizing place with
  | nil =>
    rw [follow]
    split <;> simp
  | cons name rest ih =>
    rw [follow]
    split
    · simp
    · simp
    · split
      · simp
      · split
        · exact ih
        · exact ih

/-- Looking up a path never comes to a time. -/
theorem find_ne_time {e : DateError} : t.find p ≠ .error (.time e) := by
  simp only [find]
  split
  · simp
  · split
    · simp
    · exact follow_ne_time

end FileTree

namespace Resource

variable {t : FileTree} {p : Path}

/-- The size and time of a file can be told or are passed over, unless its path holds a null character
or its time has no date. -/
theorem exists_metadataValues_iff :
    (∃ v, metadataValues t p = .ok v) ↔ t.find p ≠ .error .nullCharacter ∧
      ∀ node, t.find p = .ok node → Moment.HasDate (modifiedSecond node.status.modified) := by
  simp only [← Moment.exists_ofSeconds_iff]
  rw [metadataValues, metadata]
  cases hfind : t.find p with
  | error e =>
    cases e with
    | time e => exact absurd hfind FileTree.find_ne_time
    | _ => simp
  | ok node => cases hm : Moment.ofSeconds (modifiedSecond node.status.modified) <;> simp [hm]

end Resource

/-! ## Contexts -/

/-- Data that are all values can be bound after others. -/
theorem Context.exists_toValues {entries : List (String × Datum)} (done : Dict String Value)
    (h : ∀ entry ∈ entries, ∃ v, entry.2.toValue = .ok v) :
    ∃ values, toValues done entries = .ok values := by
  induction entries generalizing done with
  | nil => exact ⟨done, rfl⟩
  | cons entry rest ih =>
    obtain ⟨name, item⟩ := entry
    obtain ⟨⟨v, hv⟩, hrest⟩ := List.forall_mem_cons.mp h
    obtain ⟨values, hvalues⟩ := ih (done.set name v) hrest
    exact ⟨values, by rw [toValues, hv, ok_bind, hvalues]⟩

/-- Data that are all values make a context. -/
theorem Context.exists_ofData {data : Dict String Datum}
    (h : ∀ entry ∈ data.entries, ∃ v, entry.2.toValue = .ok v) : ∃ c, ofData data = .ok c := by
  obtain ⟨values, hvalues⟩ := Context.exists_toValues .empty h
  exact ⟨⟨values⟩, by rw [ofData, hvalues, map_ok]⟩

namespace ContextFactory

variable {f : ContextFactory} {t : FileTree} {r : Resource} {extra : List (String × Datum)}

/-- A context is built from the fields of the path, the size and time and the extra data, and the
variables are bound on top of it. -/
theorem build_eq_ok_iff {c : Context} :
    (f.build t r extra).1 = .ok c ↔ ∃ metadata base, f.metadataOf t r.path = .ok metadata ∧
      Context.ofData ((Datum.ofValues (r.pathValues.setAll metadata.1.entries)).setAll extra) =
        .ok base ∧
      bindAll f.registry base f.computed = .ok c := by
  rw [build]
  cases hmetadata : f.metadataOf t r.path with
  | error e => simp
  | ok metadata =>
    obtain ⟨values, events⟩ := metadata
    cases hbase : Context.ofData
        ((Datum.ofValues (r.pathValues.setAll values.entries)).setAll extra) with
    | error e => simp [hbase]
    | ok base => simp [hbase, mapError_eq_ok_iff]

/-- Whatever is wrong with the size and time of a file is wrong with its context. -/
theorem build_of_metadataOf_eq_error {e : FileError} (h : f.metadataOf t r.path = .error e) :
    (f.build t r extra).1 = .error (.file e) := by
  rw [build, h]

/-- If the size and time of a file can be told and the extra data are values, only a variable can keep
the context from being built. -/
theorem exists_build_eq {metadata : Dict String Value × List Log.Event}
    (h : f.metadataOf t r.path = .ok metadata)
    (hextra : ∀ entry ∈ extra, ∃ v, entry.2.toValue = .ok v) :
    ∃ c, (f.build t r extra).1 = (bindAll f.registry c f.computed).mapError .evaluation := by
  obtain ⟨values, events⟩ := metadata
  have hdata : ∀ entry ∈
      ((Datum.ofValues (r.pathValues.setAll values.entries)).setAll extra).entries,
      ∃ v, entry.2.toValue = .ok v := by
    intro entry hentry
    rw [Dict.entries_setAll, Datum.ofValues, Dict.entries_map] at hentry
    rcases Bindings.mem_or_mem_of_mem_setAll hentry with hgiven | hfield
    · exact hextra entry hgiven
    · obtain ⟨⟨name, v⟩, -, rfl⟩ := List.mem_map.mp hfield
      exact ⟨v, rfl⟩
  obtain ⟨c, hc⟩ := Context.exists_ofData hdata
  exact ⟨c, by simp only [build, h, hc]⟩

end ContextFactory

end PathTemplates
