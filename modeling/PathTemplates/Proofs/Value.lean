import PathTemplates.Context
import PathTemplates.Proofs.Dict
import PathTemplates.Proofs.Outcome

/-! # Values and contexts by their entries

Functions of values go through a mapping entry by entry, and so does the induction on values
(`Value.entriesInduction`). Since a mapping has each name once, the comparison of values looks at nothing
but what is found under each name (`Value.same_of_get?_eq`), and so does that of contexts
(`Context.same_of_get?_eq`). -/

namespace PathTemplates

namespace Value

variable {d e : Dict String Value} {v : Value}

/-- What holds of texts, and of a mapping if it holds of the values of its entries, holds of all values. -/
@[induction_eliminator]
theorem entriesInduction {motive : Value → Prop} (text : ∀ s, motive (.text s))
    (mapping : ∀ d : Dict String Value, (∀ entry ∈ d.entries, motive entry.2) → motive (.mapping d)) :
    ∀ v, motive v
  | .text s => text s
  | .mapping ⟨names, distinct, item⟩ => mapping _ fun entry hentry => by
    obtain ⟨i, rfl⟩ := List.mem_ofFn.mp hentry
    exact entriesInduction text mapping (item i)

/-- A mapping becomes an object of the JSON values of its entries. -/
theorem toJson_mapping (d : Dict String Value) :
    (mapping d).toJson = .object ((d.map toJson).entries.mergeSort fun a b => decide (a.1 ≤ b.1)) := rfl

/-- Mappings are the same if they have as many entries and each name of the one is found in the other
with the same value. -/
theorem same_mapping_iff : (mapping d).same (mapping e) ↔ d.keys.length = e.keys.length ∧
    ∀ entry ∈ d.entries, ∃ other, e.get? entry.1 = some other ∧ entry.2.same other := by
  have htests : (mapping d).same (mapping e) = (d.keys.length == e.keys.length &&
      (d.map same).entries.all fun test => (e.get? test.1).any test.2) := rfl
  rw [htests, Bool.and_eq_true, beq_iff_eq, List.all_eq_true, Dict.entries_map, List.forall_mem_map]
  simp only [Option.any_eq_true]

/-- A value is the same as itself. -/
theorem same_refl (v : Value) : v.same v := by
  induction v with
  | text s => simp [same]
  | mapping d ih =>
    exact same_mapping_iff.mpr ⟨rfl, fun entry hentry =>
      ⟨entry.2, Dict.mem_entries_iff.mp hentry, ih entry hentry⟩⟩

/-- Mappings in which the same is found under every name are the same. -/
theorem same_of_get?_eq (h : ∀ name, d.get? name = e.get? name) : (mapping d).same (mapping e) := by
  refine same_mapping_iff.mpr ⟨?_, fun entry hentry => ⟨entry.2, ?_, same_refl entry.2⟩⟩
  · simpa using (Dict.perm_of_get?_eq h).length_eq
  · rw [← h, ← Dict.mem_entries_iff]
    exact hentry

end Value

namespace Context

variable {c c' : Context} {name : String} {v : Value}

/-- What a variable stands for after one more has been bound. -/
theorem get?_bind (n : String) : (c.bind name v).get? n = if n = name then some v else c.get? n :=
  Dict.get?_set n

/-- Contexts that bind every variable to the same value are the same, and bind the same variables in some
order. -/
theorem same_of_get?_eq (h : ∀ n, c.get? n = c'.get? n) :
    c.same c' ∧ c.values.entries.Perm c'.values.entries :=
  ⟨Value.same_of_get?_eq h, Dict.perm_of_get?_eq h⟩

end Context

end PathTemplates
