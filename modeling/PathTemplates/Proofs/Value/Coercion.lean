import PathTemplates.Proofs.Value

/-! # Turning plain data into values

Plain data become a value exactly if they are made of texts, ready-made values and mappings with texts as
keys (`Datum.Usable`). What is in the way can be listed in the order of the data (`Datum.offences`), and
the error is the first of the list. The value has the texts, the keys and the ready-made values of the
data where the data have them (`Datum.StandsFor`); so the data of a value give this value back, and the
entries of a mapping give the same bindings by themselves, as a context. -/

namespace PathTemplates

namespace DatumKey

/-- What keeps a key from being a name. -/
def offences : DatumKey → List DatumError
  | name _ => []
  | foreign kind => [.badKey kind]

end DatumKey

namespace Datum

variable {d : Datum} {entries : List (DatumKey × Datum)}

/-- What holds of texts, ready-made values and other things, and of a mapping if it holds of its items, holds
of all plain data. -/
@[induction_eliminator]
theorem entriesInduction {motive : Datum → Prop} (text : ∀ s, motive (.text s))
    (value : ∀ v, motive (.value v))
    (mapping : ∀ d : Dict DatumKey Datum, (∀ entry ∈ d.entries, motive entry.2) → motive (.mapping d))
    (foreign : ∀ kind, motive (.foreign kind)) : ∀ d, motive d
  | .text s => text s
  | .value v => value v
  | .mapping ⟨keys, distinct, item⟩ => mapping _ fun entry hentry => by
    obtain ⟨i, rfl⟩ := List.mem_ofFn.mp hentry
    exact entriesInduction text value mapping foreign (item i)
  | .foreign kind => foreign kind

/-- A mapping is turned into a value through the results of its items. -/
theorem toValue_mapping (d : Dict DatumKey Datum) :
    (mapping d).toValue = (toEntries .empty (d.map toValue).entries).map .mapping := rfl

/-! ## What is in the way -/

/-- Everything that keeps plain data from being a value, in the order of the data: a key comes before
its own item, and ready-made values are not looked into. -/
def offences : Datum → List DatumError
  | text _ => []
  | value _ => []
  | mapping ⟨keys, distinct, item⟩ =>
    let later : Dict DatumKey (List DatumError) := ⟨keys, distinct, fun i => offences (item i)⟩
    later.entries.flatMap fun (key, inside) => key.offences ++ inside
  | foreign kind => [.unusable kind]

theorem offences_mapping (d : Dict DatumKey Datum) :
    (mapping d).offences = d.entries.flatMap fun entry => entry.1.offences ++ entry.2.offences := by
  have hentries : (mapping d).offences =
      (d.map offences).entries.flatMap fun (key, inside) => key.offences ++ inside := rfl
  rw [hentries, Dict.entries_map, List.flatMap_map]

/-- Plain data of texts, ready-made values and mappings whose keys are all texts. -/
inductive Usable : Datum → Prop
  /-- A text. -/
  | text (s : String) : Usable (.text s)
  /-- A ready-made value. -/
  | value (v : Value) : Usable (.value v)
  /-- A mapping. -/
  | mapping {d : Dict DatumKey Datum} (hkeys : ∀ entry ∈ d.entries, ∃ name, entry.1 = .name name)
      (hitems : ∀ entry ∈ d.entries, entry.2.Usable) : Usable (.mapping d)

/-- Nothing is in the way of usable data, and of no other. -/
theorem offences_eq_nil_iff : d.offences = [] ↔ d.Usable := by
  induction d with
  | text s => simpa [offences] using Usable.text s
  | value v => simpa [offences] using Usable.value v
  | mapping d ih =>
    have hkey (key : DatumKey) : key.offences = [] ↔ ∃ name, key = .name name := by
      cases key <;> simp [DatumKey.offences]
    simp only [offences_mapping, List.flatMap_eq_nil_iff, List.append_eq_nil_iff, hkey]
    constructor
    · intro h
      exact .mapping (fun entry hentry => (h entry hentry).1)
        fun entry hentry => (ih entry hentry).mp (h entry hentry).2
    · rintro ⟨⟩ entry hentry
      rename_i hkeys hitems
      exact ⟨hkeys entry hentry, (ih entry hentry).mpr (hitems entry hentry)⟩
  | foreign kind =>
    have hunusable : ¬ (foreign kind).Usable := by rintro ⟨⟩
    simpa [offences] using hunusable

/-- The error of data that give no value. -/
def errorOf {α : Type} : Except DatumError α → Option DatumError
  | .ok _ => none
  | .error e => some e

/-- The error of entries is the first thing that is in their way, whatever was bound before them, if the
error of each item is the first thing in its way. -/
theorem errorOf_toEntries (hitems : ∀ entry ∈ entries, errorOf entry.2.toValue = entry.2.offences.head?)
    (done : Dict String Value) :
    errorOf (toEntries done (entries.map fun entry => (entry.1, entry.2.toValue))) =
      (entries.flatMap fun entry => entry.1.offences ++ entry.2.offences).head? := by
  induction entries generalizing done with
  | nil => simp [toEntries, errorOf]
  | cons entry rest ih =>
    obtain ⟨key, item⟩ := entry
    obtain ⟨hitem, hrest⟩ := List.forall_mem_cons.mp hitems
    cases key with
    | foreign kind => simp [toEntries, DatumKey.offences, errorOf]
    | name name =>
      rw [List.flatMap_cons, List.head?_append]
      simp only [List.map_cons, toEntries, DatumKey.offences, List.nil_append, ← hitem]
      cases item.toValue with
      | error e => rfl
      | ok v => exact ih hrest (done.set name v)

/-- The error is the first thing that is in the way. -/
theorem errorOf_toValue (d : Datum) : errorOf d.toValue = d.offences.head? := by
  induction d with
  | text s => simp [toValue, offences, errorOf]
  | value v => simp [toValue, offences, errorOf]
  | mapping d ih =>
    rw [offences_mapping, ← errorOf_toEntries ih .empty, toValue_mapping, Dict.entries_map]
    cases toEntries _ _ <;> rfl
  | foreign kind => simp [toValue, offences, errorOf]

/-- Data fail with the first thing that is in the way. -/
theorem toValue_eq_error_iff {e : DatumError} :
    d.toValue = .error e ↔ d.offences.head? = some e := by
  rw [← errorOf_toValue]
  cases d.toValue <;> simp [errorOf]

/-- Data give a value exactly if they are usable. -/
theorem exists_toValue_iff : (∃ v, d.toValue = .ok v) ↔ d.Usable := by
  rw [← offences_eq_nil_iff, ← List.head?_eq_none_iff, ← errorOf_toValue]
  cases d.toValue <;> simp [errorOf]

/-! ## What data stand for -/

mutual

/-- What plain data stand for: a text for itself, a ready-made value for itself, and a mapping for one
with the same keys in the same order. -/
inductive StandsFor : Datum → Value → Prop
  /-- A text. -/
  | text (s : String) : StandsFor (.text s) (.text s)
  /-- A ready-made value. -/
  | value (v : Value) : StandsFor (.value v) v
  /-- A mapping. -/
  | mapping {d : Dict DatumKey Datum} {values : Dict String Value} :
      EntriesStandFor d.entries values.entries → StandsFor (.mapping d) (.mapping values)

/-- What the entries of a mapping stand for, one by one. -/
inductive EntriesStandFor : List (DatumKey × Datum) → Bindings Value → Prop
  /-- No entries. -/
  | nil : EntriesStandFor [] []
  /-- An entry before others. -/
  | cons {name : String} {item : Datum} {v : Value} {rest : List (DatumKey × Datum)}
      {values : Bindings Value} : StandsFor item v → EntriesStandFor rest values →
      EntriesStandFor ((.name name, item) :: rest) ((name, v) :: values)

end

/-- Entries of new and different names are bound after the others, to what they stand for, if the value of
each item is what the item stands for. -/
theorem exists_entriesStandFor
    (hitems : ∀ entry ∈ entries, ∀ v, entry.2.toValue = .ok v → entry.2.StandsFor v)
    {done values : Dict String Value}
    (hnew : (done.keys ++ entries.filterMap (Key.name? ·.1)).Nodup)
    (h : toEntries done (entries.map fun entry => (entry.1, entry.2.toValue)) = .ok values) :
    ∃ more, EntriesStandFor entries more ∧ values.entries = done.entries ++ more := by
  induction entries generalizing done with
  | nil =>
    obtain rfl : done = values := by simpa [toEntries] using h
    exact ⟨[], .nil, (List.append_nil _).symm⟩
  | cons entry rest ih =>
    obtain ⟨key, item⟩ := entry
    obtain ⟨hitem, hrest⟩ := List.forall_mem_cons.mp hitems
    cases key with
    | foreign kind => simp [toEntries] at h
    | name name =>
      simp only [List.map_cons, toEntries] at h
      cases hv : item.toValue with
      | error e => simp [hv] at h
      | ok v =>
        rw [hv] at h
        -- the name is new, so it comes last and the names after it are still new
        have hnames : (done.keys ++ name :: rest.filterMap (Key.name? ·.1)).Nodup := hnew
        have hfree : name ∉ done.keys := fun hmem =>
          (List.nodup_append.mp hnames).2.2 name hmem name (List.mem_cons_self ..) rfl
        have hset := Dict.entries_set_of_notMem hfree v
        have hkeys : (done.set name v).keys = done.keys ++ [name] := by
          rw [← Dict.map_fst_entries, hset, List.map_append, Dict.map_fst_entries]
          rfl
        have hlater : ((done.set name v).keys ++ rest.filterMap (Key.name? ·.1)).Nodup := by
          rw [hkeys, List.append_assoc]
          exact hnames
        obtain ⟨more, hmore, hvalues⟩ := ih hrest hlater h
        exact ⟨(name, v) :: more, .cons (hitem v hv) hmore, by rw [hvalues, hset, List.append_assoc]; rfl⟩

/-- The value of data is what they stand for. -/
theorem standsFor {v : Value} (h : d.toValue = .ok v) : d.StandsFor v := by
  induction d generalizing v with
  | text s =>
    obtain rfl : Value.text s = v := by simpa [toValue] using h
    exact .text s
  | value w =>
    obtain rfl : w = v := by simpa [toValue] using h
    exact .value w
  | mapping d ih =>
    rw [toValue_mapping, Dict.entries_map] at h
    obtain ⟨values, hvalues, rfl⟩ := map_eq_ok_iff.mp h
    have hnew : ((Dict.empty : Dict String Value).keys ++
        d.entries.filterMap (Key.name? ·.1)).Nodup := d.distinct_entries
    obtain ⟨more, hmore, heq⟩ := exists_entriesStandFor (fun entry hentry v => ih entry hentry)
      hnew hvalues
    rw [Dict.entries_empty, List.nil_append] at heq
    exact .mapping (heq ▸ hmore)
  | foreign kind => simp [toValue] at h

/-! ## Values as data and back -/

/-- The names of a dictionary as keys of plain data. -/
theorem entries_named {α : Type} (d : Dict String α) :
    d.named.entries = d.entries.map fun entry => (.name entry.1, entry.2) :=
  Dict.entries_ofEntries d.distinct_named

/-- Values under names are bound one after another. -/
theorem toEntries_values (entries : Bindings Value) (done : Dict String Value) :
    toEntries done (entries.map fun entry => (.name entry.1, .ok entry.2)) =
      .ok (done.setAll entries) := by
  induction entries generalizing done with
  | nil => rfl
  | cons entry rest ih => exact ih (done.set entry.1 entry.2)

/-- The data of a value give it back. -/
theorem toValue_toDatum (v : Value) : v.toDatum.toValue = .ok v := by
  induction v with
  | text s => rfl
  | mapping d ih =>
    have hdatum : (Value.mapping d).toDatum = .mapping (d.map Value.toDatum).named := rfl
    have hentries : (d.entries.map fun entry => (DatumKey.name entry.1, entry.2.toDatum.toValue)) =
        d.entries.map fun entry => (.name entry.1, .ok entry.2) :=
      List.map_congr_left fun entry hentry => by rw [ih entry hentry]
    have hall : Dict.setAll .empty d.entries = d := d.ofList_entries
    rw [hdatum, toValue_mapping, Dict.entries_map, entries_named, Dict.entries_map, List.map_map,
      List.map_map]
    simp only [Function.comp_def]
    rw [hentries, toEntries_values, hall, map_ok]

/-! ## Mappings as contexts -/

/-- Entries under names are bound as the variables of a context are. -/
theorem toEntries_eq_toValues (entries : List (String × Datum)) (done : Dict String Value) :
    toEntries done (entries.map fun entry => (.name entry.1, entry.2.toValue)) =
      Context.toValues done entries := by
  induction entries generalizing done with
  | nil => rfl
  | cons entry rest ih =>
    simp only [List.map_cons, toEntries, Context.toValues]
    cases entry.2.toValue with
    | error e => rfl
    | ok v => exact ih (done.set entry.1 v)

/-- A mapping whose keys are texts gives the bindings that it gives as a context, or the same error. -/
theorem toValue_named (data : Dict String Datum) :
    (mapping data.named).toValue = (Context.ofData data).map fun c => .mapping c.values := by
  rw [toValue_mapping, Dict.entries_map, entries_named, List.map_map, Context.ofData,
    ← toEntries_eq_toValues]
  simp only [Function.comp_def]
  cases toEntries _ _ <;> rfl

/-- Turning data into values and values into data.

* Data give a value exactly if they are usable, and fail with the first thing that is in the way. The
  value has the keys of the data in their order at every level, and stays as it is from then on.
* The data of a mapping give the mapping back.
* A mapping whose keys are texts is a context exactly if it is a value, with the same bindings. -/
theorem toValue_inverse_toDatum (d : Datum) (bound : Dict String Value) (data : Dict String Datum) :
    ((∃ v, d.toValue = .ok v) ↔ d.Usable) ∧
    (∀ e, d.toValue = .error e ↔ d.offences.head? = some e) ∧
    (∀ v, d.toValue = .ok v → d.StandsFor v ∧ (value v).toValue = .ok v) ∧
    (Value.mapping bound).toDatum.toValue = .ok (.mapping bound) ∧
    (mapping data.named).toValue = (Context.ofData data).map fun c => .mapping c.values :=
  ⟨exists_toValue_iff, fun _ => toValue_eq_error_iff, fun _ hv => ⟨standsFor hv, by rw [toValue]⟩,
    toValue_toDatum _, toValue_named data⟩

/-- Of a key that is no text, its item and a key after them, the first key is the error. -/
theorem toValue_inverse_toDatum_badKey :
    let d : Datum := .mapping (.ofList [(.name "a", .text "x"),
      (.name "b", .mapping (.ofList [(.foreign "int", .foreign "list")])), (.foreign "bool", .text "y")])
    let bound : Dict String Value := .ofList [("b", .mapping (.ofList [("c", .text "")])), ("a", .text "x")]
    let data : Dict String Datum := .ofList [("z", .mapping .empty), ("a", .value (.mapping bound))]
    d.toValue = .error (.badKey "int") ∧
    (Value.mapping bound).toDatum.toValue = .ok (.mapping bound) ∧
    ∃ c, Context.ofData data = .ok c ∧ (mapping data.named).toValue = .ok (.mapping c.values) := by
  intro d bound data
  obtain ⟨-, herror, -, hback, hcontext⟩ := toValue_inverse_toDatum d bound data
  have hdata : Context.ofData data = .ok ⟨.ofList [("z", .mapping .empty), ("a", .mapping bound)]⟩ := rfl
  refine ⟨(herror _).mpr rfl, hback, _, hdata, ?_⟩
  rw [hcontext, hdata]
  rfl

end Datum

end PathTemplates
