import PathTemplates.Proofs.Outcome
import PathTemplates.Settings.Check

/-! # What checked settings are

A check succeeds exactly for data that stands for a setting within its bounds, and a group of settings is
checked setting by setting: a setting that is given is checked, and another one has its standard value
(`checkSettings_eq_ok_iff`). -/

namespace PathTemplates

variable {α β : Type}

/-! ## Results of checks -/

/-- The value of a setting: what the data that is given for it stands for, or the standard value. -/
def Settled (given : Option Data) (standard : α) (check : Data → Checked α) (value : α) : Prop :=
  match given with
  | some d => check d = .ok value
  | none => value = standard

namespace Checked

variable {a c : Checked α} {b : Checked β} {cs : List (Checked α)} {step : String}

/-- Two checks succeed together exactly if each of them does. -/
theorem both_eq_ok_iff {x : α} {y : β} : both a b = .ok (x, y) ↔ a = .ok x ∧ b = .ok y := by
  cases a <;> cases b <;> simp [both]

/-- The place of a check has no part in its success. -/
theorem inside_eq_ok_iff {x : α} : c.inside step = .ok x ↔ c = .ok x := by
  cases c <;> simp [inside]

/-- Many checks succeed exactly if each of them does. -/
theorem all_eq_ok_iff {xs : List α} : all cs = .ok xs ↔ List.Forall₂ (fun c x => c = .ok x) cs xs := by
  refine gather_eq_ok_iff (by rw [all]) fun c rest xs => ?_
  simp only [all, map_eq_ok_iff, Prod.exists, both_eq_ok_iff, and_assoc]

end Checked

open Checked

/-! ## Single settings -/

variable {d : Data}

/-- A whole number is accepted as it is if it lies between the bounds. -/
theorem checkWhole_eq_ok_iff {least most n : Nat} :
    checkWhole least most d = .ok n ↔ wholeOf d = .ok (n : Int) ∧ least ≤ n ∧ n ≤ most := by
  unfold checkWhole
  cases wholeOf d with
  | error f => simp [fault]
  | ok m =>
    simp only [Except.ok.injEq]
    split
    · simp only [fault, reduceCtorEq, false_iff]
      omega
    · split
      · simp only [fault, reduceCtorEq, false_iff]
        omega
      · simp only [Except.ok.injEq]
        omega

/-- The characters of names are those that templates can write. -/
theorem isNameText_eq_isIdentifier (s : String) :
    (!s.isEmpty && s.toList.all fun c => isAsciiDigit c || isAsciiLetter c || c == '_') =
      isIdentifier s := by
  have hempty : s.isEmpty = s.toList.isEmpty := by
    rw [Bool.eq_iff_iff, String.isEmpty_iff, List.isEmpty_iff, String.toList_eq_nil_iff]
  have hchar : (fun c => isAsciiDigit c || isAsciiLetter c || c == '_') = isIdentChar := by
    funext c
    simp only [isAsciiDigit, isAsciiLetter, isIdentChar]
    rw [Bool.or_comm ('0' ≤ c && c ≤ '9')]
  rw [isIdentifier, hempty, hchar]

/-- A name is a text that templates can write. -/
theorem checkName_eq :
    checkName d = checkText d >>= fun s => if isIdentifier s then .ok s else fault .notName d := by
  simp only [← isNameText_eq_isIdentifier]
  rfl

/-- A name is accepted if templates can write it. -/
theorem checkName_eq_ok_iff {name : String} :
    checkName d = .ok name ↔ checkText d = .ok name ∧ isIdentifier name := by
  rw [checkName_eq, bind_eq_ok_iff]
  constructor
  · rintro ⟨s, hs, h⟩
    split at h
    · next hname =>
      obtain rfl : s = name := Except.ok.inj h
      exact ⟨hs, hname⟩
    · simp [fault] at h
  · rintro ⟨hs, hname⟩
    exact ⟨name, hs, if_pos hname⟩

/-- A pattern is accepted if it can be compiled. -/
theorem checkPattern_eq_ok_iff {pattern : String} :
    checkPattern d = .ok pattern ↔
      checkText d = .ok pattern ∧ ∃ compiled, Pattern.compile pattern = .ok compiled := by
  rw [checkPattern, bind_eq_ok_iff]
  constructor
  · rintro ⟨s, hs, h⟩
    split at h
    · next compiled hcompiled =>
      obtain rfl : s = pattern := Except.ok.inj h
      exact ⟨hs, compiled, hcompiled⟩
    · simp [fault] at h
  · rintro ⟨hs, compiled, hcompiled⟩
    refine ⟨pattern, hs, ?_⟩
    rw [hcompiled]
    rfl

/-! ## Groups of settings -/

namespace Entries

variable {es : Entries} {name : String} {standard : α} {check : Data → Checked α}

/-- A setting that may be missing has the value of its data or the standard value. -/
theorem optional_eq_ok_iff {x : α} :
    es.optional name standard check = .ok x ↔ Settled (es.get? name) standard check x := by
  unfold optional Settled
  cases es.get? name with
  | none => simp [eq_comm]
  | some d => exact inside_eq_ok_iff

/-- A setting that must be there has the value of its data. -/
theorem required_eq_ok_iff {x : α} :
    es.required name check = .ok x ↔ ∃ d, es.get? name = some d ∧ check d = .ok x := by
  rw [required]
  cases es.get? name with
  | none => simp [fault, inside]
  | some d => simp [inside_eq_ok_iff]

end Entries

/-- How templates are compiled is checked setting by setting. -/
theorem checkTemplates_eq_ok_iff {t : TemplateSettings} :
    checkTemplates d = .ok t ↔ ∃ es, d = .mapping es ∧
      Settled (Entries.get? es "cache_size") 256 (checkWhole 0 100000) t.capacity ∧
      Settled (Entries.get? es "strict_functions") false checkTruth t.strict := by
  cases d with
  | mapping es =>
    simp only [checkTemplates, map_eq_ok_iff, Prod.exists, both_eq_ok_iff,
      Entries.optional_eq_ok_iff, Data.mapping.injEq, exists_eq_left']
    constructor
    · rintro ⟨capacity, strict, h, rfl⟩
      exact h
    · intro h
      exact ⟨t.capacity, t.strict, h, rfl⟩
  | _ => simp [checkTemplates, fault]

/-- What contexts hold is checked as one setting. -/
theorem checkContext_eq_ok_iff {b : Bool} :
    checkContext d = .ok b ↔ ∃ es, d = .mapping es ∧
      Settled (Entries.get? es "include_metadata") true checkTruth b := by
  cases d with
  | mapping es => simp [checkContext, Entries.optional_eq_ok_iff]
  | _ => simp [checkContext, fault]

/-- A variable of a pattern is accepted if its name, its pattern and its input are. -/
theorem checkCapture_eq_ok_iff {es : Entries} {v : VariableSettings} :
    checkCapture es = .ok v ↔ ∃ name pattern input, v = .capture name pattern input ∧
      (∃ d, es.get? "name" = some d ∧ checkName d = .ok name) ∧
      (∃ d, es.get? "pattern" = some d ∧ checkPattern d = .ok pattern) ∧
      Settled (es.get? "input") Variable.defaultInput checkText input := by
  simp only [checkCapture, map_eq_ok_iff, Prod.exists, both_eq_ok_iff, Entries.required_eq_ok_iff,
    Entries.optional_eq_ok_iff]
  constructor
  · rintro ⟨name, pattern, input, h, rfl⟩
    exact ⟨name, pattern, input, rfl, h⟩
  · rintro ⟨name, pattern, input, rfl, h⟩
    exact ⟨name, pattern, input, h, rfl⟩

/-- A variable of a template is accepted if its name and its template are texts and the name can be
written. -/
theorem checkTemplateVariable_eq_ok_iff {es : Entries} {v : VariableSettings} :
    checkTemplateVariable es = .ok v ↔ ∃ name value, v = .template name value ∧
      (∃ d, es.get? "name" = some d ∧ checkName d = .ok name) ∧
      (∃ d, es.get? "value" = some d ∧ checkText d = .ok value) := by
  simp only [checkTemplateVariable, map_eq_ok_iff, Prod.exists, both_eq_ok_iff,
    Entries.required_eq_ok_iff]
  constructor
  · rintro ⟨name, value, h, rfl⟩
    exact ⟨name, value, rfl, h⟩
  · rintro ⟨name, value, rfl, h⟩
    exact ⟨name, value, h, rfl⟩

/-- A variable is accepted if its kind is known and its settings are those of this kind. -/
theorem checkVariable_eq_ok_iff {v : VariableSettings} :
    checkVariable d = .ok v ↔ ∃ es, d = .mapping es ∧
      ((Entries.get? es "kind" = some (.text "regex") ∧ checkCapture es = .ok v) ∨
        (Entries.get? es "kind" = some (.text "template") ∧ checkTemplateVariable es = .ok v)) := by
  cases d with
  | mapping es =>
    rw [checkVariable]
    split <;> simp_all [fault, inside_eq_ok_iff]
  | _ => simp [checkVariable, fault]

/-- No name is repeated exactly if the names are distinct from each other and from those before. -/
theorem firstRepeated?_eq_none_iff {seen names : List String} :
    firstRepeated? seen names = none ↔ names.Nodup ∧ ∀ name ∈ names, name ∉ seen := by
  induction names generalizing seen with
  | nil => simp [firstRepeated?]
  | cons name rest ih =>
    rw [firstRepeated?, List.nodup_cons, List.forall_mem_cons]
    by_cases hseen : name ∈ seen
    · simp [hseen]
    · rw [if_neg (mt List.contains_iff_mem.mp hseen), ih]
      constructor
      · rintro ⟨hrest, hnew⟩
        have hname : name ∉ rest := fun hmem => hnew name hmem (List.mem_cons_self ..)
        exact ⟨⟨hname, hrest⟩, hseen, fun n hn hs => hnew n hn (List.mem_cons_of_mem _ hs)⟩
      · rintro ⟨⟨hname, hrest⟩, -, hnew⟩
        refine ⟨hrest, fun n hn hmem => ?_⟩
        rcases List.mem_cons.mp hmem with rfl | hs
        · exact hname hn
        · exact hnew n hn hs

/-- The items of a list or of distinct items. -/
def Data.items? : Data → Option (List Data)
  | list items | set items => some items
  | _ => none

/-- The check of the items of a list of variables, each at its place. -/
def checkItems (items : List Data) : Checked (List VariableSettings) :=
  Checked.all ((items.zip (List.range items.length)).map fun (item, i) =>
    (checkVariable item).inside (toString i))

/-- The items are variables exactly if each of them is one. -/
theorem checkItems_eq_ok_iff {items : List Data} {vs : List VariableSettings} :
    checkItems items = .ok vs ↔ List.Forall₂ (fun item v => checkVariable item = .ok v) items vs := by
  have hitems : (items.zip (List.range items.length)).map Prod.fst = items :=
    List.map_fst_zip (by simp)
  -- the places have no part in the success, so the items can stand without them
  rw [checkItems, all_eq_ok_iff, List.forall₂_map_left_iff]
  simp only [inside_eq_ok_iff]
  conv_rhs => rw [← hitems, List.forall₂_map_left_iff]

/-- Variables are checked one by one, and then their names together. -/
theorem checkVariables_eq (d : Data) :
    checkVariables d = match d.items? with
      | some items => checkItems items >>= fun vs => match firstRepeated? [] (vs.map (·.name)) with
        | some name => fault (.duplicate name) d
        | none => .ok vs
      | none => fault .notList d := by
  cases d <;> rfl

/-- Variables are accepted one by one, and no two of them have the same name. -/
theorem checkVariables_eq_ok_iff {vs : List VariableSettings} :
    checkVariables d = .ok vs ↔ ∃ items, d.items? = some items ∧
      List.Forall₂ (fun item v => checkVariable item = .ok v) items vs ∧ (vs.map (·.name)).Nodup := by
  rw [checkVariables_eq]
  cases d.items? with
  | none => simp [fault]
  | some items =>
    simp only [bind_eq_ok_iff, checkItems_eq_ok_iff, Option.some.injEq, exists_eq_left']
    have hnodup (vs : List VariableSettings) :
        firstRepeated? [] (vs.map (·.name)) = none ↔ (vs.map (·.name)).Nodup := by
      simp [firstRepeated?_eq_none_iff]
    constructor
    · rintro ⟨vs', hvs', h⟩
      split at h
      · simp [fault] at h
      · next hnone =>
        obtain rfl : vs' = vs := Except.ok.inj h
        exact ⟨hvs', (hnodup vs').mp hnone⟩
    · rintro ⟨hvs, hnames⟩
      refine ⟨vs, hvs, ?_⟩
      rw [(hnodup vs).mpr hnames]

/-- The settings are checked one by one. -/
theorem checkSettings_eq_ok_iff {es : Entries} {s : Settings} :
    checkSettings es = .ok s ↔
      Settled (es.get? "templates") {} checkTemplates s.templates ∧
      Settled (es.get? "context") true checkContext s.includeMetadata ∧
      Settled (es.get? "variables") [] checkVariables s.computed ∧
      Settled (es.get? "workers") 4 (checkWhole 1 64) s.workers ∧
      Settled (es.get? "verbosity") .warning checkVerbosity s.verbosity := by
  simp only [checkSettings, map_eq_ok_iff, Prod.exists, both_eq_ok_iff,
    Entries.optional_eq_ok_iff]
  constructor
  · rintro ⟨templates, includeMetadata, computed, workers, verbosity, h, rfl⟩
    exact h
  · intro h
    exact ⟨s.templates, s.includeMetadata, s.computed, s.workers, s.verbosity, h, rfl⟩

end PathTemplates
