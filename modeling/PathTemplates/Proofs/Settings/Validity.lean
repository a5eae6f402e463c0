import PathTemplates.Proofs.Settings.Layers

/-! # Loaded settings can be built from

Settings that are loaded lie within their bounds, and the names of their variables are distinct and can
be written (`Settings.Valid`). So an engine can always be made from them, and the variables of contexts
can be made unless a template among them does not parse; then the first such template is reported
(`Settings.load_builds`). -/

namespace PathTemplates

/-! ## Valid settings -/

/-- A variable that templates can name, and whose pattern, if it has one, can be compiled. -/
inductive VariableSettings.Valid : VariableSettings → Prop
  /-- A variable of a pattern. -/
  | capture {name pattern input : String} {compiled : Pattern.Compiled} (hname : isIdentifier name)
      (hpattern : Pattern.compile pattern = .ok compiled) : Valid (.capture name pattern input)
  /-- A variable of a template. -/
  | template {name value : String} (hname : isIdentifier name) : Valid (.template name value)

/-- A valid variable has a name that templates can write. -/
theorem VariableSettings.Valid.isIdentifier {v : VariableSettings} (h : v.Valid) :
    PathTemplates.isIdentifier v.name := by
  cases h <;> assumption

/-- Settings within their bounds, with distinct valid variables. -/
structure Settings.Valid (s : Settings) : Prop where
  /-- The capacity of the cache is bounded. -/
  capacity_le : s.templates.capacity ≤ 100000
  /-- Something is rendered at a time. -/
  one_le_workers : 1 ≤ s.workers
  /-- What is rendered at a time is bounded. -/
  workers_le : s.workers ≤ 64
  /-- The names of the variables are distinct. -/
  nodup_names : (s.computed.map (·.name)).Nodup
  /-- Each variable is valid. -/
  valid : ∀ v ∈ s.computed, v.Valid

/-- The standard settings are valid. -/
theorem Settings.valid_standard : Settings.Valid {} :=
  ⟨by decide, by decide, by decide, List.nodup_nil, by simp⟩

/-- A property of a setting that the standard value has, and every value that is accepted. -/
theorem Settled.imp {α : Type} {given : Option Data} {standard value : α} {check : Data → Checked α}
    (h : Settled given standard check value) {P : α → Prop} (hstandard : P standard)
    (hcheck : ∀ d, check d = .ok value → P value) : P value := by
  unfold Settled at h
  cases given with
  | none => exact h ▸ hstandard
  | some d => exact hcheck d h

variable {d : Data} {es : Entries} {s : Settings} {v : VariableSettings}

/-- A variable that is accepted is valid. -/
theorem valid_of_checkVariable (h : checkVariable d = .ok v) : v.Valid := by
  obtain ⟨es, -, ⟨-, hcapture⟩ | ⟨-, htemplate⟩⟩ := checkVariable_eq_ok_iff.mp h
  · obtain ⟨name, pattern, input, rfl, ⟨dn, -, hname⟩, ⟨dp, -, hpattern⟩, -⟩ :=
      checkCapture_eq_ok_iff.mp hcapture
    obtain ⟨-, compiled, hcompiled⟩ := checkPattern_eq_ok_iff.mp hpattern
    exact .capture (checkName_eq_ok_iff.mp hname).2 hcompiled
  · obtain ⟨name, value, rfl, ⟨dn, -, hname⟩, -⟩ := checkTemplateVariable_eq_ok_iff.mp htemplate
    exact .template (checkName_eq_ok_iff.mp hname).2

/-- Variables that are accepted are valid and distinct. -/
theorem valid_of_checkVariables {vs : List VariableSettings} (h : checkVariables d = .ok vs) :
    (vs.map (·.name)).Nodup ∧ ∀ v ∈ vs, v.Valid := by
  obtain ⟨items, -, hitems, hnames⟩ := checkVariables_eq_ok_iff.mp h
  refine ⟨hnames, fun v hv => ?_⟩
  obtain ⟨item, -, hitem⟩ := exists_of_forall₂_of_mem hitems hv
  exact valid_of_checkVariable hitem

/-- Settings that are accepted are valid. -/
theorem Settings.valid_of_checkSettings (h : checkSettings es = .ok s) : s.Valid := by
  obtain ⟨htemplates, -, hvariables, hworkers, -⟩ := checkSettings_eq_ok_iff.mp h
  have hcapacity : s.templates.capacity ≤ 100000 := by
    refine htemplates.imp (P := fun t => t.capacity ≤ 100000) (by decide) fun d hd => ?_
    obtain ⟨inner, -, hsize, -⟩ := checkTemplates_eq_ok_iff.mp hd
    exact hsize.imp (P := (· ≤ 100000)) (by decide) fun d hd => (checkWhole_eq_ok_iff.mp hd).2.2
  have hbounds : 1 ≤ s.workers ∧ s.workers ≤ 64 :=
    hworkers.imp (P := fun n => 1 ≤ n ∧ n ≤ 64) (by decide) fun d hd => (checkWhole_eq_ok_iff.mp hd).2
  have hcomputed : (s.computed.map (·.name)).Nodup ∧ ∀ v ∈ s.computed, v.Valid :=
    hvariables.imp (P := fun vs => (vs.map (·.name)).Nodup ∧ ∀ v ∈ vs, v.Valid)
      (by simp) fun d hd => valid_of_checkVariables hd
  exact ⟨hcapacity, hbounds.1, hbounds.2, hcomputed.1, hcomputed.2⟩

/-- Settings that are loaded are valid. -/
theorem Settings.valid_of_load {t : FileTree} {env : Bindings String} {given : Option Path}
    (h : (Settings.load t env given).1 = .ok s) : s.Valid := by
  simp only [load_eq, bind_eq_ok_iff] at h
  obtain ⟨-, -, project, -, user, -, environment, -, hentries⟩ := h
  exact valid_of_checkSettings (ofEntries_eq_ok_iff.mp hentries).2

/-! ## Building from settings -/

/-- An engine with the functions of a registry as the settings want it, made with a cache whose capacity
is looked at. -/
def Settings.engine? (s : Settings) (r : Registry) : Except CacheError Engine := do
  let cache ← Cache.ofCapacity? s.templates.capacity
  return .new r cache s.templates.strict

/-- The template of a variable. -/
def VariableSettings.source : VariableSettings → String
  | capture _ _ input => input
  | template _ value => value

/-- The variable that settings describe: it has their name, their compiled pattern and their parsed
template. -/
inductive VariableSettings.Describes : VariableSettings → Variable → Prop
  /-- A variable of a pattern. -/
  | capture {name pattern input : String} {compiled : Pattern.Compiled} {t : Template}
      (hpattern : Pattern.compile pattern = .ok compiled) (hinput : Template.parse input = .ok t) :
      Describes (.capture name pattern input) (.capture name compiled t)
  /-- A variable of a template. -/
  | template {name value : String} {t : Template} (hvalue : Template.parse value = .ok t) :
      Describes (.template name value) (.template name t)

namespace VariableSettings

/-- Settings give the variable that they describe. -/
theorem toVariable_eq_ok_iff {x : Variable} : v.toVariable = .ok x ↔ v.Describes x := by
  cases v with
  | capture name pattern input =>
    rw [toVariable, Variable.ofPattern]
    constructor
    · intro h
      cases hpattern : Pattern.compile pattern with
      | error e => simp [hpattern] at h
      | ok compiled =>
        cases hinput : Template.parse input with
        | error e => simp [hpattern, hinput] at h
        | ok t =>
          obtain rfl : Variable.capture name compiled t = x := by simpa [hpattern, hinput] using h
          exact .capture hpattern hinput
    · rintro (⟨hpattern, hinput⟩ | _)
      simp [hpattern, hinput]
  | template name value =>
    rw [toVariable, Variable.ofTemplate]
    constructor
    · intro h
      cases hvalue : Template.parse value with
      | error e => simp [hvalue] at h
      | ok t =>
        obtain rfl : Variable.template name t = x := by simpa [hvalue] using h
        exact .template hvalue
    · rintro (_ | hvalue)
      simp [hvalue]

/-- Valid settings fail to give a variable exactly if their template does not parse. -/
theorem Valid.toVariable_eq_error_iff (h : v.Valid) {e : VariableError} :
    v.toVariable = .error e ↔ ∃ err, Template.parse v.source = .error err ∧ e = .template err := by
  cases h with
  | @capture name pattern input compiled hname hpattern =>
    rw [toVariable, Variable.ofPattern, hpattern, source]
    cases Template.parse input <;> simp [eq_comm]
  | @template name value hname =>
    rw [toVariable, Variable.ofTemplate, source]
    cases Template.parse value <;> simp [eq_comm]

/-- Valid settings give a variable exactly if their template parses. -/
theorem Valid.exists_toVariable_iff (h : v.Valid) :
    (∃ x, v.toVariable = .ok x) ↔ ∃ t, Template.parse v.source = .ok t := by
  cases h with
  | @capture name pattern input compiled hname hpattern =>
    rw [toVariable, Variable.ofPattern, hpattern, source]
    cases Template.parse input <;> simp
  | @template name value hname =>
    rw [toVariable, Variable.ofTemplate, source]
    cases Template.parse value <;> simp

end VariableSettings

/-- Contexts can be built with the variables that the settings describe, in their order. -/
theorem Settings.factory_eq_ok_iff {r : Registry} {f : ContextFactory} :
    s.factory r = .ok f ↔ f.registry = r ∧ f.includeMetadata = s.includeMetadata ∧
      List.Forall₂ VariableSettings.Describes s.computed f.computed := by
  simp only [factory, bind_eq_ok_iff, mapM_eq_ok_iff, VariableSettings.toVariable_eq_ok_iff,
    pure_eq_ok, Except.ok.injEq]
  constructor
  · rintro ⟨computed, hcomputed, rfl⟩
    exact ⟨rfl, rfl, hcomputed⟩
  · rintro ⟨rfl, hmetadata, hcomputed⟩
    exact ⟨f.computed, hcomputed, by rw [← hmetadata]⟩

/-- Contexts cannot be built from valid settings exactly if a template of a variable does not parse; the
first one is reported. -/
theorem Settings.Valid.factory_eq_error_iff (h : s.Valid) {r : Registry} {e : VariableError} :
    s.factory r = .error e ↔ ∃ before v after err, s.computed = before ++ v :: after ∧
      (∀ b ∈ before, ∃ t, Template.parse b.source = .ok t) ∧
      Template.parse v.source = .error err ∧ e = .template err := by
  have hfactory : s.factory r = .error e ↔ s.computed.mapM (·.toVariable) = .error e := by
    simp [factory, bind_eq_error_iff]
  rw [hfactory, mapM_eq_error_iff]
  constructor
  · rintro ⟨before, v, after, heq, hbefore, hv⟩
    have hvalid (b : VariableSettings) (hb : b ∈ before ++ v :: after) : b.Valid :=
      h.valid b (heq ▸ hb)
    -- a valid variable fails for its template only
    obtain ⟨err, herr, rfl⟩ := (hvalid v (by simp)).toVariable_eq_error_iff.mp hv
    refine ⟨before, v, after, err, heq, fun b hb => ?_, herr, rfl⟩
    exact (hvalid b (List.mem_append_left _ hb)).exists_toVariable_iff.mp (hbefore b hb)
  · rintro ⟨before, v, after, err, heq, hbefore, herr, rfl⟩
    have hvalid (b : VariableSettings) (hb : b ∈ before ++ v :: after) : b.Valid :=
      h.valid b (heq ▸ hb)
    refine ⟨before, v, after, heq, fun b hb => ?_,
      (hvalid v (by simp)).toVariable_eq_error_iff.mpr ⟨err, herr, rfl⟩⟩
    exact (hvalid b (List.mem_append_left _ hb)).exists_toVariable_iff.mpr (hbefore b hb)

/-- Settings that are loaded are valid: the capacity of the cache and the number of workers lie within
their bounds, the names of the variables are distinct and can be written, and every pattern can be
compiled. So an engine is always made from them, with that capacity. Contexts can be built with exactly
the variables that are described, in their order, or a template of a variable does not parse; then the
error is that of the first such template, and never one of a pattern. -/
theorem Settings.load_builds {t : FileTree} {env : Bindings String} {given : Option Path}
    (h : (Settings.load t env given).1 = .ok s) (r : Registry) :
    s.Valid ∧
    s.engine? r = .ok (s.engine r) ∧
    (∀ f, s.factory r = .ok f ↔ f.registry = r ∧ f.includeMetadata = s.includeMetadata ∧
      List.Forall₂ VariableSettings.Describes s.computed f.computed) ∧
    (∀ e, s.factory r = .error e ↔ ∃ before v after err, s.computed = before ++ v :: after ∧
      (∀ b ∈ before, ∃ t, Template.parse b.source = .ok t) ∧
      Template.parse v.source = .error err ∧ e = .template err) := by
  have hvalid : s.Valid := valid_of_load h
  have hcache : Cache.ofCapacity? (s.templates.capacity : Int) =
      .ok (Cache.ofCapacity s.templates.capacity) := by
    have hnonneg : ¬ (s.templates.capacity : Int) < 0 := by omega
    rw [Cache.ofCapacity?, if_neg hnonneg, Int.toNat_natCast]
  refine ⟨hvalid, ?_, fun f => factory_eq_ok_iff, fun e => hvalid.factory_eq_error_iff⟩
  rw [engine?, hcache]
  rfl

/-- A working directory without files. -/
def emptyDirectory : FileTree := ⟨.ofString "/work", "/root", []⟩

/-- Two variables in the environment; the template of the second has no end. -/
def unclosedLabel : Bindings String :=
  [("FILESORT_VARIABLES",
    "[\x7b\"kind\": \"regex\", \"name\": \"show\", \"pattern\": \"(?P<title>.+)\"\x7d, " ++
      "\x7b\"kind\": \"template\", \"name\": \"label\", \"value\": \"\x7b\x7b\"\x7d]")]

/-- Variables that are loaded from the environment are valid, an engine is made, and the template without
an end is reported. -/
theorem Settings.load_builds_unclosed :
    let s : Settings := { computed := [.capture "show" "(?P<title>.+)" Variable.defaultInput,
      .template "label" "\x7b\x7b"] }
    (Settings.load emptyDirectory unclosedLabel none).1 = .ok s ∧ s.Valid ∧
      s.engine? Builtin.registry = .ok (s.engine Builtin.registry) ∧
      ∃ err, s.factory Builtin.registry = .error (.template err) := by
  intro s
  have hload : (Settings.load emptyDirectory unclosedLabel none).1 = .ok s :=
    eq_ok_of_toOption (by decide +kernel)
  obtain ⟨hvalid, hengine, -, herror⟩ := load_builds hload Builtin.registry
  refine ⟨hload, hvalid, hengine, ?_⟩
  have hshow : (Template.parse Variable.defaultInput).toOption.isSome := by decide +kernel
  have hlabel : (Template.parse "\x7b\x7b").toOption = none := by decide +kernel
  obtain ⟨t, ht⟩ := Option.isSome_iff_exists.mp hshow
  cases hparse : Template.parse "\x7b\x7b" with
  | ok t => simp [hparse, Except.toOption] at hlabel
  | error err =>
    refine ⟨err, (herror _).mpr ⟨[_], _, [], err, rfl, fun b hb => ⟨t, ?_⟩, hparse, rfl⟩⟩
    rw [List.mem_singleton.mp hb]
    exact eq_ok_of_toOption ht

end PathTemplates
