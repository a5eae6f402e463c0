import PathTemplates.Cli.Run
import PathTemplates.Proofs.Batch
import PathTemplates.Proofs.Resource
import PathTemplates.Proofs.Session

/-! # Every file is reported by itself

Rendering a template for some files gives what rendering it for each of them alone gives
(`renderPaths_eq_mapM`): a context that cannot be built fails where it stands, and the others take the
outcomes of rendering them together in the right order. This rests on functions from which nothing
escapes, as the built-in ones are. Only a path that a run cannot deal with at all ends it for the others
too (`render_reports_each`). -/

namespace PathTemplates.Cli

/-! ## One file -/

/-- A path that a run can deal with: it holds no null character, and the time of what is there has a date
if it is looked up. -/
structure Session.Handles (s : Session) (path : Path) : Prop where
  /-- The path can be looked up. -/
  noNull : s.files.find path ≠ .error .nullCharacter
  /-- The time of what is there has a date. -/
  dated : s.settings.includeMetadata → ∀ node, s.files.find path = .ok node →
    Moment.HasDate (modifiedSecond node.status.modified)

/-- The attempt at a resource that has been prepared. -/
def attemptOf (e : Engine) (t : Template) : Prepared → Attempt
  | (label, .ok c) => e.renderOne t label c
  | (label, .error info) => .ok ⟨label, .error info⟩

/-- The outcome for a file by itself, or the error that ends the run. -/
def outcomeAlone (s : Session) (e : Engine) (f : ContextFactory) (t : Template) (root : Option Path)
    (extra : List (String × Datum)) (path : String) : Except Fatal Outcome :=
  (prepareOne s f t root extra path).1 >>= fun one => (attemptOf e t one).mapError .escape

section

variable {s : Session} {e : Engine} {f : ContextFactory} {t : Template} {root : Option Path}
  {extra : List (String × Datum)} {path : String} {paths : List String}

/-- At a path without null characters, what a run can deal with is what the size and time can be told or
are passed over for. -/
theorem exists_metadataOf_iff {p : Path} (hf : f.includeMetadata = s.settings.includeMetadata)
    (hnull : s.files.find p ≠ .error .nullCharacter) :
    (∃ v, f.metadataOf s.files p = .ok v) ↔ s.Handles p := by
  have hvalues := Resource.exists_metadataValues_iff.trans (and_iff_right hnull)
  have hhandles : s.Handles p ↔ (s.settings.includeMetadata → ∀ node, s.files.find p = .ok node →
      Moment.HasDate (modifiedSecond node.status.modified)) :=
    ⟨fun h => h.dated, fun hdated => ⟨hnull, hdated⟩⟩
  rw [hhandles, ContextFactory.metadataOf, hf]
  cases s.settings.includeMetadata with
  | true => simpa using hvalues
  | false => simp

/-- A file that a run can deal with is prepared under the text of its path. -/
theorem exists_prepareOne_eq (hfunctions : f.registry.NothingEscapes)
    (hf : f.includeMetadata = s.settings.includeMetadata)
    (hextra : ∀ entry ∈ extra, ∃ v, entry.2.toValue = .ok v) (h : s.Handles (.ofString path)) :
    ∃ built, (prepareOne s f t root extra path).1 = .ok ((Path.ofString path).toString, built) := by
  obtain ⟨v, hv⟩ := (exists_metadataOf_iff hf h.noNull).mpr h
  obtain ⟨c, hbuilt⟩ := ContextFactory.exists_build_eq (r := ⟨.ofString path, root⟩) hv hextra
  cases hbound : ContextFactory.bindAll f.registry c f.computed with
  | ok c => exact ⟨.ok c, by simp only [prepareOne, hbuilt, hbound, mapError_ok]⟩
  | error failure =>
    obtain ⟨err, rfl⟩ := (ContextFactory.neverEscapes_bindAll hfunctions c f.computed).exists_raised hbound
    obtain ⟨info, hinfo⟩ : ∃ info, refuse t (.evaluation (.raised err)) = .ok info := ⟨_, rfl⟩
    exact ⟨.error info, by simp only [prepareOne, hbuilt, hbound, mapError_error, hinfo]⟩

/-- A resource that has been prepared has an outcome, under its label. -/
theorem exists_attemptOf_eq (he : e.registry.NothingEscapes) (one : Prepared) :
    ∃ o, attemptOf e t one = .ok o ∧ o.label = one.1 := by
  obtain ⟨label, info | c⟩ := one
  · exact ⟨_, rfl, rfl⟩
  · exact Engine.exists_renderOne_eq label (t.neverEscapes_render he c)

/-- A file that a run can deal with has an outcome of its own, under the text of its path. -/
theorem exists_outcomeAlone (he : e.registry.NothingEscapes) (hfunctions : f.registry.NothingEscapes)
    (hf : f.includeMetadata = s.settings.includeMetadata)
    (hextra : ∀ entry ∈ extra, ∃ v, entry.2.toValue = .ok v) (h : s.Handles (.ofString path)) :
    ∃ o, outcomeAlone s e f t root extra path = .ok o ∧ o.label = (Path.ofString path).toString := by
  obtain ⟨built, hbuilt⟩ := exists_prepareOne_eq hfunctions hf hextra h
  obtain ⟨o, ho, hlabel⟩ := exists_attemptOf_eq (t := t) he ((Path.ofString path).toString, built)
  exact ⟨o, by rw [outcomeAlone, hbuilt, ok_bind, ho, mapError_ok], hlabel⟩

/-- A file that a run cannot deal with, and whose path holds no null character, ends it. -/
theorem exists_outcomeAlone_eq_error (hf : f.includeMetadata = s.settings.includeMetadata)
    (hnull : s.files.find (.ofString path) ≠ .error .nullCharacter)
    (h : ¬ s.Handles (.ofString path)) :
    ∃ err, outcomeAlone s e f t root extra path = .error err := by
  cases hmetadata : f.metadataOf s.files (.ofString path) with
  | ok v => exact absurd ((exists_metadataOf_iff hf hnull).mp ⟨v, hmetadata⟩) h
  | error err =>
    have hbuilt : (f.build s.files ⟨.ofString path, root⟩ extra).1 = .error (.file err) :=
      ContextFactory.build_of_metadataOf_eq_error hmetadata
    refine ⟨.file err, ?_⟩
    simp only [outcomeAlone, prepareOne, hbuilt, mapError_error, refuse, error_bind]

/-! ## Several files -/

/-- Every file is prepared by itself. -/
theorem prepare_eq_mapM : (prepare s f t root extra paths).1 =
    paths.mapM fun path => (prepareOne s f t root extra path).1 := by
  induction paths with
  | nil => rfl
  | cons path rest ih =>
    rw [List.mapM_cons, ← ih, prepare]
    rcases prepareOne s f t root extra path with ⟨err | one, events⟩
    · rfl
    · rcases prepare s f t root extra rest with ⟨err | others, more⟩ <;> rfl

/-- The outcomes of rendering together are put where their files stand. -/
theorem assemble_renderMany (e : Engine) (t : Template) (prepared : List Prepared) :
    (e.renderMany t (pending prepared)).map (assemble prepared) = prepared.mapM (attemptOf e t) := by
  induction prepared with
  | nil => rfl
  | cons one rest ih =>
    rw [List.mapM_cons, ← ih]
    obtain ⟨label, info | c⟩ := one
    · -- a context that could not be built takes no outcome from the others
      show (e.renderMany t (pending rest)).map _ = _
      rw [attemptOf, ok_bind]
      cases e.renderMany t (pending rest) <;> rfl
    · show (e.renderMany t ((label, c) :: pending rest)).map _ = _
      rw [Engine.renderMany_cons, attemptOf]
      cases e.renderOne t label c with
      | error x => rfl
      | ok o => cases e.renderMany t (pending rest) <;> rfl

/-- Rendering for some files is rendering for each of them, if nothing escapes from the functions. -/
theorem renderPaths_eq_mapM (he : e.registry.NothingEscapes) (s : Session) (f : ContextFactory)
    (t : Template) (root : Option Path) (extra : List (String × Datum)) (paths : List String) :
    (renderPaths s e f t root extra paths).1 = paths.mapM (outcomeAlone s e f t root extra) := by
  choose outcome houtcome _ using fun one => exists_attemptOf_eq (t := t) he one
  have hmap : paths.mapM (outcomeAlone s e f t root extra) =
      (prepare s f t root extra paths).1.map (List.map outcome) := by
    have halone (path : String) : outcomeAlone s e f t root extra path =
        (prepareOne s f t root extra path).1.map outcome := by
      rw [outcomeAlone]
      cases (prepareOne s f t root extra path).1 with
      | error err => rfl
      | ok one => rw [ok_bind, houtcome, mapError_ok, map_ok]
    rw [prepare_eq_mapM, funext halone]
    exact mapM_map_eq _ _ _
  rw [hmap, renderPaths]
  rcases prepare s f t root extra paths with ⟨err | prepared, events⟩
  · rfl
  · have hrendered : (e.renderMany t (pending prepared)).map (assemble prepared) =
        .ok (prepared.map outcome) := by
      rw [assemble_renderMany, funext houtcome]
      exact List.mapM_pure
    obtain ⟨outcomes, houtcomes, hassembled⟩ := map_eq_ok_iff.mp hrendered
    simp only [houtcomes, mapError_ok, map_ok, hassembled]

end

/-! ## What a run prints -/

/-- A run that reports on files: outputs in order on one side, errors in order on the other, and a code
that says whether any file failed. -/
structure Reports (r : Result) (single : Bool) (outcomes : List Outcome) : Prop where
  /-- The outputs are printed, each after its label unless it stands alone. -/
  out_eq : r.out = outcomeLines single outcomes
  /-- The errors are printed, each after its label. -/
  err_eq : r.err = failureLines outcomes
  /-- The run fails exactly if a file does. -/
  exitCode_eq_one_iff : r.exitCode = 1 ↔ ∃ o ∈ outcomes, o.error?.isSome
  /-- It does not fail in another way. -/
  exitCode_le : r.exitCode ≤ 1
  /-- There is a report. -/
  fatal_eq : r.fatal = none

/-- A run that ends before it reports on any file. -/
structure Aborts (r : Result) : Prop where
  /-- The run fails. -/
  exitCode_eq : r.exitCode = 1
  /-- No output is printed. -/
  out_eq : r.out = ""
  /-- No error is printed. -/
  err_eq : r.err = ""
  /-- There is no report. -/
  isSome_fatal : r.fatal.isSome

/-- No outcome failed exactly if there are no failures. -/
theorem failures_eq_zero_iff {outcomes : List Outcome} :
    failures outcomes = 0 ↔ ∀ o ∈ outcomes, ¬ o.error?.isSome := by
  simp [failures, List.filterMap_eq_nil_iff]

/-- The run for some outcomes reports on them. -/
theorem reports_ofOutcomes (single : Bool) (outcomes : List Outcome) :
    Reports (.ofOutcomes single outcomes) single outcomes where
  out_eq := rfl
  err_eq := rfl
  exitCode_eq_one_iff := by
    by_cases hzero : failures outcomes = 0
    · simpa [Result.ofOutcomes, hzero] using failures_eq_zero_iff.mp hzero
    · have hsome := mt failures_eq_zero_iff.mpr hzero
      push Not at hsome
      simpa [Result.ofOutcomes, hzero] using hsome
  exitCode_le := by
    simp only [Result.ofOutcomes]
    split <;> omega
  fatal_eq := rfl

/-- Records before records. -/
theorem after_after (before records : List Log.Record) (r : Result) :
    (r.after records).after before = r.after (before ++ records) := by
  simp [Result.after]

/-- What is reported before does not change what a run prints. -/
theorem Reports.after {r : Result} {single : Bool} {outcomes : List Outcome}
    (h : Reports r single outcomes) (records : List Log.Record) :
    Reports (r.after records) single outcomes :=
  ⟨h.out_eq, h.err_eq, h.exitCode_eq_one_iff, h.exitCode_le, h.fatal_eq⟩

/-- What is reported before does not save a run. -/
theorem Aborts.after {r : Result} (h : Aborts r) (records : List Log.Record) :
    Aborts (r.after records) :=
  ⟨h.exitCode_eq, h.out_eq, h.err_eq, h.isSome_fatal⟩

/-- An error without a report ends a run. -/
theorem aborts_aborted (err : Fatal) : Aborts (.aborted err) := ⟨rfl, rfl, rfl, rfl⟩

/-! ## The command -/

/-- The engine compiles a text that parses, as far as the functions pass. -/
theorem compile_engine_eq (s : Session) (text : String) :
    (s.engine.compile text).1 = match Template.parse text with
      | .ok t => s.engine.checkFunctions t
      | .error err => .error (.parse err) :=
  (Engine.Serves.new Builtin.registry s.settings.templates.capacity
    s.settings.templates.strict).compile_eq text

/-- A command line that asks for no description and whose options pass. -/
structure Understood (s : Session) (p : Parsed) : Prop where
  /-- No description is asked for. -/
  informs?_eq : p.informs? = none
  /-- The values of options pass. -/
  checkOptions_eq : checkOptions s.files p = .ok ()

/-- A command line with a template that can be rendered for files: its extra variables, the template and
the variables of the settings can be read. -/
structure Accepts (s : Session) (p : Parsed) (template : String) (extra : Bindings String)
    (t : Template) (f : ContextFactory) : Prop extends Understood s p where
  /-- The extra variables have names and values. -/
  readOverrides_eq : readOverrides (p.values "--set") = .ok extra
  /-- The template compiles. -/
  compile_eq : (s.engine.compile template).1 = .ok t
  /-- The variables of the settings compile. -/
  factory_eq : s.settings.factory s.engine.registry = .ok f

/-- The outcome for a file by itself with the options of a command line. -/
def Session.alone (s : Session) (p : Parsed) (template : String) (extra : Bindings String)
    (t : Template) (f : ContextFactory) (path : String) : Except Fatal Outcome :=
  outcomeAlone s (s.engine.compile template).2.1 f t (root? p) (overrideData extra) path

/-- The data of extra variables are values. -/
theorem exists_toValue_of_mem_overrideData {extra : Bindings String} {entry : String × Datum}
    (h : entry ∈ overrideData extra) : ∃ v, entry.2.toValue = .ok v := by
  obtain ⟨⟨name, v⟩, -, rfl⟩ := List.mem_map.mp h
  exact ⟨.text v, rfl⟩

/-- The factory of the settings has the functions that it is made with. -/
theorem nothingEscapes_of_factory {s : Session} {f : ContextFactory}
    (h : s.settings.factory s.engine.registry = .ok f) : f.registry.NothingEscapes := by
  obtain ⟨computed, -, hf⟩ := bind_eq_ok_iff.mp h
  obtain rfl := Except.ok.inj hf
  exact Builtin.nothingEscapes_registry

/-- The factory of the settings looks up what the settings want. -/
theorem includeMetadata_of_factory {r : Registry} {settings : Settings} {f : ContextFactory}
    (h : settings.factory r = .ok f) : f.includeMetadata = settings.includeMetadata := by
  obtain ⟨computed, -, hf⟩ := bind_eq_ok_iff.mp h
  obtain rfl := Except.ok.inj hf
  rfl

namespace Accepts

variable {s : Session} {p : Parsed} {template path : String} {paths : List String}
  {extra : Bindings String} {t : Template} {f : ContextFactory}

/-- A file that the run can deal with has an outcome, under the text of its path. -/
theorem exists_alone (h : Accepts s p template extra t f) (hpath : s.Handles (.ofString path)) :
    ∃ o, s.alone p template extra t f path = .ok o ∧ o.label = (Path.ofString path).toString :=
  exists_outcomeAlone Builtin.nothingEscapes_registry (nothingEscapes_of_factory h.factory_eq)
    (includeMetadata_of_factory h.factory_eq) (fun _ => exists_toValue_of_mem_overrideData) hpath

/-- Files that the run can deal with have one outcome each. -/
theorem exists_forall₂_alone (h : Accepts s p template extra t f)
    (hall : ∀ path ∈ paths, s.Handles (.ofString path)) : ∃ outcomes,
      List.Forall₂ (fun path o => s.alone p template extra t f path = .ok o) paths outcomes := by
  have hpair (path : String) (hpath : path ∈ paths) :
      ∃ o, s.alone p template extra t f path = .ok o :=
    (h.exists_alone (hall path hpath)).imp fun _ => And.left
  obtain ⟨outcomes, hmapM⟩ := exists_mapM_eq_ok_iff.mpr hpair
  exact ⟨outcomes, mapM_eq_ok_iff.mp hmapM⟩

/-- A file that the run cannot deal with has none. -/
theorem exists_alone_eq_error (h : Accepts s p template extra t f)
    (hnull : s.files.find (.ofString path) ≠ .error .nullCharacter)
    (hpath : ¬ s.Handles (.ofString path)) :
    ∃ err, s.alone p template extra t f path = .error err :=
  exists_outcomeAlone_eq_error (includeMetadata_of_factory h.factory_eq) hnull hpath

/-- Rendering reports on the files or is ended by one of them. -/
theorem exists_runRender_eq (h : Accepts s p template extra t f)
    (hargs : p.arguments = template :: paths) :
    ∃ records, runRender s p = Result.after records
      (match paths.mapM (s.alone p template extra t f) with
      | .error err => .aborted err
      | .ok outcomes => .ofOutcomes (paths.length == 1) outcomes) := by
  have hregistry : (s.engine.compile template).2.1.registry = s.engine.registry := rfl
  have hrendered : (renderPaths s (s.engine.compile template).2.1 f t (root? p)
      (overrideData extra) paths).1 = paths.mapM (s.alone p template extra t f) :=
    renderPaths_eq_mapM Builtin.nothingEscapes_registry ..
  simp only [runRender, h.readOverrides_eq, hargs, List.headD_cons, List.drop_succ_cons,
    List.drop_zero, h.compile_eq, hregistry, h.factory_eq, hrendered]
  cases paths.mapM (s.alone p template extra t f) with
  | error err => exact ⟨_, after_after ..⟩
  | ok outcomes => exact ⟨_, after_after ..⟩

end Accepts

/-! ## The command line -/

/-- A path passes unless it holds a null character. -/
theorem checkValue_path_eq_ok_iff {files : FileTree} {hint value : String} :
    checkValue files hint .path value = .ok () ↔
      files.find (.ofString value) ≠ .error .nullCharacter := by
  rw [checkValue]
  cases files.find (.ofString value) with
  | error e => cases e <;> simp
  | ok node => cases node <;> simp

/-- A path that does not pass holds a null character. -/
theorem eq_of_checkValue_path {files : FileTree} {hint value : String} {e : ArgumentError}
    (h : checkValue files hint .path value = .error e) : e = .path .nullCharacter := by
  rw [checkValue] at h
  cases hfind : files.find (.ofString value) with
  | error fault => cases fault <;> simp_all
  | ok node => cases node <;> simp_all

namespace Understood

variable {s : Session} {p : Parsed} {template path : String} {paths : List String}

/-- A command line with files passes as far as each path passes. -/
theorem checkParsed_eq (h : Understood s p) (hargs : p.arguments = template :: paths)
    (hpaths : paths ≠ []) :
    checkParsed s.files renderCommand p = paths.forM (checkValue s.files "" .path) := by
  have hmixed : renderCommand.mixed = true := rfl
  have harguments : renderCommand.arguments = [templateArgument, ⟨"PATHS...", true, .path⟩] := rfl
  have hone : templateArgument.many = false := rfl
  have htemplate : checkValue s.files "" templateArgument.value template = .ok () := rfl
  obtain ⟨path, rest, rfl⟩ := List.exists_cons_of_ne_nil hpaths
  rw [checkParsed, h.checkOptions_eq, ok_bind, if_pos hmixed, hargs, harguments]
  simp only [checkArguments, hone, htemplate, ok_bind, Bool.false_eq_true, if_false, if_true]

/-- Files at paths without null characters are rendered. -/
theorem runParsed_eq (h : Understood s p) (hargs : p.arguments = template :: paths)
    (hpaths : paths ≠ [])
    (hnull : ∀ path ∈ paths, s.files.find (.ofString path) ≠ .error .nullCharacter) :
    runParsed s renderCommand p = runRender s p := by
  have hcheck : checkParsed s.files renderCommand p = .ok () := by
    rw [h.checkParsed_eq hargs hpaths, forM_eq_ok_iff]
    exact fun path hpath => checkValue_path_eq_ok_iff.mpr (hnull path hpath)
  rw [runParsed, h.informs?_eq, hcheck]
  rfl

/-- A path with a null character ends the run. -/
theorem aborts_of_nullCharacter (h : Understood s p) (hargs : p.arguments = template :: paths)
    (hpath : path ∈ paths) (hnull : s.files.find (.ofString path) = .error .nullCharacter) :
    Aborts (runParsed s renderCommand p) := by
  have hcheck : checkParsed s.files renderCommand p = .error (.path .nullCharacter) := by
    rw [h.checkParsed_eq hargs (List.ne_nil_of_mem hpath)]
    cases hforM : paths.forM (checkValue s.files "" .path) with
    | ok => exact absurd hnull (checkValue_path_eq_ok_iff.mp (forM_eq_ok_iff.mp hforM path hpath))
    | error e =>
      obtain ⟨other, -, he⟩ := exists_eq_error_of_forM hforM
      rw [eq_of_checkValue_path he]
  rw [runParsed, h.informs?_eq, hcheck]
  exact aborts_aborted (.file .nullCharacter)

end Understood

namespace Accepts

variable {s : Session} {p : Parsed} {template path : String} {paths : List String}
  {extra : Bindings String} {t : Template} {f : ContextFactory} {outcomes : List Outcome}

/-- A run reports on its files if each has an outcome. -/
theorem reports_of_forall₂ (h : Accepts s p template extra t f)
    (hargs : p.arguments = template :: paths) (hpaths : paths ≠ [])
    (hnull : ∀ path ∈ paths, s.files.find (.ofString path) ≠ .error .nullCharacter)
    (houtcomes : List.Forall₂ (fun path o => s.alone p template extra t f path = .ok o) paths outcomes) :
    Reports (runParsed s renderCommand p) (paths.length == 1) outcomes := by
  obtain ⟨records, hrun⟩ := h.exists_runRender_eq hargs
  rw [h.toUnderstood.runParsed_eq hargs hpaths hnull, hrun, mapM_eq_ok_iff.mpr houtcomes]
  exact (reports_ofOutcomes _ outcomes).after records

/-- A file that the run cannot deal with ends it. -/
theorem aborts_of_not_handles (h : Accepts s p template extra t f)
    (hargs : p.arguments = template :: paths) (hpath : path ∈ paths)
    (hunhandled : ¬ s.Handles (.ofString path)) : Aborts (runParsed s renderCommand p) := by
  by_cases hnull : ∃ path ∈ paths, s.files.find (.ofString path) = .error .nullCharacter
  · obtain ⟨path, hpath, hnull⟩ := hnull
    exact h.toUnderstood.aborts_of_nullCharacter hargs hpath hnull
  · push Not at hnull
    obtain ⟨err, herr⟩ := h.exists_alone_eq_error (hnull path hpath) hunhandled
    obtain ⟨records, hrun⟩ := h.exists_runRender_eq hargs
    rw [h.toUnderstood.runParsed_eq hargs (List.ne_nil_of_mem hpath) hnull, hrun]
    cases hmapM : paths.mapM (s.alone p template extra t f) with
    | error first => exact (aborts_aborted first).after records
    | ok outcomes =>
      obtain ⟨o, ho⟩ := exists_mapM_eq_ok_iff.mp ⟨outcomes, hmapM⟩ path hpath
      rw [herr] at ho
      cases ho

end Accepts

end PathTemplates.Cli
