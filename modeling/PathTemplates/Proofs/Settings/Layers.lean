import PathTemplates.Proofs.Settings.Faults
import PathTemplates.Settings.Load

/-! # The stages of loading settings

Loading looks for the file that was asked for, reads the project's file and the user's file, takes what
is set in the environment, lays these three layers over one another, and checks the result
(`Settings.load_eq`). Each stage is reached only if those before it succeed. -/

namespace PathTemplates

variable {t : FileTree} {env : Bindings String} {given : Option Path} {es : Entries} {s : Settings}

/-! ## Checking the entries -/

/-- Entries whose names are all texts. -/
def Entries.HasTextNames (es : Entries) : Prop := ∀ entry ∈ es, ∃ name, entry.1 = .text name

/-- Entries whose names are texts are checked; a pattern that is too large counts before anything else,
and otherwise the first problem counts. -/
theorem Settings.ofEntries_eq (h : es.HasTextNames) :
    Settings.ofEntries es = match checkSettings es with
      | .ok s => .ok s
      | .error ps =>
        if ps.any (·.fault == .badPattern .tooLarge) then .error .hugePattern
        else match ps with
          | p :: _ => .error (.config p.toConfigError)
          | [] => .ok {} := by
  refine if_neg ?_
  simp only [Bool.not_eq_true, List.any_eq_false]
  intro entry hentry
  obtain ⟨name, hname⟩ := h entry hentry
  simp [hname]

/-- Entries with a name that is no text are not checked. -/
theorem Settings.ofEntries_of_not_hasTextNames (h : ¬ es.HasTextNames) :
    Settings.ofEntries es = .error .nameNotText := by
  simp only [Entries.HasTextNames, not_forall] at h
  obtain ⟨⟨key, value⟩, hentry, hname⟩ := h
  refine if_pos ?_
  rw [List.any_eq_true]
  refine ⟨(key, value), hentry, ?_⟩
  cases key with
  | text name => exact absurd ⟨name, rfl⟩ hname
  | _ => rfl

/-- Entries give settings exactly if their names are texts and they are accepted. -/
theorem Settings.ofEntries_eq_ok_iff :
    Settings.ofEntries es = .ok s ↔ es.HasTextNames ∧ checkSettings es = .ok s := by
  by_cases h : es.HasTextNames
  · rw [ofEntries_eq h]
    cases hcheck : checkSettings es with
    | ok s' => simp [h]
    | error ps =>
      cases ps with
      | nil => exact absurd hcheck explained_checkSettings
      | cons p rest =>
        simp only [reduceCtorEq, and_false, iff_false]
        split <;> simp
  · simp [ofEntries_of_not_hasTextNames h, h]

/-! ## The layers -/

/-- What the three sources of settings hold. -/
structure Layers where
  /-- What is set in the environment. -/
  environment : Entries
  /-- What is in the project's file, or in the one that was asked for. -/
  project : Entries
  /-- What is in the user's file. -/
  user : Entries

namespace Layers

/-- The layers, the uppermost first. -/
def sources (l : Layers) : List Entries := [l.environment, l.project, l.user]

/-- The layers laid over one another. -/
def merged (l : Layers) : Entries := overlayAll l.sources

/-- What the sources hold in fact. -/
structure ReadFrom (l : Layers) (t : FileTree) (env : Bindings String) (given : Option Path) : Prop where
  /-- A file that was asked for is there. -/
  found : ∀ p, given = some p → fileExists t p = .ok true
  /-- The project's file is read. -/
  project_eq : (fileSettings t (given.getD (projectPath t))).1 = .ok l.project
  /-- The user's file is read. -/
  user_eq : (fileSettings t (userPath t env)).1 = .ok l.user
  /-- The environment is read. -/
  environment_eq : environmentSettings env = .ok l.environment

end Layers

/-- Looks for a file that was asked for. -/
def requireGiven (t : FileTree) : Option Path → Except LoadError Unit
  | none => .ok ()
  | some p => do
    if ← fileExists t p then return
    else throw (.config ⟨"Config file not found: " ++ p.toString, none, .text p.toString⟩)

/-- A file that was asked for is looked for with success exactly if it is there. -/
theorem requireGiven_eq_ok_iff :
    requireGiven t given = .ok () ↔ ∀ p, given = some p → fileExists t p = .ok true := by
  cases given with
  | none => simp [requireGiven]
  | some p =>
    rw [requireGiven]
    cases hfile : fileExists t p with
    | error e => simp [hfile]
    | ok present => cases present <;> simp [hfile, throw, throwThe, MonadExceptOf.throw]

/-- A file whose path cannot be looked up is not read. -/
theorem fileSettings_of_fileExists_eq_error {p : Path} {e : LoadError} (h : fileExists t p = .error e) :
    (fileSettings t p).1 = .error e := by
  simp only [fileSettings, h]

/-- The sources are read one after the other, and the layers over one another are checked. -/
theorem gatherSettings_bind_ofEntries (project : Path) :
    (gatherSettings t env project []).1.bind Settings.ofEntries = (do
      let project ← (fileSettings t project).1
      let user ← (fileSettings t (userPath t env)).1
      let environment ← environmentSettings env
      Settings.ofEntries (Layers.merged ⟨environment, project, user⟩)) := by
  rw [gatherSettings]
  obtain ⟨ofProject, projectEvents⟩ := fileSettings t project
  obtain ⟨ofUser, userEvents⟩ := fileSettings t (userPath t env)
  -- the first source that is not read decides
  cases ofProject with
  | error e => rfl
  | ok ofProject =>
    cases ofUser with
    | error e => rfl
    | ok ofUser =>
      cases environmentSettings env with
      | error e => rfl
      | ok ofEnvironment => rfl

/-- The stages of loading, one after the other. -/
theorem Settings.load_eq : (Settings.load t env given).1 = (do
    requireGiven t given
    let project ← (fileSettings t (given.getD (projectPath t))).1
    let user ← (fileSettings t (userPath t env)).1
    let environment ← environmentSettings env
    Settings.ofEntries (Layers.merged ⟨environment, project, user⟩)) := by
  rw [load]
  cases given with
  | none =>
    cases hfile : fileExists t (projectPath t) with
    | error e => simp [hfile, requireGiven, fileSettings_of_fileExists_eq_error hfile]
    | ok present => simp [hfile, requireGiven, gatherSettings_bind_ofEntries]
  | some p =>
    cases hfile : fileExists t p with
    | error e => simp [hfile, requireGiven]
    | ok present =>
      cases present with
      | false => simp [hfile, requireGiven, throw, throwThe, MonadExceptOf.throw]
      | true => simp [hfile, requireGiven, gatherSettings_bind_ofEntries]

end PathTemplates
