import PathTemplates.Proofs.Settings.Layers
import PathTemplates.Proofs.Settings.Paths
import PathTemplates.Proofs.Settings.Reading

/-! # Which source decides about a setting

Each setting has the value that the first source gives it among the environment, the project's file and
the user's file, or its standard value if none does (`Settings.Follows`); the other settings of its group
have no part in this. A value under one that is no group has no effect (`Settings.load_precedence`), but
groups are joined across a value that is none: it hides nothing under a group
(`Settings.load_joins_groups`). -/

namespace PathTemplates

variable {t : FileTree} {env : Bindings String} {given : Option Path} {es : Entries} {s : Settings}
  {l : Layers} {path : List String}

/-! ## Settings and their places -/

/-- The data that the first of the layers gives for a setting. -/
def Layers.first (l : Layers) (path : List String) : Option Data :=
  l.sources.findSome? fun es => es.lookup? path

/-- The places of all settings. -/
def settingPaths : List (List String) :=
  [["templates", "cache_size"], ["templates", "strict_functions"], ["context", "include_metadata"],
    ["variables"], ["workers"], ["verbosity"]]

/-- Settings each of which has the value that is found for it, or its standard value. -/
structure Settings.Follows (s : Settings) (found : List String → Option Data) : Prop where
  /-- How many parsed templates are kept. -/
  capacity : Settled (found ["templates", "cache_size"]) 256 (checkWhole 0 100000) s.templates.capacity
  /-- Whether unknown functions are refused. -/
  strict : Settled (found ["templates", "strict_functions"]) false checkTruth s.templates.strict
  /-- Whether contexts hold the size and time of files. -/
  includeMetadata : Settled (found ["context", "include_metadata"]) true checkTruth s.includeMetadata
  /-- The variables of contexts, all together. -/
  computed : Settled (found ["variables"]) [] checkVariables s.computed
  /-- How many resources are rendered at a time. -/
  workers : Settled (found ["workers"]) 4 (checkWhole 1 64) s.workers
  /-- How much is reported. -/
  verbosity : Settled (found ["verbosity"]) .warning checkVerbosity s.verbosity

/-! ## Groups are not single settings -/

/-- A check that no group passes. -/
def RefusesGroups {α : Type} (check : Data → Checked α) : Prop :=
  ∀ es x, check (.mapping es) ≠ .ok x

theorem refusesGroups_checkWhole {least most : Nat} : RefusesGroups (checkWhole least most) := by
  intro es n h
  obtain ⟨hwhole, -⟩ := checkWhole_eq_ok_iff.mp h
  simp [wholeOf] at hwhole

theorem refusesGroups_checkTruth : RefusesGroups checkTruth := by
  intro es b h
  simp [checkTruth, truthOf, Checked.fault] at h

theorem refusesGroups_checkVariables : RefusesGroups checkVariables := by
  intro es vs h
  obtain ⟨items, hitems, -⟩ := checkVariables_eq_ok_iff.mp h
  simp [Data.items?] at hitems

theorem refusesGroups_checkVerbosity : RefusesGroups checkVerbosity := by
  intro es v h
  simp [checkVerbosity, Checked.fault] at h

/-- A setting that has a value is not given by a group. -/
theorem Settled.noGroup {α : Type} {d : Data} {standard value : α} {check : Data → Checked α}
    (h : Settled (d.lookup? path) standard check value) (hcheck : RefusesGroups check) :
    d.NoGroup path := by
  rintro v hv ⟨inner, rfl⟩
  rw [Option.mem_def] at hv
  rw [hv] at h
  exact hcheck inner value h

/-! ## Settings that are accepted -/

/-- A path of one name leads to what is found under it. -/
theorem Entries.lookup?_single {name : String} : es.lookup? [name] = es.get? name := by
  simp [lookup?, Data.lookup?]

/-- A path of two names leads to what is found under the second in the group under the first. -/
theorem Entries.lookup?_of_get?_eq_mapping {inner : Entries} {group name : String}
    (h : es.get? group = some (.mapping inner)) : es.lookup? [group, name] = inner.get? name := by
  simp [lookup?, Data.lookup?, h]

/-- Nothing is found in a group that is missing. -/
theorem Entries.lookup?_of_get?_eq_none {group name : String} (h : es.get? group = none) :
    es.lookup? [group, name] = none := by
  simp [lookup?, Data.lookup?, h]

/-- Settings that are accepted follow the entries. -/
theorem Settings.follows_of_checkSettings (h : checkSettings es = .ok s) :
    s.Follows fun path => es.lookup? path := by
  obtain ⟨htemplates, hcontext, hvariables, hworkers, hverbosity⟩ := checkSettings_eq_ok_iff.mp h
  have htemplate : Settled (es.lookup? ["templates", "cache_size"]) 256 (checkWhole 0 100000)
        s.templates.capacity ∧
      Settled (es.lookup? ["templates", "strict_functions"]) false checkTruth s.templates.strict := by
    cases hget : es.get? "templates" with
    | none =>
      rw [hget] at htemplates
      rw [Entries.lookup?_of_get?_eq_none hget, Entries.lookup?_of_get?_eq_none hget, htemplates]
      exact ⟨rfl, rfl⟩
    | some d =>
      rw [hget] at htemplates
      obtain ⟨inner, rfl, hfields⟩ := checkTemplates_eq_ok_iff.mp htemplates
      rwa [Entries.lookup?_of_get?_eq_mapping hget, Entries.lookup?_of_get?_eq_mapping hget]
  have hmetadata : Settled (es.lookup? ["context", "include_metadata"]) true checkTruth
      s.includeMetadata := by
    cases hget : es.get? "context" with
    | none =>
      rw [hget] at hcontext
      rwa [Entries.lookup?_of_get?_eq_none hget]
    | some d =>
      rw [hget] at hcontext
      obtain ⟨inner, rfl, hfield⟩ := checkContext_eq_ok_iff.mp hcontext
      rwa [Entries.lookup?_of_get?_eq_mapping hget]
  rw [← Entries.lookup?_single] at hvariables hworkers hverbosity
  exact ⟨htemplate.1, htemplate.2, hmetadata, hvariables, hworkers, hverbosity⟩

/-- The place of a setting in a group is open if the group is one. -/
theorem Data.open_of_get? {group name : String} (h : ∀ d, es.get? group = some d → d.IsGroup) :
    (mapping es).Open [group, name] := by
  intro d hd
  obtain ⟨inner, rfl⟩ := h d hd
  exact fun _ _ => trivial

/-- In settings that are accepted, the places of the settings are open and lead to no groups. -/
theorem Settings.open_of_checkSettings (h : checkSettings es = .ok s) (hpath : path ∈ settingPaths) :
    (Data.mapping es).Open path ∧ (Data.mapping es).NoGroup path := by
  have hfollows := follows_of_checkSettings h
  obtain ⟨htemplates, hcontext, -⟩ := checkSettings_eq_ok_iff.mp h
  -- what is not a group in the place of one would not be accepted
  have htemplatesGroup (d : Data) (hd : es.get? "templates" = some d) : d.IsGroup := by
    rw [hd] at htemplates
    obtain ⟨inner, hinner, -⟩ := checkTemplates_eq_ok_iff.mp htemplates
    exact ⟨inner, hinner⟩
  have hcontextGroup (d : Data) (hd : es.get? "context" = some d) : d.IsGroup := by
    rw [hd] at hcontext
    obtain ⟨inner, hinner, -⟩ := checkContext_eq_ok_iff.mp hcontext
    exact ⟨inner, hinner⟩
  have hsingle (name : String) : (Data.mapping es).Open [name] := fun _ _ => trivial
  -- nor would a group in the place of a single setting
  simp only [settingPaths, List.mem_cons, List.not_mem_nil, or_false] at hpath
  rcases hpath with rfl | rfl | rfl | rfl | rfl | rfl
  · exact ⟨Data.open_of_get? htemplatesGroup, hfollows.capacity.noGroup refusesGroups_checkWhole⟩
  · exact ⟨Data.open_of_get? htemplatesGroup, hfollows.strict.noGroup refusesGroups_checkTruth⟩
  · exact ⟨Data.open_of_get? hcontextGroup, hfollows.includeMetadata.noGroup refusesGroups_checkTruth⟩
  · exact ⟨hsingle _, hfollows.computed.noGroup refusesGroups_checkVariables⟩
  · exact ⟨hsingle _, hfollows.workers.noGroup refusesGroups_checkWhole⟩
  · exact ⟨hsingle _, hfollows.verbosity.noGroup refusesGroups_checkVerbosity⟩

/-! ## Layers -/

namespace Layers

/-- The layers that are read are regular. -/
theorem ReadFrom.regular (h : l.ReadFrom t env given) (hes : es ∈ l.sources) :
    (Data.mapping es).Regular := by
  simp only [sources, List.mem_cons, List.not_mem_nil, or_false] at hes
  rcases hes with rfl | rfl | rfl
  · exact regular_of_environmentSettings h.environment_eq
  · exact regular_of_fileSettings h.project_eq
  · exact regular_of_fileSettings h.user_eq

/-- Layers that are read are laid over one another and checked. -/
theorem ReadFrom.load_eq (h : l.ReadFrom t env given) :
    (Settings.load t env given).1 = Settings.ofEntries l.merged := by
  rw [Settings.load_eq, requireGiven_eq_ok_iff.mpr h.found, ok_bind, h.project_eq, ok_bind, h.user_eq,
    ok_bind, h.environment_eq, ok_bind]

/-- Settings that are loaded come from layers that are read. -/
theorem exists_readFrom_of_load (h : (Settings.load t env given).1 = .ok s) :
    ∃ l : Layers, l.ReadFrom t env given ∧ checkSettings l.merged = .ok s := by
  simp only [Settings.load_eq, bind_eq_ok_iff] at h
  obtain ⟨_, hfound, project, hproject, user, huser, environment, henvironment, hentries⟩ := h
  exact ⟨⟨environment, project, user⟩,
    ⟨requireGiven_eq_ok_iff.mp hfound, hproject, huser, henvironment⟩,
    (Settings.ofEntries_eq_ok_iff.mp hentries).2⟩

/-- What is found for a setting in layers that are accepted is what the first of them gives for it. -/
theorem ReadFrom.lookup?_merged (h : l.ReadFrom t env given) (hcheck : checkSettings l.merged = .ok s)
    (hpath : path ∈ settingPaths) : l.merged.lookup? path = l.first path := by
  obtain ⟨hopen, hplain⟩ := Settings.open_of_checkSettings hcheck hpath
  exact Entries.lookup?_overlayAll (fun es hes => h.regular hes) hopen hplain

end Layers

/-- Under a layer that gives a setting, what another layer gives for it has no effect. -/
theorem Layers.ReadFrom.merged_change_setting (h : l.ReadFrom t env given)
    (hcheck : checkSettings l.merged = .ok s) (hpath : path ∈ settingPaths)
    {above between below : List Entries} {higher lower : Entries} {d new : Data}
    (hsources : l.sources = above ++ [higher] ++ between ++ lower :: below)
    (hhigher : higher.lookup? path = some d) :
    overlayAll (above ++ [higher] ++ between ++ lower.change path new :: below) = l.merged := by
  -- the first layer that gives the setting is this one or above it
  have hfound : ((above ++ [higher]).findSome? fun es => es.lookup? path).isSome := by
    rw [List.findSome?_append]
    simp [hhigher]
  obtain ⟨value, hvalue⟩ := Option.isSome_iff_exists.mp hfound
  obtain ⟨silent, deciding, rest, hsplit, hdeciding, hsilent⟩ := List.findSome?_eq_some_iff.mp hvalue
  have hmerged : l.merged.lookup? path = some value := by
    rw [h.lookup?_merged hcheck hpath, first, hsources, List.append_assoc,
      List.findSome?_append, hvalue, Option.some_or]
  have hplain : ¬ value.IsGroup := (Settings.open_of_checkSettings hcheck hpath).2 value hmerged
  have hsame : above ++ [higher] ++ between = silent ++ [deciding] ++ (rest ++ between) := by
    rw [hsplit]
    simp
  rw [Layers.merged, hsources, hsame]
  refine overlayAll_change (fun es hes => h.regular ?_) hdeciding hplain fun es hes => ?_
  · rw [hsources, hsame]
    exact List.mem_append_left _ hes
  · intro v hv
    rw [Option.mem_def, ← Entries.lookup?, hsilent es hes] at hv
    cases hv

/-- Settings that are loaded follow the layers that were read: each has the value that the first layer
gives for that very setting, or its standard value if none does. Where one layer gives anything but a
group for a path, another value at the end of that path in a lower layer gives the same settings: always
at the place of a setting, and at any other path unless a layer above has a group there. -/
theorem Settings.load_precedence (h : (Settings.load t env given).1 = .ok s) :
    ∃ l : Layers, l.ReadFrom t env given ∧ s.Follows l.first ∧
      ∀ (above between below : List Entries) (higher lower : Entries) (path : List String)
          (d new : Data),
        l.sources = above ++ [higher] ++ between ++ lower :: below →
        higher.lookup? path = some d → ¬ d.IsGroup →
        (path ∈ settingPaths ∨ ∀ es ∈ above, (Data.mapping es).NoGroup path) →
        ∀ t' env' given' l', Layers.ReadFrom l' t' env' given' →
          l'.sources = above ++ [higher] ++ between ++ lower.change path new :: below →
          (Settings.load t' env' given').1 = .ok s := by
  obtain ⟨l, hread, hcheck⟩ := Layers.exists_readFrom_of_load h
  refine ⟨l, hread, ?_, ?_⟩
  · have hfollows := follows_of_checkSettings hcheck
    have hfirst {path : List String} (hpath : path ∈ settingPaths) :
        l.first path = l.merged.lookup? path := (hread.lookup?_merged hcheck hpath).symm
    constructor
    · rw [hfirst (by decide)]
      exact hfollows.capacity
    · rw [hfirst (by decide)]
      exact hfollows.strict
    · rw [hfirst (by decide)]
      exact hfollows.includeMetadata
    · rw [hfirst (by decide)]
      exact hfollows.computed
    · rw [hfirst (by decide)]
      exact hfollows.workers
    · rw [hfirst (by decide)]
      exact hfollows.verbosity
  · intro above between below higher lower path d new hsources hhigher hplain hwhere t' env' given' l'
      hread' hsources'
    have hmerged : l'.merged = l.merged := by
      rw [Layers.merged, hsources']
      rcases hwhere with hpath | habove
      · exact hread.merged_change_setting hcheck hpath hsources hhigher
      · rw [Layers.merged, hsources]
        refine overlayAll_change (fun es hes => hread.regular ?_) hhigher hplain habove
        rw [hsources]
        exact List.mem_append_left _ hes
    rw [hread'.load_eq, hmerged, ← hread.load_eq, h]

/-- A working directory with a project's file and a user's file. -/
def settingsFiles (ofProject ofUser : String) : FileTree :=
  ⟨.ofString "/work", "/root",
    [(["work", "filesort.yaml"], .file (.ok ofProject) ⟨ofProject.utf8ByteSize, 0⟩),
      (["work", "home", ".config", "filesort", "config.yaml"],
        .file (.ok ofUser) ⟨ofUser.utf8ByteSize, 0⟩)]⟩

/-- An environment in which engines are strict. -/
def strictEnvironment : Bindings String :=
  [("HOME", "/work/home"), ("FILESORT_TEMPLATES", "\x7b\"strict_functions\": 1\x7d")]

namespace Data

/-- Whether data is a given whole number. -/
def isInt (n : Int) : Data → Bool
  | int m => m == n
  | _ => false

/-- Whether data is a group of one setting whose data passes a test. -/
def isSingle (name : String) (test : Data → Bool) : Data → Bool
  | mapping [(text n, d)] => n == name && test d
  | _ => false

theorem eq_of_isInt {n : Int} {d : Data} (h : d.isInt n) : d = int n := by
  cases d with
  | int m => rw [eq_of_beq h]
  | _ => cases h

theorem exists_of_isSingle {name : String} {test : Data → Bool} {d : Data} (h : d.isSingle name test) :
    ∃ e, d = mapping [(text name, e)] ∧ test e := by
  unfold isSingle at h
  split at h
  · next n e =>
    obtain ⟨rfl, he⟩ : n = name ∧ test e := by simpa using h
    exact ⟨e, rfl, he⟩
  · cases h

end Data

/-- What is read where there is one setting. -/
theorem exists_of_isSingle_read {x : Except LoadError Entries} {name : String} {test : Data → Bool}
    (h : (x.toOption.map Data.mapping).any (Data.isSingle name test)) :
    ∃ d, x = .ok [(.text name, d)] ∧ test d := by
  cases x with
  | error e => cases h
  | ok es =>
    obtain ⟨d, hd, htest⟩ := Data.exists_of_isSingle h
    exact ⟨d, congrArg Except.ok (Data.mapping.inj hd), htest⟩

/-- What is read where there is one whole number. -/
theorem eq_of_isInt_read {x : Except LoadError Entries} {name : String} {n : Int}
    (h : (x.toOption.map Data.mapping).any (Data.isSingle name (Data.isInt n))) :
    x = .ok [(.text name, .int n)] := by
  obtain ⟨d, rfl, hd⟩ := exists_of_isSingle_read h
  rw [Data.eq_of_isInt hd]

/-- What is read where one group has one whole number. -/
theorem eq_of_isGroup_read {x : Except LoadError Entries} {group name : String} {n : Int}
    (h : (x.toOption.map Data.mapping).any (Data.isSingle group (Data.isSingle name (Data.isInt n)))) :
    x = .ok [(.text group, .mapping [(.text name, .int n)])] := by
  obtain ⟨d, rfl, hd⟩ := exists_of_isSingle_read h
  obtain ⟨e, rfl, he⟩ := Data.exists_of_isSingle hd
  rw [Data.eq_of_isInt he]

/-- One group is put together from the environment and the project's file, which hides the user's. -/
theorem Settings.load_precedence_joined :
    let t := settingsFiles "templates: \x7bcache_size: 10\x7d\n" "templates: \x7bcache_size: 20\x7d\n"
    let s : Settings := { templates := ⟨10, true⟩ }
    (Settings.load t strictEnvironment none).1 = .ok s ∧
      ∃ l : Layers, l.ReadFrom t strictEnvironment none ∧ s.Follows l.first := by
  intro t s
  let l : Layers := ⟨[(.text "templates", .mapping [(.text "strict_functions", .int 1)])],
    [(.text "templates", .mapping [(.text "cache_size", .int 10)])],
    [(.text "templates", .mapping [(.text "cache_size", .int 20)])]⟩
  have hread : l.ReadFrom t strictEnvironment none :=
    ⟨by simp, eq_of_isGroup_read (by decide +kernel), eq_of_isGroup_read (by decide +kernel),
      eq_of_isGroup_read (by decide +kernel)⟩
  have hload : (Settings.load t strictEnvironment none).1 = .ok s := by
    rw [hread.load_eq]
    rfl
  obtain ⟨l', hread', hfollows, -⟩ := load_precedence hload
  exact ⟨hload, l', hread', hfollows⟩

/-- The project's file has a number in the place of a group, but as the environment has a setting of that
group, the number hides nothing: with a group in its place in the user's file, the settings are wrong. -/
theorem Settings.load_joins_groups :
    let t (ofUser : String) := settingsFiles "templates: 5\n" ofUser
    let plain := t "templates: 7\n"
    let group := t "templates: \x7bcache_size: -1\x7d\n"
    ∃ l l' : Layers, l.ReadFrom plain strictEnvironment none ∧ l'.ReadFrom group strictEnvironment none ∧
      l.project.lookup? ["templates"] = some (.int 5) ∧
      l' = { l with user := l.user.change ["templates"] (.mapping [(.text "cache_size", .int (-1))]) } ∧
      (Settings.load plain strictEnvironment none).1 = .ok { templates := ⟨256, true⟩ } ∧
      ∃ e, (Settings.load group strictEnvironment none).1 = .error (.config e) ∧
        e.field = some "templates.cache_size" := by
  intro t plain group
  let l (ofUser : Data) : Layers :=
    ⟨[(.text "templates", .mapping [(.text "strict_functions", .int 1)])],
      [(.text "templates", .int 5)], [(.text "templates", ofUser)]⟩
  let size : Data := .mapping [(.text "cache_size", .int (-1))]
  have henvironment : environmentSettings strictEnvironment = .ok (l size).environment :=
    eq_of_isGroup_read (by decide +kernel)
  have hplain : (l (.int 7)).ReadFrom plain strictEnvironment none :=
    ⟨by simp, eq_of_isInt_read (by decide +kernel), eq_of_isInt_read (by decide +kernel), henvironment⟩
  have hgroup : (l size).ReadFrom group strictEnvironment none :=
    ⟨by simp, eq_of_isInt_read (by decide +kernel), eq_of_isGroup_read (by decide +kernel), henvironment⟩
  refine ⟨l (.int 7), l size, hplain, hgroup, rfl, rfl, ?_, ?_⟩
  · rw [hplain.load_eq]
    rfl
  · rw [hgroup.load_eq]
    exact ⟨_, rfl, rfl⟩

end PathTemplates
