import PathTemplates.Proofs.Bindings
import PathTemplates.Proofs.PathFunctions
import PathTemplates.Proofs.Resource

/-! # The fields of a path

A context tells of the path of a file in fields, by themselves and grouped under `file`. They agree with
the built-in functions for the text of the path, and these lose nothing of a path when they take it apart
(`Resource.parts_agree_with_fields`). The way from the root is told exactly for files under the root, and
followed from the root it leads to the file (`Resource.relative_told_under_root`). -/

namespace PathTemplates

namespace Resource

open Builtin (registry)

variable {r : Resource} {name : String}

/-! ## What the fields are -/

/-- An entry that may be missing. -/
theorem get?_toList_map {α : Type} (o : Option α) (entry : String) (f : α → String) :
    Bindings.get? (o.map fun a => (entry, f a)).toList name =
      if name = entry then o.map f else none := by
  cases o with
  | none => simp [Bindings.get?]
  | some a =>
    by_cases h : name = entry
    · simp [Bindings.get?, h]
    · simp [Bindings.get?, h, Ne.symm h]

/-- The fields of a path, followed by those of its root. -/
theorem fields_eq (r : Resource) :
    r.fields = pathFields r.path ++ ((r.root.map fun root => ("root", root.toString)).toList ++
      ((r.root.bind r.path.relativeTo?).map fun way => ("relative", way.toString)).toList) := by
  rw [fields]
  cases r.root with
  | none => simp
  | some root => cases hway : r.path.relativeTo? root <;> simp [hway]

theorem get?_fields (r : Resource) (name : String) :
    Bindings.get? r.fields name = (Bindings.get? (pathFields r.path) name).or
      ((if name = "root" then r.root.map Path.toString else none).or
        (if name = "relative" then (r.root.bind r.path.relativeTo?).map Path.toString else none)) := by
  rw [fields_eq, Bindings.get?_append, Bindings.get?_append, get?_toList_map, get?_toList_map]

/-- The root and the way from it are the only fields that the path alone does not give. -/
theorem get?_fields_of_ne (hroot : name ≠ "root") (hrelative : name ≠ "relative") :
    Bindings.get? r.fields name = Bindings.get? (pathFields r.path) name := by
  rw [get?_fields, if_neg hroot, if_neg hrelative, Option.or_none, Option.or_none]

theorem get?_fields_root : Bindings.get? r.fields "root" = r.root.map Path.toString := by
  rw [get?_fields, if_pos rfl, if_neg (by decide), Option.or_none]
  rfl

theorem get?_fields_relative :
    Bindings.get? r.fields "relative" = (r.root.bind r.path.relativeTo?).map Path.toString := by
  rw [get?_fields, if_pos rfl, if_neg (by decide), Option.none_or]
  rfl

/-- The fields have distinct names. -/
theorem nodup_names_fields (r : Resource) : (Bindings.names r.fields).Nodup := by
  rw [fields]
  cases r.root with
  | none => simp [Bindings.names, pathFields]
  | some root =>
    cases hway : r.path.relativeTo? root <;> simp [Bindings.names, pathFields, hway]

/-! ## The context of a path -/

/-- The context that the path of a file gives. -/
def context (r : Resource) : Context := ⟨r.pathValues⟩

/-- The fields with their texts as values. -/
def fieldValues (r : Resource) : Dict String Value :=
  .ofList (r.fields.map fun (name, s) => (name, .text s))

/-- Each of them is found under its name. -/
theorem get?_fieldValues (r : Resource) (name : String) :
    r.fieldValues.get? name = (Bindings.get? r.fields name).map Value.text := by
  have hnodup : (Bindings.names (r.fields.map fun (name, s) => (name, Value.text s))).Nodup := by
    simpa [Bindings.names, Function.comp_def] using r.nodup_names_fields
  rw [fieldValues, Dict.get?_ofList, Bindings.ofList_of_nodup hnodup]
  exact Bindings.get?_map Value.text

/-- The context binds the fields, and all of them together. -/
theorem get?_context_eq (r : Resource) (name : String) : r.context.get? name =
    if name = "file" then some (.mapping r.fieldValues) else r.fieldValues.get? name :=
  Dict.get?_set name

/-- Each field is bound to its text. -/
theorem get?_context (h : name ≠ "file") :
    r.context.get? name = (Bindings.get? r.fields name).map Value.text := by
  rw [get?_context_eq, if_neg h, get?_fieldValues]

/-- The same fields are bound together. -/
theorem get?_context_file : ∃ entries, r.context.get? "file" = some (.mapping entries) ∧
    ∀ name, name ≠ "file" → entries.get? name = r.context.get? name := by
  refine ⟨r.fieldValues, by rw [get?_context_eq, if_pos rfl], fun name h => ?_⟩
  rw [get?_context_eq, if_neg h]

/-- A field that is bound is the value of its name, by itself and in the group. -/
theorem evaluate_field {registry : Registry} {v : Value} (h : r.context.get? name = some v)
    (hname : name ≠ "file") :
    (Expr.path name []).evaluate registry r.context = .ok v ∧
      (Expr.path "file" [name]).evaluate registry r.context = .ok v := by
  obtain ⟨entries, hfile, hentries⟩ := r.get?_context_file
  have hentry : entries.get? name = some v := (hentries name hname).trans h
  simp only [Expr.evaluate, Context.resolve, h, hfile, followFields, hentry, and_self]

/-- So are the fields that the path alone gives. -/
theorem evaluate_pathField {registry : Registry} {s : String}
    (h : Bindings.get? (pathFields r.path) name = some s) :
    (Expr.path name []).evaluate registry r.context = .ok (.text s) ∧
      (Expr.path "file" [name]).evaluate registry r.context = .ok (.text s) := by
  have hname : name ≠ "file" := by
    rintro rfl
    cases h
  refine evaluate_field ?_ hname
  rw [get?_context hname, get?_fields, h, Option.some_or, Option.map_some]

/-! ## Taking a path apart -/

/-- The functions that take a path apart, with the fields for what they tell. -/
def functionFields : List (String × String) :=
  [("filename", "name"), ("stem", "stem"), ("extension", "extension"), ("join", "path")]

section Functions

variable (hnormal : r.path.Normal)

include hnormal

/-- For the text of the path of a file a function gives the field. -/
theorem evaluate_function {function field : String} (h : (function, field) ∈ functionFields) :
    ∃ s, Bindings.get? (pathFields r.path) field = some s ∧
      (Expr.call function [.path "path" []]).evaluate registry r.context = .ok (.text s) := by
  have hpath : (Expr.path "path" []).evaluate registry r.context = .ok (.text r.path.toString) :=
    (evaluate_pathField rfl).1
  have hread : Path.ofString r.path.toString = r.path := hnormal.ofString_toString
  simp only [functionFields, List.mem_cons, List.not_mem_nil, or_false, Prod.mk.injEq] at h
  rcases h with ⟨rfl, rfl⟩ | ⟨rfl, rfl⟩ | ⟨rfl, rfl⟩ | ⟨rfl, rfl⟩
  · exact ⟨r.path.name, rfl, by rw [Expr.evaluate_filename hpath, hread]⟩
  · exact ⟨r.path.stem, rfl, by rw [Expr.evaluate_stem hpath, hread]⟩
  · exact ⟨r.path.extension, rfl, by rw [Expr.evaluate_extension hpath, hread]⟩
  · exact ⟨r.path.toString, rfl, by rw [Expr.evaluate_join_singleton hpath, hread]⟩

/-- So does `parent` if it gives anything. -/
theorem evaluate_parent {v : Value}
    (h : (Expr.call "parent" [.path "path" []]).evaluate registry r.context = .ok v) :
    v = .text r.path.parent.toString := by
  have hpath : (Expr.path "path" []).evaluate registry r.context = .ok (.text r.path.toString) :=
    (evaluate_pathField rfl).1
  have hread : Path.ofString r.path.toString = r.path := hnormal.ofString_toString
  have hnames : (Path.ofString r.path.toString).names ≠ [] := by
    intro hnone
    obtain ⟨err, herr⟩ := (Expr.exists_evaluate_parent_eq_error_iff hpath).mpr
      ((Path.normal_ofString _).name_eq_empty_iff.mpr hnone)
    rw [herr] at h
    cases h
  rw [Expr.evaluate_parent hpath hnames, hread] at h
  exact (Except.ok.inj h).symm

end Functions

/-- The functions that take a path apart lose nothing: the last name is the stem, with the extension after
a dot if there is one, and a path that has a last name is its parent followed by this name. For the text
of the path of a file the functions give the fields of the path. -/
theorem parts_agree_with_fields (c : Context) (s : String) :
    (∃ name stem extension normal : String,
      (Expr.call "filename" [.text s]).evaluate registry c = .ok (.text name) ∧
      (Expr.call "stem" [.text s]).evaluate registry c = .ok (.text stem) ∧
      (Expr.call "extension" [.text s]).evaluate registry c = .ok (.text extension) ∧
      (Expr.call "join" [.text s]).evaluate registry c = .ok (.text normal) ∧
      name = (if extension = "" then stem else stem ++ "." ++ extension) ∧
      ((∃ e, (Expr.call "parent" [.text s]).evaluate registry c = .error e) ↔ name = "") ∧
      (name = "" ↔ normal ∈ [".", "/", "//"]) ∧
      (name ≠ "" → (Expr.call "join" [.call "parent" [.text s], .call "filename" [.text s]]).evaluate
        registry c = .ok (.text normal))) ∧
    ∀ root : Option Path, let r : Resource := ⟨Path.ofString s, root⟩
      (∀ function field, (function, field) ∈ functionFields → ∃ v,
        (Expr.call function [.path "path" []]).evaluate registry r.context = .ok v ∧
        (Expr.path field []).evaluate registry r.context = .ok v ∧
        (Expr.path "file" [field]).evaluate registry r.context = .ok v) ∧
      ∀ v, (Expr.call "parent" [.path "path" []]).evaluate registry r.context = .ok v →
        (Expr.path "parent" []).evaluate registry r.context = .ok v ∧
        (Expr.path "file" ["parent"]).evaluate registry r.context = .ok v := by
  have hnormal := Path.normal_ofString s
  have htext : (Expr.text s).evaluate registry c = .ok (.text s) := by rw [Expr.evaluate]
  refine ⟨⟨_, _, _, _, Expr.evaluate_filename htext, Expr.evaluate_stem htext,
    Expr.evaluate_extension htext, Expr.evaluate_join_singleton htext, Path.name_eq _,
    Expr.exists_evaluate_parent_eq_error_iff htext, ?_, Expr.evaluate_join_parent_filename htext⟩, ?_⟩
  · rw [hnormal.name_eq_empty_iff, hnormal.toString_mem_iff]
  · intro root r
    constructor
    · intro function field h
      obtain ⟨v, hfield, hfunction⟩ := evaluate_function (r := r) hnormal h
      exact ⟨_, hfunction, evaluate_pathField hfield⟩
    · intro v hv
      obtain rfl := evaluate_parent (r := r) hnormal hv
      exact evaluate_pathField rfl

/-- A name with several dots, in a directory that is written with an empty name and a single dot. -/
theorem parts_agree_with_fields_dotted :
    let c : Context := .empty
    let path : Expr := .text "in//./a.tar.gz"
    (Expr.call "filename" [path]).evaluate registry c = .ok (.text "a.tar.gz") ∧
      (Expr.call "join" [path]).evaluate registry c = .ok (.text "in/a.tar.gz") ∧
      (Expr.call "join" [.call "parent" [path], .call "filename" [path]]).evaluate registry c =
        .ok (.text "in/a.tar.gz") := by
  intro c path
  obtain ⟨name, stem, extension, normal, hname, -, -, hnormal, -, -, -, hrebuilt⟩ :=
    (parts_agree_with_fields c "in//./a.tar.gz").1
  have hpath : path.evaluate registry c = .ok (.text "in//./a.tar.gz") := by rw [Expr.evaluate]
  have hlast : (Expr.call "filename" [path]).evaluate registry c = .ok (.text "a.tar.gz") := by
    rw [Expr.evaluate_filename hpath]
    rfl
  have hjoined : (Expr.call "join" [path]).evaluate registry c = .ok (.text "in/a.tar.gz") := by
    rw [Expr.evaluate_join_singleton hpath]
    rfl
  obtain rfl := Value.text.inj (Except.ok.inj (hname.symm.trans hlast))
  obtain rfl := Value.text.inj (Except.ok.inj (hnormal.symm.trans hjoined))
  exact ⟨hname, hnormal, hrebuilt (by decide)⟩

/-! ## The way from the root -/

/-- The way from the root is a field exactly if the file is under the root. -/
theorem get?_context_relative :
    r.context.get? "relative" =
      (r.root.bind r.path.relativeTo?).map fun way => .text way.toString := by
  rw [get?_context (by decide), get?_fields_relative, Option.map_map]
  rfl

theorem get?_context_root : r.context.get? "root" = r.root.map fun root => .text root.toString := by
  rw [get?_context (by decide), get?_fields_root, Option.map_map]
  rfl

/-- A file outside its root is reported. -/
theorem pathEvents_eq (p root : Path) :
    pathEvents ⟨p, some root⟩ =
      if (p.relativeTo? root).isSome then [] else [.outsideRoot p.toString root.toString] := rfl

/-- The way from a directory is no rooted path, and its text is read back. -/
theorem way_of_relativeTo? {p root way : Path} (hp : p.Normal) (h : p.relativeTo? root = some way) :
    Path.ofString way.toString = way ∧ ¬ Path.IsRooted way.toString := by
  obtain ⟨hrelative, hjoin⟩ := Path.relativeTo?_eq_some_iff.mp h
  rw [Path.join_relative hrelative] at hjoin
  have hway : way.Normal := by
    intro n hn
    exact hp n (hjoin ▸ List.mem_append_right root.names hn)
  have hread := hway.ofString_toString
  refine ⟨hread, fun hrooted => ?_⟩
  exact Path.rooted_ofString_iff.mpr hrooted (hread.symm ▸ hrelative)

/-- Followed from the root, the way from it leads to the file. -/
theorem evaluate_join_root_relative {p root way : Path} (hp : p.Normal) (hroot : root.Normal)
    (h : p.relativeTo? root = some way) :
    (Expr.call "join" [.path "root" [], .path "relative" []]).evaluate registry
      (context ⟨p, some root⟩) = .ok (.text p.toString) := by
  have hrootValue : (Expr.path "root" []).evaluate registry (context ⟨p, some root⟩) =
      .ok (.text root.toString) := (evaluate_field get?_context_root (by decide)).1
  have hwayValue : (Expr.path "relative" []).evaluate registry (context ⟨p, some root⟩) =
      .ok (.text way.toString) := by
    refine (evaluate_field ?_ (by decide)).1
    rw [get?_context_relative]
    show (p.relativeTo? root).map _ = _
    rw [h, Option.map_some]
  obtain ⟨-, hjoin⟩ := Path.relativeTo?_eq_some_iff.mp h
  rw [Expr.evaluate_join (List.cons_ne_nil _ _) (.cons hrootValue (.cons hwayValue .nil)), List.map_cons,
    List.map_singleton, hroot.ofString_toString, (way_of_relativeTo? hp h).1, Path.joinAll_cons,
    Path.joinAll_singleton, hjoin]

/-- The way from the root of a file is told exactly if the path of the file starts with the components of
the root. Then it is relative, and joined to the root it gives the path. Otherwise it is missing from the
fields and from their group, and this is reported once, for those who look for faults. The other fields
are the same in both cases, by themselves and in the group. -/
theorem relative_told_under_root (s root : String) :
    let r : Resource := ⟨Path.ofString s, some (Path.ofString root)⟩
    ((r.context.get? "relative").isSome ↔
      (Path.ofString root).components <+: (Path.ofString s).components) ∧
    (∀ v, r.context.get? "relative" = some v →
      (∃ way, v = .text way ∧ ¬ Path.IsRooted way) ∧
      (∃ path, (Expr.path "path" []).evaluate registry r.context = .ok path ∧
        (Expr.call "join" [.path "root" [], .path "relative" []]).evaluate registry r.context = .ok path) ∧
      r.pathEvents = []) ∧
    (r.context.get? "relative" = none →
      ∃ event, r.pathEvents = [event] ∧ event.record.level = .debug ∧
        event = .outsideRoot (Path.ofString s).toString (Path.ofString root).toString) ∧
    (∃ entries, r.context.get? "file" = some (.mapping entries) ∧
      ∀ name, name ≠ "file" → entries.get? name = r.context.get? name) ∧
    r.context.get? "root" = some (.text (Path.ofString root).toString) ∧
    ∀ name, name ∉ ["relative", "root", "file"] →
      r.context.get? name = (context ⟨Path.ofString s, none⟩).get? name := by
  intro r
  have hp := Path.normal_ofString s
  have hroot := Path.normal_ofString root
  have hrelative : r.context.get? "relative" =
      ((Path.ofString s).relativeTo? (Path.ofString root)).map fun way => .text way.toString :=
    get?_context_relative
  refine ⟨?_, ?_, ?_, get?_context_file, get?_context_root, ?_⟩
  · rw [hrelative, Option.isSome_map, Path.isSome_relativeTo?_iff]
  · intro v hv
    rw [hrelative, Option.map_eq_some_iff] at hv
    obtain ⟨way, hway, rfl⟩ := hv
    refine ⟨⟨way.toString, rfl, (way_of_relativeTo? hp hway).2⟩,
      ⟨_, (evaluate_pathField rfl).1, evaluate_join_root_relative hp hroot hway⟩, ?_⟩
    rw [pathEvents_eq, hway]
    rfl
  · intro hnone
    rw [hrelative, Option.map_eq_none_iff] at hnone
    refine ⟨_, ?_, rfl, rfl⟩
    rw [pathEvents_eq, hnone]
    rfl
  · intro name hname
    simp only [List.mem_cons, List.not_mem_nil, or_false, not_or] at hname
    obtain ⟨hway, hroot, hfile⟩ := hname
    rw [get?_context hfile, get?_context hfile, get?_fields_of_ne hroot hway,
      get?_fields_of_ne hroot hway]

/-- A directory whose name only starts like that of the root is outside it. -/
theorem relative_told_under_root_same_start :
    let inside : Resource := ⟨Path.ofString "/in//./a.txt", some (Path.ofString "/in")⟩
    let outside : Resource := ⟨Path.ofString "/inbox/a.txt", some (Path.ofString "/in")⟩
    inside.context.get? "relative" = some (.text "a.txt") ∧
      (Expr.call "join" [.path "root" [], .path "relative" []]).evaluate registry inside.context =
        .ok (.text "/in/a.txt") ∧
      outside.context.get? "relative" = none ∧ outside.pathEvents = [.outsideRoot "/inbox/a.txt" "/in"] := by
  intro inside outside
  have hway : inside.context.get? "relative" = some (.text "a.txt") := by
    rw [get?_context_relative]
    rfl
  have hnone : outside.context.get? "relative" = none := by
    rw [get?_context_relative]
    rfl
  obtain ⟨-, hinside, -⟩ := relative_told_under_root "/in//./a.txt" "/in"
  obtain ⟨-, -, houtside, -⟩ := relative_told_under_root "/inbox/a.txt" "/in"
  obtain ⟨-, ⟨path, hpath, hjoined⟩, -⟩ := hinside _ hway
  obtain ⟨event, hevents, -, rfl⟩ := houtside hnone
  have hvalue : (Expr.path "path" []).evaluate registry inside.context = .ok (.text "/in/a.txt") :=
    (evaluate_pathField rfl).1
  exact ⟨hway, hjoined.trans (hpath.symm.trans hvalue), hnone, hevents⟩

end Resource

end PathTemplates
