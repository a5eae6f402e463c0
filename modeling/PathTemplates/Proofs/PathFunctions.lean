import PathTemplates.Function.Builtins
import PathTemplates.Proofs.Evaluation
import PathTemplates.Proofs.Path

/-! # Functions on paths

What the built-in functions give for the texts of paths. Each reads its texts, works on the paths and
writes the result, so what holds of paths in normal form holds of the functions:

* a path that has a last name is its parent followed by this name
  (`Expr.evaluate_join_parent_filename`);
* joining the results of two joins is joining everything, and joining a joined path changes nothing
  (`Expr.join_joins`). -/

namespace PathTemplates

namespace Builtin

/-- The functions that tell a part of a path, with the part. -/
def pathParts : List (String × (Path → String)) :=
  [("filename", Path.name), ("stem", Path.stem), ("extension", Path.extension)]

/-- What a function gives for the text of a path is the part that it tells. -/
theorem invoke_of_mem_pathParts {name : String} {part : Path → String}
    (h : (name, part) ∈ pathParts) (s : String) :
    registry.invoke name [.text s] = .ok (.text (part (Path.ofString s))) := by
  obtain ⟨entry, hget, haccepts, hbody⟩ : ∃ entry, registry.get name = .ok entry ∧
      entry.arity.accepts [Value.text s].length ∧
      entry.body [.text s] = .ok (.text (part (Path.ofString s))) := by
    simp only [pathParts, List.mem_cons, List.not_mem_nil, or_false, Prod.mk.injEq] at h
    rcases h with ⟨rfl, rfl⟩ | ⟨rfl, rfl⟩ | ⟨rfl, rfl⟩ <;> exact ⟨_, rfl, rfl, rfl⟩
  rw [Registry.invoke_of_get hget, if_pos haccepts, hbody]
  rfl

/-- The parent of a path is its own text, and a path without names has none. -/
theorem invoke_parent (s : String) :
    registry.invoke "parent" [.text s] =
      if (Path.ofString s).names = [] then .error (.of (.callFailed "parent"
        ("no parent for path '" ++ (Path.ofString s).toString ++ "'")))
      else .ok (.text (Path.ofString s).parent.toString) := by
  obtain ⟨entry, hget, haccepts, hbody⟩ : ∃ entry, registry.get "parent" = .ok entry ∧
      entry.arity.accepts [Value.text s].length ∧ entry.body [.text s] = parentOf s := ⟨_, rfl, rfl, rfl⟩
  rw [Registry.invoke_of_get hget, if_pos haccepts, hbody, parentOf]
  by_cases hnames : (Path.ofString s).names = []
  · rw [if_pos (Path.parent_eq_self_iff.mpr hnames), if_pos hnames]
    simp [Registry.failureOf, Registry.reason]
  · rw [if_neg (mt Path.parent_eq_self_iff.mp hnames), if_neg hnames]
    rfl

/-- Texts as arguments are all texts. -/
theorem allTexts_texts (name : String) (ss : List String) : allTexts name (ss.map .text) = .ok ss := by
  rw [allTexts, mapM_eq_ok_iff, List.length_map, List.forall₂_iff_get]
  refine ⟨by simp, fun i hi hs => ?_⟩
  have hplace : (ss.map Value.text)[i]? = some (.text ss[i]) := by simp
  have hindex : ¬ ((i : Int) < 0) := by omega
  simp [FunctionBody.textAt, FunctionBody.argumentAt, hindex, hplace]

/-- Texts are joined as paths. -/
theorem invoke_join {ss : List String} (h : ss ≠ []) :
    registry.invoke "join" (ss.map .text) =
      .ok (.text (Path.joinAll (ss.map Path.ofString)).toString) := by
  obtain ⟨entry, hget, harity, hbody⟩ : ∃ entry, registry.get "join" = .ok entry ∧
      entry.arity = .atLeast 1 ∧ ∀ args, entry.body args = (do
        let texts ← allTexts "join" args
        return .text (Path.joinAll (texts.map Path.ofString)).toString) := ⟨_, rfl, rfl, fun _ => rfl⟩
  have haccepts : entry.arity.accepts (ss.map Value.text).length := by
    have hlength : (1 : Int) ≤ ss.length := Int.ofNat_le.mpr (List.length_pos_iff.mpr h)
    rw [harity]
    simpa [Arity.accepts, Arity.atLeast] using hlength
  rw [Registry.invoke_of_get hget, if_pos haccepts, hbody, allTexts_texts]
  rfl

end Builtin

namespace Expr

open Builtin (registry)

variable {c : Context}

/-! ## Calls -/

/-- Arguments that have values have them all together. -/
theorem values_of_forall₂ {r : Registry} {args : List Expr} {vs : List Value}
    (h : List.Forall₂ (fun e v => e.evaluate r c = .ok v) args vs) : values r c args = .ok vs := by
  induction h with
  | nil => rw [values]
  | cons hv _ ih => rw [values_cons, ← evaluate_eq_value, hv, ok_bind, ih, map_ok]

/-- A call is the invocation of its function with the values of its arguments. -/
theorem evaluate_call {r : Registry} {name : String} {entry : FunctionEntry} {args : List Expr}
    {vs : List Value} (hget : r.get name = .ok entry)
    (hargs : List.Forall₂ (fun e v => e.evaluate r c = .ok v) args vs) :
    (call name args).evaluate r c = (r.invoke name vs).mapError (·.leaving name) := by
  rw [evaluate_eq_value, value_call, hget, ok_bind, values_of_forall₂ hargs, mapError_ok, ok_bind]

/-- The part of a path that a function tells. -/
theorem evaluate_of_mem_pathParts {name : String} {part : Path → String}
    (h : (name, part) ∈ Builtin.pathParts) {e : Expr} {s : String}
    (he : e.evaluate registry c = .ok (.text s)) :
    (call name [e]).evaluate registry c = .ok (.text (part (Path.ofString s))) := by
  have hinvoke := Builtin.invoke_of_mem_pathParts h s
  obtain ⟨entry, hget, -⟩ := bind_eq_ok_iff.mp hinvoke
  rw [evaluate_call hget (.cons he .nil), hinvoke, mapError_ok]

/-- Texts that are joined as paths. -/
theorem evaluate_join {args : List Expr} {ss : List String} (hne : ss ≠ [])
    (hargs : List.Forall₂ (fun e s => e.evaluate registry c = .ok (.text s)) args ss) :
    (call "join" args).evaluate registry c =
      .ok (.text (Path.joinAll (ss.map Path.ofString)).toString) := by
  have hinvoke := Builtin.invoke_join hne
  obtain ⟨entry, hget, -⟩ := bind_eq_ok_iff.mp hinvoke
  rw [evaluate_call hget (List.forall₂_map_right_iff.mpr hargs), hinvoke, mapError_ok]

/-! ## Taking a path apart -/

section Parts

variable {e : Expr} {s : String} (he : e.evaluate registry c = .ok (.text s))

include he

theorem evaluate_filename :
    (call "filename" [e]).evaluate registry c = .ok (.text (Path.ofString s).name) :=
  evaluate_of_mem_pathParts (by simp [Builtin.pathParts]) he

theorem evaluate_stem : (call "stem" [e]).evaluate registry c = .ok (.text (Path.ofString s).stem) :=
  evaluate_of_mem_pathParts (by simp [Builtin.pathParts]) he

theorem evaluate_extension :
    (call "extension" [e]).evaluate registry c = .ok (.text (Path.ofString s).extension) :=
  evaluate_of_mem_pathParts (by simp [Builtin.pathParts]) he

/-- A text that is joined alone is brought into normal form. -/
theorem evaluate_join_singleton :
    (call "join" [e]).evaluate registry c = .ok (.text (Path.ofString s).toString) := by
  rw [evaluate_join (List.cons_ne_nil s []) (.cons he .nil), List.map_singleton, Path.joinAll_singleton]

/-- The parent of a path that has names. -/
theorem evaluate_parent (hnames : (Path.ofString s).names ≠ []) :
    (call "parent" [e]).evaluate registry c = .ok (.text (Path.ofString s).parent.toString) := by
  obtain ⟨entry, hget⟩ : ∃ entry, registry.get "parent" = .ok entry := ⟨_, rfl⟩
  rw [evaluate_call hget (.cons he .nil), Builtin.invoke_parent, if_neg hnames, mapError_ok]

/-- A path has no parent exactly if it has no last name. -/
theorem exists_evaluate_parent_eq_error_iff :
    (∃ err, (call "parent" [e]).evaluate registry c = .error err) ↔ (Path.ofString s).name = "" := by
  rw [(Path.normal_ofString s).name_eq_empty_iff]
  constructor
  · rintro ⟨err, herr⟩
    by_contra hnames
    rw [evaluate_parent he hnames] at herr
    cases herr
  · intro hnames
    obtain ⟨entry, hget⟩ : ∃ entry, registry.get "parent" = .ok entry := ⟨_, rfl⟩
    rw [evaluate_call hget (.cons he .nil), Builtin.invoke_parent, if_pos hnames, mapError_error]
    exact ⟨_, rfl⟩

/-- The parent of a path followed by its last name is the path in normal form. -/
theorem evaluate_join_parent_filename (hname : (Path.ofString s).name ≠ "") :
    (call "join" [call "parent" [e], call "filename" [e]]).evaluate registry c =
      .ok (.text (Path.ofString s).toString) := by
  have hnormal := Path.normal_ofString s
  have hnames : (Path.ofString s).names ≠ [] := mt hnormal.name_eq_empty_iff.mpr hname
  rw [evaluate_join (List.cons_ne_nil _ _)
      (.cons (evaluate_parent he hnames) (.cons (evaluate_filename he) .nil)),
    List.map_cons, List.map_singleton, hnormal.parent.ofString_toString, Path.joinAll_cons,
    Path.joinAll_singleton, hnormal.parent_join_name hnames]

end Parts

/-! ## Joins of joins -/

/-- The call of `join` for texts. -/
def joinOf (ss : List String) : Expr := .call "join" (ss.map .text)

theorem evaluate_joinOf {ss : List String} (h : ss ≠ []) :
    (joinOf ss).evaluate registry c = .ok (.text (Path.joinAll (ss.map Path.ofString)).toString) := by
  refine evaluate_join h (List.forall₂_map_left_iff.mpr (List.forall₂_same.mpr fun s _ => ?_))
  rw [evaluate]

/-- The text of joined paths is read back. -/
theorem ofString_toString_joinAll (ss : List String) :
    Path.ofString (Path.joinAll (ss.map Path.ofString)).toString =
      Path.joinAll (ss.map Path.ofString) := by
  refine (Path.normal_joinAll fun p hp => ?_).ofString_toString
  obtain ⟨s, -, rfl⟩ := List.mem_map.mp hp
  exact Path.normal_ofString s

/-- Joining is associative: the results of two joins are joined to what all texts together are joined to.
A rooted text makes all texts before it irrelevant, relative texts after the first one only add their
names, and joining a text that was joined changes nothing. -/
theorem join_joins (c : Context) :
    (∀ xs ys : List String, xs ≠ [] → ys ≠ [] →
      ∃ s, (joinOf (xs ++ ys)).evaluate registry c = .ok (.text s) ∧
        (call "join" [joinOf xs, joinOf ys]).evaluate registry c = .ok (.text s)) ∧
    (∀ before x after, Path.IsRooted x →
      (joinOf (before ++ x :: after)).evaluate registry c = (joinOf (x :: after)).evaluate registry c) ∧
    (∀ x rest, (∀ y ∈ rest, ¬ Path.IsRooted y) →
      (joinOf (x :: rest)).evaluate registry c = .ok (.text (Path.toString
        ⟨(Path.ofString x).root, (x :: rest).flatMap fun s => (Path.ofString s).names⟩))) ∧
    ∀ p, (call "join" [joinOf [p]]).evaluate registry c = (joinOf [p]).evaluate registry c := by
  refine ⟨fun xs ys hxs hys => ?_, fun before x after hx => ?_, fun x rest hrest => ?_, fun p => ?_⟩
  · have hall := @evaluate_joinOf c (xs ++ ys) (by simp [hxs])
    rw [List.map_append, Path.joinAll_append] at hall
    refine ⟨_, hall, ?_⟩
    rw [evaluate_join (by simp) (.cons (evaluate_joinOf hxs) (.cons (evaluate_joinOf hys) .nil))]
    simp [ofString_toString_joinAll, Path.joinAll_cons]
  · have hroot : (Path.ofString x).root ≠ .relative := Path.rooted_ofString_iff.mpr hx
    rw [evaluate_joinOf (by simp), evaluate_joinOf (by simp), List.map_append, List.map_cons,
      Path.joinAll_rooted hroot]
  · have hrelative : ∀ q ∈ rest.map Path.ofString, q.root = .relative := by
      intro q hq
      obtain ⟨y, hy, rfl⟩ := List.mem_map.mp hq
      exact not_not.mp (mt Path.rooted_ofString_iff.mp (hrest y hy))
    rw [evaluate_joinOf (by simp), List.map_cons, Path.joinAll_relative hrelative, ← List.map_cons,
      List.flatMap_map]
  · have hjoined := @evaluate_joinOf c [p] (List.cons_ne_nil p [])
    rw [evaluate_join_singleton hjoined, hjoined, ofString_toString_joinAll]

/-- Two slashes in the middle start anew, and double dots stay. -/
theorem join_joins_rooted_inside :
    let c : Context := .empty
    (joinOf (["in", "//a/./b"] ++ ["..", "c//"])).evaluate registry c = .ok (.text "//a/b/../c") ∧
      (call "join" [joinOf ["in", "//a/./b"], joinOf ["..", "c//"]]).evaluate registry c =
        .ok (.text "//a/b/../c") := by
  intro c
  obtain ⟨s, hall, hjoins⟩ := (join_joins c).1 ["in", "//a/./b"] ["..", "c//"] (by decide) (by decide)
  have hvalue : (joinOf (["in", "//a/./b"] ++ ["..", "c//"])).evaluate registry c =
      .ok (.text "//a/b/../c") := by
    rw [evaluate_joinOf (by decide)]
    rfl
  rw [hvalue] at hall
  obtain rfl := Value.text.inj (Except.ok.inj hall)
  exact ⟨hvalue, hjoins⟩

end Expr

end PathTemplates
