import Mathlib.Data.String.Basic
import PathTemplates.Path
import PathTemplates.Proofs.Text.Fields

/-! # Paths and their texts

A path that was read is in normal form, and in normal form a path and its text tell the same: reading
the text gives the path back (`Path.Normal.ofString_toString`). Following paths one from another is
associative, with the empty relative path as its neutral element, so paths that are joined in two parts
are joined all together (`Path.joinAll_append`); a rooted path makes those before it irrelevant
(`Path.joinAll_rooted`). The way from a directory to a path is what leads to the path when it is followed
from the directory (`Path.relativeTo?_eq_some_iff`). -/

namespace PathTemplates

namespace PathRoot

/-- Roots are told apart by how they are written. -/
theorem text_injective : Function.Injective text := by
  intro a b h
  cases a <;> cases b <;> first | rfl | exact absurd h (by decide)

end PathRoot

namespace Path

/-! ## Normal forms -/

/-- A text that can be a name on the way. -/
def IsName (s : String) : Prop := s ≠ "" ∧ s ≠ "." ∧ '/' ∉ s.toList

/-- A path whose names can stand on the way. -/
def Normal (p : Path) : Prop := ∀ n ∈ p.names, IsName n

/-- A text that starts with a slash. -/
def IsRooted (s : String) : Prop := s.toList.head? = some '/'

instance (s : String) : Decidable (IsRooted s) := inferInstanceAs (Decidable (_ = _))

theorem isNameField_iff {s : String} : isNameField s ↔ s ≠ "" ∧ s ≠ "." := by
  simp [isNameField]

/-- A path that was read is in normal form. -/
theorem normal_ofString (s : String) : (ofString s).Normal := by
  intro n hn
  obtain ⟨hmem, hfield⟩ := List.mem_filter.mp hn
  obtain ⟨field, hsplit, rfl⟩ := List.mem_map.mp hmem
  rw [splitChar_eq_splitOn] at hsplit
  obtain ⟨hempty, hdot⟩ := isNameField_iff.mp hfield
  exact ⟨hempty, hdot, by simpa using notMem_of_mem_splitOn hsplit⟩

theorem normal_empty (root : PathRoot) : Normal ⟨root, []⟩ := by
  intro n hn
  cases hn

theorem Normal.parent {p : Path} (h : p.Normal) : p.parent.Normal :=
  fun n hn => h n (List.dropLast_subset p.names hn)

theorem Normal.join {p q : Path} (hp : p.Normal) (hq : q.Normal) : (p.join q).Normal := by
  rw [Path.join]
  split
  · intro n hn
    rcases List.mem_append.mp hn with hleft | hright
    · exact hp n hleft
    · exact hq n hright
  · exact hq

/-! ## Reading what was written -/

/-- The names that stand between the slashes of a text. -/
def namesOf (cs : List Char) : List String :=
  ((cs.splitOn '/').map String.ofList).filter isNameField

theorem ofString_eq (s : String) : ofString s = ⟨rootOf s.toList, namesOf s.toList⟩ := by
  rw [ofString, splitChar_eq_splitOn, namesOf]

/-- A slash in front of a text does not change its names. -/
theorem namesOf_slash (cs : List Char) : namesOf ('/' :: cs) = namesOf cs := by
  rw [namesOf, List.splitOn_cons_eq_if_modifyHead, if_pos (by simp), List.map_cons,
    List.filter_cons_of_neg (by decide), namesOf]

/-- Nor does the root that a text is written with. -/
theorem namesOf_root (root : PathRoot) (cs : List Char) : namesOf (root.text.toList ++ cs) = namesOf cs := by
  cases root with
  | relative => rfl
  | single => exact namesOf_slash cs
  | double => exact (namesOf_slash _).trans (namesOf_slash cs)

/-- Names that are written with slashes between them are read back. -/
theorem namesOf_joinWith {names : List String} (h : ∀ n ∈ names, IsName n) :
    namesOf (joinWith "/" names).toList = names := by
  by_cases hne : names = []
  · subst hne
    decide
  · have hfields : (joinWith "/" names).toList.splitOn '/' = names.map String.toList :=
      splitOn_joinWith (fun n hn => (h n hn).2.2) hne
    have hall : names.filter isNameField = names :=
      List.filter_eq_self.mpr fun n hn => isNameField_iff.mpr ⟨(h n hn).1, (h n hn).2.1⟩
    rw [namesOf, hfields, List.map_map]
    simpa [Function.comp_def] using hall

/-- Names that are written with slashes between them do not start with one. -/
theorem not_isRooted_joinWith {names : List String} (h : ∀ n ∈ names, IsName n) :
    ¬ IsRooted (joinWith "/" names) := by
  cases names with
  | nil => decide
  | cons n rest =>
    obtain ⟨hempty, -, hslash⟩ := h n (List.mem_cons_self ..)
    obtain ⟨more, hmore⟩ := exists_joinWith_cons_eq "/" n rest
    rw [IsRooted, hmore, String.toList_append]
    cases hchars : n.toList with
    | nil => exact absurd (String.toList_eq_nil_iff.mp hchars) hempty
    | cons c cs =>
      have hc : c ≠ '/' := fun heq => hslash (by rw [hchars, heq]; exact List.mem_cons_self ..)
      simpa using hc

/-- The root that a text is written with is read back if no further slash follows it. -/
theorem rootOf_root (root : PathRoot) {cs : List Char} (h : cs.head? ≠ some '/') :
    rootOf (root.text.toList ++ cs) = root := by
  have hnone : cs.takeWhile (· == '/') = [] := by
    cases cs with
    | nil => rfl
    | cons c cs =>
      have hc : c ≠ '/' := fun heq => h (by rw [heq]; rfl)
      rw [List.takeWhile_cons_of_neg (by simpa using hc)]
  cases root <;> simp [rootOf, PathRoot.text, hnone]

/-- A text gives a rooted path exactly if it starts with a slash. -/
theorem rooted_ofString_iff {s : String} : (ofString s).root ≠ .relative ↔ IsRooted s := by
  rw [ofString_eq, IsRooted]
  show rootOf s.toList ≠ .relative ↔ _
  cases hchars : s.toList with
  | nil => simp [rootOf]
  | cons c cs =>
    by_cases hc : c = '/'
    · subst hc
      rw [rootOf, List.takeWhile_cons_of_pos (by simp), List.length_cons]
      split <;> simp_all
    · rw [rootOf, List.takeWhile_cons_of_neg (by simpa using hc)]
      simp [hc]

/-- The text of a path that is not the empty relative one. -/
theorem toString_eq {p : Path} (h : p ≠ ⟨.relative, []⟩) :
    p.toString = p.root.text ++ joinWith "/" p.names := by
  rw [toString]
  split
  · next hroot hnames =>
    obtain ⟨root, names⟩ := p
    subst hroot hnames
    exact absurd rfl h
  · rfl

/-- A path in normal form is read back from its text. -/
theorem Normal.ofString_toString {p : Path} (h : p.Normal) : ofString p.toString = p := by
  by_cases hempty : p = ⟨.relative, []⟩
  · subst hempty
    decide
  · rw [toString_eq hempty, ofString_eq, String.toList_append, namesOf_root, namesOf_joinWith h,
      rootOf_root p.root (not_isRooted_joinWith h)]

/-- Paths in normal form are told apart by their texts. -/
theorem Normal.toString_inj {p q : Path} (hp : p.Normal) (hq : q.Normal) :
    p.toString = q.toString ↔ p = q := by
  constructor
  · intro h
    rw [← hp.ofString_toString, h, hq.ofString_toString]
  · rintro rfl
    rfl

/-! ## Following paths one from another -/

theorem join_relative {p q : Path} (h : q.root = .relative) :
    p.join q = ⟨p.root, p.names ++ q.names⟩ := by
  rw [join, h]

theorem join_rooted {p q : Path} (h : q.root ≠ .relative) : p.join q = q := by
  rw [join]
  split
  · next hroot => exact absurd hroot h
  · rfl

/-- A path that starts where the reader is can be followed from the empty one. -/
@[simp] theorem empty_join (p : Path) : join ⟨.relative, []⟩ p = p := by
  obtain ⟨root, names⟩ := p
  cases root <;> rfl

@[simp] theorem join_empty (p : Path) : p.join ⟨.relative, []⟩ = p := by
  rw [join_relative rfl, List.append_nil]

theorem join_assoc (p q r : Path) : (p.join q).join r = p.join (q.join r) := by
  by_cases hr : r.root = .relative
  · by_cases hq : q.root = .relative
    · have hqr : (q.join r).root = .relative := by rw [join_relative hr]; exact hq
      rw [join_relative hr, join_relative hqr, join_relative hq, join_relative hr, List.append_assoc]
    · have hqr : (q.join r).root ≠ .relative := by rw [join_relative hr]; exact hq
      rw [join_rooted hq, join_rooted hqr]
  · rw [join_rooted hr, join_rooted hr, join_rooted hr]

theorem foldl_join (p : Path) (paths : List Path) : paths.foldl join p = p.join (joinAll paths) := by
  -- the start changes from step to step, so the paths seen so far are put in front by associativity
  induction paths generalizing p with
  | nil => exact (join_empty p).symm
  | cons q rest ih =>
    rw [joinAll, List.foldl_cons, List.foldl_cons, ih, ih (join _ q), empty_join, join_assoc]

@[simp] theorem joinAll_nil : joinAll [] = ⟨.relative, []⟩ := rfl

theorem joinAll_cons (p : Path) (rest : List Path) : joinAll (p :: rest) = p.join (joinAll rest) := by
  rw [joinAll, List.foldl_cons, empty_join, foldl_join]

@[simp] theorem joinAll_singleton (p : Path) : joinAll [p] = p := by
  rw [joinAll_cons, joinAll_nil, join_empty]

/-- Paths that are joined in two parts are joined all together. -/
theorem joinAll_append (ps qs : List Path) : joinAll (ps ++ qs) = (joinAll ps).join (joinAll qs) := by
  rw [joinAll, List.foldl_append, foldl_join]
  rfl

/-- Relative paths follow one another. -/
theorem joinAll_relative {p : Path} {rest : List Path} (h : ∀ q ∈ rest, q.root = .relative) :
    joinAll (p :: rest) = ⟨p.root, (p :: rest).flatMap names⟩ := by
  induction rest generalizing p with
  | nil => simp
  | cons q rest ih =>
    obtain ⟨hq, hrest⟩ := List.forall_mem_cons.mp h
    have hjoined := ih (p := q) hrest
    have hroot : (joinAll (q :: rest)).root = .relative := by rw [hjoined]; exact hq
    rw [joinAll_cons, join_relative hroot, hjoined]
    rfl

/-- What comes before a rooted path does not matter. -/
theorem joinAll_rooted {p : Path} (h : p.root ≠ .relative) (before after : List Path) :
    joinAll (before ++ p :: after) = joinAll (p :: after) := by
  have hroot : (joinAll (p :: after)).root ≠ .relative := by
    rw [joinAll_cons]
    by_cases hafter : (joinAll after).root = .relative
    · rw [join_relative hafter]
      exact h
    · rw [join_rooted hafter]
      exact hafter
  rw [joinAll_append, join_rooted hroot]

theorem normal_joinAll {paths : List Path} (h : ∀ p ∈ paths, p.Normal) : (joinAll paths).Normal := by
  induction paths with
  | nil => exact normal_empty _
  | cons p rest ih =>
    obtain ⟨hp, hrest⟩ := List.forall_mem_cons.mp h
    rw [joinAll_cons]
    exact hp.join (ih hrest)

/-! ## The last name -/

/-- Only a path without names has no last one. -/
theorem Normal.name_eq_empty_iff {p : Path} (h : p.Normal) : p.name = "" ↔ p.names = [] := by
  rw [name]
  cases hlast : p.names.getLast? with
  | none => simpa using hlast
  | some n =>
    have hname := (h n (List.mem_of_getLast? hlast)).1
    have hne : p.names ≠ [] := by
      rintro hnil
      rw [hnil] at hlast
      cases hlast
    simp [hname, hne]

/-- A path is its own parent exactly if it has no names. -/
theorem parent_eq_self_iff {p : Path} : p.parent = p ↔ p.names = [] := by
  obtain ⟨root, names⟩ := p
  constructor
  · intro h
    -- dropping a name would make the list shorter
    have hlength : names.length - 1 = names.length := by
      rw [← List.length_dropLast]
      exact congrArg (fun q : Path => q.names.length) h
    show names = []
    exact List.eq_nil_of_length_eq_zero (by omega)
  · rintro rfl
    rfl

/-- The last name is followed from the parent. -/
theorem Normal.parent_join_name {p : Path} (h : p.Normal) (hne : p.names ≠ []) :
    p.parent.join (ofString p.name) = p := by
  have hname : p.name = p.names.getLast hne := by
    rw [name, List.getLast?_eq_some_getLast hne]
    rfl
  have hlast : Normal ⟨.relative, [p.names.getLast hne]⟩ :=
    fun n hn => h n (List.mem_singleton.mp hn ▸ List.getLast_mem hne)
  have hread : ofString p.name = ⟨.relative, [p.names.getLast hne]⟩ := by
    rw [hname, ← hlast.ofString_toString]
    simp [toString, joinWith, PathRoot.text]
  rw [hread, join_relative rfl, Path.parent, List.dropLast_append_getLast]

/-- Only the empty relative path and the roots have no names. -/
theorem Normal.toString_mem_iff {p : Path} (h : p.Normal) :
    p.toString ∈ [".", "/", "//"] ↔ p.names = [] := by
  have htexts : [".", "/", "//"] =
      [PathRoot.relative, .single, .double].map fun root => toString ⟨root, []⟩ := by decide
  rw [htexts, List.mem_map]
  constructor
  · rintro ⟨root, -, hroot⟩
    rw [← ((normal_empty root).toString_inj h).mp hroot]
  · intro hnames
    refine ⟨p.root, by cases p.root <;> simp, ?_⟩
    rw [← hnames]

/-! ## Suffixes -/

/-- A name that holds a dot is split by the last one. -/
theorem exists_last_dot {cs : List Char} (h : '.' ∈ cs) :
    ∃ before after, cs = before ++ '.' :: after ∧ '.' ∉ after := by
  obtain ⟨a, b, hsplit, hfree⟩ := List.eq_append_cons_of_mem (List.mem_reverse.mpr h)
  refine ⟨b.reverse, a.reverse, ?_, mt List.mem_reverse.mp hfree⟩
  rw [← List.reverse_reverse cs, hsplit]
  simp

/-- The last dot starts the suffix if it stands inside the name. -/
theorem suffixStart?_append {before after : List Char} (h : '.' ∉ after) :
    suffixStart? (before ++ '.' :: after) =
      if before ≠ [] ∧ after ≠ [] then some before.length else none := by
  have hafter : ((before ++ '.' :: after).reverse.takeWhile (· != '.')).length = after.length := by
    have hall : ∀ c ∈ after.reverse, (c != '.') = true := by
      intro c hc
      rw [bne_iff_ne]
      rintro rfl
      exact h (List.mem_reverse.mp hc)
    rw [List.reverse_append, List.reverse_cons, List.append_assoc, List.takeWhile_append_of_pos hall]
    simp
  have hbefore : (before ++ '.' :: after).length - after.length - 1 = before.length := by
    rw [List.length_append, List.length_cons]
    omega
  have hdot : (before ++ '.' :: after).contains '.' = true := by simp
  simp only [suffixStart?, hafter, hbefore, hdot, Bool.true_and, Bool.and_eq_true, decide_eq_true_eq,
    List.length_pos_iff]

/-- A name without a suffix is its own stem. -/
theorem suffixless {p : Path} (h : suffixStart? p.name.toList = none) :
    p.stem = p.name ∧ p.extension = "" := by
  simp only [stem, extension, suffix, h, true_and]
  rfl

/-- A name is split into its stem and its extension where the suffix starts. -/
theorem suffixed {p : Path} {before after : List Char} (h : p.name.toList = before ++ '.' :: after)
    (hfree : '.' ∉ after) (hstart : suffixStart? p.name.toList = some before.length) :
    p.stem = String.ofList before ∧ p.extension = String.ofList after := by
  have hdots : ('.' :: after).dropWhile (· == '.') = after := by
    rw [List.dropWhile_cons_of_pos (by simp)]
    cases after with
    | nil => rfl
    | cons c rest =>
      have hc : c ≠ '.' := fun heq => hfree (heq ▸ List.mem_cons_self ..)
      rw [List.dropWhile_cons_of_neg (by simpa using hc)]
  simp only [stem, extension, suffix, hstart]
  rw [h, List.take_left, List.drop_left, String.toList_ofList, hdots]
  exact ⟨rfl, rfl⟩

/-- A name is its stem, with the extension after a dot if there is one. -/
theorem name_eq (p : Path) :
    p.name = if p.extension = "" then p.stem else p.stem ++ "." ++ p.extension := by
  by_cases hdot : '.' ∈ p.name.toList
  · obtain ⟨before, after, hname, hfree⟩ := exists_last_dot hdot
    have hstart := @suffixStart?_append before after hfree
    rw [← hname] at hstart
    split at hstart
    · next hinside =>
      obtain ⟨hstem, hextension⟩ := suffixed hname hfree hstart
      have hne : p.extension ≠ "" := by simpa [hextension] using hinside.2
      rw [if_neg hne, ← String.toList_inj, hname, hstem, hextension]
      simp
    · obtain ⟨hstem, hextension⟩ := suffixless hstart
      rw [if_pos hextension, hstem]
  · have hnone : suffixStart? p.name.toList = none := by simp [suffixStart?, hdot]
    obtain ⟨hstem, hextension⟩ := suffixless hnone
    rw [if_pos hextension, hstem]

/-! ## Ways from a directory -/

/-- The way from a directory to a path is what leads to the path from the directory. -/
theorem relativeTo?_eq_some_iff {p base way : Path} :
    p.relativeTo? base = some way ↔ way.root = .relative ∧ base.join way = p := by
  obtain ⟨root, names⟩ := p
  rw [relativeTo?]
  constructor
  · intro h
    split at h
    · next hunder =>
      obtain ⟨rfl, hunder⟩ := hunder
      obtain ⟨rest, rfl⟩ := List.isPrefixOf_iff_prefix.mp hunder
      obtain rfl := Option.some.inj h
      refine ⟨rfl, ?_⟩
      rw [join_relative rfl, List.drop_left]
    · cases h
  · rintro ⟨hrelative, hjoin⟩
    rw [join_relative hrelative] at hjoin
    obtain ⟨rfl, rfl⟩ := Path.mk.inj hjoin
    rw [if_pos ⟨rfl, List.isPrefixOf_iff_prefix.mpr (List.prefix_append ..)⟩, List.drop_left, ← hrelative]

/-- Where a path starts, followed by its names. -/
def components (p : Path) : List String := p.root.text :: p.names

/-- There is a way from a directory to a path exactly if the path starts with the components of the
directory. -/
theorem isSome_relativeTo?_iff {p base : Path} :
    (p.relativeTo? base).isSome ↔ base.components <+: p.components := by
  rw [components, components, List.cons_prefix_cons, PathRoot.text_injective.eq_iff, relativeTo?,
    ← List.isPrefixOf_iff_prefix]
  split
  · next h => exact iff_of_true rfl ⟨h.1.symm, h.2⟩
  · next h => exact iff_of_false (by simp) fun hunder => h ⟨hunder.1.symm, hunder.2⟩

end Path

end PathTemplates
