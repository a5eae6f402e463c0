import PathTemplates.Proofs.Lookups
import PathTemplates.Proofs.Pattern.GroupNames
import PathTemplates.Proofs.Resource
import PathTemplates.Proofs.Settings.Validity

/-! # Computed variables

A computed variable looks at a context only through the template that it is computed from
(`Variable.sameOutcome_compute`), and binding it changes one name. So two neighbours of which neither
reads the other can change places (`ContextFactory.build_swap`): the contexts bound on top of them stay
the same under every name (`ContextFactory.bindAll_congr`), which is all that contexts are compared by. -/

namespace PathTemplates

namespace Variable

variable {r : Registry} {c c' : Context}

/-- The template that a variable is computed from. -/
def source : Variable → Template
  | capture _ _ input => input
  | template _ value => value

/-- A variable has the same outcome in contexts that agree on the variables of its template. -/
theorem sameOutcome_compute {x : Variable} (h : ∀ n ∈ x.source.roots, c.get? n = c'.get? n) :
    SameOutcome c c' (x.compute r c) (x.compute r c') := by
  have hrender : SameOutcome c c' (x.source.render r c) (x.source.render r c') :=
    Template.sameOutcome_render h
  cases x with
  | capture name pattern input =>
    rw [compute, compute]
    exact hrender.bind fun text => .refl _
  | template name value =>
    rw [compute, compute]
    exact hrender.map Value.text

/-- A variable that settings describe by a pattern binds each group that took part in the match to its own
text, in the order of the pattern: no group replaces another. -/
theorem compute_capture_eq {name pattern input : String} {compiled : Pattern.Compiled} {t : Template}
    (h : VariableSettings.Describes (.capture name pattern input) (.capture name compiled t))
    {text : String} (hrender : t.render r c = .ok text) {groups : List (String × String)}
    (hsearch : compiled.search? text = some groups) :
    ∃ d : Dict String Value, (capture name compiled t).compute r c = .ok (.mapping d) ∧
      d.entries = groups.map fun (group, s) => (group, .text s) := by
  cases h with
  | capture hpattern hinput =>
    have hgroups : (Bindings.names groups).Nodup :=
      compiled.nodup_names_search? (Pattern.nodup_names_of_compile hpattern) hsearch
    refine ⟨.ofList (groups.map fun (group, s) => (group, .text s)), ?_,
      Dict.entries_ofList_of_nodup ?_⟩
    · rw [compute, hrender, ok_bind, hsearch]
      rfl
    · simpa [Bindings.names, Function.comp_def] using hgroups

/-- Neither of two variables reads or replaces the other. -/
structure Independent (x y : Variable) : Prop where
  /-- They have different names. -/
  name_ne : x.name ≠ y.name
  /-- The second one does not read the first one. -/
  notMem_right : x.name ∉ y.source.roots
  /-- The first one does not read the second one. -/
  notMem_left : y.name ∉ x.source.roots

/-- A variable has the same value before and after another one that it does not read. -/
theorem compute_bind_eq_ok_iff {x : Variable} {name : String} (h : name ∉ x.source.roots)
    {v w : Value} : x.compute r (c.bind name v) = .ok w ↔ x.compute r c = .ok w := by
  refine (sameOutcome_compute fun n hn => ?_).eq_ok_iff
  rw [Context.get?_bind, if_neg]
  rintro rfl
  exact h hn

end Variable

namespace ContextFactory

variable {r : Registry} {c c' d : Context}

/-- Variables are bound in two groups, one on top of the other. -/
theorem bindAll_append (before after : List Variable) :
    bindAll r c (before ++ after) = bindAll r c before >>= fun c => bindAll r c after := by
  induction before generalizing c with
  | nil => rfl
  | cons x rest ih =>
    rw [List.cons_append, bindAll, bindAll, bind_assoc]
    simp only [ih]

/-- Variables bound on top of contexts that bind every name to the same value give such contexts. -/
theorem bindAll_congr {xs : List Variable} (h : ∀ n, c.get? n = c'.get? n)
    (hd : bindAll r c xs = .ok d) :
    ∃ d', bindAll r c' xs = .ok d' ∧ ∀ n, d.get? n = d'.get? n := by
  induction xs generalizing c c' with
  | nil =>
    obtain rfl := Except.ok.inj hd
    exact ⟨c', rfl, h⟩
  | cons x rest ih =>
    rw [bindAll] at hd
    obtain ⟨v, hv, hd⟩ := bind_eq_ok_iff.mp hd
    have hv' : x.compute r c' = .ok v := (Variable.sameOutcome_compute fun n _ => h n).eq_ok_iff.mp hv
    have hbind (n : String) : (c.bind x.name v).get? n = (c'.bind x.name v).get? n := by
      simp only [Context.get?_bind, h]
    obtain ⟨d', hd', hget⟩ := ih hbind hd
    exact ⟨d', by rw [bindAll, hv', ok_bind, hd'], hget⟩

/-- Two independent variables can be bound in either order. -/
theorem bindAll_swap {x y : Variable} (h : x.Independent y) {after : List Variable}
    (hd : bindAll r c (x :: y :: after) = .ok d) :
    ∃ d', bindAll r c (y :: x :: after) = .ok d' ∧ ∀ n, d.get? n = d'.get? n := by
  simp only [bindAll, bind_eq_ok_iff] at hd
  obtain ⟨v, hv, w, hw, hd⟩ := hd
  -- each of them has the value that it has without the other
  have hw' : y.compute r c = .ok w := (Variable.compute_bind_eq_ok_iff h.notMem_right).mp hw
  have hv' : x.compute r (c.bind y.name w) = .ok v :=
    (Variable.compute_bind_eq_ok_iff h.notMem_left).mpr hv
  have hbind (n : String) : ((c.bind x.name v).bind y.name w).get? n =
      ((c.bind y.name w).bind x.name v).get? n := Dict.get?_set_comm h.name_ne n
  obtain ⟨d', hd', hget⟩ := bindAll_congr hbind hd
  exact ⟨d', by rw [bindAll, hw', ok_bind, bindAll, hv', ok_bind, hd'], hget⟩

/-- Two independent variables that stand next to each other can change places: if a context is built
with them in one order, it is built with them in the other, and the two contexts are the same. -/
theorem build_swap (f : ContextFactory) (t : FileTree) (r : Resource) (extra : List (String × Datum))
    {before after : List Variable} {x y : Variable} (hcomputed : f.computed = before ++ x :: y :: after)
    (hindependent : x.Independent y) {c : Context} (hbuild : (f.build t r extra).1 = .ok c) :
    ∃ c', ({ f with computed := before ++ y :: x :: after }.build t r extra).1 = .ok c' ∧
      c.same c' ∧ c.values.entries.Perm c'.values.entries := by
  obtain ⟨metadata, base, hmetadata, hbase, hbound⟩ := build_eq_ok_iff.mp hbuild
  obtain ⟨middle, hmiddle, htail⟩ : ∃ middle, bindAll f.registry base before = .ok middle ∧
      bindAll f.registry middle (x :: y :: after) = .ok c := by
    rwa [hcomputed, bindAll_append, bind_eq_ok_iff] at hbound
  obtain ⟨c', hc', hget⟩ := bindAll_swap hindependent htail
  have hswapped : bindAll f.registry base (before ++ y :: x :: after) = .ok c' := by
    rw [bindAll_append, hmiddle, ok_bind, hc']
  exact ⟨c', build_eq_ok_iff.mpr ⟨metadata, base, hmetadata, hbase, hswapped⟩,
    Context.same_of_get?_eq hget⟩

/-- The groups of a match in the name of a file and a text made from its stem change places. -/
theorem build_swap_capture_stem : ∃ x y c c',
    VariableSettings.Describes (.capture "show" "(?P<title>.)" "\x7b\x7b name \x7d\x7d") x ∧
      VariableSettings.Describes (.template "label" "\x7b\x7b stem \x7d\x7d") y ∧
      (build ⟨Builtin.registry, [x, y], false⟩ ⟨.ofString "/", "/root", []⟩ ⟨.ofString "a.txt", none⟩
        [("tag", .text "b")]).1 = .ok c ∧
      (build ⟨Builtin.registry, [y, x], false⟩ ⟨.ofString "/", "/root", []⟩ ⟨.ofString "a.txt", none⟩
        [("tag", .text "b")]).1 = .ok c' ∧ c.same c' := by
  have hbuilt : ((VariableSettings.toVariable
      (.capture "show" "(?P<title>.)" "\x7b\x7b name \x7d\x7d")).toOption.bind fun x =>
        (VariableSettings.toVariable
          (.template "label" "\x7b\x7b stem \x7d\x7d")).toOption.bind fun y =>
            (build ⟨Builtin.registry, [x, y], false⟩ ⟨.ofString "/", "/root", []⟩ ⟨.ofString "a.txt", none⟩
              [("tag", .text "b")]).1.toOption).isSome := by decide +kernel
  obtain ⟨c, hc⟩ := Option.isSome_iff_exists.mp hbuilt
  simp only [Option.bind_eq_some_iff] at hc
  obtain ⟨x, hx, y, hy, hc⟩ := hc
  have hx' := VariableSettings.toVariable_eq_ok_iff.mp (eq_ok_of_toOption hx)
  have hy' := VariableSettings.toVariable_eq_ok_iff.mp (eq_ok_of_toOption hy)
  have hindependent : x.Independent y := by
    have hname : Template.parse "\x7b\x7b name \x7d\x7d" =
        .ok ⟨[.expr (.path "name" [])], "\x7b\x7b name \x7d\x7d"⟩ := by cbv
    have hstem : Template.parse "\x7b\x7b stem \x7d\x7d" =
        .ok ⟨[.expr (.path "stem" [])], "\x7b\x7b stem \x7d\x7d"⟩ := by cbv
    cases hx' with
    | capture hpattern hinput =>
      cases hy' with
      | template hvalue =>
        obtain rfl := Except.ok.inj (hinput.symm.trans hname)
        obtain rfl := Except.ok.inj (hvalue.symm.trans hstem)
        have hroots (field source : String) :
            Template.roots ⟨[.expr (.path field [])], source⟩ = [field] := by cbv
        constructor <;> simp [Variable.name, Variable.source, hroots]
  obtain ⟨c', hc', hsame, -⟩ := build_swap ⟨Builtin.registry, [x, y], false⟩
    ⟨.ofString "/", "/root", []⟩ ⟨.ofString "a.txt", none⟩ [("tag", .text "b")]
    (show [x, y] = [] ++ x :: y :: [] from rfl) hindependent (eq_ok_of_toOption hc)
  exact ⟨x, y, c, c', hx', hy', eq_ok_of_toOption hc, hc', hsame⟩

end ContextFactory

end PathTemplates
