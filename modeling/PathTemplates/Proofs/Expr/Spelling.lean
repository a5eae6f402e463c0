import PathTemplates.Proofs.Expr.Printing
import PathTemplates.Proofs.Expr.Walking

/-! # Spellings

The spelling of an expression is put together from the spellings of its parts. The writer, which keeps a
list of pieces, gives this spelling, unless a text in the expression holds both kinds of quotes: then it
refuses the first such text from left to right (`toSource_eq`). -/

namespace PathTemplates

namespace Expr

mutual

/-- The spelling of an expression: the names of a path with dots between them, a text between single
quotes, or between double quotes if it holds a single one, and a call with its arguments in parentheses. -/
def spelling : Expr → String
  | path root fields => joinWith "." (root :: fields)
  | text s => if '\'' ∈ s.toList then "\"" ++ s ++ "\"" else "'" ++ s ++ "'"
  | call name args => name ++ "(" ++ joinWith ", " (spellings args) ++ ")"

/-- The spellings of arguments. -/
def spellings : List Expr → List String
  | [] => []
  | e :: rest => spelling e :: spellings rest

end

/-- Arguments are spelled one by one. -/
theorem spellings_eq_map (args : List Expr) : spellings args = args.map spelling := by
  induction args with
  | nil => rw [spellings, List.map_nil]
  | cons e rest ih => rw [spellings, ih, List.map_cons]

/-- One argument is spelled without a comma. -/
theorem joinWith_spellings_singleton (e : Expr) : joinWith ", " (spellings [e]) = e.spelling := by
  rw [spellings, spellings, joinWith, String.intercalate_singleton]

/-- A comma stands between an argument and those after it. -/
theorem joinWith_spellings_cons_cons (e d : Expr) (rest : List Expr) :
    joinWith ", " (spellings (e :: d :: rest)) =
      e.spelling ++ ", " ++ joinWith ", " (spellings (d :: rest)) := by
  rw [spellings, spellings, joinWith, String.intercalate_cons_cons, joinWith]

/-- A text that holds both kinds of quotes. -/
def HoldsBothQuotes (s : String) : Prop := '\'' ∈ s.toList ∧ '"' ∈ s.toList

instance (s : String) : Decidable (HoldsBothQuotes s) :=
  inferInstanceAs (Decidable (_ ∧ _))

/-- The text that an expression is, if it holds both kinds of quotes. -/
def unquotable? : Expr → Option String
  | text s => if HoldsBothQuotes s then some s else none
  | path _ _ | call _ _ => none

/-- What is written, given a text that cannot be, if there is one. -/
def writtenUnless : Option String → String → Except ExprError String
  | some s, _ => .error (.bothQuotes s)
  | none, shown => .ok shown

/-- A text is written between the quotes of its spelling. -/
theorem quotedText_eq (s : String) :
    quotedText s = writtenUnless (unquotable? (text s)) (text s).spelling := by
  rw [quotedText, unquotable?, spelling]
  by_cases hsingle : '\'' ∈ s.toList
  · by_cases hdouble : '"' ∈ s.toList
    · simp [HoldsBothQuotes, hsingle, hdouble, writtenUnless]
    · simp [HoldsBothQuotes, hsingle, hdouble, writtenUnless]
  · simp [HoldsBothQuotes, hsingle, writtenUnless]

/-- What is written of two parts, one after the other. -/
theorem writtenUnless_append (found found' : Option String) (s sep s' : String) :
    (do
      let first ← writtenUnless found s
      let others ← writtenUnless found' s'
      return first ++ sep ++ others) = writtenUnless (found.or found') (s ++ sep ++ s') := by
  -- a text in the first part is refused whatever the second holds
  cases found with
  | some t => rfl
  | none => cases found' <;> rfl

mutual

/-- The written form is the spelling, unless a text inside cannot be written. -/
theorem written_eq : (e : Expr) →
    e.written = writtenUnless (e.subterms.findSome? unquotable?) e.spelling
  | path root fields => by
    rw [written, subterms_path, spelling]
    rfl
  | text s => by
    rw [written, quotedText_eq, subterms_text, List.findSome?_singleton]
  | call name args => by
    rw [written, writtenArgs_eq args, subterms, List.findSome?_cons, unquotable?, spelling]
    cases (subtermsList args).findSome? unquotable? <;> rfl

/-- The written form of arguments has their spellings, unless a text inside cannot be written. -/
theorem writtenArgs_eq : (args : List Expr) → writtenArgs args =
    writtenUnless ((subtermsList args).findSome? unquotable?) (joinWith ", " (spellings args))
  | [] => by
    rw [writtenArgs, subtermsList, spellings]
    rfl
  | [e] => by
    rw [writtenArgs, written_eq e, subtermsList, subtermsList, List.append_nil,
      joinWith_spellings_singleton]
  | e :: d :: rest => by
    have hterms : subtermsList (e :: d :: rest) = e.subterms ++ subtermsList (d :: rest) := by
      rw [subtermsList]
    rw [hterms, List.findSome?_append, joinWith_spellings_cons_cons, ← writtenUnless_append,
      ← written_eq e, ← writtenArgs_eq (d :: rest)]
    simp only [writtenArgs]

end

/-- The writer gives the spelling, unless a text inside cannot be written. -/
theorem toSource_eq (e : Expr) :
    e.toSource = writtenUnless (e.subterms.findSome? unquotable?) e.spelling := by
  rw [toSource_eq_written, written_eq]

theorem unquotable?_eq_some_iff {e : Expr} {s : String} :
    e.unquotable? = some s ↔ e = text s ∧ HoldsBothQuotes s := by
  cases e with
  | path | call => simp [unquotable?]
  | text t =>
    by_cases h : HoldsBothQuotes t
    · simp only [unquotable?, if_pos h, Option.some.injEq, text.injEq]
      exact ⟨fun heq => ⟨heq, heq ▸ h⟩, And.left⟩
    · simp only [unquotable?, if_neg h, text.injEq, reduceCtorEq, false_iff]
      rintro ⟨rfl, hs⟩
      exact h hs

/-- Every text among expressions can be quoted. -/
theorem findSome?_unquotable?_eq_none_iff {es : List Expr} :
    es.findSome? unquotable? = none ↔ ∀ s, text s ∈ es → ¬ HoldsBothQuotes s := by
  rw [List.findSome?_eq_none_iff]
  constructor
  · intro h s hs hboth
    cases (h (text s) hs).symm.trans (unquotable?_eq_some_iff.mpr ⟨rfl, hboth⟩)
  · intro h e he
    cases hfound : e.unquotable? with
    | none => rfl
    | some s =>
      obtain ⟨rfl, hboth⟩ := unquotable?_eq_some_iff.mp hfound
      exact absurd hboth (h s he)

/-- The first text among expressions that cannot be quoted. -/
theorem findSome?_unquotable?_eq_some_iff {es : List Expr} {s : String} :
    es.findSome? unquotable? = some s ↔ ∃ before after, es = before ++ text s :: after ∧
      HoldsBothQuotes s ∧ ∀ t, text t ∈ before → ¬ HoldsBothQuotes t := by
  rw [List.findSome?_eq_some_iff]
  constructor
  · rintro ⟨before, e, after, hsplit, he, hbefore⟩
    obtain ⟨rfl, hs⟩ := unquotable?_eq_some_iff.mp he
    refine ⟨before, after, hsplit, hs, ?_⟩
    exact findSome?_unquotable?_eq_none_iff.mp (List.findSome?_eq_none_iff.mpr hbefore)
  · rintro ⟨before, after, hsplit, hs, hbefore⟩
    refine ⟨before, text s, after, hsplit, unquotable?_eq_some_iff.mpr ⟨rfl, hs⟩, ?_⟩
    exact List.findSome?_eq_none_iff.mp (findSome?_unquotable?_eq_none_iff.mpr hbefore)

/-- The writer succeeds exactly if every text inside can be quoted, and then gives the spelling. -/
theorem toSource_eq_ok_iff {e : Expr} {shown : String} : e.toSource = .ok shown ↔
    shown = e.spelling ∧ ∀ s, text s ∈ e.subterms → ¬ HoldsBothQuotes s := by
  rw [toSource_eq, ← findSome?_unquotable?_eq_none_iff]
  cases e.subterms.findSome? unquotable? with
  | none => simp [writtenUnless, eq_comm]
  | some s => simp [writtenUnless]

/-- The writer refuses the first text inside that cannot be quoted. -/
theorem toSource_eq_error_iff {e : Expr} {err : ExprError} : e.toSource = .error err ↔
    ∃ s, err = .bothQuotes s ∧ ∃ before after, e.subterms = before ++ text s :: after ∧
      HoldsBothQuotes s ∧ ∀ t, text t ∈ before → ¬ HoldsBothQuotes t := by
  simp only [toSource_eq, ← findSome?_unquotable?_eq_some_iff]
  cases e.subterms.findSome? unquotable? with
  | none => simp [writtenUnless]
  | some s => simp [writtenUnless, eq_comm]

/-- The writer follows the structure of the expression. It succeeds exactly if no text inside holds both
kinds of quotes, and then gives the spelling, which is put together from the spellings of the parts;
otherwise it refuses the first such text from left to right. -/
theorem toSource_follows_structure (e : Expr) :
    (∀ shown, e.toSource = .ok shown ↔
      shown = e.spelling ∧ ∀ s, text s ∈ e.subterms → ¬ HoldsBothQuotes s) ∧
    (∀ err, e.toSource = .error err ↔
      ∃ s, err = .bothQuotes s ∧ ∃ before after, e.subterms = before ++ text s :: after ∧
        HoldsBothQuotes s ∧ ∀ t, text t ∈ before → ¬ HoldsBothQuotes t) ∧
    (∀ root fields, (path root fields).spelling = String.intercalate "." (root :: fields)) ∧
    (∀ s, (text s).spelling = if '\'' ∈ s.toList then "\"" ++ s ++ "\"" else "'" ++ s ++ "'") ∧
    ∀ name args, (call name args).spelling =
      name ++ "(" ++ String.intercalate ", " (args.map spelling) ++ ")" := by
  refine ⟨fun _ => toSource_eq_ok_iff, fun _ => toSource_eq_error_iff, fun root fields => ?_,
    fun s => ?_, fun name args => ?_⟩
  · rw [spelling, joinWith]
  · rw [spelling]
  · rw [spelling, joinWith, spellings_eq_map]

/-- Calls without arguments and with several, and a text that holds a single quote. -/
example : (call "f" [call "g" [], text "it's", call "h" [path "a" ["b"]]]).toSource =
    .ok "f(g(), \"it's\", h(a.b))" := by
  cbv

end Expr

end PathTemplates
