import PathTemplates.Expr.Printer
import PathTemplates.Proofs.Expr.Parsing
import PathTemplates.Proofs.Outcome

/-! # Written expressions

The writer that keeps a list of pieces gives the form that is defined by recursion
(`toSource_eq_written`). What is written is read back: an expression that has a written form, made of
names that are identifiers, is the only one whose text that form is (`Writable.interior`), and the
parser gives no other expressions (`Interior.writable`). -/

namespace PathTemplates

namespace Expr

/-! ## The writer and the recursive form -/

namespace Piece

/-- The written form of pieces, one after another. -/
def written : List Piece → Except ExprError String
  | [] => .ok ""
  | verbatim s :: rest => (written rest).map (s ++ ·)
  | expr e :: rest => do
    let first ← e.written
    let others ← written rest
    return first ++ others

/-- The pieces of arguments have the written form of the arguments. -/
theorem written_ofArgs_append (args : List Expr) (rest : List Piece) :
    written (ofArgs args ++ rest) = (do
      let inner ← writtenArgs args
      let others ← written rest
      return inner ++ others) := by
  induction args with
  | nil =>
    cases h : written rest <;> simp [ofArgs, writtenArgs, h]
  | cons e args ih =>
    cases args with
    | nil => simp [ofArgs, writtenArgs, written]
    | cons d args =>
      simp only [ofArgs, List.cons_append, written, writtenArgs] at ih ⊢
      rw [ih]
      cases e.written with
      | error => rfl
      | ok first =>
        cases writtenArgs (d :: args) with
        | error => rfl
        | ok inner =>
          cases written rest with
          | error => rfl
          | ok others =>
            simp [String.append_assoc]

end Piece

/-- Writing pieces gives their written form after what has been written. -/
theorem writeFrom_eq_written (done : List String) (pieces : List Piece) :
    (writeFrom done pieces).map String.join =
      (Piece.written pieces).map (String.join done.reverse ++ ·) := by
  -- the induction follows the writer, which replaces an expression by its pieces at the front
  fun_induction writeFrom done pieces with
  | case1 done => simp [Piece.written]
  | case2 done s pending ih =>
    rw [ih, Piece.written]
    cases Piece.written pending <;> simp [String.append_assoc]
  | case3 done root fields pending ih =>
    rw [ih, Piece.written, Expr.written]
    cases Piece.written pending <;>
      simp [String.append_assoc]
  | case4 done s pending shown h ih =>
    rw [ih, Piece.written, Expr.written, h]
    cases Piece.written pending <;>
      simp [String.append_assoc]
  | case5 done s pending e h =>
    rw [Piece.written, Expr.written, h]
    rfl
  | case6 done name args pending ih =>
    rw [ih, Piece.written_ofArgs_append, Piece.written, Piece.written, Expr.written]
    cases writtenArgs args with
    | error => rfl
    | ok inner =>
      cases Piece.written pending <;>
        simp [String.append_assoc]

/-- The writer gives the written form. -/
theorem toSource_eq_written (e : Expr) : e.toSource = e.written := by
  have hsource : e.toSource = (writeFrom [] [.expr e]).map String.join := by
    rw [toSource]
    cases writeFrom [] [.expr e] <;> rfl
  rw [hsource, writeFrom_eq_written, Piece.written]
  cases e.written <;> simp [Piece.written]

/-! ## Expressions that can be written -/

/-- An expression whose written form is read back: every name is an identifier, and no text holds
both kinds of quotes. -/
inductive Writable : Expr → Prop
  /-- A variable and fields, all of them identifiers. -/
  | path {root : String} {fields : List String} :
      isIdentifier root → (∀ f ∈ fields, isIdentifier f) → Writable (.path root fields)
  /-- A call of an identifier with writable arguments. -/
  | call {name : String} {args : List Expr} :
      isIdentifier name → (∀ a ∈ args, Writable a) → Writable (.call name args)
  /-- A text without one of the two kinds of quotes. -/
  | text {s : String} : ¬ ('\'' ∈ s.toList ∧ '"' ∈ s.toList) → Writable (.text s)

/-- An expression that is no quoted text may stand between the braces of a template. -/
def IsReference : Expr → Prop
  | path _ _ | call _ _ => True
  | text _ => False

end Expr

/-- An identifier is a name that a token may be made of. -/
theorem isIdentifier_iff {s : String} :
    isIdentifier s ↔ (Token.identifier s.toList).WellFormed := by
  simp [isIdentifier, Token.WellFormed]

/-- The characters of a name that a token may be made of are an identifier. -/
theorem isIdentifier_ofList {name : List Char} (h : (Token.identifier name).WellFormed) :
    isIdentifier (String.ofList name) := by
  rw [isIdentifier_iff, String.toList_ofList]
  exact h

namespace Grammar

/-- Fields that are read from tokens are identifiers. -/
theorem Fields.isIdentifier {ts : List Token} {names : List String} (h : Fields ts names)
    (hts : ∀ t ∈ ts, t.WellFormed) : ∀ f ∈ names, PathTemplates.isIdentifier f := by
  induction h with
  | nil => simp
  | cons _ ih =>
    simp only [List.forall_mem_cons] at hts ⊢
    exact ⟨isIdentifier_ofList hts.2.1, ih hts.2.2⟩

mutual

/-- An expression that is read from tokens can be written. -/
theorem Expression.writable {ts : List Token} {e : Expr} (h : Expression ts e)
    (hts : ∀ t ∈ ts, t.WellFormed) : e.Writable :=
  match h with
  | .variable hfields => by
    simp only [List.forall_mem_cons] at hts
    exact .path (isIdentifier_ofList hts.1) (hfields.isIdentifier hts.2)
  | .call hargs => by
    simp only [List.forall_mem_cons, List.forall_mem_append] at hts
    exact .call (isIdentifier_ofList hts.1) (hargs.writable hts.2.2.1)

/-- Arguments that are read from tokens can be written. -/
theorem Arguments.writable {ts : List Token} {es : List Expr} (h : Arguments ts es)
    (hts : ∀ t ∈ ts, t.WellFormed) : ∀ e ∈ es, e.Writable :=
  match h with
  | .none => by simp
  | .some he hes => by
    rw [List.forall_mem_append] at hts
    exact List.forall_mem_cons.mpr ⟨he.writable hts.1, hes.writable hts.2⟩

/-- Further arguments that are read from tokens can be written. -/
theorem MoreArguments.writable {ts : List Token} {es : List Expr} (h : MoreArguments ts es)
    (hts : ∀ t ∈ ts, t.WellFormed) : ∀ e ∈ es, e.Writable :=
  match h with
  | .nil => by simp
  | .cons he hes => by
    rw [List.forall_mem_cons, List.forall_mem_append] at hts
    exact List.forall_mem_cons.mpr ⟨he.writable hts.2.1, hes.writable hts.2.2⟩

/-- An argument that is read from tokens can be written. -/
theorem Argument.writable {ts : List Token} {e : Expr} (h : Argument ts e)
    (hts : ∀ t ∈ ts, t.WellFormed) : e.Writable :=
  match h with
  | .expression he => he.writable hts
  | @Argument.string mark text => by
    have hmem : mark.char ∉ text := hts _ (List.mem_singleton_self _)
    refine .text fun hboth => ?_
    rw [String.toList_ofList] at hboth
    cases mark with
    | single => exact hmem hboth.1
    | double => exact hmem hboth.2

end

/-- An argument is an expression, unless it is a quoted text. -/
theorem Argument.toExpression {ts : List Token} {e : Expr} (h : Argument ts e)
    (he : e.IsReference) : Expression ts e := by
  cases h with
  | expression h => exact h
  | string => exact absurd he id

/-- An expression is no quoted text. -/
theorem Expression.isReference {ts : List Token} {e : Expr} (h : Expression ts e) :
    e.IsReference := by
  cases h <;> trivial

end Grammar

/-- The tree of the inside of an expression can be written and is no quoted text. -/
theorem Interior.writable {cs : List Char} {e : Expr} (h : Interior cs e) :
    e.Writable ∧ e.IsReference := by
  obtain ⟨ts, hlexes, hexpr⟩ := h
  exact ⟨hexpr.writable hlexes.wellFormed, hexpr.isReference⟩

/-! ## Written forms are read back -/

/-- Characters that are read as given tokens wherever no name goes on after them. -/
def Spells (cs : List Char) (ts : List Token) : Prop :=
  ∀ rest us, EndsName rest → Lexes rest us → Lexes (cs ++ rest) (ts ++ us)

namespace Spells

/-- No characters are no tokens. -/
theorem nil : Spells [] [] := fun _ _ _ h => h

/-- Characters by themselves are read as the tokens that they spell. -/
theorem lexes {cs : List Char} {ts : List Token} (h : Spells cs ts) : Lexes cs ts := by
  simpa using h [] [] trivial .nil

/-- A blank is dropped. -/
theorem gap {c : Char} {cs : List Char} {ts : List Token} (hc : isGap c) (h : Spells cs ts) :
    Spells (c :: cs) ts := fun rest us hrest hus => .gap hc (h rest us hrest hus)

/-- A token before characters with which no name goes on. -/
theorem token {t : Token} {cs : List Char} {ts : List Token} (hwf : t.WellFormed)
    (hcs : EndsName cs) (h : Spells cs ts) : Spells (t.chars ++ cs) (t :: ts) := by
  intro rest us hrest hus
  rw [List.append_assoc]
  exact .token hwf (t.endsBefore_of_endsName (hcs.append hrest)) (h rest us hrest hus)

/-- A mark of punctuation before any characters. -/
theorem punctuation {t : Token} {cs : List Char} {ts : List Token} (hwf : t.WellFormed)
    (hend : ∀ rest, t.EndsBefore rest) (h : Spells cs ts) : Spells (t.chars ++ cs) (t :: ts) := by
  intro rest us hrest hus
  rw [List.append_assoc]
  exact .token hwf (hend _) (h rest us hrest hus)

/-- Characters before others with which no name goes on. -/
theorem append {cs ds : List Char} {ts us : List Token} (h : Spells cs ts) (hds : EndsName ds)
    (h' : Spells ds us) : Spells (cs ++ ds) (ts ++ us) := by
  intro rest vs hrest hvs
  rw [List.append_assoc, List.append_assoc]
  exact h _ _ (hds.append hrest) (h' rest vs hrest hvs)

/-- An identifier is spelled by its characters. -/
theorem identifier {name : String} (h : isIdentifier name) :
    Spells name.toList [.identifier name.toList] := by
  simpa [Token.chars] using token (isIdentifier_iff.mp h) .nil nil

end Spells

namespace Expr

/-- The characters of fields, each after a dot. -/
def dotted (fields : List String) : List Char := fields.flatMap fun f => '.' :: f.toList

/-- No name goes on with fields. -/
theorem endsName_dotted (fields : List String) : EndsName (dotted fields) := by
  cases fields with
  | nil => exact .nil
  | cons f fields => exact .cons _ (by decide)

/-- The fields of a path are written with a dot before each of them. -/
theorem spells_dotted {fields : List String} (h : ∀ f ∈ fields, isIdentifier f) :
    ∃ ts, Grammar.Fields ts fields ∧ Spells (dotted fields) ts := by
  induction fields with
  | nil => exact ⟨[], .nil, .nil⟩
  | cons f fields ih =>
    rw [List.forall_mem_cons] at h
    obtain ⟨ts, hfields, hspells⟩ := ih h.2
    have hcons := @Grammar.Fields.cons f.toList _ _ hfields
    rw [String.ofList_toList] at hcons
    refine ⟨.dot :: .identifier f.toList :: ts, hcons, ?_⟩
    have hname := (Spells.identifier h.1).append (endsName_dotted fields) hspells
    exact Spells.punctuation (t := .dot) trivial (fun _ => trivial) hname

/-- The characters of a path. -/
theorem toList_pathText (root : String) (fields : List String) :
    (pathText root fields).toList = root.toList ++ dotted fields := by
  rw [pathText, joinWith]
  induction fields generalizing root with
  | nil => simp [dotted]
  | cons f fields ih =>
    rw [String.intercalate_cons_cons]
    simp [ih, dotted]

/-- What an expression is written as, if it can be written: the characters of an argument. -/
def WrittenAs (e : Expr) (s : String) : Prop :=
  e.written = .ok s ∧ ∃ ts, Grammar.Argument ts e ∧ Spells s.toList ts

/-- A variable is written as a path. -/
theorem writtenAs_path {root : String} {fields : List String} (hroot : isIdentifier root)
    (hfields : ∀ f ∈ fields, isIdentifier f) :
    WrittenAs (.path root fields) (pathText root fields) := by
  obtain ⟨ts, hts, hspells⟩ := spells_dotted hfields
  have hexpr := @Grammar.Expression.variable root.toList _ _ hts
  rw [String.ofList_toList] at hexpr
  refine ⟨by rw [written], .identifier root.toList :: ts, .expression hexpr, ?_⟩
  rw [toList_pathText]
  exact (Spells.identifier hroot).append (endsName_dotted fields) hspells

/-- A text without one of the two kinds of quotes is written between these. -/
theorem exists_writtenAs_text {s : String} (h : ¬ ('\'' ∈ s.toList ∧ '"' ∈ s.toList)) :
    ∃ shown, WrittenAs (.text s) shown := by
  -- between marks that it does not hold, a text is read back as a whole
  have hquoted (mark : QuoteMark) (hmark : mark.char ∉ s.toList) :
      ∃ ts, Grammar.Argument ts (.text s) ∧
        Spells (mark.char :: (s.toList ++ [mark.char])) ts := by
    refine ⟨[.quoted mark s.toList], by simpa using @Grammar.Argument.string mark s.toList, ?_⟩
    simpa [Token.chars] using
      Spells.punctuation (t := .quoted mark s.toList) hmark (fun _ => trivial) Spells.nil
  by_cases hsingle : '\'' ∈ s.toList
  · have hdouble : '"' ∉ s.toList := fun hmem => h ⟨hsingle, hmem⟩
    refine ⟨"\"" ++ s ++ "\"", ?_, ?_⟩
    · simp [written, quotedText, hsingle, hdouble]
    · simpa [QuoteMark.char] using hquoted .double hdouble
  · refine ⟨"'" ++ s ++ "'", ?_, ?_⟩
    · simp [written, quotedText, hsingle]
    · simpa [QuoteMark.char] using hquoted .single hsingle

/-- Arguments that can be written each by itself are written together with commas between them. -/
theorem exists_written_arguments {e : Expr} {rest : List Expr}
    (h : ∀ a ∈ e :: rest, ∃ s, WrittenAs a s) :
    ∃ s ts us, writtenArgs (e :: rest) = .ok s ∧ Grammar.Argument ts e ∧
      Grammar.MoreArguments us rest ∧ Spells s.toList (ts ++ us) := by
  induction rest generalizing e with
  | nil =>
    obtain ⟨s, hwritten, ts, hts, hspells⟩ := h e (List.mem_singleton_self e)
    exact ⟨s, ts, [], by rw [writtenArgs, hwritten], hts, .nil, by simpa using hspells⟩
  | cons d rest ih =>
    rw [List.forall_mem_cons] at h
    obtain ⟨s, hwritten, ts, hts, hspells⟩ := h.1
    obtain ⟨others, ds, us, hothers, hds, hus, hrest⟩ := ih h.2
    refine ⟨s ++ ", " ++ others, ts, .comma :: (ds ++ us), ?_, hts, .cons hds hus, ?_⟩
    · simp [writtenArgs, hwritten, hothers]
    · have hcomma : Spells (',' :: ' ' :: others.toList) (.comma :: (ds ++ us)) :=
        .punctuation (t := .comma) trivial (fun _ => trivial) (.gap (by decide) hrest)
      simpa using hspells.append (.cons _ (by decide)) hcomma

/-- A call of an identifier is written with its arguments between parentheses. -/
theorem exists_writtenAs_call {name : String} {args : List Expr} (hname : isIdentifier name)
    (hargs : ∀ a ∈ args, ∃ s, WrittenAs a s) : ∃ s, WrittenAs (.call name args) s := by
  -- the writer puts commas between the arguments, the grammar before each but the first
  have hinner : ∃ s ts, writtenArgs args = .ok s ∧ Grammar.Arguments ts args ∧
      Spells s.toList ts := by
    cases args with
    | nil => exact ⟨"", [], by rw [writtenArgs], .none, .nil⟩
    | cons e rest =>
      obtain ⟨s, ts, us, hwritten, hts, hus, hspells⟩ := exists_written_arguments hargs
      exact ⟨s, ts ++ us, hwritten, .some hts hus, hspells⟩
  obtain ⟨s, ts, hwritten, hts, hspells⟩ := hinner
  have hcall := @Grammar.Expression.call name.toList _ _ hts
  rw [String.ofList_toList] at hcall
  refine ⟨name ++ "(" ++ s ++ ")", ?_, _, .expression hcall, ?_⟩
  · simp [written, hwritten]
  · have hclosing : Spells [')'] [.closing] :=
      .punctuation (t := .closing) trivial (fun _ => trivial) .nil
    have hopening : Spells ('(' :: (s.toList ++ [')'])) (.opening :: (ts ++ [.closing])) :=
      .punctuation (t := .opening) trivial (fun _ => trivial)
        (hspells.append (.cons _ (by decide)) hclosing)
    simpa using (Spells.identifier hname).append (.cons _ (by decide)) hopening

/-- A writable expression has a written form, whose characters are those of an argument. -/
theorem Writable.exists_writtenAs {e : Expr} (h : Writable e) : ∃ s, WrittenAs e s := by
  induction h with
  | path hroot hfields => exact ⟨_, writtenAs_path hroot hfields⟩
  | call hname _ ih => exact exists_writtenAs_call hname ih
  | text hs => exact exists_writtenAs_text hs

/-- The written form of a writable expression, between blanks, is the inside of an expression with
that tree. -/
theorem Writable.interior {e : Expr} (h : Writable e) (he : e.IsReference) :
    ∃ s, e.toSource = .ok s ∧ Interior (' ' :: (s.toList ++ [' '])) e := by
  obtain ⟨s, hwritten, ts, hts, hspells⟩ := h.exists_writtenAs
  -- the blanks on both sides are dropped by the scan
  have hblank : Spells [' '] [] := .gap (by decide) .nil
  have hblanks : Spells (' ' :: (s.toList ++ [' '])) (ts ++ []) :=
    .gap (by decide) (hspells.append (.cons _ (by decide)) hblank)
  have hlexes := hblanks.lexes
  exact ⟨s, by rw [toSource_eq_written, hwritten], ts, by simpa using hlexes, hts.toExpression he⟩

end Expr

end PathTemplates
