import PathTemplates.Pattern.Match
import PathTemplates.Pattern.Parser
import PathTemplates.Proofs.Bindings
import PathTemplates.Proofs.Outcome

/-! # Names of groups

A compiled pattern gives each name to one group only (`nodup_names_of_compile`), so what a match
captures under names is told name by name (`Compiled.nodup_names_search?`). Reading a pattern keeps
the names distinct: that is a triple for each function of the reader, and a name is added by
`openGroup` alone. -/

namespace PathTemplates.Pattern

open Reading Std.Do

set_option mvcgen.warning false

/-- Each name stands for one group. -/
def Reader.NamesOnce (r : Reader) : Prop := (Bindings.names r.names).Nodup

/-- Reading something never gives a name to a second group. -/
abbrev KeepsNames {α : Type} (m : Reading α) : Prop :=
  ⦃fun r => ⌜r.NamesOnce⌝⦄ m ⦃⇓? _ r => ⌜r.NamesOnce⌝⦄

/-- The names after reading something. -/
theorem KeepsNames.namesOnce {α : Type} {m : Reading α} (h : KeepsNames m) {r r' : Reader} {a : α}
    (hr : r.NamesOnce) (hrun : m.run r = .ok (a, r')) : r'.NamesOnce := by
  have hwp := h r hr
  simp only [WP.wp, PredTrans.apply_pushArg, hrun] at hwp
  exact hwp

/-! ## Units -/

-- the library's rule for `throw` leaves the monad open, so it is set aside where an error is thrown
@[spec] theorem keepsNames_throw {α : Type} (e : PatternError) :
    KeepsNames (throw e : Reading α) := by
  intro r h
  trivial

@[spec] theorem keepsNames_tell : KeepsNames Reading.tell := by
  mvcgen [Reading.tell]

@[spec] theorem keepsNames_fail {α : Type} (reason : String) (back : Nat) :
    KeepsNames (fail reason back : Reading α) := by
  mvcgen [fail, -Spec.throw_MonadExcept]

@[spec] theorem keepsNames_peek : KeepsNames peek := by
  mvcgen [peek]

@[spec] theorem keepsNames_checkAhead : KeepsNames checkAhead := by
  mvcgen [checkAhead, -Spec.throw_MonadExcept]

@[spec] theorem keepsNames_advance : KeepsNames advance := by
  mvcgen [advance]

@[spec] theorem keepsNames_next : KeepsNames next := by
  mvcgen [next]

@[spec] theorem keepsNames_accept (c : Char) : KeepsNames (accept c) := by
  mvcgen [accept]

@[spec] theorem keepsNames_upTo (p : Char → Bool) (n : Nat) : KeepsNames (upTo p n) := by
  induction n with
  | zero => mvcgen [upTo]
  | succ n ih => mvcgen [upTo, ih]

@[spec] theorem keepsNames_many (p : Char → Bool) : KeepsNames (many p) := by
  mvcgen [many]

@[spec] theorem keepsNames_through (close : Char) (what : String) (done : List Char) (n : Nat) :
    KeepsNames (through close what done n) := by
  induction n generalizing done with
  | zero => mvcgen [through]
  | succ n ih => mvcgen [through, ih]

@[spec] theorem keepsNames_nameUntil (close : Char) (what : String) :
    KeepsNames (nameUntil close what) := by
  mvcgen [nameUntil]

@[spec] theorem keepsNames_checkName (name : List Char) (back : Nat) :
    KeepsNames (checkName name back) := by
  mvcgen [checkName]

@[spec] theorem keepsNames_checkBehind (index : Nat) : KeepsNames (checkBehind index) := by
  mvcgen [checkBehind]

/-! ## Escapes and sets -/

@[spec] theorem keepsNames_badEscape {α : Type} (chars : List Char) :
    KeepsNames (badEscape chars : Reading α) := by
  mvcgen [badEscape]

@[spec] theorem keepsNames_hexEscape (mark : Char) (count : Nat) :
    KeepsNames (hexEscape mark count) := by
  mvcgen [hexEscape]

@[spec] theorem keepsNames_namedEscape : KeepsNames namedEscape := by
  mvcgen [namedEscape]

@[spec] theorem keepsNames_octalCode (ds : List Char) : KeepsNames (octalCode ds) := by
  mvcgen [octalCode]

theorem keepsNames_codeEscape? {c : Char} {read : Reading Nat} (h : codeEscape? c = some read) :
    KeepsNames read := by
  rw [codeEscape?] at h
  split_ifs at h <;> cases h
  · exact keepsNames_hexEscape 'x' 2
  · exact keepsNames_hexEscape 'u' 4
  · exact keepsNames_hexEscape 'U' 8
  · exact keepsNames_namedEscape

@[spec] theorem keepsNames_setEscape (c : Char) : KeepsNames (setEscape c) := by
  mvcgen [setEscape]
  exact keepsNames_codeEscape? ‹_› _ ‹_›

@[spec] theorem keepsNames_groupReference (ds : List Char) : KeepsNames (groupReference ds) := by
  mvcgen [groupReference]

@[spec] theorem keepsNames_escape (c : Char) : KeepsNames (escape c) := by
  mvcgen [escape]
  exact keepsNames_codeEscape? ‹_› _ ‹_›

@[spec] theorem keepsNames_setUnit (u : List Char) : KeepsNames (setUnit u) := by
  mvcgen [setUnit]

@[spec] theorem keepsNames_setItems (start : Nat) (done : List SetItem) (n : Nat) :
    KeepsNames (setItems start done n) := by
  induction n generalizing done with
  | zero => mvcgen [setItems]
  | succ n ih => mvcgen [setItems, ih]

@[spec] theorem keepsNames_readSet : KeepsNames readSet := by
  mvcgen [readSet]

/-! ## Options and repetitions -/

@[spec] theorem keepsNames_unknownFlag {α : Type} (u : List Char) (missing : String) :
    KeepsNames (unknownFlag u missing : Reading α) := by
  mvcgen [unknownFlag]

@[spec] theorem keepsNames_flagsOn (on : Flags) (u : List Char) (n : Nat) :
    KeepsNames (flagsOn on u n) := by
  induction n generalizing on u with
  | zero => mvcgen [flagsOn]
  | succ n ih => mvcgen [flagsOn, ih]

@[spec] theorem keepsNames_flagsOff (off : Flags) (u : List Char) (n : Nat) :
    KeepsNames (flagsOff off u n) := by
  induction n generalizing off u with
  | zero => mvcgen [flagsOff]
  | succ n ih => mvcgen [flagsOff, ih]

@[spec] theorem keepsNames_readFlags (u : List Char) : KeepsNames (readFlags u) := by
  mvcgen [readFlags]

@[spec] theorem keepsNames_repeatCount (ds : List Char) : KeepsNames (repeatCount ds) := by
  mvcgen [repeatCount, -Spec.throw_MonadExcept]

@[spec] theorem keepsNames_readBounds (start : Nat) : KeepsNames (readBounds start) := by
  mvcgen [readBounds]

@[spec] theorem keepsNames_readAppetite : KeepsNames readAppetite := by
  mvcgen [readAppetite]

@[spec] theorem keepsNames_repeatLast (done : List Node) (start signLength least : Nat)
    (most : Option Nat) : KeepsNames (repeatLast done start signLength least most) := by
  mvcgen [repeatLast]

/-! ## Groups -/

/-- A name that no group has yet can be given to one. -/
theorem Reader.NamesOnce.define {r : Reader} (h : r.NamesOnce) {name : String} (index : Nat)
    (hnew : r.names.find? (·.1 == name) = none) :
    (Bindings.names (r.names ++ [(name, index)])).Nodup := by
  have hfree : name ∉ Bindings.names r.names :=
    Bindings.get?_eq_none_iff.mp (by rw [Bindings.get?, hnew]; rfl)
  rw [← Bindings.set_of_notMem hfree]
  exact Bindings.nodup_names_set h

@[spec] theorem keepsNames_openGroup (name : Option (List Char)) : KeepsNames (openGroup name) := by
  mvcgen [openGroup]
  rename_i hnames _ _ _ _ _ hnew
  exact hnames.define _ hnew

@[spec] theorem keepsNames_closeGroup (index : Nat) (body : List Node) :
    KeepsNames (closeGroup index body) := by
  mvcgen [closeGroup]

@[spec] theorem keepsNames_namedReference : KeepsNames namedReference := by
  mvcgen [namedReference]

@[spec] theorem keepsNames_conditionGroup : KeepsNames conditionGroup := by
  mvcgen [conditionGroup]

@[spec] theorem keepsNames_skipComment (start n : Nat) : KeepsNames (skipComment start n) := by
  induction n with
  | zero => mvcgen [skipComment]
  | succ n ih => mvcgen [skipComment, ih]

@[spec] theorem keepsNames_skipLine (n : Nat) : KeepsNames (skipLine n) := by
  induction n with
  | zero => mvcgen [skipLine]
  | succ n ih => mvcgen [skipLine, ih]

@[spec] theorem keepsNames_closing (start : Nat) : KeepsNames (closing start) := by
  mvcgen [closing]

@[spec] theorem keepsNames_readOpening (start : Nat) : KeepsNames (readOpening start) := by
  mvcgen [readOpening]

section Nested

variable {ways parts : Bool → Reading (List Node)}

theorem keepsNames_readParenthesis (hways : ∀ verbose, KeepsNames (ways verbose))
    (hparts : ∀ verbose, KeepsNames (parts verbose)) (verbose first : Bool) (done : List Node)
    (start : Nat) : KeepsNames (readParenthesis ways parts verbose first done start) := by
  mvcgen [readParenthesis, hways, hparts]

theorem keepsNames_readPart (hways : ∀ verbose, KeepsNames (ways verbose))
    (hparts : ∀ verbose, KeepsNames (parts verbose)) (verbose first : Bool) (done : List Node)
    (u : List Char) : KeepsNames (readPart ways parts verbose first done u) := by
  have hparenthesis := keepsNames_readParenthesis hways hparts
  mvcgen [readPart, hparenthesis]

end Nested

/-- Ways and parts read one another, so both keep the names by one induction on the fuel. -/
theorem keepsNames_readWays_readParts (n : Nat) :
    (∀ verbose top done, KeepsNames (readWays verbose top done n)) ∧
      ∀ verbose first done, KeepsNames (readParts verbose first done n) := by
  induction n with
  | zero =>
    constructor
    · intro verbose top done
      mvcgen [readWays]
    · intro verbose first done
      mvcgen [readParts]
  | succ n ih =>
    obtain ⟨hways, hparts⟩ := ih
    constructor
    · intro verbose top done
      mvcgen [readWays, hways, hparts]
    · intro verbose first done
      have hpart := keepsNames_readPart
        (fun verbose => hways verbose false []) (fun verbose => hparts verbose false [])
      mvcgen [readParts, hpart, hparts]

@[spec] theorem keepsNames_readWays (verbose top : Bool) (done : List (List Node)) (n : Nat) :
    KeepsNames (readWays verbose top done n) :=
  (keepsNames_readWays_readParts n).1 verbose top done

theorem keepsNames_readPattern : KeepsNames readPattern := by
  mvcgen [readPattern, -Spec.throw_MonadExcept]

/-- No two groups of a compiled pattern have the same name. -/
theorem nodup_names_of_compile {pattern : String} {p : Compiled} (h : compile pattern = .ok p) :
    (Bindings.names p.names).Nodup := by
  rw [compile] at h
  obtain ⟨⟨nodes, r⟩, hread, h⟩ := bind_eq_ok_iff.mp h
  obtain ⟨-, -, h⟩ := bind_eq_ok_iff.mp h
  obtain rfl := Except.ok.inj h
  refine keepsNames_readPattern.namesOnce ?_ hread
  exact List.nodup_nil

/-- What the groups capture is told once for each name. -/
theorem Compiled.nodup_names_search? {p : Compiled} (h : (Bindings.names p.names).Nodup) {s : String}
    {groups : List (String × String)} (hsearch : p.search? s = some groups) :
    (Bindings.names groups).Nodup := by
  obtain ⟨spot, -, rfl⟩ := Option.map_eq_some_iff.mp hsearch
  refine h.sublist ?_
  -- a group that took no part in the match loses its name, and the others keep theirs
  induction p.names with
  | nil => exact .slnil
  | cons entry rest ih =>
    obtain ⟨name, index⟩ := entry
    cases hcapture : spot.capture? index with
    | none => simpa [hcapture, Bindings.names] using ih.cons name
    | some place => simpa [hcapture, Bindings.names] using ih

end PathTemplates.Pattern
