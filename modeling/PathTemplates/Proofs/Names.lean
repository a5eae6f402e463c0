import Mathlib.Data.List.TFAE
import PathTemplates.Cli.Run
import PathTemplates.Proofs.Bindings
import PathTemplates.Proofs.Expr.Spacing
import PathTemplates.Proofs.Settings.Entries
import PathTemplates.Proofs.Settings.Validity

/-! # Names

A name is given in four places: functions are registered under one, extra variables are set under one on
the command line, the settings name variables, and expressions refer to all of these. Each place checks
names by itself, and they agree (`names_agree`): what can be named is what can be referred to. -/

namespace PathTemplates

/-! ## Expressions -/

namespace Expr

/-- An expression that is parsed can be written. -/
theorem writable_of_parse {s : String} {e : Expr} (h : parse s = .ok e) : e.Writable := by
  -- with or without braces around it, it is the inside of an expression
  have hchars : ∃ cs, ofChars cs = .ok e := by
    rw [parse] at h
    cases hunwrap : unwrap? s.toList with
    | none =>
      rw [hunwrap] at h
      exact ⟨s.toList, mapError_eq_ok_iff.mp h⟩
    | some inner =>
      rw [hunwrap] at h
      exact ⟨inner.2, mapError_eq_ok_iff.mp (mapError_eq_ok_iff.mp h)⟩
  obtain ⟨cs, hcs⟩ := hchars
  exact (ofChars_eq_ok_iff.mp hcs).writable.1

/-- The written form of a variable or a call is parsed. -/
theorem WrittenAs.parse_eq {e : Expr} {s : String} (h : e.WrittenAs s) (he : e.IsReference) :
    parse s = .ok e := by
  obtain ⟨-, ts, hts, hspells⟩ := h
  have hlexes := hspells.lexes
  have hinterior : Interior s.toList e := ⟨ts, hlexes, hts.toExpression he⟩
  rw [parse_of_not_isBraced hlexes.not_isBraced, ofChars_eq_ok_iff.mpr hinterior]
  rfl

/-- A text is parsed to the variable of this name exactly if it is an identifier. -/
theorem parse_eq_path_iff {n : String} : parse n = .ok (.path n []) ↔ isIdentifier n := by
  constructor
  · intro h
    cases writable_of_parse h with
    | path hroot hfields => exact hroot
  · intro h
    have hfields : ∀ f ∈ ([] : List String), isIdentifier f := by simp
    have hwritten := writtenAs_path h hfields
    rw [pathText, joinWith, String.intercalate_singleton] at hwritten
    exact hwritten.parse_eq trivial

/-- A text with parentheses after it is parsed to the call of this name without arguments exactly if it
is an identifier. -/
theorem parse_eq_call_iff {n : String} : parse (n ++ "()") = .ok (.call n []) ↔ isIdentifier n := by
  constructor
  · intro h
    cases writable_of_parse h with
    | call hname hargs => exact hname
  · intro h
    have hargs : ∀ a ∈ ([] : List Expr), ∃ s, a.WrittenAs s := by simp
    obtain ⟨s, hs⟩ := exists_writtenAs_call h hargs
    obtain rfl : n ++ "(" ++ "" ++ ")" = s := Except.ok.inj hs.1
    have htext : n ++ "(" ++ "" ++ ")" = n ++ "()" := by
      rw [String.append_assoc, String.append_assoc]
      rfl
    rw [← htext]
    exact hs.parse_eq trivial

end Expr

/-! ## Functions -/

/-- A function is registered under a name exactly if the registry takes functions and the name is an
identifier, and then it is found there. -/
theorem Registry.exists_register_iff {r : Registry} {n description : String} {arity : Arity}
    {body : FunctionBody} :
    (∃ r' events, r.register n arity (.function body) description = .ok (r', events) ∧
      r'.find? n = some ⟨n, arity, body, description⟩) ↔ r.frozen = false ∧ isIdentifier n := by
  rw [register]
  by_cases hfrozen : r.frozen
  · simp [hfrozen]
  · by_cases hname : isIdentifier n
    · simp [hfrozen, hname, find?, Bindings.get?_set]
    · simp [hfrozen, hname]

/-! ## Extra variables -/

namespace Cli

/-- An identifier holds no equals sign. -/
theorem notMem_of_isIdentifier {n : String} (h : isIdentifier n) : '=' ∉ n.toList := by
  intro hmem
  have hchars := (isIdentifier_iff.mp h).2 _ hmem
  revert hchars
  decide

/-- An extra variable is read up to the first equals sign. -/
theorem readOverride?_eq (item : String) :
    readOverride? item =
      match item.toList.dropWhile (· != '=') with
      | _ :: value =>
        let name := String.ofList (item.toList.takeWhile (· != '='))
        if isIdentifier name then some (name, String.ofList value) else none
      | [] => none := by
  have hsplit := List.takeWhile_append_dropWhile (p := (· != '=')) (l := item.toList)
  rw [readOverride?]
  generalize item.toList.takeWhile (· != '=') = name at hsplit ⊢
  generalize item.toList.dropWhile (· != '=') = rest at hsplit ⊢
  have hrefused : (name.isEmpty || !name.all fun c => isAsciiDigit c || isAsciiLetter c || c == '_') =
      !isIdentifier (String.ofList name) := by
    have hempty : (String.ofList name).isEmpty = name.isEmpty := by cases name <;> simp
    rw [← isNameText_eq_isIdentifier, String.toList_ofList, hempty, Bool.not_and, Bool.not_not]
  simp only [← hsplit, List.drop_left, hrefused]
  cases rest with
  | nil => rfl
  | cons c value => cases isIdentifier (String.ofList name) <;> rfl

/-- An extra variable is a name, an equals sign and a value, which may hold further ones. -/
theorem readOverride?_eq_some_iff {item n v : String} :
    readOverride? item = some (n, v) ↔ item = n ++ "=" ++ v ∧ isIdentifier n := by
  rw [readOverride?_eq]
  constructor
  · intro h
    have hsplit := List.takeWhile_append_dropWhile (p := (· != '=')) (l := item.toList)
    have hhead := List.head?_dropWhile_not (· != '=') item.toList
    cases hrest : item.toList.dropWhile (· != '=') with
    | nil => simp [hrest] at h
    | cons c value =>
      rw [hrest] at h hsplit hhead
      obtain rfl : c = '=' := by simpa using hhead
      simp only [Option.ite_none_right_eq_some, Option.some.injEq, Prod.mk.injEq] at h
      obtain ⟨hname, rfl, rfl⟩ := h
      refine ⟨String.toList_injective ?_, hname⟩
      simpa using hsplit.symm
  · rintro ⟨rfl, hname⟩
    have hitem : (n ++ "=" ++ v).toList = n.toList ++ '=' :: v.toList := by simp
    obtain ⟨htake, hdrop⟩ := Token.takeWhile_text v.toList (notMem_of_isIdentifier hname)
    simp [hitem, htake, hdrop, hname]

/-- A single extra variable is the only one. -/
theorem readOverrides_singleton_eq_ok_iff {item n v : String} :
    readOverrides [item] = .ok [(n, v)] ↔ readOverride? item = some (n, v) := by
  rw [readOverrides, List.mapM_cons, List.mapM_nil]
  cases readOverride? item with
  | none => simp
  | some pair =>
    have h : Bindings.ofList [pair] = [pair] := rfl
    simp [h]

/-- A word of options is read, and then the words after it. -/
theorem parseAfter_cons_of_wordOptions {c : Command} {word : String} {w : WordOptions}
    (hword : wordOptions c word = .ok w) (hoption : isOptionWord word) (hne : word ≠ "--")
    (rest : List String) :
    parseAfter c none (word :: rest) = (parseAfter c w.waiting rest).map fun p =>
      { p with occurrences := w.found ++ p.occurrences } := by
  rw [parseAfter]
  simp only [beq_iff_eq, if_neg hne, if_pos hoption, hword]

/-- The word after the option is its value, whatever it is. -/
theorem parse_set_cons {words : List String} {p : Parsed} (item : String)
    (h : parse renderCommand words = .ok p) :
    ∃ p', parse renderCommand ("--set" :: item :: words) = .ok p' ∧
      p'.values "--set" = item :: p.values "--set" := by
  obtain ⟨o, hword, hname⟩ : ∃ o, wordOptions renderCommand "--set" = .ok ⟨[], some (o, "--set")⟩ ∧
      o.name = "--set" := ⟨_, rfl, rfl⟩
  refine ⟨p.withOption o item, ?_, ?_⟩
  · rw [parse] at h ⊢
    rw [parseAfter_cons_of_wordOptions hword (by decide) (by decide), parseAfter, h]
    rfl
  · simp [Parsed.values, Parsed.withOption, hname]

/-- The option sets the variable of a name, and no other one, exactly if the name is an identifier. -/
theorem exists_parse_set_iff {words : List String} {p : Parsed} {n v : String}
    (h : parse renderCommand words = .ok p) (hp : p.values "--set" = []) :
    (∃ p', parse renderCommand ("--set" :: (n ++ "=" ++ v) :: words) = .ok p' ∧
      readOverrides (p'.values "--set") = .ok [(n, v)]) ↔ isIdentifier n := by
  obtain ⟨p', hp', hvalues⟩ := parse_set_cons (n ++ "=" ++ v) h
  rw [hp] at hvalues
  simp only [hp', Except.ok.injEq, exists_eq_left', hvalues, readOverrides_singleton_eq_ok_iff,
    readOverride?_eq_some_iff, true_and]

end Cli

/-! ## Variables of the settings -/

namespace Settings

variable {es others : Entries} {d : Data} {s : Settings} {n : String}

/-- Settings with a single variable, whose name is told apart from its other settings. -/
def withVariable (others es : Entries) (name : Data) : Entries :=
  (.text "variables", .list [.mapping ((.text "name", name) :: es)]) :: others

/-- A variable that is accepted under some name is accepted under an identifier. -/
theorem exists_checkVariable {v : VariableSettings}
    (h : checkVariable (.mapping ((.text "name", d) :: es)) = .ok v) (hn : isIdentifier n) :
    ∃ v', checkVariable (.mapping ((.text "name", .text n) :: es)) = .ok v' ∧ v'.name = n := by
  have hname : ∃ d, Entries.get? ((.text "name", .text n) :: es) "name" = some d ∧
      checkName d = .ok n :=
    ⟨.text n, Entries.get?_cons_text, checkName_eq_ok_iff.mpr ⟨rfl, hn⟩⟩
  -- the kind and the other settings are found past the name, whichever it is
  have hother {setting : String} (hne : "name" ≠ setting) :
      Entries.get? ((.text "name", d) :: es) setting =
        Entries.get? ((.text "name", .text n) :: es) setting := by
    have hkey : Data.text "name" ≠ .text setting := mt Data.text.inj hne
    rw [Entries.get?_cons_of_ne hkey, Entries.get?_cons_of_ne hkey]
  obtain ⟨es', hes', hkind⟩ := checkVariable_eq_ok_iff.mp h
  obtain rfl := Data.mapping.inj hes'
  rcases hkind with ⟨hkind, hcapture⟩ | ⟨hkind, htemplate⟩
  · obtain ⟨_, pattern, input, -, -, hpattern, hinput⟩ := checkCapture_eq_ok_iff.mp hcapture
    rw [hother (by decide)] at hkind hpattern hinput
    have hcapture' := checkCapture_eq_ok_iff.mpr ⟨n, pattern, input, rfl, hname, hpattern, hinput⟩
    exact ⟨_, checkVariable_eq_ok_iff.mpr ⟨_, rfl, .inl ⟨hkind, hcapture'⟩⟩, rfl⟩
  · obtain ⟨_, value, -, -, hvalue⟩ := checkTemplateVariable_eq_ok_iff.mp htemplate
    rw [hother (by decide)] at hkind hvalue
    have htemplate' := checkTemplateVariable_eq_ok_iff.mpr ⟨n, value, rfl, hname, hvalue⟩
    exact ⟨_, checkVariable_eq_ok_iff.mpr ⟨_, rfl, .inr ⟨hkind, htemplate'⟩⟩, rfl⟩

/-- Settings with a variable that are accepted under some name are accepted under another name exactly if
it is an identifier. -/
theorem exists_ofEntries_withVariable_iff (h : ofEntries (withVariable others es d) = .ok s) :
    (∃ s', ofEntries (withVariable others es (.text n)) = .ok s' ∧
      s'.computed.map (·.name) = [n]) ↔ isIdentifier n := by
  constructor
  · rintro ⟨s', hs', hnames⟩
    have hvalid := valid_of_checkSettings (ofEntries_eq_ok_iff.mp hs').2
    have hmem : n ∈ s'.computed.map (·.name) := hnames ▸ List.mem_singleton_self n
    obtain ⟨v, hv, rfl⟩ := List.mem_map.mp hmem
    exact (hvalid.valid v hv).isIdentifier
  · intro hn
    obtain ⟨htexts, hcheck⟩ := ofEntries_eq_ok_iff.mp h
    obtain ⟨htemplates, hcontext, hvariables, hworkers, hverbosity⟩ := checkSettings_eq_ok_iff.mp hcheck
    -- the single variable
    have hvariables : checkVariables (.list [.mapping ((.text "name", d) :: es)]) = .ok s.computed :=
      hvariables
    obtain ⟨_, hitems, hitems', -⟩ := checkVariables_eq_ok_iff.mp hvariables
    obtain rfl := Option.some.inj hitems
    obtain ⟨v, _, hv, -, -⟩ := List.forall₂_cons_left_iff.mp hitems'
    obtain ⟨v', hv', hname⟩ := exists_checkVariable hv hn
    have hvariables' : checkVariables (.list [.mapping ((.text "name", .text n) :: es)]) = .ok [v'] :=
      checkVariables_eq_ok_iff.mpr ⟨_, rfl, .cons hv' .nil, List.nodup_singleton _⟩
    refine ⟨{ s with computed := [v'] }, ofEntries_eq_ok_iff.mpr ⟨?_, ?_⟩, ?_⟩
    · exact List.forall_mem_cons.mpr ⟨⟨_, rfl⟩, (List.forall_mem_cons.mp htexts).2⟩
    · exact checkSettings_eq_ok_iff.mpr ⟨htemplates, hcontext, hvariables', hworkers, hverbosity⟩
    · rw [List.map_singleton, hname]

end Settings

/-! ## The same names everywhere -/

/-- A text is an identifier exactly if it is parsed to the variable of this name; if with parentheses
after it, it is parsed to the call of this name without arguments; if a registry that is not frozen takes
a function under it, which is then found there; if the option that sets an extra variable takes it with
any value, and sets this variable and no other one; and if settings with a variable, which pass under
some name, pass under this one. -/
theorem names_agree (n : String) {r : Registry} (hr : r.frozen = false) (arity : Arity)
    (body : FunctionBody) (description v : String) {words : List String} {p : Cli.Parsed}
    (hwords : Cli.parse Cli.renderCommand words = .ok p) (hp : p.values "--set" = [])
    {others es : Entries} {d : Data} {s : Settings}
    (hs : Settings.ofEntries (Settings.withVariable others es d) = .ok s) :
    [isIdentifier n = true,
      Expr.parse n = .ok (.path n []),
      Expr.parse (n ++ "()") = .ok (.call n []),
      ∃ r' events, r.register n arity (.function body) description = .ok (r', events) ∧
        r'.find? n = some ⟨n, arity, body, description⟩,
      ∃ p', Cli.parse Cli.renderCommand ("--set" :: (n ++ "=" ++ v) :: words) = .ok p' ∧
        Cli.readOverrides (p'.values "--set") = .ok [(n, v)],
      ∃ s', Settings.ofEntries (Settings.withVariable others es (.text n)) = .ok s' ∧
        s'.computed.map (·.name) = [n]].TFAE := by
  refine List.tfae_of_forall (isIdentifier n = true) _ ?_
  simp only [List.forall_mem_cons, List.not_mem_nil, false_implies, implies_true, and_true, true_and]
  exact ⟨Expr.parse_eq_path_iff, Expr.parse_eq_call_iff,
    Registry.exists_register_iff.trans (and_iff_right hr),
    Cli.exists_parse_set_iff hwords hp, Settings.exists_ofEntries_withVariable_iff hs⟩

/-- A variable whose value holds an equals sign can be set, and no variable can have a dot in its name. -/
theorem names_agree_value_and_dot :
    (∃ p, Cli.parse Cli.renderCommand ["--set", "year=a=b", "t", "f"] = .ok p ∧
      Cli.readOverrides (p.values "--set") = .ok [("year", "a=b")]) ∧
    ¬ ∃ s, Settings.ofEntries [(.text "variables", .list [.mapping [(.text "name", .text "a.b"),
        (.text "kind", .text "template"), (.text "value", .text "x")]])] = .ok s ∧
      s.computed.map (·.name) = ["a.b"] := by
  have hs : Settings.ofEntries (Settings.withVariable []
      [(.text "kind", .text "template"), (.text "value", .text "x")] (.text "b")) =
        .ok { computed := [.template "b" "x"] } := rfl
  have hwords : Cli.parse Cli.renderCommand ["t", "f"] = .ok ⟨[], ["t", "f"]⟩ := rfl
  have hempty : Registry.empty.frozen = false := rfl
  have hagree (n v : String) :=
    names_agree n hempty (.exactly 0) (fun _ => .ok (.text "")) "" v hwords rfl hs
  exact ⟨((hagree "year" "a=b").out 0 4).mp rfl, mt ((hagree "a.b" "").out 5 0).mp (by decide)⟩

end PathTemplates
