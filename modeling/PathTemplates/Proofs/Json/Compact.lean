import PathTemplates.Json.Printer
import PathTemplates.Json.Reader
import PathTemplates.Proofs.Bindings
import Mathlib.Data.String.Basic

/-! # Compact JSON

The JSON grammar of texts and objects in which nothing stands between the tokens (`CompactText`). What
the compact printer writes is derived by it (`compactText_compact`), and the reader turns what is derived
into the one value of the derivation (`read?_of_compactText`), if the names of every object ascend. -/

namespace PathTemplates

/-! ## Hexadecimal digits -/

/-- A digit has its value. -/
theorem hexValue?_hexDigit : ∀ n, n < 16 → hexValue? (hexDigit n) = some n := by decide

/-- There are as many digits as asked for. -/
theorem length_hexDigits (width n : Nat) : (hexDigits width n).length = width := by
  induction width generalizing n with
  | zero => rfl
  | succ width ih => rw [hexDigits, List.length_append, ih, List.length_singleton]

/-- All of them are digits. -/
theorem isHexDigit_of_mem_hexDigits {width n : Nat} {d : Char} (h : d ∈ hexDigits width n) :
    isHexDigit d := by
  induction width generalizing n with
  | zero => simp [hexDigits] at h
  | succ width ih =>
    rw [hexDigits, List.mem_append, List.mem_singleton] at h
    rcases h with h | rfl
    · exact ih h
    · have hlast : n % 16 < 16 := Nat.mod_lt n (by decide)
      rw [isHexDigit, hexValue?_hexDigit _ hlast]
      rfl

/-- The digits write the lowest part of the number. -/
theorem digitsIn_hexDigits (width n : Nat) : digitsIn 16 (hexDigits width n) = n % 16 ^ width := by
  induction width generalizing n with
  | zero => simp [hexDigits, digitsIn, Nat.mod_one]
  | succ width ih =>
    have hlast : n % 16 < 16 := Nat.mod_lt n (by decide)
    have hstep : digitsIn 16 (hexDigits (width + 1) n) =
        digitsIn 16 (hexDigits width (n / 16)) * 16 + n % 16 := by
      simp [hexDigits, digitsIn, hexValue?_hexDigit _ hlast]
    rw [hstep, ih, Nat.pow_succ, Nat.mul_comm (16 ^ width) 16, Nat.mod_mul]
    omega

namespace Json

/-! ## The grammar -/

/-- How a character may be written inside a string: as itself unless it is a control character, a quote or
a backslash; as the letter that stands for it after a backslash; or by the four hexadecimal digits of its
number. -/
inductive CharText : Char → List Char → Prop
  /-- A character as itself. -/
  | plain {c : Char} : 32 ≤ c.toNat → c ≠ '"' → c ≠ '\\' → CharText c [c]
  /-- A letter that stands for a character. -/
  | letter {c e : Char} : unescape? e = some c → CharText c ['\\', e]
  /-- The number of a character. -/
  | number {c : Char} {ds : List Char} : ds.length = 4 → (∀ d ∈ ds, isHexDigit d) →
      digitsIn 16 ds = c.toNat → CharText c ('\\' :: 'u' :: ds)

/-- How the characters of a string may be written, one after another. -/
inductive CharsText : List Char → List Char → Prop
  /-- No characters. -/
  | nil : CharsText [] []
  /-- A character before others. -/
  | cons {c : Char} {s cs ds : List Char} : CharText c cs → CharsText s ds →
      CharsText (c :: s) (cs ++ ds)

mutual

/-- The JSON texts of texts and objects in which nothing stands between the tokens, with their values. -/
inductive CompactText : Json → List Char → Prop
  /-- A string between quotes. -/
  | text {s : String} {cs : List Char} : CharsText s.toList cs →
      CompactText (.text s) ('"' :: (cs ++ ['"']))
  /-- An object without members. -/
  | empty : CompactText (.object []) ['{', '}']
  /-- An object with members between braces. -/
  | object {members : List (String × Json)} {cs : List Char} : MembersText members cs →
      CompactText (.object members) ('{' :: (cs ++ ['}']))

/-- The members of an object, at least one, with commas between them: each a name between quotes, a colon
and a value. -/
inductive MembersText : List (String × Json) → List Char → Prop
  /-- The last member. -/
  | last {name : String} {v : Json} {cs ds : List Char} : CharsText name.toList cs →
      CompactText v ds → MembersText [(name, v)] ('"' :: (cs ++ '"' :: ':' :: ds))
  /-- A member before others. -/
  | cons {name : String} {v : Json} {rest : List (String × Json)} {cs ds es : List Char} :
      CharsText name.toList cs → CompactText v ds → MembersText rest es →
      MembersText ((name, v) :: rest) ('"' :: (cs ++ '"' :: ':' :: (ds ++ ',' :: es)))

end

/-- A value of texts and objects in which the names of every object ascend strictly. -/
inductive Ascending : Json → Prop
  /-- A text. -/
  | text (s : String) : Ascending (.text s)
  /-- An object. -/
  | object {members : List (String × Json)} (hnames : (Bindings.names members).Pairwise (· < ·))
      (hvalues : ∀ member ∈ members, member.2.Ascending) : Ascending (.object members)

/-! ## Reading a string -/

/-- Four digits are read as the number that they write. -/
theorem readUnit?_of_isHexDigit {ds : List Char} (hlength : ds.length = 4)
    (hds : ∀ d ∈ ds, isHexDigit d) (rest : List Char) :
    readUnit? (ds ++ rest) = some (digitsIn 16 ds, rest) := by
  match ds, hlength with
  | [a, b, c, d], _ =>
    simp only [List.forall_mem_cons, isHexDigit, Option.isSome_iff_exists] at hds
    obtain ⟨⟨x, ha⟩, ⟨y, hb⟩, ⟨z, hc⟩, ⟨w, hd⟩, -⟩ := hds
    simp [readUnit?, digitsIn, ha, hb, hc, hd]

/-- The number of a character is no half of a pair, so that nothing is looked for after it. -/
theorem readEscaped?_of_isHexDigit {c : Char} {ds : List Char} (hlength : ds.length = 4)
    (hds : ∀ d ∈ ds, isHexDigit d) (hc : digitsIn 16 ds = c.toNat) (rest : List Char) :
    readEscaped? (ds ++ rest) = some (c, rest) := by
  have hvalid : c.toNat < 0xd800 ∨ (0xdfff < c.toNat ∧ c.toNat < 0x110000) := c.valid
  have hhigh : ¬ (0xd800 ≤ c.toNat ∧ c.toNat < 0xdc00) := by omega
  have hlow : ¬ (0xdc00 ≤ c.toNat ∧ c.toNat < 0xe000) := by omega
  rw [readEscaped?, readUnit?_of_isHexDigit hlength hds, hc]
  simp [hhigh, hlow, Char.ofNat_toNat]

/-- The reader takes one character of a string, however it is written. -/
theorem readString?_of_charText {c : Char} {cs : List Char} (h : CharText c cs) (fuel : Nat)
    (rest : List Char) : readString? (fuel + 1) (cs ++ rest) =
      (readString? fuel rest).map fun (s, r) => (c :: s, r) := by
  cases h with
  | plain hcontrol hquote hslash =>
    have hvisible : ¬ c.toNat < 32 := by omega
    simp [readString?, hquote, hslash, hvisible]
  | @letter e he =>
    have hne : e ≠ 'u' := by
      rintro rfl
      simp [unescape?] at he
    have hmark : ('\\' == '"') = false := by decide
    rw [List.cons_append, List.cons_append, List.nil_append, readString?]
    · simp [hmark, he]
    · exact fun heq => absurd heq hne
  | number hlength hds hc =>
    have hmark : ('\\' == '"') = false := by decide
    rw [List.cons_append, List.cons_append, readString?]
    simp [hmark, readEscaped?_of_isHexDigit hlength hds hc]

/-- A written character is not nothing. -/
theorem CharText.length_pos {c : Char} {cs : List Char} (h : CharText c cs) : 0 < cs.length := by
  cases h <;> simp

/-- The reader takes the characters of a string up to the closing quote. -/
theorem readString?_of_charsText {s cs : List Char} (h : CharsText s cs) {fuel : Nat}
    (hfuel : cs.length < fuel) (rest : List Char) :
    readString? fuel (cs ++ '"' :: rest) = some (s, rest) := by
  induction h generalizing fuel with
  | nil =>
    obtain ⟨fuel, rfl⟩ := Nat.exists_eq_add_of_lt hfuel
    simp [readString?]
  | @cons c s cs ds hc _ ih =>
    have hpos := hc.length_pos
    rw [List.length_append] at hfuel
    obtain ⟨fuel, rfl⟩ : ∃ k, fuel = k + 1 := ⟨fuel - 1, by omega⟩
    have hrest : ds.length < fuel := by omega
    rw [List.append_assoc, readString?_of_charText hc, ih hrest]
    rfl

/-! ## Reading a value -/

/-- Nothing is skipped before a character that is no blank. -/
theorem skipSpace_cons {c : Char} (hc : isSpace c = false) (rest : List Char) :
    skipSpace (c :: rest) = c :: rest := by
  rw [skipSpace, List.dropWhile_cons_of_neg (by simp [hc])]

/-- Nothing is skipped before a compact text. -/
theorem skipSpace_of_compactText {j : Json} {cs : List Char} (h : CompactText j cs)
    (rest : List Char) : skipSpace (cs ++ rest) = cs ++ rest := by
  cases h with
  | text => exact skipSpace_cons (by decide) _
  | empty => exact skipSpace_cons (by decide) _
  | object => exact skipSpace_cons (by decide) _

/-- Nothing is skipped before the members of an object. -/
theorem skipSpace_of_membersText {members : List (String × Json)} {cs : List Char}
    (h : MembersText members cs) (rest : List Char) : skipSpace (cs ++ rest) = cs ++ rest := by
  cases h with
  | last => exact skipSpace_cons (by decide) _
  | cons => exact skipSpace_cons (by decide) _

/-- Members of different names are kept as they are. -/
theorem gatherMembers_of_nodup {members : List (String × Json)}
    (h : (Bindings.names members).Nodup) : gatherMembers members = members := by
  have hsame : gatherMembers members = Bindings.ofList members := rfl
  rw [hsame, Bindings.ofList_of_nodup h]

/-- The length of what is read is enough fuel for the text at its start. -/
theorem length_lt_of_append (cs rest : List Char) : cs.length < (cs ++ rest).length + 1 := by
  rw [List.length_append]
  omega

/-- The length of a text that is not empty is fuel for its first character and for the rest. -/
theorem exists_fuel_of_length_cons_le {c : Char} {cs : List Char} {fuel : Nat}
    (h : (c :: cs).length ≤ fuel) : ∃ k, fuel = k + 1 ∧ cs.length ≤ k := by
  rw [List.length_cons] at h
  exact ⟨fuel - 1, by omega, by omega⟩

/-- After the opening brace of an object, a quote starts its members. -/
theorem readValue?_brace (fuel : Nat) (cs : List Char) :
    readValue? (fuel + 1) ('{' :: '"' :: cs) = (readMembers? fuel ('"' :: cs)).map
      fun (members, r) => (.object (gatherMembers members), r) := by
  rw [readValue?, skipSpace_cons (by decide)]
  rfl

/-- A member with a closing brace after it is the last one. -/
theorem readMembers?_last {name : String} {v : Json} {cs ds rest : List Char} {fuel : Nat}
    (hname : CharsText name.toList cs) (hv : CompactText v ds)
    (hread : readValue? fuel (ds ++ '}' :: rest) = some (v, '}' :: rest)) :
    readMembers? (fuel + 1) ('"' :: (cs ++ '"' :: ':' :: (ds ++ '}' :: rest))) =
      some ([(name, v)], rest) := by
  rw [readMembers?, readString?_of_charsText hname (length_lt_of_append cs _)]
  simp only [skipSpace_cons (c := ':') (by decide), skipSpace_of_compactText hv, hread,
    skipSpace_cons (c := '}') (by decide), String.ofList_toList]

/-- A member with a comma after it stands before the members that are read from there. -/
theorem readMembers?_comma {name : String} {v : Json} {cs ds rest : List Char} {fuel : Nat}
    (hname : CharsText name.toList cs) (hv : CompactText v ds)
    (hread : readValue? fuel (ds ++ ',' :: rest) = some (v, ',' :: rest)) :
    readMembers? (fuel + 1) ('"' :: (cs ++ '"' :: ':' :: (ds ++ ',' :: rest))) =
      (readMembers? fuel (skipSpace rest)).map fun (members, r) => ((name, v) :: members, r) := by
  rw [readMembers?, readString?_of_charsText hname (length_lt_of_append cs _)]
  simp only [skipSpace_cons (c := ':') (by decide), skipSpace_of_compactText hv, hread,
    skipSpace_cons (c := ',') (by decide), String.ofList_toList]

-- A value and the members of an object are written inside one another, so they are read by one recursion
-- on derivations; a text is longer than each part of it, so its length is enough fuel for all of them.
mutual

/-- A compact text is read as its value, and what follows it is left. -/
theorem readValue?_of_compactText {j : Json} {cs : List Char} (h : CompactText j cs)
    (hj : j.Ascending) {fuel : Nat} (hfuel : cs.length ≤ fuel) (rest : List Char) :
    readValue? fuel (cs ++ rest) = some (j, rest) := by
  match h with
  | @CompactText.text s cs hs =>
    obtain ⟨fuel, rfl, -⟩ := exists_fuel_of_length_cons_le hfuel
    have hstring : readString? ((cs ++ '"' :: rest).length + 1) (cs ++ '"' :: rest) =
        some (s.toList, rest) := readString?_of_charsText hs (length_lt_of_append cs _) rest
    rw [List.cons_append, List.append_assoc, List.singleton_append, readValue?, hstring]
    simp
  | .empty =>
    obtain ⟨fuel, rfl, -⟩ := exists_fuel_of_length_cons_le hfuel
    rw [List.cons_append, List.cons_append, List.nil_append, readValue?, skipSpace_cons (by decide)]
    rfl
  | @CompactText.object members cs hmembers =>
    obtain ⟨hnames, hvalues⟩ : (Bindings.names members).Pairwise (· < ·) ∧
        ∀ member ∈ members, member.2.Ascending := by
      cases hj with | object hnames hvalues => exact ⟨hnames, hvalues⟩
    have hnodup : (Bindings.names members).Nodup := hnames.imp fun hlt => ne_of_lt hlt
    obtain ⟨fuel, rfl, hfuel⟩ := exists_fuel_of_length_cons_le hfuel
    have hlength : cs.length ≤ fuel := by simp at hfuel; omega
    have hread := readMembers?_of_membersText hmembers hvalues hlength rest
    obtain ⟨tail, rfl⟩ : ∃ tail, cs = '"' :: tail := by cases hmembers <;> exact ⟨_, rfl⟩
    rw [List.cons_append, List.append_assoc, List.singleton_append, List.cons_append, readValue?_brace]
    rw [List.cons_append] at hread
    rw [hread, Option.map_some]
    simp only [gatherMembers_of_nodup hnodup]

/-- The members of an object are read up to its closing brace. -/
theorem readMembers?_of_membersText {members : List (String × Json)} {cs : List Char}
    (h : MembersText members cs) (hvalues : ∀ member ∈ members, member.2.Ascending) {fuel : Nat}
    (hfuel : cs.length ≤ fuel) (rest : List Char) :
    readMembers? fuel (cs ++ '}' :: rest) = some (members, rest) := by
  match h with
  | @MembersText.last name v cs ds hname hv =>
    obtain ⟨fuel, rfl, hfuel⟩ := exists_fuel_of_length_cons_le hfuel
    have hlength : ds.length ≤ fuel := by simp at hfuel; omega
    have hread := readValue?_of_compactText hv (hvalues _ (List.mem_singleton_self _)) hlength
      ('}' :: rest)
    simp only [List.cons_append, List.append_assoc]
    exact readMembers?_last hname hv hread
  | @MembersText.cons name v members cs ds es hname hv hmembers =>
    obtain ⟨fuel, rfl, hfuel⟩ := exists_fuel_of_length_cons_le hfuel
    have hlength : ds.length ≤ fuel ∧ es.length ≤ fuel := by simp at hfuel; omega
    obtain ⟨hvalue, hothers⟩ := List.forall_mem_cons.mp hvalues
    have hread := readValue?_of_compactText hv hvalue hlength.1 (',' :: (es ++ '}' :: rest))
    have hmore := readMembers?_of_membersText hmembers hothers hlength.2 rest
    simp only [List.cons_append, List.append_assoc]
    rw [readMembers?_comma hname hv hread]
    simp only [skipSpace_of_membersText hmembers, hmore, Option.map_some]

end

/-- A compact text in which the names of every object ascend is read as its value. -/
theorem read?_of_compactText {j : Json} {s : String} (h : CompactText j s.toList) (hj : j.Ascending) :
    read? s = some j := by
  have hskip : skipSpace s.toList = s.toList := by simpa using skipSpace_of_compactText h []
  have hlength : s.toList.length ≤ s.length + 1 := by rw [String.length_toList]; omega
  have hread : readValue? (s.length + 1) s.toList = some (j, []) := by
    simpa using readValue?_of_compactText h hj hlength []
  rw [read?, hskip, hread]
  rfl

/-! ## Printing -/

/-- The printer escapes what may not stand for itself. -/
theorem charText_escapeControl (c : Char) : CharText c (escapeControl c) := by
  rw [escapeControl]
  split_ifs with hquote hslash hnewline hreturn htab hback hfeed hcontrol
  · rw [eq_of_beq hquote]
    exact .letter rfl
  · rw [eq_of_beq hslash]
    exact .letter rfl
  · rw [eq_of_beq hnewline]
    exact .letter rfl
  · rw [eq_of_beq hreturn]
    exact .letter rfl
  · rw [eq_of_beq htab]
    exact .letter rfl
  · have hc : c = Char.ofNat 8 := by rw [← eq_of_beq hback, Char.ofNat_toNat]
    exact .letter (by rw [hc]; rfl)
  · have hc : c = Char.ofNat 12 := by rw [← eq_of_beq hfeed, Char.ofNat_toNat]
    exact .letter (by rw [hc]; rfl)
  · have hmod : c.toNat % 16 ^ 4 = c.toNat := Nat.mod_eq_of_lt (by omega)
    refine .number (length_hexDigits 4 _) (fun d hd => isHexDigit_of_mem_hexDigits hd) ?_
    rw [digitsIn_hexDigits, hmod]
  · refine .plain (by omega) ?_ ?_
    · simpa using hquote
    · simpa using hslash

/-- The printer writes the characters of a string one after another. -/
theorem charsText_escapeControl (s : List Char) : CharsText s (s.flatMap escapeControl) := by
  induction s with
  | nil => exact .nil
  | cons c s ih =>
    rw [List.flatMap_cons]
    exact .cons (charText_escapeControl c) ih

mutual

/-- The compact layout of texts and objects is a compact text. -/
theorem compactText_inlineWith : (j : Json) → j.Ascending →
    CompactText j (inlineWith escapeControl [','] [':'] j)
  | .text s, _ => by
    rw [inlineWith]
    exact .text (charsText_escapeControl s.toList)
  | .object [], _ => by
    rw [inlineWith, inlineMembers]
    exact .empty
  | .object (member :: rest), .object _ hvalues => by
    rw [inlineWith]
    exact .object (membersText_inlineMembers (member :: rest) (List.cons_ne_nil _ _) hvalues)

/-- The compact layout of members is the text of these members. -/
theorem membersText_inlineMembers : (members : List (String × Json)) → members ≠ [] →
    (∀ member ∈ members, member.2.Ascending) →
    MembersText members (inlineMembers escapeControl [','] [':'] members)
  | [], hne, _ => absurd rfl hne
  | [(name, v)], _, hvalues => by
    have hv := compactText_inlineWith v (hvalues _ (List.mem_singleton_self _))
    have hlast := MembersText.last (charsText_escapeControl name.toList) hv
    rw [inlineMembers, stringWith]
    simpa using hlast
  | (name, v) :: next :: rest, _, hvalues => by
    obtain ⟨hvalue, hothers⟩ := List.forall_mem_cons.mp hvalues
    have hv := compactText_inlineWith v hvalue
    have hrest := membersText_inlineMembers (next :: rest) (List.cons_ne_nil _ _) hothers
    have hcons := MembersText.cons (charsText_escapeControl name.toList) hv hrest
    rw [inlineMembers, stringWith]
    · simpa using hcons
    · simp

end

/-- What the compact printer writes is a compact text. -/
theorem compactText_compact {j : Json} (hj : j.Ascending) : CompactText j j.compact.toList := by
  rw [compact, String.toList_ofList]
  exact compactText_inlineWith j hj

/-- What the compact printer writes is read back. -/
theorem read?_compact {j : Json} (hj : j.Ascending) : read? j.compact = some j :=
  read?_of_compactText (compactText_compact hj) hj

end Json

end PathTemplates
