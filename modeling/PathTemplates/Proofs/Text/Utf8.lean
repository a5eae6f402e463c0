import Mathlib.Tactic.SplitIfs
import PathTemplates.Proofs.Outcome
import PathTemplates.Text.Utf8

/-! # Bytes and the text they stand for

A character is read from the bytes that it is written as, whatever comes after them
(`exists_read_utf8EncodeChar`), and from no others (`exists_char_of_read`). So bytes stand for a text exactly
if they are the bytes of its characters (`decode_eq_ok_iff`), and the fault of bytes that stand for none is
at the first place where characters end and no further one starts (`fault_of_decode`). -/

namespace PathTemplates.Utf8

open String (utf8EncodeChar)

variable {b b₀ b₁ b₂ b₃ : UInt8} {bytes rest : List UInt8} {code n : Nat} {bounds : List (Nat × Nat)}
  {c : Char}

/-! ## The bytes of a character -/

/-- Every number below 256 is a byte. -/
theorem exists_toNat_eq (h : n < 256) : ∃ b : UInt8, b.toNat = n :=
  ⟨.ofNat n, UInt8.toNat_ofNat_of_lt' h⟩

/-- A byte is told by its number. -/
theorem ofNat_eq (h : b.toNat = n) : UInt8.ofNat n = b := by
  rw [← h, UInt8.ofNat_toNat]

/-- A character of one byte is that byte. -/
theorem utf8EncodeChar_one (hc : c.toNat = b.toNat) (h : b.toNat ≤ 0x7f) : utf8EncodeChar c = [b] := by
  have hn : c.val.toNat = b.toNat := hc
  rw [utf8EncodeChar, hn, if_pos h, UInt8.ofNat_toNat]

/-- A character of two bytes has eleven bits. -/
theorem utf8EncodeChar_two (hc : c.toNat = (b₀.toNat - 0xc0) * 64 + (b₁.toNat - 0x80))
    (h₀ : 0xc2 ≤ b₀.toNat ∧ b₀.toNat ≤ 0xdf) (h₁ : 0x80 ≤ b₁.toNat ∧ b₁.toNat ≤ 0xbf) :
    utf8EncodeChar c = [b₀, b₁] := by
  have hn : c.val.toNat = _ := hc
  rw [utf8EncodeChar, hn, if_neg (by omega), if_pos (by omega), ofNat_eq (b := b₀) (by omega),
    ofNat_eq (b := b₁) (by omega)]

/-- A character of three bytes has sixteen bits. -/
theorem utf8EncodeChar_three
    (hc : c.toNat = ((b₀.toNat - 0xe0) * 64 + (b₁.toNat - 0x80)) * 64 + (b₂.toNat - 0x80))
    (hlow : 0x800 ≤ c.toNat) (h₀ : 0xe0 ≤ b₀.toNat ∧ b₀.toNat ≤ 0xef)
    (h₁ : 0x80 ≤ b₁.toNat ∧ b₁.toNat ≤ 0xbf) (h₂ : 0x80 ≤ b₂.toNat ∧ b₂.toNat ≤ 0xbf) :
    utf8EncodeChar c = [b₀, b₁, b₂] := by
  have hn : c.val.toNat = _ := hc
  rw [hc] at hlow
  rw [utf8EncodeChar, hn, if_neg (by omega), if_neg (by omega), if_pos (by omega),
    ofNat_eq (b := b₀) (by omega), ofNat_eq (b := b₁) (by omega), ofNat_eq (b := b₂) (by omega)]

/-- A character of four bytes has more. -/
theorem utf8EncodeChar_four
    (hc : c.toNat = (((b₀.toNat - 0xf0) * 64 + (b₁.toNat - 0x80)) * 64 + (b₂.toNat - 0x80)) * 64 +
      (b₃.toNat - 0x80))
    (hlow : 0x10000 ≤ c.toNat) (h₀ : 0xf0 ≤ b₀.toNat ∧ b₀.toNat ≤ 0xf4)
    (h₁ : 0x80 ≤ b₁.toNat ∧ b₁.toNat ≤ 0xbf) (h₂ : 0x80 ≤ b₂.toNat ∧ b₂.toNat ≤ 0xbf)
    (h₃ : 0x80 ≤ b₃.toNat ∧ b₃.toNat ≤ 0xbf) : utf8EncodeChar c = [b₀, b₁, b₂, b₃] := by
  have hn : c.val.toNat = _ := hc
  rw [hc] at hlow
  rw [utf8EncodeChar, hn, if_neg (by omega), if_neg (by omega), if_neg (by omega),
    ofNat_eq (b := b₀) (by omega), ofNat_eq (b := b₁) (by omega), ofNat_eq (b := b₂) (by omega),
    ofNat_eq (b := b₃) (by omega)]

/-! ## Reading one character -/

/-- The first byte of a character of three bytes bounds the second one, so that the character needs as many
bytes and is no surrogate. -/
theorem start?_three (h : 0xe0 ≤ b.toNat ∧ b.toNat ≤ 0xef) :
    start? b = some (b.toNat - 0xe0,
      [(if b.toNat = 0xe0 then 0xa0 else 0x80, if b.toNat = 0xed then 0x9f else 0xbf), tail]) := by
  -- 0xe0 excludes what two bytes could hold, 0xed the surrogates
  by_cases hshort : b.toNat = 0xe0
  · simp [start?, hshort]
  · by_cases hsurrogate : b.toNat = 0xed
    · simp [start?, hsurrogate]
    · rw [if_neg hshort, if_neg hsurrogate, start?, if_neg (by omega), if_neg (by omega),
        if_neg hshort, if_neg hsurrogate, if_pos (by omega)]
      rfl

/-- The first byte of a character of four bytes bounds the second one, so that the character needs as many
bytes and is not beyond the last one. -/
theorem start?_four (h : 0xf0 ≤ b.toNat ∧ b.toNat ≤ 0xf4) :
    start? b = some (b.toNat - 0xf0,
      [(if b.toNat = 0xf0 then 0x90 else 0x80, if b.toNat = 0xf4 then 0x8f else 0xbf), tail, tail]) := by
  -- 0xf0 excludes what three bytes could hold, 0xf4 what is beyond the last character
  by_cases hshort : b.toNat = 0xf0
  · simp [start?, hshort]
  · by_cases hlast : b.toNat = 0xf4
    · simp [start?, hlast]
    · rw [if_neg hshort, if_neg hlast, start?, if_neg (by omega), if_neg (by omega), if_neg (by omega),
        if_neg (by omega), if_neg (by omega), if_neg hshort, if_pos (by omega)]
      rfl

/-- The first bytes of characters lie in four ranges. -/
theorem range_of_start? (h : start? b = some (code, bounds)) :
    b.toNat ≤ 0x7f ∨ (0xc2 ≤ b.toNat ∧ b.toNat ≤ 0xdf) ∨ (0xe0 ≤ b.toNat ∧ b.toNat ≤ 0xef) ∨
      (0xf0 ≤ b.toNat ∧ b.toNat ≤ 0xf4) := by
  rw [start?] at h
  by_contra hrange
  split_ifs at h <;> omega

/-- Nothing more is read than there are bounds for. -/
theorem finish_nil_eq_ok_iff : finish code [] bytes = .ok (n, rest) ↔ code = n ∧ bytes = rest := by
  simp [finish]

/-- The bytes after the first one are read one after another. -/
theorem finish_cons_eq_ok_iff {low high : Nat} :
    finish code ((low, high) :: bounds) bytes = .ok (n, rest) ↔
      ∃ b more, bytes = b :: more ∧ (low ≤ b.toNat ∧ b.toNat ≤ high) ∧
        finish (code * 64 + (b.toNat - 0x80)) bounds more = .ok (n, rest) := by
  cases bytes with
  | nil => simp [finish]
  | cons b more =>
    rw [finish]
    constructor
    · intro h
      split at h
      · exact ⟨b, more, rfl, ‹_›, mapError_eq_ok_iff.mp h⟩
      · cases h
    · rintro ⟨_, _, ⟨rfl, rfl⟩, hb, h⟩
      rw [if_pos hb]
      exact mapError_eq_ok_iff.mpr h

/-- A character is read from its own bytes, whatever comes after them. -/
theorem exists_read_utf8EncodeChar (c : Char) : ∃ b bytes code bounds,
    utf8EncodeChar c = b :: bytes ∧ start? b = some (code, bounds) ∧ bounds.length = bytes.length ∧
      ∀ rest, finish code bounds (bytes ++ rest) = .ok (c.toNat, rest) := by
  have hvalid : c.toNat < 0xd800 ∨ 0xdfff < c.toNat ∧ c.toNat < 0x110000 := c.valid
  rcases Nat.lt_or_ge c.toNat 0x80 with h | h
  · obtain ⟨b, hb⟩ := exists_toNat_eq (n := c.toNat) (by omega)
    refine ⟨b, [], b.toNat, [], utf8EncodeChar_one hb.symm (by omega), ?_, rfl, fun rest => ?_⟩
    · rw [start?, if_pos (by omega)]
    · exact finish_nil_eq_ok_iff.mpr ⟨hb, rfl⟩
  rcases Nat.lt_or_ge c.toNat 0x800 with h' | h'
  · obtain ⟨b₀, h₀⟩ := exists_toNat_eq (n := 0xc0 + c.toNat / 64) (by omega)
    obtain ⟨b₁, h₁⟩ := exists_toNat_eq (n := 0x80 + c.toNat % 64) (by omega)
    refine ⟨b₀, [b₁], b₀.toNat - 0xc0, [tail],
      utf8EncodeChar_two (by omega) (by omega) (by omega), ?_, rfl, fun rest => ?_⟩
    · rw [start?, if_neg (by omega), if_pos (by omega)]
    · exact finish_cons_eq_ok_iff.mpr
        ⟨b₁, rest, rfl, by omega, finish_nil_eq_ok_iff.mpr ⟨by omega, rfl⟩⟩
  rcases Nat.lt_or_ge c.toNat 0x10000 with h'' | h''
  · obtain ⟨b₀, h₀⟩ := exists_toNat_eq (n := 0xe0 + c.toNat / 4096) (by omega)
    obtain ⟨b₁, h₁⟩ := exists_toNat_eq (n := 0x80 + c.toNat / 64 % 64) (by omega)
    obtain ⟨b₂, h₂⟩ := exists_toNat_eq (n := 0x80 + c.toNat % 64) (by omega)
    refine ⟨b₀, [b₁, b₂], _, _, utf8EncodeChar_three (by omega) h' (by omega) (by omega) (by omega),
      start?_three (by omega), rfl, fun rest => ?_⟩
    refine finish_cons_eq_ok_iff.mpr ⟨b₁, b₂ :: rest, rfl, ?_, finish_cons_eq_ok_iff.mpr
      ⟨b₂, rest, rfl, by omega, finish_nil_eq_ok_iff.mpr ⟨by omega, rfl⟩⟩⟩
    split_ifs <;> omega
  · obtain ⟨b₀, h₀⟩ := exists_toNat_eq (n := 0xf0 + c.toNat / 262144) (by omega)
    obtain ⟨b₁, h₁⟩ := exists_toNat_eq (n := 0x80 + c.toNat / 4096 % 64) (by omega)
    obtain ⟨b₂, h₂⟩ := exists_toNat_eq (n := 0x80 + c.toNat / 64 % 64) (by omega)
    obtain ⟨b₃, h₃⟩ := exists_toNat_eq (n := 0x80 + c.toNat % 64) (by omega)
    refine ⟨b₀, [b₁, b₂, b₃], _, _,
      utf8EncodeChar_four (by omega) h'' (by omega) (by omega) (by omega) (by omega),
      start?_four (by omega), rfl, fun rest => ?_⟩
    refine finish_cons_eq_ok_iff.mpr ⟨b₁, b₂ :: b₃ :: rest, rfl, ?_, finish_cons_eq_ok_iff.mpr
      ⟨b₂, b₃ :: rest, rfl, by omega, finish_cons_eq_ok_iff.mpr
        ⟨b₃, rest, rfl, by omega, finish_nil_eq_ok_iff.mpr ⟨by omega, rfl⟩⟩⟩⟩
    split_ifs <;> omega

/-- What has been read is a character, and its bytes have been read. -/
theorem exists_char_of_read (hstart : start? b = some (code, bounds))
    (hfinish : finish code bounds bytes = .ok (n, rest)) :
    ∃ c : Char, c.toNat = n ∧ b :: bytes = utf8EncodeChar c ++ rest := by
  suffices h : n.isValidChar ∧ ∀ c : Char, c.toNat = n → b :: bytes = utf8EncodeChar c ++ rest by
    exact ⟨.ofNatAux n h.1, rfl, h.2 _ rfl⟩
  rcases range_of_start? hstart with h | h | h | h
  · rw [start?, if_pos h] at hstart
    obtain ⟨rfl, rfl⟩ := Prod.mk.inj (Option.some.inj hstart)
    obtain ⟨rfl, rfl⟩ := finish_nil_eq_ok_iff.mp hfinish
    exact ⟨.inl (by omega), fun c hc => by rw [utf8EncodeChar_one hc h]; rfl⟩
  · rw [start?, if_neg (by omega), if_pos h] at hstart
    obtain ⟨rfl, rfl⟩ := Prod.mk.inj (Option.some.inj hstart)
    obtain ⟨b₁, more, rfl, h₁, hread⟩ := finish_cons_eq_ok_iff.mp hfinish
    obtain ⟨rfl, rfl⟩ := finish_nil_eq_ok_iff.mp hread
    exact ⟨.inl (by omega), fun c hc => by rw [utf8EncodeChar_two hc h h₁]; rfl⟩
  · rw [start?_three h] at hstart
    obtain ⟨rfl, rfl⟩ := Prod.mk.inj (Option.some.inj hstart)
    obtain ⟨b₁, more, rfl, h₁, hread⟩ := finish_cons_eq_ok_iff.mp hfinish
    obtain ⟨b₂, more, rfl, h₂, hread⟩ := finish_cons_eq_ok_iff.mp hread
    obtain ⟨rfl, rfl⟩ := finish_nil_eq_ok_iff.mp hread
    refine ⟨?_, fun c hc => ?_⟩
    · rw [Nat.isValidChar]
      split_ifs at h₁ <;> omega
    · rw [utf8EncodeChar_three hc _ h _ h₂]
      · rfl
      · split_ifs at h₁ <;> omega
      · split_ifs at h₁ <;> omega
  · rw [start?_four h] at hstart
    obtain ⟨rfl, rfl⟩ := Prod.mk.inj (Option.some.inj hstart)
    obtain ⟨b₁, more, rfl, h₁, hread⟩ := finish_cons_eq_ok_iff.mp hfinish
    obtain ⟨b₂, more, rfl, h₂, hread⟩ := finish_cons_eq_ok_iff.mp hread
    obtain ⟨b₃, more, rfl, h₃, hread⟩ := finish_cons_eq_ok_iff.mp hread
    obtain ⟨rfl, rfl⟩ := finish_nil_eq_ok_iff.mp hread
    refine ⟨?_, fun c hc => ?_⟩
    · rw [Nat.isValidChar]
      split_ifs at h₁ <;> omega
    · rw [utf8EncodeChar_four hc _ h _ h₂ h₃]
      · rfl
      · split_ifs at h₁ <;> omega
      · split_ifs at h₁ <;> omega

/-- Bytes that start with those of a character are read as it. -/
theorem read_of_eq_append (h : b :: bytes = utf8EncodeChar c ++ rest) : ∃ code bounds,
    start? b = some (code, bounds) ∧ bounds.length + 1 = (utf8EncodeChar c).length ∧
      finish code bounds bytes = .ok (c.toNat, rest) := by
  obtain ⟨b', more, code, bounds, hbytes, hstart, hbounds, hread⟩ := exists_read_utf8EncodeChar c
  rw [hbytes, List.cons_append] at h
  obtain ⟨rfl, rfl⟩ := List.cons.inj h
  exact ⟨code, bounds, hstart, by rw [hbytes, List.length_cons, hbounds], hread rest⟩

/-! ## Reading all of them -/

/-- From bytes that start with those of a character this character is read first. -/
theorem decodeFrom_of_eq_append (fuel position : Nat) (h : b :: bytes = utf8EncodeChar c ++ rest) :
    decodeFrom (fuel + 1) position (b :: bytes) =
      (decodeFrom fuel (position + (utf8EncodeChar c).length) rest).map (c :: ·) := by
  obtain ⟨code, bounds, hstart, hbounds, hread⟩ := read_of_eq_append h
  have hnext : position + 1 + bounds.length = position + (utf8EncodeChar c).length := by omega
  simp only [decodeFrom, hstart, hread, hnext, Char.ofNat_toNat]

/-- From other bytes nothing is read: the fault has the first of them. -/
theorem decodeFrom_of_no_char (fuel position : Nat) (h : ∀ c, ¬ utf8EncodeChar c <+: b :: bytes) :
    ∃ f, decodeFrom (fuel + 1) position (b :: bytes) = .error f ∧ f.position = position ∧
      f.bytes <+: b :: bytes ∧ f.bytes ≠ [] := by
  rw [decodeFrom]
  split
  · exact ⟨_, rfl, rfl, ⟨bytes, rfl⟩, List.cons_ne_nil _ _⟩
  · rename_i hstart
    split
    · rename_i hfinish
      obtain ⟨c, -, hbytes⟩ := exists_char_of_read hstart hfinish
      exact absurd ⟨_, hbytes.symm⟩ (h c)
    · exact ⟨_, rfl, rfl, List.prefix_cons_inj b |>.mpr (List.take_prefix ..), List.cons_ne_nil _ _⟩

/-- The bytes of characters are read as these characters. -/
theorem decodeFrom_flatMap (cs : List Char) {fuel : Nat} (position : Nat)
    (hfuel : (cs.flatMap utf8EncodeChar).length ≤ fuel) :
    decodeFrom fuel position (cs.flatMap utf8EncodeChar) = .ok cs := by
  induction cs generalizing fuel position with
  | nil => cases fuel <;> rfl
  | cons c cs ih =>
    obtain ⟨b, bytes, -, -, hbytes, -⟩ := exists_read_utf8EncodeChar c
    have hall : b :: (bytes ++ cs.flatMap utf8EncodeChar) =
        utf8EncodeChar c ++ cs.flatMap utf8EncodeChar := by
      rw [hbytes, List.cons_append]
    rw [List.flatMap_cons, ← hall] at hfuel ⊢
    cases fuel with
    | zero => simp at hfuel
    | succ fuel =>
      have hrest : (cs.flatMap utf8EncodeChar).length ≤ fuel := by
        simp only [List.length_cons, List.length_append] at hfuel
        omega
      rw [decodeFrom_of_eq_append _ _ hall, ih _ hrest, map_ok]

/-- A fault of bytes of which the first one is at a place: after some characters no further one starts, and
the fault has bytes from there on. -/
def Fault.Of (f : Fault) (position : Nat) (bytes : List UInt8) : Prop :=
  ∃ (cs : List Char) (after : List UInt8), bytes = cs.flatMap utf8EncodeChar ++ after ∧
    f.position = position + (cs.flatMap utf8EncodeChar).length ∧
      (f.bytes <+: after ∧ f.bytes ≠ []) ∧ ∀ c, ¬ utf8EncodeChar c <+: after

/-- A fault stays one after one more character. -/
theorem Fault.Of.cons {f : Fault} {position : Nat}
    (h : f.Of (position + (utf8EncodeChar c).length) bytes) :
    f.Of position (utf8EncodeChar c ++ bytes) := by
  obtain ⟨cs, after, rfl, hposition, hfault⟩ := h
  refine ⟨c :: cs, after, ?_, ?_, hfault⟩
  · rw [List.flatMap_cons, List.append_assoc]
  · rw [hposition, List.flatMap_cons, List.length_append]
    omega

/-- Bytes are read as the characters that they are the bytes of, or refused with their fault. -/
theorem decodeFrom_cases {fuel : Nat} (position : Nat) (hfuel : bytes.length ≤ fuel) :
    (∃ cs, decodeFrom fuel position bytes = .ok cs ∧ bytes = cs.flatMap utf8EncodeChar) ∨
      ∃ f : Fault, decodeFrom fuel position bytes = .error f ∧ f.Of position bytes := by
  induction fuel generalizing position bytes with
  | zero =>
    obtain rfl := List.eq_nil_of_length_eq_zero (Nat.le_zero.mp hfuel)
    exact .inl ⟨[], rfl, rfl⟩
  | succ fuel ih =>
    cases bytes with
    | nil => exact .inl ⟨[], rfl, rfl⟩
    | cons b bytes =>
      by_cases hchar : ∃ c, utf8EncodeChar c <+: b :: bytes
      · obtain ⟨c, rest, hrest⟩ := hchar
        have hlength : rest.length ≤ fuel := by
          have hall := congrArg List.length hrest
          have hpos := c.utf8Size_pos
          simp only [List.length_append, String.length_utf8EncodeChar, List.length_cons] at hall hfuel
          omega
        rw [decodeFrom_of_eq_append _ _ hrest.symm, ← hrest]
        rcases ih (position + (utf8EncodeChar c).length) hlength with
          ⟨cs, hcs, hbytes⟩ | ⟨f, hf, hfault⟩
        · exact .inl ⟨c :: cs, by rw [hcs, map_ok], by rw [hbytes, List.flatMap_cons]⟩
        · exact .inr ⟨f, by rw [hf, map_error], hfault.cons⟩
      · have hno : ∀ c, ¬ utf8EncodeChar c <+: b :: bytes := not_exists.mp hchar
        obtain ⟨f, hf, hposition, hbytes⟩ := decodeFrom_of_no_char fuel position hno
        exact .inr ⟨f, hf, [], b :: bytes, rfl, hposition, hbytes, hno⟩

/-- Bytes stand for a text exactly if they are those of its characters. -/
theorem decode_eq_ok_iff {s : String} :
    decode bytes = .ok s ↔ bytes = s.toList.flatMap utf8EncodeChar := by
  rw [decode, map_eq_ok_iff]
  constructor
  · rintro ⟨cs, hcs, rfl⟩
    rw [String.toList_ofList]
    rcases decodeFrom_cases 0 (Nat.le_refl bytes.length) with ⟨cs', hok, hbytes⟩ | ⟨f, herror, -⟩
    · obtain rfl : cs = cs' := Except.ok.inj (hcs.symm.trans hok)
      exact hbytes
    · simp [hcs] at herror
  · rintro rfl
    exact ⟨s.toList, decodeFrom_flatMap _ _ (Nat.le_refl _), String.ofList_toList⟩

/-- The fault of bytes that stand for no text is at the first place where no character starts. -/
theorem fault_of_decode {f : Fault} (h : decode bytes = .error f) : f.Of 0 bytes := by
  rcases decodeFrom_cases 0 (Nat.le_refl bytes.length) with ⟨cs, hok, -⟩ | ⟨f', herror, hfault⟩
  · simp [map_eq_error_iff.mp h] at hok
  · obtain rfl : f = f' := Except.error.inj ((map_eq_error_iff.mp h).symm.trans herror)
    exact hfault

end PathTemplates.Utf8
