import PathTemplates.Text.Digit

/-! # Bytes written as letters

Four letters write three bytes. Characters that are no letters of the code are passed over, and equals
signs fill up the last group. -/

namespace PathTemplates

/-- The six bits that a letter writes. -/
def sixBits? (c : Char) : Option Nat :=
  if 'A' ≤ c && c ≤ 'Z' then some (c.toNat - 65)
  else if 'a' ≤ c && c ≤ 'z' then some (c.toNat - 71)
  else if isAsciiDigit c then some (c.toNat + 4)
  else if c == '+' then some 62
  else if c == '/' then some 63
  else none

/-- The bytes that letters write, from within a group: `place` letters of it are passed, `left` is
what they leave of a byte, and `fills` equals signs follow them. -/
def bytesFrom? (place left fills : Nat) : List Char → Option (List Nat)
  | [] => if place == 0 then some [] else none
  | c :: rest =>
    if c == '=' then
      if place ≥ 2 && place + fills + 1 ≥ 4 then some []
      else bytesFrom? place left (if place ≥ 2 then fills + 1 else fills) rest
    else match sixBits? c with
      | none => bytesFrom? place left fills rest
      | some bits =>
        match place with
        | 0 => bytesFrom? 1 bits 0 rest
        | 1 => (bytesFrom? 2 (bits % 16) 0 rest).map ((left * 4 + bits / 16) :: ·)
        | 2 => (bytesFrom? 3 (bits % 4) 0 rest).map ((left * 16 + bits / 4) :: ·)
        | _ => (bytesFrom? 0 0 0 rest).map ((left * 64 + bits) :: ·)

/-- The bytes that letters write. -/
def bytesOfLetters? (cs : List Char) : Option (List Nat) := bytesFrom? 0 0 0 cs

end PathTemplates
