import PathTemplates.Text.Quoted

/-! # Bytes of a text

The text that bytes stand for, character by character, or what is wrong at the first place where they
stand for none. -/

namespace PathTemplates.Utf8

/-- Bytes that stand for no text. -/
structure Fault where
  /-- The bytes that fit no character. -/
  bytes : List UInt8
  /-- Where the first one of them is. -/
  position : Nat
  /-- What is wrong with them. -/
  reason : String
  deriving DecidableEq

/-- The wording of a fault. -/
def Fault.message (f : Fault) : String :=
  let subject := match f.bytes with
    | [b] => "byte 0x" ++ String.ofList (hexDigits 2 b.toNat) ++ " in position " ++ toString f.position
    | bytes => "bytes in position " ++ toString f.position ++ "-" ++
        toString (f.position + bytes.length - 1)
  "'utf-8' codec can't decode " ++ subject ++ ": " ++ f.reason

/-- The bounds of a byte that goes on with a character. -/
def tail : Nat × Nat := (0x80, 0xbf)

/-- What the first byte of a character adds to its code, and the bounds of the bytes after it. -/
def start? (b : UInt8) : Option (Nat × List (Nat × Nat)) :=
  let n := b.toNat
  if n ≤ 0x7f then some (n, [])
  else if 0xc2 ≤ n ∧ n ≤ 0xdf then some (n - 0xc0, [tail])
  else if n = 0xe0 then some (0, [(0xa0, 0xbf), tail])
  else if n = 0xed then some (0xd, [(0x80, 0x9f), tail])
  else if 0xe1 ≤ n ∧ n ≤ 0xef then some (n - 0xe0, [tail, tail])
  else if n = 0xf0 then some (0, [(0x90, 0xbf), tail, tail])
  else if 0xf1 ≤ n ∧ n ≤ 0xf3 then some (n - 0xf0, [tail, tail, tail])
  else if n = 0xf4 then some (4, [(0x80, 0x8f), tail, tail])
  else none

/-- The code of a character whose first bytes come to `code`, and the bytes after it; or how many of the
bytes go on with it, and whether there are no more. -/
def finish (code : Nat) : List (Nat × Nat) → List UInt8 → Except (Nat × Bool) (Nat × List UInt8)
  | [], bytes => .ok (code, bytes)
  | _ :: _, [] => .error (0, true)
  | (low, high) :: bounds, b :: bytes =>
    if low ≤ b.toNat ∧ b.toNat ≤ high then
      (finish (code * 64 + (b.toNat - 0x80)) bounds bytes).mapError fun (count, atEnd) =>
        (count + 1, atEnd)
    else .error (0, false)

/-- The characters that bytes stand for; `position` is the place of the first byte, and `fuel` bounds the
characters. -/
def decodeFrom : Nat → (position : Nat) → List UInt8 → Except Fault (List Char)
  | 0, _, _ | _, _, [] => .ok []
  | fuel + 1, position, b :: bytes =>
    match start? b with
    | none => .error ⟨[b], position, "invalid start byte"⟩
    | some (code, bounds) =>
      match finish code bounds bytes with
      | .ok (code, rest) =>
        (decodeFrom fuel (position + 1 + bounds.length) rest).map (Char.ofNat code :: ·)
      | .error (count, atEnd) =>
        .error ⟨b :: bytes.take count, position,
          if atEnd then "unexpected end of data" else "invalid continuation byte"⟩

/-- The text that bytes stand for. -/
def decode (bytes : List UInt8) : Except Fault String :=
  (decodeFrom bytes.length 0 bytes).map String.ofList

end PathTemplates.Utf8
