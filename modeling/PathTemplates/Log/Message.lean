import PathTemplates.Log.Slot
import PathTemplates.Text.Digit

/-! # Messages with places for values

A message may hold places for values, each after a percent sign; two of them are one. The values are used in order, or by their names if there is a
single mapping of them; every place must have a value, and every value in order a place. A message
without values is taken as it is. -/

namespace PathTemplates.Log

/-- The values that a message is filled with. -/
structure Values where
  /-- The values that have no place yet. -/
  rest : List Data
  /-- The values that have names. -/
  named : Option (List (Data × Data))

namespace Values

/-- The values of a list; a mapping that stands alone gives names. -/
def ofList : List Data → Values
  | [.mapping es] => ⟨[.mapping es], if es.isEmpty then none else some es⟩
  | vs => ⟨vs, none⟩

/-- The next value, and the others. -/
def next? (vs : Values) : Option (Data × Values) :=
  match vs.rest with
  | v :: rest => some (v, { vs with rest := rest })
  | [] => none

/-- The values with the one of a name as the next. -/
def select? (vs : Values) (name : String) : Option Values := do
  let es ← vs.named
  let (_, v) ← es.find? fun (k, _) => k.sameKey (.text name)
  return { vs with rest := [v] }

/-- Whether nothing is left that needs a place. -/
def areUsed (vs : Values) : Bool := vs.rest.isEmpty || vs.named.isSome

end Values

/-- The text up to the parenthesis that closes those that are open, and the text after it. -/
def cutName? : Nat → List Char → Option (List Char × List Char)
  | _, [] => none
  | depth, c :: rest =>
    if c == ')' then
      if depth ≤ 1 then some ([], rest)
      else (cutName? (depth - 1) rest).map fun (name, after) => (c :: name, after)
    else (cutName? (if c == '(' then depth + 1 else depth) rest).map fun (name, after) =>
      (c :: name, after)

/-- Reads a number that stands in a place, or is the next value in the place of a star. -/
def readAmount? (vs : Values) (cs : List Char) : Option (Int × Values × List Char) :=
  match cs with
  | '*' :: rest => do
    let (v, vs) ← vs.next?
    return (← Slot.whole? v, vs, rest)
  | _ =>
    let ds := cs.takeWhile isAsciiDigit
    some (digitsValue ds, vs, cs.drop ds.length)

/-- The text after a letter for the size of a number, which has no meaning. -/
def skipSize : List Char → List Char
  | c :: rest => if c == 'h' || c == 'l' || c == 'L' then rest else c :: rest
  | [] => []

/-- Reads a place after its percent sign, and chooses the value that it names. -/
def readSlot? (vs : Values) (cs : List Char) : Option (Slot × Values × List Char) := do
  let (vs, cs) ← match cs with
    | '(' :: rest => do
      let (name, after) ← cutName? 1 rest
      pure (← vs.select? (String.ofList name), after)
    | _ => pure (vs, cs)
  let marks := cs.takeWhile SlotFlags.isFlag
  let flags := SlotFlags.ofChars marks
  let (width, vs, cs) ← readAmount? vs (cs.drop marks.length)
  let flags := if width < 0 then { flags with left := true } else flags
  let (precision, vs, cs) ← match cs with
    | '.' :: rest => do
      let (n, vs, cs) ← readAmount? vs rest
      pure (some n.toNat, vs, cs)
    | _ => pure (none, vs, cs)
  match skipSize cs with
  | letter :: rest => return (⟨flags, width.natAbs, precision, letter⟩, vs, rest)
  | [] => none

/-- A message with values at its places, if they fit; `fuel` bounds the characters that are read. -/
def fillMessage? : Nat → List Char → Values → Option (List Char)
  | _, [], vs => if vs.areUsed then some [] else none
  | 0, _, _ => none
  | fuel + 1, '%' :: '%' :: rest, vs => (fillMessage? fuel rest vs).map ('%' :: ·)
  | fuel + 1, '%' :: rest, vs => do
    let (slot, vs, more) ← readSlot? vs rest
    let (v, vs) ← vs.next?
    let s ← slot.write? v
    return s.toList ++ (← fillMessage? fuel more vs)
  | fuel + 1, c :: rest, vs => (fillMessage? fuel rest vs).map (c :: ·)

/-- A message with its values, if they fit. -/
def message? (format : String) (values : List Data) : Option String :=
  if values.isEmpty then some format
  else (fillMessage? (format.length + 1) format.toList (.ofList values)).map String.ofList

end PathTemplates.Log
