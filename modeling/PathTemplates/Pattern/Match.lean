import PathTemplates.Pattern.Fold
import PathTemplates.Pattern.Syntax
import PathTemplates.Text.Blank
import PathTemplates.Text.Numeral
import PathTemplates.Text.Word

/-! # Matching a pattern

A pattern is matched by trying its parts in order and going back to the last choice when one fails.
Each part is given what has to match after it. A repetition without limit goes on only while it makes
progress, so the number of its rounds is bounded by the length of the text. -/

namespace PathTemplates.Pattern

/-- What a group captured: the places where it starts and ends. -/
abbrev Captures := List (Nat × Nat × Nat)

/-- A place in the text and what the groups have captured so far. -/
structure Spot where
  /-- The place. -/
  place : Nat
  /-- The latest captures of the groups, by number. -/
  captures : Captures

namespace Spot

/-- What a group captured last. -/
def capture? (s : Spot) (index : Nat) : Option (Nat × Nat) :=
  (s.captures.find? (·.1 == index)).map (·.2)

/-- The spot with what a group captured. -/
def withCapture (s : Spot) (index start stop : Nat) : Spot :=
  { s with captures := (index, start, stop) :: s.captures.filter (·.1 != index) }

end Spot

/-- What remains to be matched after a part: nothing is returned if it does not match. -/
abbrev Rest := Spot → Option Spot

/-- Whether a character is of a kind. -/
def Category.holds (ascii : Bool) (c : Category) (code : Nat) : Bool :=
  let ch := Char.ofNat code
  if ascii then
    match c with
    | .digit => 48 ≤ code && code ≤ 57
    | .space => code == 32 || (9 ≤ code && code ≤ 13)
    | .word => code < 128 && isWordChar ch
  else
    match c with
    | .digit => isDecimal ch
    | .space => isBlank ch
    | .word => isWordChar ch

namespace SetItem

/-- Whether an item holds a character as it is. -/
def holds (ascii : Bool) (code : Nat) : SetItem → Bool
  | single c => c == code
  | range a b => a ≤ code && code ≤ b
  | category negated c => c.holds ascii code != negated

/-- Whether an item holds a lowered character without regard to case. -/
def holdsLowered (ascii : Bool) (code : Nat) : SetItem → Bool
  | single c =>
    if ascii then lowerAscii c == code
    else if c > 0xffff then c == code
    else (siblings (lowerCode c)).contains code
  | range a b =>
    let inside (c : Nat) : Bool := a ≤ c && c ≤ b
    if ascii then
      inside code && lowerAscii code == code || (97 ≤ code && code ≤ 122 && inside (code - 32))
    else
      ((siblings code).flatMap lowerPreimages).any (fun c => inside c && c ≤ 0xffff) ||
        (b > 0xffff && (inside code || inside (upperCode code)))
  | category negated c => c.holds ascii code != negated

end SetItem

/-- Whether a part that matches one character matches a given one. -/
def Node.accepts (flags : Flags) (code : Nat) : Node → Bool
  | .literal negated c =>
    let equal :=
      if !flags.ignoreCase then c == code
      else if flags.ascii then lowerAscii c == lowerAscii code
      else if !isCased c then c == code
      else (siblings (lowerCode c)).contains (lowerCode code)
    equal != negated
  | .any => flags.dotAll || code != 10
  | .set negated items =>
    let found :=
      if flags.ignoreCase then
        let lowered := if flags.ascii then lowerAscii code else lowerCode code
        items.any (·.holdsLowered flags.ascii lowered)
      else items.any (·.holds flags.ascii code)
    found != negated
  | _ => false

/-- The only part of a body, if it matches exactly one character. -/
def single? : List Node → Option Node
  | [.literal negated code] => some (.literal negated code)
  | [.any] => some .any
  | [.set negated items] => some (.set negated items)
  | _ => none

/-- Whether a place is of a kind. -/
def Place.holds (flags : Flags) (text : Array Char) (i : Nat) (p : Place) : Bool :=
  let isWordAt (j : Nat) : Bool :=
    match text[j]? with
    | some c => Category.word.holds flags.ascii c.toNat
    | none => false
  let edge := (i > 0 && isWordAt (i - 1)) != isWordAt i
  match p with
  | .lineStart => i == 0 || (flags.multiline && text[i - 1]? == some '\n')
  | .lineEnd =>
    i == text.size || (i + 1 == text.size && text[i]? == some '\n') ||
      (flags.multiline && text[i]? == some '\n')
  | .textStart => i == 0
  | .textEnd => i == text.size
  | .wordEdge => text.size != 0 && edge
  | .notWordEdge => text.size != 0 && !edge

/-- The number of characters from a place on, at most a given number, that satisfy a condition. -/
def runLength (p : Char → Bool) (text : Array Char) (i : Nat) : Nat → Nat
  | 0 => 0
  | n + 1 =>
    match text[i]? with
    | some c => if p c then runLength p text (i + 1) n + 1 else 0
    | none => 0

/-- Tries the rest after `least + extra` single characters, then after fewer. -/
def fromMost (rest : Rest) (s : Spot) (least : Nat) : Nat → Option Spot
  | 0 => rest { s with place := s.place + least }
  | extra + 1 =>
    match rest { s with place := s.place + least + extra + 1 } with
    | some r => some r
    | none => fromMost rest s least extra

/-- Tries the rest after some single characters, then after more, up to `extra` more. -/
def fromLeast (rest : Rest) (s : Spot) (count : Nat) : Nat → Option Spot
  | 0 => rest { s with place := s.place + count }
  | extra + 1 =>
    match rest { s with place := s.place + count } with
    | some r => some r
    | none => fromLeast rest s (count + 1) extra

/-- A repetition of single characters, of which `available` match from the spot on. -/
def repeatSingle (appetite : Appetite) (least available : Nat) (rest : Rest) (s : Spot) :
    Option Spot :=
  if available < least then none
  else match appetite with
    | .greedy => fromMost rest s least (available - least)
    | .lazy => fromLeast rest s least (available - least)
    | .possessive => rest { s with place := s.place + available }

/-- Matches a part a number of times before something else. -/
def exactly (body : Rest → Rest) (rest : Rest) : Nat → Rest
  | 0 => rest
  | n + 1 => fun s => body (exactly body rest n) s

/-- One more round as long as the last one made progress, else the rest; `last` is where the last
round started. -/
def greedyRounds (body : Rest → Rest) (rest : Rest) (last : Option Nat) : Nat → Rest
  | 0 => rest
  | n + 1 => fun s =>
    if last == some s.place then rest s
    else match body (greedyRounds body rest (some s.place) n) s with
      | some r => some r
      | none => rest s

/-- The rest if it matches, else one more round as long as the last one made progress. -/
def lazyRounds (body : Rest → Rest) (rest : Rest) (last : Option Nat) : Nat → Rest
  | 0 => rest
  | n + 1 => fun s =>
    match rest s with
    | some r => some r
    | none =>
      if last == some s.place then none
      else body (lazyRounds body rest (some s.place) n) s

/-- Rounds each of which is final, as long as they make progress; gives the spot after them. -/
def possessiveRounds (body : Rest → Rest) (last : Option Nat) : Nat → Spot → Spot
  | 0, s => s
  | n + 1, s =>
    if last == some s.place then s
    else match body some s with
      | some r => possessiveRounds body (some s.place) n r
      | none => s

/-- Rounds each of which is final, a given number of them. -/
def possessiveExactly (body : Rest → Rest) : Nat → Rest
  | 0 => some
  | n + 1 => fun s => (body some s).bind (possessiveExactly body n)

/-- A repetition of any part; `limit` bounds the rounds beyond the least number. -/
def repeatPart (appetite : Appetite) (least limit : Nat) (body : Rest → Rest) (rest : Rest) : Rest :=
  match appetite with
  | .greedy => exactly body (greedyRounds body rest none limit) least
  | .lazy => exactly body (lazyRounds body rest none limit) least
  | .possessive => fun s =>
    (possessiveExactly body least s).bind fun r => rest (possessiveRounds body none limit r)

/-- The most single characters that a repetition may take from a place on. -/
def runLimit (text : Array Char) (place : Nat) (most : Option Nat) : Nat :=
  let room := text.size - place
  match most with
  | some m => min m room
  | none => room

/-- The most rounds beyond the least number; without a limit of its own, a repetition makes progress
in all but its last round. -/
def roundLimit (text : Array Char) (least : Nat) (most : Option Nat) : Nat :=
  match most with
  | some m => min (m - least) (text.size + 2)
  | none => text.size + 2

/-- The characters between two places. -/
def slice (text : Array Char) (start stop : Nat) : List Char :=
  ((text.toList.drop start).take (stop - start))

/-- Whether two characters agree in a reference to a group. -/
def sameInReference (flags : Flags) (a b : Char) : Bool :=
  if !flags.ignoreCase then a == b
  else if flags.ascii then lowerAscii a.toNat == lowerAscii b.toNat
  else lowerCode a.toNat == lowerCode b.toNat

mutual

/-- Matches a part before the rest. -/
def runPart (text : Array Char) (flags : Flags) :
    Node → Rest → Rest
  | .literal negated code, rest, s =>
    match text[s.place]? with
    | some c =>
      if (Node.literal negated code).accepts flags c.toNat then
        rest { s with place := s.place + 1 }
      else none
    | none => none
  | .any, rest, s =>
    match text[s.place]? with
    | some c => if Node.any.accepts flags c.toNat then rest { s with place := s.place + 1 } else none
    | none => none
  | .set negated items, rest, s =>
    match text[s.place]? with
    | some c =>
      if (Node.set negated items).accepts flags c.toNat then rest { s with place := s.place + 1 }
      else none
    | none => none
  | .at place, rest, s => if place.holds flags text s.place then rest s else none
  | .choice ways, rest, s => runWays text flags ways rest s
  | .loop appetite least most body, rest, s =>
    match single? body with
    | some n =>
      let available :=
        runLength (fun c => n.accepts flags c.toNat) text s.place (runLimit text s.place most)
      repeatSingle appetite least available rest s
    | none =>
      repeatPart appetite least (roundLimit text least most)
        (fun k t => runParts text flags body k t) rest s
  | .group index on off body, rest, s =>
    let inner := flags.inGroup on off
    match index with
    | none => runParts text inner body rest s
    | some i =>
      runParts text inner body (fun t => rest (t.withCapture i s.place t.place)) s
  | .atomic body, rest, s => (runParts text flags body some s).bind rest
  | .reference index, rest, s =>
    match s.capture? index with
    | none => none
    | some (start, stop) =>
      let wanted := slice text start stop
      let found := slice text s.place (s.place + wanted.length)
      if wanted.length == found.length &&
          (wanted.zip found).all (fun (a, b) => sameInReference flags a b) then
        rest { s with place := s.place + wanted.length }
      else none
  | .condition index yes no, rest, s =>
    match s.capture? index with
    | some _ => runParts text flags yes rest s
    | none => runParts text flags no rest s
  | .look behind negated body, rest, s =>
    let back := (behind.map (·.least)).getD 0
    let found :=
      if back ≤ s.place then
        (runParts text flags body some { s with place := s.place - back })
      else none
    match found, negated with
    | some r, false => rest { r with place := s.place }
    | none, true => rest s
    | _, _ => none

/-- Matches parts one after the other before the rest. -/
def runParts (text : Array Char) (flags : Flags) :
    List Node → Rest → Rest
  | [], rest, s => rest s
  | n :: later, rest, s =>
    runPart text flags n (fun t => runParts text flags later rest t) s

/-- Matches the first of several ways with which the rest matches too. -/
def runWays (text : Array Char) (flags : Flags) :
    List (List Node) → Rest → Rest
  | [], _, _ => none
  | way :: later, rest, s =>
    match runParts text flags way rest s with
    | some r => some r
    | none => runWays text flags later rest s

end

/-- The first match from a place on, with the places tried in ascending order. -/
def searchFrom (p : Compiled) (text : Array Char) (start : Nat) : Nat → Option Spot
  | 0 => none
  | tries + 1 =>
    match runParts text p.flags p.nodes some ⟨start, []⟩ with
    | some s => some s
    | none => searchFrom p text (start + 1) tries

/-- The named groups that took part in the first match in a text, with what they captured. -/
def Compiled.search? (p : Compiled) (s : String) : Option (List (String × String)) :=
  let text := s.toList.toArray
  (searchFrom p text 0 (text.size + 1)).map fun spot =>
    p.names.filterMap fun (name, index) =>
      (spot.capture? index).map fun (start, stop) => (name, String.ofList (slice text start stop))

end PathTemplates.Pattern
