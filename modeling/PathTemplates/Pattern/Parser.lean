import PathTemplates.Pattern.Syntax
import PathTemplates.Text.Digit
import PathTemplates.Text.Numeral
import PathTemplates.Text.Position
import PathTemplates.Text.Quoted
import PathTemplates.Text.Word

/-! # Parsing a pattern

A pattern is read in units: a character, or a backslash with the character after it. The reader looks
one unit ahead, so that a backslash at the very end is an error as soon as it comes in sight. Errors
name a place in the pattern. -/

namespace PathTemplates.Pattern

/-- Why a pattern cannot be used. -/
inductive PatternError
  /-- Something is wrong at a place of the pattern. -/
  | at (reason pattern : String) (offset : Nat)
  /-- Something is wrong with the pattern as a whole. -/
  | general (reason : String)
  /-- A number of repetitions is too large. -/
  | tooLarge
  /-- A value in the pattern cannot be used. -/
  | value (reason : String)
  deriving DecidableEq

namespace PatternError

/-- The wording of an error; lines are counted only if there are several. -/
def message : PatternError → String
  | .at reason pattern offset =>
    let place := positionAt pattern offset
    reason ++ " at position " ++ toString offset ++
      (if pattern.toList.contains '\n' then
        " (line " ++ toString place.line ++ ", column " ++ toString place.column ++ ")"
      else "")
  | general reason => reason
  | tooLarge => "the repetition number is too large"
  | value reason => reason

end PatternError

/-- A unit of a pattern: a character, or a backslash with the character after it. -/
structure PatternUnit where
  /-- The offset of the first character. -/
  start : Nat
  /-- The characters. -/
  chars : List Char

/-- The units of a pattern, the first of them at an offset. -/
def unitsFrom (start : Nat) : List Char → List PatternUnit
  | [] => []
  | '\\' :: c :: rest => ⟨start, ['\\', c]⟩ :: unitsFrom (start + 2) rest
  | c :: rest => ⟨start, [c]⟩ :: unitsFrom (start + 1) rest

/-- The state of reading a pattern. -/
structure Reader where
  /-- The pattern. -/
  pattern : String
  /-- The units that have not been read. -/
  rest : List PatternUnit
  /-- The number of characters of the pattern. -/
  length : Nat
  /-- The options set for the whole pattern. -/
  flags : Flags
  /-- The names of groups with their numbers. -/
  names : List (String × Nat)
  /-- The widths of the groups, the whole pattern first; an open group has none. -/
  widths : List (Option Width)
  /-- The number of groups that were defined before the condition on preceding text being read. -/
  behind : Option Nat
  /-- Numbers of groups that conditions refer to, with the places of the first references. -/
  references : List (Nat × Nat)

/-- Reading, which may fail. -/
abbrev Reading := StateT Reader (Except PatternError)

namespace Reading

/-- The place of the next unit. -/
def tell : Reading Nat := do
  let r ← get
  return match r.rest with
    | u :: _ => u.start
    | [] => r.length

/-- Fails at a number of characters before the next unit. -/
def fail {α : Type} (reason : String) (back : Nat) : Reading α := do
  let r ← get
  throw (.at reason r.pattern ((← tell) - back))

/-- The next unit. -/
def peek : Reading (Option (List Char)) := do
  return (← get).rest.head?.map (·.chars)

/-- Fails if a lone backslash is in sight. -/
def checkAhead : Reading Unit := do
  let r ← get
  match r.rest with
  | ⟨_, ['\\']⟩ :: _ => throw (.at "bad escape (end of pattern)" r.pattern (r.length - 1))
  | _ => return ()

/-- Passes the next unit. -/
def advance : Reading Unit := do
  modify fun r => { r with rest := r.rest.tail }
  checkAhead

/-- Reads the next unit. -/
def next : Reading (Option (List Char)) := do
  let u ← peek
  advance
  return u

/-- Passes the next unit if it is a given character. -/
def accept (c : Char) : Reading Bool := do
  if (← peek) == some [c] then
    advance
    return true
  else return false

/-- Reads up to a number of characters that satisfy a condition. -/
def upTo (p : Char → Bool) : Nat → Reading (List Char)
  | 0 => return []
  | n + 1 => do
    match ← peek with
    | some [c] =>
      if p c then
        advance
        return c :: (← upTo p n)
      else return []
    | _ => return []

/-- Reads all characters that satisfy a condition. -/
def many (p : Char → Bool) : Reading (List Char) := do
  upTo p (← get).rest.length

/-- Reads up to a closing character and past it; `what` is being read, `done` in reverse. -/
def through (close : Char) (what : String) (done : List Char) : Nat → Reading (List Char)
  | 0 => return done.reverse
  | n + 1 => do
    match ← next with
    | none =>
      if done.isEmpty then fail ("missing " ++ what) 0
      else fail ("missing " ++ String.singleton close ++ ", unterminated name") done.length
    | some u =>
      if u == [close] then
        if done.isEmpty then fail ("missing " ++ what) 1 else return done.reverse
      else through close what (u.reverse ++ done) n

/-- Reads a name up to a closing character. -/
def nameUntil (close : Char) (what : String) : Reading (List Char) := do
  through close what [] ((← get).rest.length + 1)

/-- Refuses a name of a group that is no name. -/
def checkName (name : List Char) (back : Nat) : Reading Unit :=
  if isName name then return ()
  else fail ("bad character in group name " ++ quoted (String.ofList name)) (name.length + back)

/-- Whether a group is defined and closed. -/
def isClosed (r : Reader) (index : Nat) : Bool := (r.widths.getD index none).isSome

/-- Refuses a reference, from a condition on preceding text, to a group that is not complete before
the condition. -/
def checkBehind (index : Nat) : Reading Unit := do
  let r ← get
  match r.behind with
  | none => return ()
  | some limit =>
    if !isClosed r index then fail "cannot refer to an open group" 0
    else if index ≥ limit then
      fail "cannot refer to group defined in the same lookbehind subpattern" 0
    else return ()

end Reading

open Reading

/-- An octal digit. -/
def isOctal (c : Char) : Bool := '0' ≤ c && c ≤ '7'

/-- The character that a letter after a backslash stands for. -/
def controlEscape? : Char → Option Nat
  | 'a' => some 7
  | 'b' => some 8
  | 'f' => some 12
  | 'n' => some 10
  | 'r' => some 13
  | 't' => some 9
  | 'v' => some 11
  | '\\' => some 92
  | _ => none

/-- The kind of characters that a letter after a backslash stands for. -/
def classEscape? : Char → Option SetItem
  | 'd' => some (.category false .digit)
  | 'D' => some (.category true .digit)
  | 's' => some (.category false .space)
  | 'S' => some (.category true .space)
  | 'w' => some (.category false .word)
  | 'W' => some (.category true .word)
  | _ => none

/-- The place that a letter after a backslash stands for. -/
def placeEscape? : Char → Option Place
  | 'A' => some .textStart
  | 'Z' => some .textEnd
  | 'b' => some .wordEdge
  | 'B' => some .notWordEdge
  | _ => none

/-- Fails because of an escape. -/
def badEscape {α : Type} (chars : List Char) : Reading α :=
  fail ("bad escape " ++ String.ofList chars) chars.length

/-- A character by its code with a given number of hexadecimal digits. -/
def hexEscape (mark : Char) (count : Nat) : Reading Nat := do
  let ds ← upTo isHexDigit count
  let chars := '\\' :: mark :: ds
  if ds.length != count then
    fail ("incomplete escape " ++ String.ofList chars) chars.length
  else
    let code := digitsIn 16 ds
    if code > 0x10ffff then badEscape chars else return code

/-- A character by its name; no names are known. -/
def namedEscape : Reading Nat := do
  if !(← accept '{') then fail "missing \x7b" 0
  let name ← nameUntil '}' "character name"
  fail ("undefined character name " ++ quoted (String.ofList name)) (name.length + 4)

/-- Refuses an octal code that is too large. -/
def octalCode (ds : List Char) : Reading Nat := do
  let code := digitsIn 8 ds
  if code > 255 then
    fail ("octal escape value \\" ++ String.ofList ds ++ " outside of range 0-0o377")
      (ds.length + 1)
  else return code

/-- The code of an escape that is the same inside and outside sets, if the character after the
backslash starts one. -/
def codeEscape? (c : Char) : Option (Reading Nat) :=
  if c == 'x' then some (hexEscape 'x' 2)
  else if c == 'u' then some (hexEscape 'u' 4)
  else if c == 'U' then some (hexEscape 'U' 8)
  else if c == 'N' then some namedEscape
  else none

/-- What an escape stands for inside a set. -/
def setEscape (c : Char) : Reading SetItem := do
  match controlEscape? c, classEscape? c, codeEscape? c with
  | some code, _, _ => return .single code
  | _, some item, _ => return item
  | _, _, some read => return .single (← read)
  | none, none, none =>
    if isOctal c then
      let more ← upTo isOctal 2
      return .single (← octalCode (c :: more))
    else if isAsciiDigit c || isAsciiLetter c then badEscape ['\\', c]
    else return .single c.toNat

/-- A reference to a group by its number, written with given digits. -/
def groupReference (ds : List Char) : Reading Node := do
  let index := digitsIn 10 ds
  let r ← get
  if index < r.widths.length then
    if !isClosed r index then fail "cannot refer to an open group" (ds.length + 1)
    checkBehind index
    return .reference index
  else fail ("invalid group reference " ++ toString index) ds.length

/-- What an escape stands for outside sets. -/
def escape (c : Char) : Reading Node := do
  match classEscape? c, placeEscape? c, controlEscape? c, codeEscape? c with
  | some item, _, _, _ => return .set false [item]
  | _, some place, _, _ => return .at place
  | _, _, some code, _ => return .literal false code
  | _, _, _, some read => return .literal false (← read)
  | none, none, none, none =>
    if c == '0' then
      let more ← upTo isOctal 2
      return .literal false (digitsIn 8 (c :: more))
    else if isAsciiDigit c then
      match ← upTo isAsciiDigit 1 with
      | [d] =>
        if isOctal c && isOctal d then
          match ← upTo isOctal 1 with
          | [e] => return .literal false (← octalCode [c, d, e])
          | _ => groupReference [c, d]
        else groupReference [c, d]
      | _ => groupReference [c]
    else if isAsciiLetter c then badEscape ['\\', c]
    else return .literal false c.toNat

/-- One end of a range or an item of a set, from its unit. -/
def setUnit (u : List Char) : Reading SetItem :=
  match u with
  | ['\\', c] => setEscape c
  | c :: _ => return .single c.toNat
  | [] => return .single 0

/-- Reads the items of a set up to its closing bracket; `start` is the place of the opening one. -/
def setItems (start : Nat) (done : List SetItem) : Nat → Reading (List SetItem)
  | 0 => return done
  | fuel + 1 => do
    let unterminated {α : Type} : Reading α := do
      fail "unterminated character set" ((← tell) - start)
    match ← next with
    | none => unterminated
    | some u =>
      if u == [']'] && !done.isEmpty then return done
      let first ← setUnit u
      if ← accept '-' then
        match ← next with
        | none => unterminated
        | some v =>
          if v == [']'] then return done ++ [first, .single 45]
          let last ← setUnit v
          let bad {α : Type} : Reading α :=
            fail ("bad character range " ++ String.ofList u ++ "-" ++ String.ofList v)
              (u.length + 1 + v.length)
          match first, last with
          | .single a, .single b =>
            if b < a then bad else setItems start (done ++ [.range a b]) fuel
          | _, _ => bad
      else setItems start (done ++ [first]) fuel

/-- Reads a set after its opening bracket. -/
def readSet : Reading Node := do
  let start := (← tell) - 1
  let negated ← accept '^'
  let items := (← setItems start [] ((← get).rest.length + 1)).eraseDups
  match items with
  | [.single code] => return .literal negated code
  | _ => return .set negated items

/-- The option of a letter. -/
def flagOf? : Char → Option Flags
  | 'i' => some { ignoreCase := true }
  | 'm' => some { multiline := true }
  | 's' => some { dotAll := true }
  | 'x' => some { verbose := true }
  | 'a' => some { ascii := true }
  | 't' => some { plain := true }
  | 'u' => some { unicode := true }
  | _ => none

/-- Whether a letter is that of an option, the one for local alphabets included. -/
def isFlag (u : List Char) : Bool :=
  match u with
  | [c] => c == 'L' || (flagOf? c).isSome
  | _ => false

/-- Fails at a unit where the letter of an option is missing. -/
def unknownFlag {α : Type} (u : List Char) (missing : String) : Reading α :=
  let isLetter := match u with
    | [c] => c != '_' && nameStarts.contains c
    | _ => false
  fail (if isLetter then "unknown flag" else missing) u.length

/-- Reads the letters of options to be turned on, the current one first; returns the character that
ends them. -/
def flagsOn (on : Flags) (u : List Char) : Nat → Reading (Flags × Char)
  | 0 => return (on, ')')
  | fuel + 1 => do
    match u with
    | ['L'] => fail "bad inline flags: cannot use 'L' flag with a str pattern" 0
    | [c] =>
      let on := on.union ((flagOf? c).getD {})
      if on.ascii && on.unicode then
        fail "bad inline flags: flags 'a', 'u' and 'L' are incompatible" 0
      match ← next with
      | none => fail "missing -, : or )" 0
      | some v =>
        match v with
        | [')'] => return (on, ')')
        | ['-'] => return (on, '-')
        | [':'] => return (on, ':')
        | _ => if isFlag v then flagsOn on v fuel else unknownFlag v "missing -, : or )"
    | _ => return (on, ')')

/-- Reads the letters of options to be turned off, the current one first. -/
def flagsOff (off : Flags) (u : List Char) : Nat → Reading Flags
  | 0 => return off
  | fuel + 1 => do
    match u with
    | [c] =>
      if c == 'a' || c == 'u' || c == 'L' then
        fail "bad inline flags: cannot turn off flags 'a', 'u' and 'L'" 0
      let off := off.union ((flagOf? c).getD {})
      match ← next with
      | none => fail "missing :" 0
      | some v =>
        if v == [':'] then return off
        else if isFlag v then flagsOff off v fuel
        else unknownFlag v "missing :"
    | _ => return off

/-- Reads options after a question mark, given the first unit of them. Without a colon they are for
the whole pattern, and nothing is returned. -/
def readFlags (u : List Char) : Reading (Option (Flags × Flags)) := do
  let fuel := (← get).rest.length + 1
  let (on, stop) ← if u == ['-'] then pure ({}, '-') else flagsOn {} u fuel
  if stop == ')' then
    modify fun r => { r with flags := r.flags.union on }
    return none
  if on.plain then fail "bad inline flags: cannot turn on global flag" 1
  let off ← if stop == '-' then do
      match ← next with
      | none => fail "missing flag" 0
      | some v => if isFlag v then flagsOff {} v fuel else unknownFlag v "missing flag"
    else pure {}
  if off.plain then fail "bad inline flags: cannot turn off global flag" 1
  if !(on.inter off).isEmpty then fail "bad inline flags: flag turned on and off" 1
  return some (on, off)

/-- The number from which on numbers of repetitions are refused. -/
def maxRepeat : Nat := 4294967295

/-- The number of repetitions that digits write, or a default without digits. -/
def repeatCount (ds : List Char) : Reading (Option Nat) := do
  if ds.isEmpty then return none
  if ds.length > maxNumeralDigits then throw (.value (NumeralError.tooLong ds.length).message)
  let n := digitsIn 10 ds
  if n ≥ maxRepeat then throw .tooLarge
  return some n

/-- Reads what stands between the braces of a repetition, if it is one; otherwise the brace stands for
itself and what follows it is read anew. -/
def readBounds (start : Nat) : Reading (Option (Nat × Option Nat)) := do
  if (← peek) == some ['}'] then return none
  let saved := (← get).rest
  let lo ← many isAsciiDigit
  let hi ← if ← accept ',' then many isAsciiDigit else pure lo
  if !(← accept '}') then
    modify fun r => { r with rest := saved }
    return none
  let least := (← repeatCount lo).getD 0
  match ← repeatCount hi with
  | none => return some (least, none)
  | some most =>
    if most < least then fail "min repeat greater than max repeat" ((← tell) - start)
    return some (least, some most)

/-- The part that is repeated: a group that neither captures nor changes options is no more than what
it holds. -/
def repeated : Node → List Node
  | .group none on off body => if on.isEmpty && off.isEmpty then body else [.group none on off body]
  | n => [n]

/-- Reads how a repetition chooses between its numbers of rounds. -/
def readAppetite : Reading Appetite := do
  if ← accept '?' then return .lazy
  else if ← accept '+' then return .possessive
  else return .greedy

/-- Puts a repetition in place of the last part; `start` is the place after its sign. -/
def repeatLast (done : List Node) (start signLength : Nat) (least : Nat) (most : Option Nat) :
    Reading (List Node) := do
  match done with
  | [] | .at _ :: _ => fail "nothing to repeat" ((← tell) - start + signLength)
  | .loop _ _ _ _ :: _ => fail "multiple repeat" ((← tell) - start + signLength)
  | item :: before =>
    return .loop (← readAppetite) least most (repeated item) :: before

/-- Opens a group and gives its number. -/
def openGroup (name : Option (List Char)) : Reading Nat := do
  let r ← get
  let index := r.widths.length
  match name with
  | none => set { r with widths := r.widths ++ [none] }
  | some chars =>
    let name := String.ofList chars
    match r.names.find? (·.1 == name) with
    | some (_, earlier) =>
      fail ("redefinition of group name " ++ quoted name ++ " as group " ++ toString index ++
        "; was group " ++ toString earlier) (chars.length + 1)
    | none => set { r with widths := r.widths ++ [none], names := r.names ++ [(name, index)] }
  return index

/-- Closes a group. -/
def closeGroup (index : Nat) (body : List Node) : Reading Unit :=
  modify fun r => { r with widths := r.widths.set index (some (widthOfAll r.widths body).cap) }

/-- Reads a reference to a group by its name. -/
def namedReference : Reading Node := do
  let name ← nameUntil ')' "group name"
  checkName name 1
  let r ← get
  match r.names.find? (·.1 == String.ofList name) with
  | none => fail ("unknown group name " ++ quoted (String.ofList name)) (name.length + 1)
  | some (_, index) =>
    if !isClosed r index then fail "cannot refer to an open group" (name.length + 1)
    checkBehind index
    return .reference index

/-- The greatest number of groups. -/
def maxGroups : Nat := 1073741823

/-- Reads the group that a condition refers to. -/
def conditionGroup : Reading Nat := do
  let chars ← nameUntil ')' "group name"
  let name := String.ofList chars
  let r ← get
  let index ←
    if isName chars then
      match r.names.find? (·.1 == name) with
      | none => fail ("unknown group name " ++ quoted name) (chars.length + 1)
      | some (_, index) => pure index
    else
      match readNumeral name with
      | .ok n =>
        if n < 0 then
          fail ("bad character in group name " ++ quoted name) (chars.length + 1)
        else if n == 0 then fail "bad group number" (chars.length + 1)
        else if n ≥ maxGroups then
          fail ("invalid group reference " ++ toString n) (chars.length + 1)
        else do
          let index := n.toNat
          let place := (← tell) - chars.length - 1
          if !(r.references.any (·.1 == index)) then
            modify fun r => { r with references := r.references ++ [(index, place)] }
          pure index
      | .error _ => fail ("bad character in group name " ++ quoted name) (chars.length + 1)
  checkBehind index
  return index

/-- Reads past a comment; `start` is the place of its opening parenthesis. -/
def skipComment (start : Nat) : Nat → Reading Unit
  | 0 => return ()
  | fuel + 1 => do
    match ← peek with
    | none => fail "missing ), unterminated comment" ((← tell) - start)
    | some _ =>
      if (← next) == some [')'] then return () else skipComment start fuel

/-- Reads past the rest of a line. -/
def skipLine : Nat → Reading Unit
  | 0 => return ()
  | fuel + 1 => do
    match ← next with
    | none | some ['\n'] => return ()
    | some _ => skipLine fuel

/-- Reads the parenthesis that closes what was opened at a place. -/
def closing (start : Nat) : Reading Unit := do
  if !(← accept ')') then fail "missing ), unterminated subpattern" ((← tell) - start)

/-- What the start of a parenthesis says about what it holds. -/
inductive Opening
  /-- A group, capturing if it has a number, with the options that it changes. -/
  | group (index : Option Nat) (on off : Flags)
  /-- A part whose first match is final. -/
  | atomic
  /-- A condition on what surrounds the place. -/
  | look (behind negated : Bool)
  /-- A choice by whether a group has captured. -/
  | condition (index : Nat)
  /-- Nothing more to be read: a part, or no part at all. -/
  | done (part : Option Node)
  /-- Options for the whole pattern. -/
  | global

/-- Reads what follows an opening parenthesis at a place. -/
def readOpening (start : Nat) : Reading Opening := do
  if !(← accept '?') then return .group (some (← openGroup none)) {} {}
  match ← next with
  | none => fail "unexpected end of pattern" 0
  | some u =>
    match u with
    | ['P'] =>
      if ← accept '<' then
        let name ← nameUntil '>' "group name"
        checkName name 1
        return .group (some (← openGroup (some name))) {} {}
      else if ← accept '=' then return .done (some (← namedReference))
      else match ← next with
        | none => fail "unexpected end of pattern" 0
        | some v => fail ("unknown extension ?P" ++ String.ofList v) (v.length + 2)
    | [':'] => return .group none {} {}
    | ['#'] =>
      skipComment start ((← get).rest.length + 1)
      return .done none
    | ['='] => return .look false false
    | ['!'] => return .look false true
    | ['<'] =>
      match ← next with
      | none => fail "unexpected end of pattern" 0
      | some ['='] => return .look true false
      | some ['!'] => return .look true true
      | some v => fail ("unknown extension ?<" ++ String.ofList v) (v.length + 2)
    | ['('] => return .condition (← conditionGroup)
    | ['>'] => return .atomic
    | _ =>
      if isFlag u || u == ['-'] then
        match ← readFlags u with
        | none => return .global
        | some (on, off) => return .group none on off
      else fail ("unknown extension ?" ++ String.ofList u) (u.length + 1)

/-- A group that neither captures nor changes options is replaced by what it holds. -/
def unpack (nodes : List Node) : List Node :=
  nodes.flatMap fun
    | .group none on off body =>
      if on.isEmpty && off.isEmpty then body else [.group none on off body]
    | n => [n]

/-- Reads a part after its opening parenthesis at a place. What stands in the parenthesis is read by
`ways`, or by `parts` without the bars, both told whether blanks and comments are skipped. Returns
whether they are skipped after the part, and the parts read so far in reverse, as `readPart` does. -/
def readParenthesis (ways parts : Bool → Reading (List Node)) (verbose first : Bool)
    (done : List Node) (start : Nat) : Reading (Bool × List Node) := do
  match ← readOpening start with
  | .done none => return (verbose, done)
  | .done (some part) => return (verbose, part :: done)
  | .global =>
    if !first || !done.isEmpty then
      fail "global flags not at the start of the expression" ((← tell) - start)
    return ((← get).flags.verbose, done)
  | .look behind negated =>
    let outer := (← get).behind
    if behind && outer.isNone then
      modify fun r => { r with behind := some r.widths.length }
    let body ← ways verbose
    if behind && outer.isNone then modify fun r => { r with behind := none }
    closing start
    let width := (widthOfAll (← get).widths body).cap
    let behind := if behind then some width else none
    return (verbose, .look behind negated body :: done)
  | .condition index =>
    let yes ← parts verbose
    let no ← if ← accept '|' then do
        let no ← parts verbose
        if (← peek) == some ['|'] then fail "conditional backref with more than two branches" 0
        pure no
      else pure []
    closing start
    return (verbose, .condition index yes no :: done)
  | .atomic =>
    let body ← ways verbose
    closing start
    return (verbose, .atomic body :: done)
  | .group index on off =>
    let body ← ways ((verbose || on.verbose) && !off.verbose)
    closing start
    match index with
    | some i => closeGroup i body
    | none => pure ()
    return (verbose, .group index on off body :: done)

/-- Reads a part that starts with a given unit. -/
def readPart (ways parts : Bool → Reading (List Node)) (verbose first : Bool) (done : List Node)
    (u : List Char) : Reading (Bool × List Node) := do
  match u with
  | [c] =>
    if verbose && (c == ' ' || (9 ≤ c.toNat && c.toNat ≤ 13)) then return (verbose, done)
    else if verbose && c == '#' then
      skipLine ((← get).rest.length + 1)
      return (verbose, done)
    else if c == '[' then return (verbose, (← readSet) :: done)
    else if c == '.' then return (verbose, .any :: done)
    else if c == '^' then return (verbose, .at .lineStart :: done)
    else if c == '$' then return (verbose, .at .lineEnd :: done)
    else if c == '?' || c == '*' || c == '+' then
      let start ← tell
      let least := if c == '+' then 1 else 0
      let most := if c == '?' then some 1 else none
      return (verbose, ← repeatLast done start 1 least most)
    else if c == '{' then
      let start ← tell
      match ← readBounds start with
      | none => return (verbose, .literal false c.toNat :: done)
      | some (least, most) => return (verbose, ← repeatLast done start 1 least most)
    else if c == '(' then
      readParenthesis ways parts verbose first done ((← tell) - 1)
    else return (verbose, .literal false c.toNat :: done)
  | ['\\', c] => return (verbose, (← escape c) :: done)
  | _ => return (verbose, done)

mutual

/-- Reads ways with bars between them; `top` says that no parenthesis is open. -/
def readWays (verbose top : Bool) (done : List (List Node)) : Nat → Reading (List Node)
  | 0 => return []
  | fuel + 1 => do
    let way ← readParts verbose (top && done.isEmpty) [] fuel
    let ways := done ++ [way]
    if ← accept '|' then
      let r ← get
      readWays (if top then r.flags.verbose else verbose) top ways fuel
    else match ways with
      | [way] => return way
      | _ => return [.choice ways]

/-- Reads parts up to a bar, a closing parenthesis or the end; the parts read so far are in reverse.
`first` says that options for the whole pattern may stand here. -/
def readParts (verbose first : Bool) (done : List Node) : Nat → Reading (List Node)
  | 0 => return unpack done.reverse
  | fuel + 1 => do
    match ← peek with
    | none | some ['|'] | some [')'] => return unpack done.reverse
    | some u =>
      advance
      let (verbose, done) ← readPart (fun verbose => readWays verbose false [] fuel)
        (fun verbose => readParts verbose false [] fuel) verbose first done u
      readParts verbose first done fuel

end

mutual

/-- Refuses what cannot be matched: a repetition where none is allowed, and a condition on preceding
text whose length varies. -/
def checkPart (flags : Flags) : Node → Except PatternError Unit
  | .loop appetite _ _ body =>
    if flags.plain then
      let name := match appetite with
        | .greedy => "MAX_REPEAT"
        | .lazy => "MIN_REPEAT"
        | .possessive => "POSSESSIVE_REPEAT"
      .error (.general ("internal: unsupported template operator " ++ name))
    else checkParts flags body
  | .group _ on off body => checkParts (flags.inGroup on off) body
  | .atomic body => checkParts flags body
  | .choice ways => checkWays flags ways
  | .condition _ yes no => do
    checkParts flags yes
    checkParts flags no
  | .look behind _ body => do
    match behind with
    | none => pure ()
    | some w =>
      if w.least > maxRepeat then throw (.general "looks too much behind")
      if w.least != w.most then throw (.general "look-behind requires fixed-width pattern")
    checkParts flags body
  | .literal _ _ | .any | .set _ _ | .at _ | .reference _ => .ok ()

/-- Refuses parts that cannot be matched. -/
def checkParts (flags : Flags) : List Node → Except PatternError Unit
  | [] => .ok ()
  | n :: rest => do
    checkPart flags n
    checkParts flags rest

/-- Refuses ways that cannot be matched. -/
def checkWays (flags : Flags) : List (List Node) → Except PatternError Unit
  | [] => .ok ()
  | way :: rest => do
    checkParts flags way
    checkWays flags rest

end

/-- Reads a whole pattern. -/
def readPattern : Reading (List Node) := do
  checkAhead
  let nodes ← readWays false true [] (4 * ((← get).rest.length + 2))
  let r ← get
  if r.flags.ascii && r.flags.unicode then
    throw (.value "ASCII and UNICODE flags are incompatible")
  if !r.rest.isEmpty then fail "unbalanced parenthesis" 0
  match r.references.find? fun (index, _) => index ≥ r.widths.length with
  | some (index, place) =>
    throw (.at ("invalid group reference " ++ toString index) r.pattern place)
  | none => return nodes

/-- Compiles a pattern. -/
def compile (pattern : String) : Except PatternError Compiled := do
  let cs := pattern.toList
  let (nodes, r) ← readPattern.run
    ⟨pattern, unitsFrom 0 cs, cs.length, {}, [], [none], none, []⟩
  let flags := if r.flags.ascii then r.flags else { r.flags with unicode := true }
  checkParts flags nodes
  return ⟨nodes, flags, r.widths.length - 1, r.names⟩

end PathTemplates.Pattern
