/-! # Patterns

The parts of a search pattern: characters and sets of characters, places, choices, repetitions,
groups and references to them, and conditions on what stands around a place. Characters are given by
their codes, since a pattern may name codes that are no characters. -/

namespace PathTemplates.Pattern

/-- Options of matching. -/
structure Flags where
  /-- Letters match in either case. -/
  ignoreCase : Bool := false
  /-- The start and end of every line count as such. -/
  multiline : Bool := false
  /-- The dot matches a line break. -/
  dotAll : Bool := false
  /-- Blanks and comments in the pattern do not count. -/
  verbose : Bool := false
  /-- Classes hold ASCII characters only. -/
  ascii : Bool := false
  /-- Classes hold all characters of their kind. -/
  unicode : Bool := false
  /-- Repetitions are not allowed. -/
  plain : Bool := false
  deriving DecidableEq

namespace Flags

/-- The options that either of two sets has. -/
def union (a b : Flags) : Flags :=
  ⟨a.ignoreCase || b.ignoreCase, a.multiline || b.multiline, a.dotAll || b.dotAll,
    a.verbose || b.verbose, a.ascii || b.ascii, a.unicode || b.unicode, a.plain || b.plain⟩

/-- The options that the first set has and the second has not. -/
def diff (a b : Flags) : Flags :=
  ⟨a.ignoreCase && !b.ignoreCase, a.multiline && !b.multiline, a.dotAll && !b.dotAll,
    a.verbose && !b.verbose, a.ascii && !b.ascii, a.unicode && !b.unicode, a.plain && !b.plain⟩

/-- The options that both sets have. -/
def inter (a b : Flags) : Flags :=
  ⟨a.ignoreCase && b.ignoreCase, a.multiline && b.multiline, a.dotAll && b.dotAll,
    a.verbose && b.verbose, a.ascii && b.ascii, a.unicode && b.unicode, a.plain && b.plain⟩

/-- Whether a set has no options. -/
def isEmpty (a : Flags) : Bool := a == {}

/-- The options inside a group that turns some on and some off; what classes hold is replaced. -/
def inGroup (outer on off : Flags) : Flags :=
  let base := if on.ascii || on.unicode then { outer with ascii := false, unicode := false } else outer
  (base.union on).diff off

end Flags

/-- Kinds of characters. -/
inductive Category
  /-- Decimal digits. -/
  | digit
  /-- Blanks. -/
  | space
  /-- Letters, numbers and the underscore. -/
  | word
  deriving DecidableEq

/-- A part of a set of characters. -/
inductive SetItem
  /-- One character. -/
  | single (code : Nat)
  /-- The characters between two, both included. -/
  | range (first last : Nat)
  /-- The characters of a kind, or those not of it. -/
  | category (negated : Bool) (c : Category)
  deriving DecidableEq

/-- A place between characters. -/
inductive Place
  /-- The start of the text, or of a line. -/
  | lineStart
  /-- The end of the text, or of a line. -/
  | lineEnd
  /-- The start of the text. -/
  | textStart
  /-- The end of the text. -/
  | textEnd
  /-- The start or end of a word. -/
  | wordEdge
  /-- Anywhere else. -/
  | notWordEdge
  deriving DecidableEq

/-- How a repetition chooses its length. -/
inductive Appetite
  /-- As many as possible, fewer if the rest needs it. -/
  | greedy
  /-- As few as possible, more if the rest needs it. -/
  | lazy
  /-- As many as possible and no fewer. -/
  | possessive
  deriving DecidableEq

/-- The least and greatest number of characters that something matches. -/
structure Width where
  /-- The least number. -/
  least : Nat
  /-- The greatest number. -/
  most : Nat
  deriving DecidableEq

namespace Width

/-- A number that stands for no limit. -/
def unlimited : Nat := Nat.pow 2 64

/-- Nothing. -/
def zero : Width := ⟨0, 0⟩

/-- One after the other. -/
def add (a b : Width) : Width := ⟨a.least + b.least, a.most + b.most⟩

/-- Either of two. -/
def either (a b : Width) : Width := ⟨min a.least b.least, max a.most b.most⟩

/-- Several times over. -/
def times (least : Nat) (most : Option Nat) (a : Width) : Width :=
  ⟨a.least * least, match most with
    | some n => a.most * n
    | none => if a.most == 0 then 0 else unlimited⟩

/-- No more than the number that stands for no limit. -/
def cap (a : Width) : Width := ⟨min a.least unlimited, min a.most unlimited⟩

end Width

/-- A part of a pattern. -/
inductive Node
  /-- One character, or any other than it. -/
  | literal (negated : Bool) (code : Nat)
  /-- Any character; line breaks only by option. -/
  | any
  /-- A set of characters, or its complement. -/
  | set (negated : Bool) (items : List SetItem)
  /-- A place. -/
  | at (place : Place)
  /-- The first of several ways that leads to a match. -/
  | choice (ways : List (List Node))
  /-- A repetition; without a greatest number there is no limit. -/
  | loop (appetite : Appetite) (least : Nat) (most : Option Nat) (body : List Node)
  /-- A group, which may capture what it matches and change options. -/
  | group (index : Option Nat) (on off : Flags) (body : List Node)
  /-- A part whose first match is final. -/
  | atomic (body : List Node)
  /-- What a group captured. -/
  | reference (index : Nat)
  /-- One of two parts, by whether a group has captured. -/
  | condition (index : Nat) (yes no : List Node)
  /-- A condition on what follows, or on what precedes if its width is given. -/
  | look (behind : Option Width) (negated : Bool) (body : List Node)

mutual

/-- The width of a part, given the widths of the groups. -/
def width (groups : List (Option Width)) : Node → Width
  | .literal _ _ | .any | .set _ _ => ⟨1, 1⟩
  | .at _ | .look _ _ _ => .zero
  | .choice ways => widthOfChoice groups ways
  | .loop _ least most body => (widthOfAll groups body).cap.times least most
  | .group _ _ _ body | .atomic body => (widthOfAll groups body).cap
  | .reference index => ((groups.getD index none).getD .zero)
  | .condition _ yes no => (widthOfAll groups yes).cap.either (widthOfAll groups no).cap

/-- The width of parts one after the other. -/
def widthOfAll (groups : List (Option Width)) : List Node → Width
  | [] => .zero
  | n :: rest => (width groups n).add (widthOfAll groups rest)

/-- The width of the widest and narrowest way. -/
def widthOfChoice (groups : List (Option Width)) : List (List Node) → Width
  | [] => .zero
  | [way] => (widthOfAll groups way).cap
  | way :: rest => (widthOfAll groups way).cap.either (widthOfChoice groups rest)

end

/-- A pattern ready for matching. -/
structure Compiled where
  /-- Its parts. -/
  nodes : List Node
  /-- Its options. -/
  flags : Flags
  /-- The number of its groups. -/
  groups : Nat
  /-- The names of groups with their numbers, in order of definition. -/
  names : List (String × Nat)

end PathTemplates.Pattern
