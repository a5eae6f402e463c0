import PathTemplates.Text.Search

/-! # File paths

A path is a root and a list of names. The text of a path is taken apart at slashes; empty names and
single dots vanish, and a double dot stays as it is, since a link may stand before it. Exactly two
leading slashes are a root of their own. -/

namespace PathTemplates

/-- Where a path starts. -/
inductive PathRoot
  /-- At a place that the reader knows. -/
  | relative
  /-- At the root of the file system. -/
  | single
  /-- At the root written with two slashes. -/
  | double
  deriving DecidableEq

namespace PathRoot

/-- The slashes that a root is written with. -/
def text : PathRoot → String
  | relative => ""
  | single => "/"
  | double => "//"

end PathRoot

/-- A file path in normal form. -/
structure Path where
  /-- Where the path starts. -/
  root : PathRoot
  /-- The names on the way; none is empty, a single dot or holds a slash. -/
  names : List String
  deriving DecidableEq

namespace Path

/-- The root that leading slashes stand for. -/
def rootOf (cs : List Char) : PathRoot :=
  match (cs.takeWhile (· == '/')).length with
  | 0 => .relative
  | 2 => .double
  | _ => .single

/-- Whether a field between slashes is a name. -/
def isNameField (field : String) : Bool := field != "" && field != "."

/-- Reads a path. -/
def ofString (s : String) : Path :=
  ⟨rootOf s.toList, ((splitChar '/' s.toList).map String.ofList).filter isNameField⟩

/-- The text of a path; the empty relative path is a dot. -/
def toString (p : Path) : String :=
  match p.root, p.names with
  | .relative, [] => "."
  | root, names => root.text ++ joinWith "/" names

/-- The last name, or the empty text. -/
def name (p : Path) : String := p.names.getLast?.getD ""

/-- The place of the dot that starts a name's last suffix: neither the first character of the name
nor its last one. -/
def suffixStart? (cs : List Char) : Option Nat :=
  let after := (cs.reverse.takeWhile (· != '.')).length
  let before := cs.length - after - 1
  if cs.contains '.' && 0 < before && 0 < after then some before else none

/-- The last name without its last suffix. -/
def stem (p : Path) : String :=
  let cs := p.name.toList
  match suffixStart? cs with
  | some i => String.ofList (cs.take i)
  | none => p.name

/-- The last suffix with its dot, or the empty text. -/
def suffix (p : Path) : String :=
  let cs := p.name.toList
  match suffixStart? cs with
  | some i => String.ofList (cs.drop i)
  | none => ""

/-- The last suffix without its dot. -/
def extension (p : Path) : String := String.ofList (p.suffix.toList.dropWhile (· == '.'))

/-- The path without its last name; a path without names is its own parent. -/
def parent (p : Path) : Path := ⟨p.root, p.names.dropLast⟩

/-- One path followed from another; a rooted path starts anew. -/
def join (p q : Path) : Path :=
  match q.root with
  | .relative => ⟨p.root, p.names ++ q.names⟩
  | _ => q

/-- Paths followed one from another. -/
def joinAll (paths : List Path) : Path := paths.foldl join ⟨.relative, []⟩

/-- The way from a directory to a path under it. -/
def relativeTo? (p base : Path) : Option Path :=
  if p.root = base.root ∧ base.names.isPrefixOf p.names then
    some ⟨.relative, p.names.drop base.names.length⟩
  else none

end Path

end PathTemplates
