import PathTemplates.Calendar
import PathTemplates.Number.Floating
import PathTemplates.Path
import PathTemplates.Text.Utf8

/-! # Files

A tree of files is a value: what files there are, what they hold and when they were last modified.
Relative paths are looked up from the working directory and others from the root; a double dot leads to
the parent directory, and every name on the way but the last must be that of a directory. -/

namespace PathTemplates

/-- What is told of a file or directory without reading it. -/
structure FileStatus where
  /-- The size in bytes. -/
  size : Nat
  /-- The time of the last modification, in nanoseconds from the start of 1970. -/
  modified : Int

/-- What stands at a path. -/
inductive FileNode
  /-- A file with its text, or with what is wrong if its bytes stand for none. -/
  | file (content : Except Utf8.Fault String) (status : FileStatus)
  /-- A directory. -/
  | directory (status : FileStatus)

namespace FileNode

/-- The size and time of a file or directory. -/
def status : FileNode → FileStatus
  | file _ status | directory status => status

/-- A directory that is there only because something is in it. -/
def unlisted : FileNode := .directory ⟨4096, 0⟩

end FileNode

/-- A tree of files. -/
structure FileTree where
  /-- The path of the working directory. -/
  location : Path
  /-- The path of the home directory of the user's account. -/
  home : String
  /-- The files and directories, by the names on the way to them. -/
  entries : List (List String × FileNode)

/-- Why a path leads to nothing. -/
inductive FileError
  /-- There is nothing. -/
  | missing (path : String)
  /-- A name on the way is not that of a directory. -/
  | notDirectory (path : String)
  /-- A name or the path is too long. -/
  | tooLong (path : String)
  /-- What is there is a directory. -/
  | isDirectory (path : String)
  /-- The path holds a null character, which no path can. -/
  | nullCharacter
  /-- The bytes of the file stand for no text. -/
  | noText (e : Utf8.Fault)
  /-- The time of the last modification has no date. -/
  | time (e : DateError)
  deriving DecidableEq

namespace FileError

/-- The wording of an error. -/
def message : FileError → String
  | missing path => "[Errno 2] No such file or directory: " ++ quoted path
  | notDirectory path => "[Errno 20] Not a directory: " ++ quoted path
  | tooLong path => "[Errno 36] File name too long: " ++ quoted path
  | isDirectory path => "[Errno 21] Is a directory: " ++ quoted path
  | nullCharacter => "embedded null byte"
  | noText e => e.message
  | time e => e.message

end FileError

namespace FileTree

/-- What stands at the end of some names; a directory need not be listed if something in it is, or if
it leads to the working directory. -/
def nodeAt? (t : FileTree) (names : List String) : Option FileNode :=
  match t.entries.find? (·.1 == names) with
  | some (_, n) => some n
  | none =>
    if names.isPrefixOf t.location.names || t.entries.any (fun e => names.isPrefixOf e.1) then
      some .unlisted
    else none

/-- Follows names from a place, which is given in reverse. -/
def follow (t : FileTree) (path : String) (place : List String) :
    List String → Except FileError FileNode
  | [] =>
    match t.nodeAt? place.reverse with
    | some n => .ok n
    | none => .error (.missing path)
  | name :: rest =>
    match t.nodeAt? place.reverse with
    | none => .error (.missing path)
    | some (.file _ _) => .error (.notDirectory path)
    | some (.directory _) =>
      if name.utf8ByteSize > 255 then .error (.tooLong path)
      else if name == ".." then
        follow t path place.tail rest
      else follow t path (name :: place) rest

/-- The names on the way to a path. -/
def namesOf (t : FileTree) (p : Path) : List String :=
  match p.relativeTo? t.location, p.root with
  | none, .relative => t.location.names ++ p.names
  | _, _ => p.names

/-- What stands at a path. -/
def find (t : FileTree) (p : Path) : Except FileError FileNode :=
  let text := p.toString
  if text.toList.contains (Char.ofNat 0) then .error .nullCharacter
  else if text.utf8ByteSize > 4095 then .error (.tooLong text)
  else t.follow text [] (t.namesOf p)

/-- The places on the way along some names from a place, which is given in reverse. -/
def placesFrom (place : List String) : List String → List (List String)
  | [] => [place.reverse]
  | name :: rest =>
    place.reverse :: placesFrom (if name == ".." then place.tail else name :: place) rest

/-- The places on the way to a path. -/
def placesTo (t : FileTree) (p : Path) : List (List String) := placesFrom [] (t.namesOf p)

/-- The text of the file at a path. -/
def read (t : FileTree) (p : Path) : Except FileError String :=
  match t.find p with
  | .ok (.file content _) => content.mapError .noText
  | .ok (.directory _) => .error (.isDirectory p.toString)
  | .error e => .error e

end FileTree

/-- The second of a time in nanoseconds: the time as a floating-point number of seconds, rounded to
microseconds, and cut. -/
def modifiedSecond (nanoseconds : Int) : Int :=
  let whole := nanoseconds.fdiv 1000000000
  let rest := nanoseconds.fmod 1000000000
  let time := (Floating.ofInt whole).add ((Floating.ofDecimal false 1 (-9)).mul (.ofInt rest))
  match time with
  | .finite negative m e =>
    let (num, den) := Floating.ratio m e
    let seconds := num / den
    let fraction := Floating.ofRatio false (num % den) den
    match fraction.mul (.ofInt 1000000) with
    | .finite _ n f =>
      let (a, b) := Floating.ratio n f
      let micros := Floating.roundRatio a b
      let total : Int := (seconds * 1000000 + micros : Nat)
      (if negative then -total else total).fdiv 1000000
    | _ => whole
  | _ => whole

end PathTemplates
