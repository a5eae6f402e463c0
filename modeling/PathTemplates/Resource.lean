import PathTemplates.Calendar
import PathTemplates.Context
import PathTemplates.Files
import PathTemplates.Log.Record

/-! # Resources

What a context says about a file: the parts of its path, by themselves and grouped, and its size and
time if they can be read. -/

namespace PathTemplates

/-- A file to be organized. -/
structure Resource where
  /-- Where the file is. -/
  path : Path
  /-- The directory it was found under. -/
  root : Option Path

namespace Resource

/-- The fields that the path of a file gives. -/
def pathFields (p : Path) : List (String × String) :=
  [("path", p.toString), ("name", p.name), ("stem", p.stem), ("extension", p.extension),
    ("parent", p.parent.toString)]

/-- The fields of a file found under a directory; the way from the directory to the file is there
only if there is one. -/
def fields (r : Resource) : List (String × String) :=
  match r.root with
  | none => pathFields r.path
  | some root =>
    pathFields r.path ++ [("root", root.toString)] ++
      (match r.path.relativeTo? root with
        | some way => [("relative", way.toString)]
        | none => [])

/-- What is reported about the path of a file. -/
def pathEvents (r : Resource) : List Log.Event :=
  match r.root with
  | some root =>
    if (r.path.relativeTo? root).isSome then []
    else [.outsideRoot r.path.toString root.toString]
  | none => []

/-- The fields as values, followed by all of them in one mapping. -/
def pathValues (r : Resource) : Dict String Value :=
  let values := Dict.ofList (r.fields.map fun (name, s) => (name, Value.text s))
  values.set "file" (.mapping values)

/-- The size of a file or directory in bytes and the moment of its last modification. -/
def metadata (t : FileTree) (p : Path) : Except FileError (Nat × Moment) := do
  let status := (← t.find p).status
  let moment ← (Moment.ofSeconds (modifiedSecond status.modified)).mapError FileError.time
  return (status.size, moment)

/-- The size and time of a file as a mapping. -/
def metadataValue (size : Nat) (modified : Moment) : Value :=
  .mapping (.ofList [("size", .text (toString size)), ("modified", .text (modified.iso "T"))])

/-- The values that the size and time of a file give, and what is reported if they cannot be read. A
null character in the path is an error, and so is a time that has no date. -/
def metadataValues (t : FileTree) (p : Path) :
    Except FileError (Dict String Value × List Log.Event) :=
  match metadata t p with
  | .ok (size, modified) => .ok (.ofList [("metadata", metadataValue size modified)], [])
  | .error .nullCharacter => .error .nullCharacter
  | .error (.time e) => .error (.time e)
  | .error e => .ok (.empty, [.metadataUnavailable p.toString e.message])

end Resource

end PathTemplates
