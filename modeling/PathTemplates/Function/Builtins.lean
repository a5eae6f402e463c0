import PathTemplates.Function.Registry
import PathTemplates.Path
import PathTemplates.Text.Casing
import PathTemplates.Text.Numeral

/-! # Built-in functions

Functions on texts, mappings and paths. None of them looks at files; the path functions work on the
text of a path. -/

namespace PathTemplates.Builtin

open FunctionBody

/-- The first character in upper case, the rest as it is. -/
def capitalized (s : String) : String :=
  match s.toList with
  | [] => ""
  | c :: rest => String.ofList (raiseChar c ++ rest)

/-- The greatest width that a text can be asked to have. -/
def maxWidth : Int := Nat.pow 2 63 - 1

/-- The greatest width that there is room for. -/
def widthInMemory : Int := Nat.pow 2 40

/-- A text with zeros in front of it up to a width that is written in text. -/
def zeroFilled (s width : String) : Except CallFailure Datum :=
  match readNumeral width with
  | .error e => .error (.other "ValueError" e.message)
  | .ok n =>
    if n > maxWidth || n < -maxWidth - 1 then
      .error (.other "OverflowError" "Python int too large to convert to C ssize_t")
    else if n > widthInMemory then .error (.other "MemoryError" "")
    else .ok (.text (String.ofList (zeroPadded n.toNat s.toList)))

/-- The value of a key, or the error that it is not there. -/
def fieldOf (entries : Dict String Value) (key : String) : Except CallFailure Datum :=
  match entries.get? key with
  | some v => .ok (.value v)
  | none => .error (.evaluation (.of (.undefinedVariable key (sortTexts entries.keys))))

/-- The parent of a path; a path that is its own parent has none. -/
def parentOf (s : String) : Except CallFailure Datum :=
  let path := Path.ofString s
  if path.parent = path then
    .error (.other "ValueError" ("no parent for path '" ++ path.toString ++ "'"))
  else .ok (.text path.parent.toString)

/-- A function of one text. -/
def onText (name : String) (f : String → String) : FunctionBody := fun args => do
  let s ← textAt name args 0
  return .text (f s)

/-- All arguments, which must be texts. -/
def allTexts (name : String) (args : List Value) : Except CallFailure (List String) :=
  (List.range args.length).mapM fun (i : Nat) => textAt name args i

/-- The functions of the library. -/
def all : List FunctionEntry := [
  ⟨"upper", .exactly 1, onText "upper" upperText, "Uppercase a string."⟩,
  ⟨"lower", .exactly 1, onText "lower" lowerText, "Lowercase a string."⟩,
  ⟨"capitalize", .exactly 1, onText "capitalize" capitalized, "Uppercase the first character."⟩,
  ⟨"trim", .exactly 1, onText "trim" trimText, "Strip surrounding whitespace."⟩,
  ⟨"replace", .exactly 3, fun args => do
      let s ← textAt "replace" args 0
      let old ← textAt "replace" args 1
      let new ← textAt "replace" args 2
      return .text (String.ofList (replaceAll old.toList new.toList s.toList)),
    "replace(text, old, new)."⟩,
  ⟨"concat", .atLeast 1, fun args => do
      let texts ← allTexts "concat" args
      return .text (String.join texts),
    "Concatenate strings."⟩,
  ⟨"zfill", .exactly 2, fun args => do
      let s ← textAt "zfill" args 0
      let width ← textAt "zfill" args 1
      zeroFilled s width,
    "Left-pad with zeros: zfill(text, '3')."⟩,
  ⟨"get", .exactly 2, fun args => do
      let entries ← mappingAt "get" args 0
      let key ← textAt "get" args 1
      fieldOf entries key,
    "Look up a key in a mapping: get(map, key)."⟩,
  ⟨"stem", .exactly 1, onText "stem" fun s => (Path.ofString s).stem,
    "File name without its last suffix."⟩,
  ⟨"filename", .exactly 1, onText "filename" fun s => (Path.ofString s).name,
    "Final path component."⟩,
  ⟨"extension", .exactly 1, onText "extension" fun s => (Path.ofString s).extension,
    "Last suffix without the dot."⟩,
  ⟨"parent", .exactly 1, fun args => do
      let s ← textAt "parent" args 0
      parentOf s,
    "Parent directory of a path."⟩,
  ⟨"join", .atLeast 1, fun args => do
      let texts ← allTexts "join" args
      return .text (Path.joinAll (texts.map Path.ofString)).toString,
    "Join path segments."⟩]

/-- The registry of the built-in functions. -/
def registry : Registry := ⟨all.map fun entry => (entry.name, entry), false⟩

end PathTemplates.Builtin
