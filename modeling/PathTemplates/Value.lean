import PathTemplates.Dict
import PathTemplates.Json.Printer
import PathTemplates.Text.Search

/-! # Values

A template works with values of two kinds: a text, or a mapping of names to values. Plain data is
turned into a value only if it is made of texts and of mappings with texts as keys; everything else
is refused rather than written out in some form. -/

namespace PathTemplates

/-- A value. -/
inductive Value
  /-- A text. -/
  | text (s : String)
  /-- Names with their values. -/
  | mapping (entries : Dict String Value)

/-- The two kinds of values. -/
inductive ValueKind
  /-- Texts. -/
  | text
  /-- Mappings. -/
  | mapping
  deriving DecidableEq

namespace ValueKind

/-- The name of a kind in messages. -/
def name : ValueKind → String
  | text => "text"
  | mapping => "mapping"

end ValueKind

namespace Value

/-- The kind of a value. -/
def kind : Value → ValueKind
  | text _ => .text
  | mapping _ => .mapping

/-- What a name is bound to in a mapping; a text has no names. -/
def field? (name : String) : Value → Option Value
  | text _ => none
  | mapping entries => entries.get? name

/-- The value at the end of a path of names. -/
def at? : Value → List String → Option Value
  | v, [] => some v
  | v, name :: rest => (v.field? name).bind (at? · rest)

/-- A value as JSON, with the names of every mapping in ascending order. -/
def toJson : Value → Json
  | text s => .text s
  | mapping ⟨names, distinct, item⟩ =>
    let members : Dict String Json := ⟨names, distinct, fun i => toJson (item i)⟩
    .object (members.entries.mergeSort fun a b => decide (a.1 ≤ b.1))

/-- What a value contributes to an output: a text itself, a mapping in compact JSON. -/
def rendered : Value → String
  | text s => s
  | v => v.toJson.compact

/-- Whether two values are the same up to the order of names. -/
def same : Value → Value → Bool
  | text s, text t => s == t
  | mapping ⟨names, distinct, item⟩, mapping others =>
    let tests : Dict String (Value → Bool) := ⟨names, distinct, fun i => same (item i)⟩
    names.length == others.keys.length &&
      tests.entries.all fun (name, test) => (others.get? name).any test
  | _, _ => false

/-- How a message shows the entries of a mapping, from how it shows their values. -/
def shownEntries (shown : Dict String String) : String :=
  joinWith ", " (shown.entries.map fun (name, value) => quoted name ++ ": " ++ value)

/-- How a message shows the structure of a value. -/
def shown : Value → String
  | text s => "TextValue(text=" ++ quoted s ++ ")"
  | mapping ⟨names, distinct, item⟩ =>
    "MappingValue(entries=mappingproxy(\x7b" ++
      shownEntries ⟨names, distinct, fun i => shown (item i)⟩ ++ "\x7d))"

end Value

/-- A key of plain data. -/
inductive DatumKey
  /-- A text. -/
  | name (s : String)
  /-- Something else, of a kind with a given name. -/
  | foreign (kind : String)

namespace DatumKey

/-- The text of a key that is one. -/
def name? : DatumKey → Option String
  | name s => some s
  | foreign _ => none

end DatumKey

instance : Key DatumKey := ⟨DatumKey.name?⟩

/-- Plain data that may become a value. -/
inductive Datum
  /-- A text. -/
  | text (s : String)
  /-- A value as it is. -/
  | value (v : Value)
  /-- A mapping. -/
  | mapping (entries : Dict DatumKey Datum)
  /-- Something else, of a kind with a given name. -/
  | foreign (kind : String)

/-- Why plain data is no value. -/
inductive DatumError
  /-- It is neither a text nor a mapping. -/
  | unusable (kind : String)
  /-- A key is not a text. -/
  | badKey (kind : String)
  deriving DecidableEq

namespace DatumError

/-- The wording of the error. -/
def message : DatumError → String
  | unusable kind => "Cannot use " ++ kind ++ " as a template value (expected str or mapping)"
  | badKey kind => "Mapping keys must be strings, got " ++ kind

end DatumError

namespace Datum

/-- Binds the values of the entries of a mapping, each key checked before its value. -/
def toEntries (done : Dict String Value) :
    List (DatumKey × Except DatumError Value) → Except DatumError (Dict String Value)
  | [] => .ok done
  | (.foreign kind, _) :: _ => .error (.badKey kind)
  | (.name key, result) :: rest =>
    match result with
    | .ok v => toEntries (done.set key v) rest
    | .error e => .error e

/-- The value that plain data stands for. -/
def toValue : Datum → Except DatumError Value
  | text s => .ok (.text s)
  | value v => .ok v
  | mapping ⟨keys, distinct, item⟩ =>
    let results : Dict DatumKey (Except DatumError Value) := ⟨keys, distinct, fun i => toValue (item i)⟩
    (toEntries .empty results.entries).map .mapping
  | foreign kind => .error (.unusable kind)

/-- Values as data. -/
def ofValues (values : Dict String Value) : Dict String Datum := values.map .value

end Datum

namespace Dict

variable {α : Type}

/-- The keys of plain data that are given names differ like the names. -/
theorem distinct_named (d : Dict String α) :
    ((d.entries.map fun (name, a) => (DatumKey.name name, a)).filterMap (Key.name? ·.1)).Nodup := by
  rw [List.filterMap_map]
  exact d.distinct_entries

/-- The dictionary with its names as keys of plain data. -/
def named (d : Dict String α) : Dict DatumKey α :=
  ofEntries (d.entries.map fun (name, a) => (.name name, a)) d.distinct_named

end Dict

namespace Value

/-- A value as data: texts, and mappings with texts as keys. -/
def toDatum : Value → Datum
  | text s => .text s
  | mapping ⟨names, distinct, item⟩ =>
    .mapping (Dict.named ⟨names, distinct, fun i => toDatum (item i)⟩)

end Value

end PathTemplates
