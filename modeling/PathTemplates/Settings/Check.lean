import PathTemplates.Settings.Basic
import PathTemplates.Settings.Fault
import PathTemplates.Text.Digit

/-! # Checking settings

Settings come as plain data and are checked one by one. What stands for a setting in another form is
accepted where the meaning is clear: a text for a number or a truth value, a truth value for a number,
and a number without a fraction for a whole one. -/

namespace PathTemplates

open Checked

/-! ## Single settings -/

/-- The text of a text or of bytes. -/
def Data.asText? : Data → Option String
  | text s => some s
  | bytes bs => String.fromUTF8? ⟨(bs.map UInt8.ofNat).toArray⟩
  | _ => none

/-- Digits without the zeros in front of them, which may stand between underscores; the zero in front
of a point stays. -/
def dropZeros? : List Char → Option (List Char)
  | [] => none
  | c :: rest =>
    if c == '0' then go c rest
    else if isAsciiDigit c then some (c :: rest) else none
where
  /-- The rest after a zero or an underscore. -/
  go (last : Char) : List Char → Option (List Char)
    | [] => some [last]
    | c :: rest =>
      if c == '0' || c == '_' then go c rest
      else if isAsciiDigit c then some (c :: rest)
      else if c == '.' then some (last :: c :: rest)
      else none

/-- Digits without a fraction of zeros. -/
def dropZeroFraction (cs : List Char) : List Char :=
  if ((cs.dropWhile (· != '.')).drop 1).all (· == '0') then cs.takeWhile (· != '.') else cs

/-- Digits without single underscores between them. -/
def dropUnderscores (cs : List Char) : List Char :=
  if cs.head? == some '_' || cs.getLast? == some '_' || holdsPiece ['_', '_'] cs then cs
  else cs.filter (· != '_')

/-- The whole number of a text: blanks around it, a sign, digits with underscores between them, and a
fraction of zeros are allowed. -/
def wholeOfText (s : String) : Except Fault Int :=
  let body := trimWhile isNumeralBlank s.toList
  let (negative, digits) := takeSign body
  if (String.ofList body).utf8ByteSize > maxNumeralDigits then .error .tooLong
  else match (dropZeros? digits).map fun cs => dropUnderscores (dropZeroFraction cs) with
    | none => .error .textNotWhole
    | some cs =>
      if cs.isEmpty || !cs.all isAsciiDigit then .error .textNotWhole
      else .ok (withSign negative (digitsValue cs))

/-- The whole number of a number with a fraction. -/
def wholeOfFloating (x : Floating) : Except Fault Int :=
  match x, x.toInt? with
  | .finite _ _ _, some n => if n.natAbs < Nat.pow 2 63 then .ok n else .error .tooLong
  | .finite _ _ _, none => .error .fraction
  | _, _ => .error .notFinite

/-- The whole number that a setting stands for. -/
def wholeOf (d : Data) : Except Fault Int :=
  match d with
  | .bool b => .ok (if b then 1 else 0)
  | .int n => .ok n
  | .float x => wholeOfFloating x
  | .text s => wholeOfText s
  | .bytes _ => (d.asText?.map wholeOfText).getD (.error .textNotWhole)
  | _ => .error .notWhole

/-- A whole number between two bounds. -/
def checkWhole (least most : Nat) (d : Data) : Checked Nat :=
  match wholeOf d with
  | .error f => fault f d
  | .ok n =>
    if n > most then fault (.above most) d
    else if n < least then fault (.below least) d
    else .ok n.toNat

/-- The truth value of a word, in either case. -/
def truthOfText (s : String) : Except Fault Bool :=
  let word := String.ofList (s.toList.map Char.toLower)
  if ["1", "t", "y", "on", "yes", "true"].contains word then .ok true
  else if ["0", "f", "n", "off", "no", "false"].contains word then .ok false
  else .error .notTruthWord

/-- The truth value of one or zero. -/
def truthOfWhole (n : Int) : Except Fault Bool :=
  if n == 1 then .ok true else if n == 0 then .ok false else .error .notTruthWord

/-- The truth value that a setting stands for. -/
def truthOf (d : Data) : Except Fault Bool :=
  match d with
  | .bool b => .ok b
  | .text s => truthOfText s
  | .bytes _ => (d.asText?.map truthOfText).getD (.error .notTruthWord)
  | .int n => if -Nat.pow 2 63 ≤ n && n < Nat.pow 2 63 then truthOfWhole n else .error .notTruth
  | .float x =>
    match wholeOfFloating x with
    | .ok n => truthOfWhole n
    | .error _ => .error .notTruth
  | _ => .error .notTruth

/-- A truth value. -/
def checkTruth (d : Data) : Checked Bool :=
  match truthOf d with
  | .ok b => .ok b
  | .error f => fault f d

/-- A text. -/
def checkText (d : Data) : Checked String :=
  match d, d.asText? with
  | _, some s => .ok s
  | .bytes _, none => fault .bytesNotText d
  | _, none => fault .notText d

/-- A name of letters, digits and underscores. -/
def checkName (d : Data) : Checked String := do
  let s ← checkText d
  if !s.isEmpty && s.toList.all fun c => isAsciiDigit c || isAsciiLetter c || c == '_' then return s
  else fault .notName d

/-- A pattern that can be compiled. -/
def checkPattern (d : Data) : Checked String := do
  let s ← checkText d
  match Pattern.compile s with
  | .ok _ => return s
  | .error e => fault (.badPattern e) d

/-- A verbosity. -/
def checkVerbosity (d : Data) : Checked Verbosity :=
  match d with
  | .text s => match Verbosity.ofName? s with
    | some v => .ok v
    | none => fault .notVerbosity d
  | _ => fault .notVerbosity d

/-! ## Groups of settings -/

/-- The settings of a mapping. -/
abbrev Entries := List (Data × Data)

namespace Entries

/-- The setting with a name. -/
def get? (es : Entries) (name : String) : Option Data :=
  (es.find? fun (k, _) => k.sameKey (.text name)).map (·.2)

/-- A setting that may be missing. -/
def optional {α : Type} (es : Entries) (name : String) (default : α) (check : Data → Checked α) :
    Checked α :=
  match es.get? name with
  | some d => (check d).inside name
  | none => .ok default

/-- A setting that must be there. -/
def required {α : Type} (es : Entries) (name : String) (check : Data → Checked α) : Checked α :=
  match es.get? name with
  | some d => (check d).inside name
  | none => (fault .missing (.mapping es)).inside name

end Entries

/-- How templates are compiled. -/
def checkTemplates (d : Data) : Checked TemplateSettings :=
  match d with
  | .mapping es =>
    let standard : TemplateSettings := {}
    (both (Entries.optional es "cache_size" standard.capacity (checkWhole 0 100000))
      (Entries.optional es "strict_functions" standard.strict checkTruth)).map
        fun (capacity, strict) => ⟨capacity, strict⟩
  | _ => fault (.notGroup "TemplatesConfig") d

/-- Whether contexts hold the size and time of files. -/
def checkContext (d : Data) : Checked Bool :=
  match d with
  | .mapping es => Entries.optional es "include_metadata" true checkTruth
  | _ => fault (.notGroup "ContextConfig") d

/-- A variable of a pattern. -/
def checkCapture (es : Entries) : Checked VariableSettings :=
  (both (Entries.required es "name" checkName)
    (both (Entries.required es "pattern" checkPattern)
      (Entries.optional es "input" Variable.defaultInput checkText))).map
        fun (name, pattern, input) => .capture name pattern input

/-- A variable of a template. -/
def checkTemplateVariable (es : Entries) : Checked VariableSettings :=
  (both (Entries.required es "name" checkName) (Entries.required es "value" checkText)).map
    fun (name, value) => .template name value

/-- A variable of either kind. -/
def checkVariable (d : Data) : Checked VariableSettings :=
  match d with
  | .mapping es =>
    match Entries.get? es "kind" with
    | none => fault .noKind d
    | some (.text "regex") => (checkCapture es).inside "regex"
    | some (.text "template") => (checkTemplateVariable es).inside "template"
    | some kind => fault (.unknownKind kind.printed) d
  | _ => fault .notMapping d

/-- The first name that stands in a list before. -/
def firstRepeated? (seen : List String) : List String → Option String
  | [] => none
  | name :: rest => if seen.contains name then some name else firstRepeated? (name :: seen) rest

/-- The variables, no two of which have the same name. -/
def checkVariables (d : Data) : Checked (List VariableSettings) :=
  let check (items : List Data) : Checked (List VariableSettings) := do
    let vs ← Checked.all ((items.zip (List.range items.length)).map fun (item, i) =>
      (checkVariable item).inside (toString i))
    match firstRepeated? [] (vs.map (·.name)) with
    | some name => fault (.duplicate name) d
    | none => return vs
  match d with
  | .list items | .set items => check items
  | _ => fault .notList d

/-- All settings. -/
def checkSettings (es : Entries) : Checked Settings :=
  let standard : Settings := {}
  (both (es.optional "templates" standard.templates checkTemplates)
    (both (es.optional "context" standard.includeMetadata checkContext)
      (both (es.optional "variables" standard.computed checkVariables)
        (both (es.optional "workers" standard.workers (checkWhole 1 64))
          (es.optional "verbosity" standard.verbosity checkVerbosity))))).map
            fun (templates, includeMetadata, computed, workers, verbosity) =>
              ⟨templates, includeMetadata, computed, workers, verbosity⟩

end PathTemplates
