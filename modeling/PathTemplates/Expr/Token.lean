/-! # Tokens

The words of an expression: identifiers, quoted texts and four punctuation marks, with blanks
between them. A scan gives the tokens with their offsets, and the first character at which no token
can start, if there is one. -/

namespace PathTemplates

/-- The marks that a quoted text may stand between. -/
inductive QuoteMark
  /-- The single quote. -/
  | single
  /-- The double quote. -/
  | double
  deriving DecidableEq

namespace QuoteMark

/-- The character of a mark. -/
def char : QuoteMark → Char
  | single => '\''
  | double => '"'

/-- The mark that a character is. -/
def ofChar? (c : Char) : Option QuoteMark :=
  if c == '\'' then some single else if c == '"' then some double else none

end QuoteMark

/-- The characters of identifiers: ASCII letters, digits and the underscore. -/
def isIdentChar (c : Char) : Bool :=
  ('a' ≤ c && c ≤ 'z') || ('A' ≤ c && c ≤ 'Z') || ('0' ≤ c && c ≤ '9') || c == '_'

/-- Whether a text can stand as an identifier in an expression. -/
def isIdentifier (s : String) : Bool := !s.toList.isEmpty && s.toList.all isIdentChar

/-- The blanks that may stand between tokens. -/
def isGap (c : Char) : Bool :=
  c == ' ' || c == '\t' || c == '\n' || c == '\r' || c.toNat == 12

/-- A token. -/
inductive Token
  /-- A name. -/
  | identifier (name : List Char)
  /-- A text between quotes. -/
  | quoted (mark : QuoteMark) (text : List Char)
  /-- An opening parenthesis. -/
  | opening
  /-- A closing parenthesis. -/
  | closing
  /-- A comma. -/
  | comma
  /-- A dot. -/
  | dot
  deriving DecidableEq

namespace Token

/-- The characters that a token was read from. -/
def chars : Token → List Char
  | identifier name => name
  | quoted mark text => mark.char :: text ++ [mark.char]
  | opening => ['(']
  | closing => [')']
  | comma => [',']
  | dot => ['.']

/-- The text that a token was read from. -/
def text (t : Token) : String := String.ofList t.chars

/-- The token at the start of a text, and the rest. -/
def first? : List Char → Option (Token × List Char)
  | [] => none
  | c :: rest =>
    match QuoteMark.ofChar? c with
    | some mark =>
      match rest.dropWhile (· != mark.char) with
      | [] => none
      | _ :: tail => some (quoted mark (rest.takeWhile (· != mark.char)), tail)
    | none =>
      if c == '(' then some (opening, rest)
      else if c == ')' then some (closing, rest)
      else if c == ',' then some (comma, rest)
      else if c == '.' then some (dot, rest)
      else if isIdentChar c then
        some (identifier (c :: rest.takeWhile isIdentChar), rest.dropWhile isIdentChar)
      else none

private theorem length_dropWhile_le (p : Char → Bool) (cs : List Char) :
    (cs.dropWhile p).length ≤ cs.length := (List.dropWhile_sublist p).length_le

/-- Reading a token shortens the text. -/
theorem length_lt_of_first? {cs tail : List Char} {t : Token} (h : first? cs = some (t, tail)) :
    tail.length < cs.length := by
  cases cs with
  | nil => simp [first?] at h
  | cons c rest =>
    have hd (p : Char → Bool) := length_dropWhile_le p rest
    simp only [first?] at h
    split at h
    · rename_i mark _
      split at h
      · simp at h
      · rename_i x more hx
        have := hd (· != mark.char)
        simp only [Option.some.injEq, Prod.mk.injEq] at h
        rw [hx] at this
        simp only [List.length_cons] at this ⊢
        rw [← h.2]
        omega
    · have := hd isIdentChar
      simp only [List.length_cons]
      split at h
      · simp only [Option.some.injEq, Prod.mk.injEq] at h; rw [← h.2]; omega
      split at h
      · simp only [Option.some.injEq, Prod.mk.injEq] at h; rw [← h.2]; omega
      split at h
      · simp only [Option.some.injEq, Prod.mk.injEq] at h; rw [← h.2]; omega
      split at h
      · simp only [Option.some.injEq, Prod.mk.injEq] at h; rw [← h.2]; omega
      split at h
      · simp only [Option.some.injEq, Prod.mk.injEq] at h; rw [← h.2]; omega
      · simp at h

end Token

/-- A token and the offset of its first character. -/
structure PlacedToken where
  /-- The offset. -/
  offset : Nat
  /-- The token. -/
  token : Token
  deriving DecidableEq

/-- The tokens of a text, up to the first place where none can start. -/
structure Scan where
  /-- The tokens in order. -/
  tokens : List PlacedToken
  /-- The offset and character at which the scan stopped before the end. -/
  stuck : Option (Nat × Char)
  deriving DecidableEq

namespace Scan

/-- Scans a text whose first character has a given offset. -/
def scanFrom (offset : Nat) : List Char → Scan
  | [] => ⟨[], none⟩
  | c :: rest =>
    if isGap c then scanFrom (offset + 1) rest
    else match _h : Token.first? (c :: rest) with
      | none => ⟨[], some (offset, c)⟩
      | some (token, tail) =>
        let later := scanFrom (offset + token.chars.length) tail
        ⟨⟨offset, token⟩ :: later.tokens, later.stuck⟩
  termination_by cs => cs.length
  decreasing_by
    · simp
    · exact Token.length_lt_of_first? _h

/-- Scans a text. -/
def ofChars (cs : List Char) : Scan := scanFrom 0 cs

end Scan

end PathTemplates
