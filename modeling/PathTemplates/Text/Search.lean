/-! # Searching and replacing in a text

Operations on lists of characters that look for a given piece: the first place where it stands,
splitting at each place, and replacing each place. Places are found from left to right and do not
overlap. -/

namespace PathTemplates

/-- What stands before and after the first place where `piece` stands. -/
def cutAt? (piece : List Char) : List Char → Option (List Char × List Char)
  | [] => if piece.isEmpty then some ([], []) else none
  | c :: rest =>
    if piece.isPrefixOf (c :: rest) then some ([], (c :: rest).drop piece.length)
    else (cutAt? piece rest).map fun (before, after) => (c :: before, after)

/-- Whether `piece` stands anywhere in the text. -/
def holdsPiece (piece cs : List Char) : Bool := (cutAt? piece cs).isSome

/-- Replaces each place of `piece`; `skip` counts the characters of a place still to be passed. -/
def replaceFrom (piece new : List Char) : Nat → List Char → List Char
  | _, [] => []
  | skip + 1, _ :: rest => replaceFrom piece new skip rest
  | 0, c :: rest =>
    if piece.isPrefixOf (c :: rest) then new ++ replaceFrom piece new (piece.length - 1) rest
    else c :: replaceFrom piece new 0 rest

/-- Every place of `piece` replaced; the empty piece stands before each character and at the end. -/
def replaceAll (piece new cs : List Char) : List Char :=
  if piece.isEmpty then new ++ cs.flatMap (fun c => c :: new) else replaceFrom piece new 0 cs

/-- The fields between the places of a separating character; there is always at least one. -/
def splitChar (sep : Char) : List Char → List (List Char)
  | [] => [[]]
  | c :: rest =>
    if c == sep then [] :: splitChar sep rest
    else match splitChar sep rest with
      | [] => [[c]]
      | field :: fields => (c :: field) :: fields

/-- The pieces with `sep` between them. -/
def joinWith (sep : String) (pieces : List String) : String := String.intercalate sep pieces

/-- Spaces up to a given width. -/
def spaces (n : Nat) : String := String.ofList (List.replicate n ' ')

/-- A text filled with spaces to a width. -/
def padEnd (width : Nat) (s : String) : String := s ++ spaces (width - s.length)

end PathTemplates
