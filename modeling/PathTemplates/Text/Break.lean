/-! # Line breaks

A text may end its lines with a line feed, a carriage return, or both. -/

namespace PathTemplates

/-- A text with a line feed for each line break. -/
def unifyBreaks : List Char → List Char
  | [] => []
  | '\r' :: '\n' :: rest => '\n' :: unifyBreaks rest
  | c :: rest => (if c == '\r' then '\n' else c) :: unifyBreaks rest

end PathTemplates
