import PathTemplates.Yaml.Layout
import PathTemplates.Yaml.Tag

/-! # Nodes

A document is a tree of nodes. A node may have a name, and a reference stands for the node that its
name was given to before. A node that refers to itself from within finds nothing there yet, and the
reference stands for the missing value. -/

namespace PathTemplates.Yaml

/-- A node. -/
inductive Node
  /-- A scalar with its text. -/
  | scalar (tag : Tag) (text : String)
  /-- A list of nodes. -/
  | sequence (tag : Tag) (items : List Node)
  /-- A mapping from nodes to nodes. -/
  | mapping (tag : Tag) (entries : List (Node × Node))

namespace Node

/-- The tag of a node. -/
def tag : Node → Tag
  | scalar t _ | sequence t _ | mapping t _ => t

/-- The node that stands where there is nothing. -/
def empty : Node := scalar .null ""

end Node

/-- How far the tokens of a document have been read. -/
structure NodeReader where
  /-- The tokens that follow. -/
  rest : List Token
  /-- What the handles of tags stand for. -/
  handles : List (String × String)
  /-- The nodes that have a name; one that is not complete has no value yet. -/
  anchors : List (String × Option Node)

/-- Reading of nodes, which may fail. -/
abbrev Reading := StateT NodeReader (Except Error)

namespace Reading

/-- Fails. -/
def fail {α : Type} : Reading α := throw .malformed

/-- The next token. -/
def peek : Reading (Option Token) := do return (← get).rest.head?

/-- Goes past the next token. -/
def advance : Reading Unit := modify fun r => { r with rest := r.rest.tail }

/-- Goes past the next token if it is the given one. -/
def accept (t : Token) : Reading Bool := do
  if (← peek) == some t then
    advance
    return true
  else return false

/-- Goes past the next token, which must be the given one. -/
def expect (t : Token) : Reading Unit := do
  if !(← accept t) then fail

/-- Whether the next token is one of some. -/
def isAt (ts : List Token) : Reading Bool := do
  match ← peek with
  | some t => return ts.contains t
  | none => return true

/-- The name in front of a node, if there is one. -/
def anchorName? : Reading (Option String) := do
  match ← peek with
  | some (.anchor name) =>
    advance
    return some name
  | _ => return none

/-- The full name of the tag in front of a node, if there is one. -/
def tagName? : Reading (Option String) := do
  match ← peek with
  | some (.tag none suffix) =>
    advance
    return some suffix
  | some (.tag (some handle) suffix) =>
    advance
    match (← get).handles.lookup handle with
    | some expansion => return some (expansion ++ suffix)
    | none => fail
  | _ => return none

/-- The name and the tag in front of a node, in either order. -/
def properties : Reading (Option String × Option String) := do
  match ← anchorName? with
  | some name => return (some name, ← tagName?)
  | none =>
    let tag ← tagName?
    if tag.isSome then return (← anchorName?, tag) else return (none, none)

/-- Gives a name to the node that follows; no two nodes have the same name. -/
def openAnchor (anchor : Option String) : Reading Unit := do
  match anchor with
  | none => return
  | some name =>
    if (← get).anchors.any (·.1 == name) then fail
    modify fun r => { r with anchors := (name, none) :: r.anchors }

/-- Notes that the node with a name is complete. -/
def closeAnchor (anchor : Option String) (n : Node) : Reading Node := do
  match anchor with
  | none => return n
  | some name =>
    modify fun r =>
      { r with anchors := r.anchors.map fun (s, v) => if s == name then (s, some n) else (s, v) }
    return n

/-- The node that a name was given to. -/
def referred (name : String) : Reading Node := do
  match (← get).anchors.lookup name with
  | some n => return n.getD .empty
  | none => fail

end Reading

open Reading

/-- Whether a tag in front of a node leaves its tag to the node. -/
def isOpenTag (tag : Option String) : Bool := tag.all (· == "!")

/-- The tag of a list or mapping. -/
def collectionTag (tag : Option String) (default : Tag) : Tag :=
  match tag with
  | some name => if isOpenTag tag then default else .ofName name
  | none => default

/-- The tag of a scalar with a text. -/
def scalarTag (tag : Option String) (plain : Bool) (text : String) : Tag :=
  match tag with
  | some name => if name == "!" then .ofPlain text else .ofName name
  | none => if plain then .ofPlain text else .text

mutual

/-- Reads a node. An indented list or mapping may stand there only if `block` says so, and a list
without indentation of its own only if `indentless` does. `fuel` bounds the tokens. -/
def readNode : Nat → (block indentless : Bool) → Reading Node
  | 0, _, _ => fail
  | fuel + 1, block, indentless => do
    match ← peek with
    | some (.alias name) =>
      advance
      referred name
    | _ =>
      let (anchor, tag) ← properties
      openAnchor anchor
      let n ← readContent fuel block indentless tag (anchor.isSome || tag.isSome)
      closeAnchor anchor n

/-- Reads what follows the name and the tag of a node; only after those may there be nothing. -/
def readContent : Nat → (block indentless : Bool) → (tag : Option String) → (named : Bool) →
    Reading Node
  | 0, _, _, _, _ => fail
  | fuel + 1, block, indentless, tag, named => do
    match (← peek), block, indentless with
    | some (.scalar text plain), _, _ =>
      advance
      return .scalar (scalarTag tag plain text) text
    | some .flowSequenceStart, _, _ =>
      advance
      return .sequence (collectionTag tag .sequence) (← readFlowItems fuel true)
    | some .flowMappingStart, _, _ =>
      advance
      return .mapping (collectionTag tag .mapping) (← readFlowEntries fuel true)
    | some .blockEntry, _, true =>
      return .sequence (collectionTag tag .sequence) (← readIndentless fuel)
    | some .blockSequenceStart, true, _ =>
      advance
      return .sequence (collectionTag tag .sequence) (← readBlockItems fuel)
    | some .blockMappingStart, true, _ =>
      advance
      return .mapping (collectionTag tag .mapping) (← readBlockEntries fuel)
    | _, _, _ => if named then return .scalar (collectionTag tag .null) "" else fail

/-- Reads a node, or nothing in front of some tokens. -/
def readOr : Nat → (ends : List Token) → (block indentless : Bool) → Reading Node
  | 0, _, _, _ => fail
  | fuel + 1, ends, block, indentless => do
    if ← isAt ends then return .empty else readNode fuel block indentless

/-- Reads the items of an indented list. -/
def readBlockItems : Nat → Reading (List Node)
  | 0 => fail
  | fuel + 1 => do
    if ← accept .blockEntry then
      let item ← readOr fuel [.blockEntry, .blockEnd] true false
      return item :: (← readBlockItems fuel)
    else
      expect .blockEnd
      return []

/-- Reads the items of a list that has the indentation of the mapping around it. -/
def readIndentless : Nat → Reading (List Node)
  | 0 => fail
  | fuel + 1 => do
    if ← accept .blockEntry then
      let item ← readOr fuel [.blockEntry, .key, .value, .blockEnd] true false
      return item :: (← readIndentless fuel)
    else return []

/-- Reads the entries of an indented mapping. -/
def readBlockEntries : Nat → Reading (List (Node × Node))
  | 0 => fail
  | fuel + 1 => do
    let ends := [Token.key, .value, .blockEnd]
    if ← accept .key then
      let key ← readOr fuel ends true true
      let value ← if ← accept .value then readOr fuel ends true true else pure .empty
      return (key, value) :: (← readBlockEntries fuel)
    else
      expect .blockEnd
      return []

/-- Reads the items of a list in brackets; an item with a colon is a mapping of one entry. -/
def readFlowItems : Nat → (first : Bool) → Reading (List Node)
  | 0, _ => fail
  | fuel + 1, first => do
    if ← accept .flowSequenceEnd then return []
    if !first then expect .flowEntry
    if ← accept .key then
      let ends := [Token.flowEntry, .flowSequenceEnd]
      let key ← readOr fuel (.value :: ends) false false
      let value ← if ← accept .value then readOr fuel ends false false else pure .empty
      return .mapping .mapping [(key, value)] :: (← readFlowItems fuel false)
    else if ← accept .flowSequenceEnd then return []
    else
      let item ← readNode fuel false false
      return item :: (← readFlowItems fuel false)

/-- Reads the entries of a mapping in braces. -/
def readFlowEntries : Nat → (first : Bool) → Reading (List (Node × Node))
  | 0, _ => fail
  | fuel + 1, first => do
    if ← accept .flowMappingEnd then return []
    if !first then expect .flowEntry
    let ends := [Token.flowEntry, .flowMappingEnd]
    if ← accept .key then
      let key ← readOr fuel (.value :: ends) false false
      let value ← if ← accept .value then readOr fuel ends false false else pure .empty
      return (key, value) :: (← readFlowEntries fuel false)
    else if ← accept .flowMappingEnd then return []
    else
      let key ← readNode fuel false false
      return (key, .empty) :: (← readFlowEntries fuel false)

end

/-- What the handles of tags stand for unless a directive says otherwise. -/
def standardHandles : List (String × String) := [("!", "!"), ("!!", Tag.standard)]

/-- Adds what one directive says to the version and the handles so far. -/
def applyDirective (seen : Bool × List (String × String)) :
    Directive → Except Error (Bool × List (String × String))
  | .version major _ =>
    if seen.1 || major != 1 then .error .malformed else .ok (true, seen.2)
  | .handle name expansion =>
    if seen.2.any (·.1 == name) then .error .malformed
    else .ok (seen.1, (name, expansion) :: seen.2)
  | .other => .ok seen

/-- The directives at the start of tokens, and the tokens after them. -/
def takeDirectives : List Token → List Directive × List Token
  | .directive d :: rest =>
    let (ds, rest) := takeDirectives rest
    (d :: ds, rest)
  | ts => ([], ts)

/-- Whether a document that has started has no node. -/
def hasNoNode : List Token → Bool
  | .directive _ :: _ | .documentStart :: _ | .documentEnd :: _ | .streamEnd :: _ | [] => true
  | _ => false

/-- The node of a document, after which nothing may follow but the end of the text. -/
def readDocument (handles : List (String × String)) (ts : List Token) : Except Error Node := do
  let (n, r) ← (readNode (5 * ts.length + 5) true false).run ⟨ts, handles, []⟩
  checkEnd r.rest
  return n
where
  /-- Only the end of the text may follow, and lines that end a document. -/
  checkEnd (ts : List Token) : Except Error Unit :=
    if ts.dropWhile (· == .documentEnd) == [.streamEnd] then .ok () else .error .malformed

/-- The node of the only document in tokens, if there is one. A document may start without a line in
front of it, and without directives then. -/
def Node.ofTokens (ts : List Token) : Except Error (Option Node) := do
  match ts with
  | [.streamEnd] => return none
  | .directive _ :: _ | .documentStart :: _ =>
    let (directives, rest) := takeDirectives ts
    let (_, handles) ← directives.foldlM applyDirective (false, [])
    match rest with
    | .documentStart :: body =>
      if hasNoNode body then
        readDocument.checkEnd body
        return some .empty
      else
        let standing := standardHandles.filter fun (name, _) => !handles.any (·.1 == name)
        return some (← readDocument (handles ++ standing) body)
    | _ => throw .malformed
  | _ => return some (← readDocument standardHandles ts)

end PathTemplates.Yaml
