import PathTemplates.Yaml.Node
import PathTemplates.Yaml.Value

/-! # From nodes to data

A document is read as plain data. Nodes are read level by level from the outside, so that of several
errors the outermost counts, and the first of those. -/

namespace PathTemplates.Yaml

/-- An error and the level that it happens on. -/
structure Failure where
  /-- How many lists and mappings are around the place. -/
  level : Nat
  /-- What is wrong. -/
  error : Error

/-- Of two failures the outer one, or the first. -/
def Failure.first (a b : Failure) : Failure := if b.level < a.level then b else a

/-- Two results, or the failure that counts. -/
def both {α β : Type} (a : Except Failure α) (b : Except Failure β) : Except Failure (α × β) :=
  match a, b with
  | .ok x, .ok y => .ok (x, y)
  | .error e, .error f => .error (e.first f)
  | .error e, .ok _ => .error e
  | .ok _, .error f => .error f

/-- All results, or the failure that counts. -/
def allOf {α : Type} : List (Except Failure α) → Except Failure (List α)
  | [] => .ok []
  | a :: rest => (both a (allOf rest)).map fun (x, xs) => x :: xs

mutual

/-- How many nodes are inside one another. -/
def Node.depth : Node → Nat
  | .scalar _ _ => 1
  | .sequence _ items => depthOfItems items + 1
  | .mapping _ entries => depthOfEntries entries + 1

/-- The greatest depth of some nodes. -/
def depthOfItems : List Node → Nat
  | [] => 0
  | n :: rest => max n.depth (depthOfItems rest)

/-- The greatest depth of the nodes of some entries. -/
def depthOfEntries : List (Node × Node) → Nat
  | [] => 0
  | (k, v) :: rest => max (max k.depth v.depth) (depthOfEntries rest)

end

/-- The entries of a mapping with those that its merge keys name in front; of several mappings for
one merge key the first wins, so it comes last. `fuel` bounds the depth. -/
def mergedEntries : Nat → List (Node × Node) → Except Error (List (Node × Node))
  | 0, _ => .error .malformed
  | fuel + 1, entries => do
    let own := entries.filter fun (k, _) => k.tag != .merge
    let merged ← (entries.filter fun (k, _) => k.tag == .merge).mapM fun (_, v) =>
      match v with
      | .mapping _ inner => mergedEntries fuel inner
      | .sequence _ items => do
        let lists ← items.mapM fun
          | .mapping _ inner => mergedEntries fuel inner
          | _ => .error .malformed
        return lists.reverse.flatten
      | .scalar _ _ => .error .malformed
    return merged.flatten ++ own

/-- The text of a node that is read as a scalar: a mapping stands for the value of the key for it.
`fuel` bounds the depth. -/
def scalarText? : Nat → Node → Option String
  | 0, _ => none
  | fuel + 1, n =>
    match n with
    | .scalar _ s => some s
    | .sequence _ _ => none
    | .mapping _ entries =>
      match entries.find? fun (k, _) => k.tag == .value with
      | some (_, v) => scalarText? fuel v
      | none => none

/-- Whether a node with this tag cannot be a key. -/
def Tag.isCollection : Tag → Bool
  | .sequence | .mapping | .set | .pairs => true
  | _ => false

/-- A key with the tag for values is a text. -/
def keyNode : Node → Node
  | .scalar .value s => .scalar .text s
  | n => n

/-- The data of a node at a level; `fuel` bounds the depth. -/
def dataOf : Nat → Nat → Node → Except Failure Data
  | 0, level, _ => .error ⟨level, .malformed⟩
  | fuel + 1, level, n =>
    let inner : Failure := ⟨level + 1, .malformed⟩
    let read (n : Node) := dataOf fuel (level + 1) n
    let entry (kv : Node × Node) : Except Failure (Data × Data) :=
      let key := if kv.1.tag.isCollection then .error inner else read (keyNode kv.1)
      both key (read kv.2)
    let entriesOf (entries : List (Node × Node)) : Except Failure (List (Data × Data)) :=
      match mergedEntries (fuel + 1) entries with
      | .error e => .error ⟨level + 1, e⟩
      | .ok flat => (allOf (flat.map entry)).map fun all =>
          all.foldl (fun es (k, v) => Data.putEntry es k v) []
    let pairOf : Node → Except Failure Data
      | .mapping _ [(k, v)] => (both (read k) (read v)).map fun (k, v) => .pair k v
      | _ => .error inner
    match n.tag, n with
    | .sequence, .sequence _ items => (allOf (items.map read)).map .list
    | .mapping, .mapping _ entries => (entriesOf entries).map .mapping
    | .set, .mapping _ entries => (entriesOf entries).map fun es => .set (es.map (·.1))
    | .pairs, .sequence _ items => (allOf (items.map pairOf)).map .list
    | .sequence, _ | .mapping, _ | .set, _ | .pairs, _ => .error inner
    | t, n =>
      match scalarText? (fuel + 1) n with
      | some s => (scalarValue t s).mapError (Failure.mk level)
      | none => .error ⟨level, .malformed⟩

/-- The data of a text that holds one document, if there is one. -/
def read (s : String) : Except Error (Option Data) := do
  match ← Node.ofTokens (← Token.ofText s) with
  | none => return none
  | some n =>
    match dataOf (n.depth + 1) 0 n with
    | .ok d => return some d
    | .error f => throw f.error

end PathTemplates.Yaml
