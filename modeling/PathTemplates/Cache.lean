import PathTemplates.Log.Record
import PathTemplates.Template.Parser

/-! # A cache of parsed templates

What parsing gave for the most recently used texts is kept, errors included. When there is no more
room, the entry that was used least recently goes. -/

namespace PathTemplates

/-- A report that is made again from what another one says. -/
def ParseError.copy (e : ParseError) : ParseError := ⟨e.reason, e.source, e.offset, e.expected⟩

/-- What parsing a text gave. -/
abbrev Parsed := Except ParseError Template

/-- A cache of parsed templates. -/
structure Cache where
  /-- How many texts are kept at most. -/
  capacity : Nat
  /-- The kept texts with what parsing gave, least recently used first. -/
  entries : Bindings Parsed
  /-- How often a text was found. -/
  hits : Nat
  /-- How often a text was not found. -/
  misses : Nat

/-- How a cache is doing. -/
structure CacheStats where
  /-- How often a text was found. -/
  hits : Nat
  /-- How often a text was not found. -/
  misses : Nat
  /-- The number of kept texts. -/
  size : Nat
  /-- How many texts are kept at most. -/
  capacity : Nat
  deriving DecidableEq

/-- Why there is no cache. -/
inductive CacheError
  /-- The capacity is negative. -/
  | negativeCapacity
  deriving DecidableEq

namespace CacheError

/-- The wording of the error. -/
def message : CacheError → String
  | negativeCapacity => "maxsize cannot be negative"

end CacheError

namespace Cache

/-- An empty cache. -/
def ofCapacity (capacity : Nat) : Cache := ⟨capacity, [], 0, 0⟩

/-- An empty cache of a given capacity, which must not be negative. -/
def ofCapacity? (capacity : Int) : Except CacheError Cache :=
  if capacity < 0 then .error .negativeCapacity else .ok (ofCapacity capacity.toNat)

/-- What is kept for a text. -/
def find? (c : Cache) (source : String) : Option Parsed := c.entries.get? source

/-- Whether a text is kept. -/
def has (c : Cache) (source : String) : Bool := c.entries.has source

/-- The number of kept texts. -/
def size (c : Cache) : Nat := c.entries.length

/-- What a cache tells about itself. -/
def stats (c : Cache) : CacheStats := ⟨c.hits, c.misses, c.size, c.capacity⟩

/-- The entries without the oldest ones, as many as there is room for. -/
def evict (capacity : Nat) : Bindings Parsed → Bindings Parsed
  | [] => []
  | oldest :: rest =>
    if capacity < rest.length + 1 then evict capacity rest else oldest :: rest

/-- The cache with one more entry, the most recent one; without room nothing is kept. -/
def store (c : Cache) (source : String) (parsed : Parsed) : Cache :=
  if c.capacity == 0 then c
  else { c with entries := evict c.capacity ((c.entries.set source parsed).moveLast source) }

/-- What parsing a text gives, from the cache if it is kept there, with the cache afterwards and what
is reported. An error is never handed out itself, only copies of it. -/
def get (c : Cache) (source : String) : Parsed × Cache × List Log.Event :=
  match c.find? source with
  | some parsed =>
    (parsed.mapError ParseError.copy,
      { c with entries := c.entries.moveLast source, hits := c.hits + 1 }, [])
  | none =>
    let counted := { c with misses := c.misses + 1 }
    match Template.parse source with
    | .ok t => (.ok t, counted.store source (.ok t), [.compiled source])
    | .error e =>
      (.error e, counted.store source (.error e.copy), [.parseFailed source e.reason])

/-- The cache with everything forgotten, the counts included. -/
def clear (c : Cache) : Cache := ofCapacity c.capacity

end Cache

end PathTemplates
