/-! # Bindings

Names bound to things, in the order in which the names were first bound. Binding a name again
replaces what it is bound to and leaves its place. -/

namespace PathTemplates

/-- Names with what they are bound to. -/
abbrev Bindings (α : Type) := List (String × α)

namespace Bindings

variable {α : Type}

/-- What a name is bound to. -/
def get? (b : Bindings α) (name : String) : Option α := (b.find? (·.1 == name)).map (·.2)

/-- Whether a name is bound. -/
def has (b : Bindings α) (name : String) : Bool := b.any (·.1 == name)

/-- The bound names, in order of first binding. -/
def names (b : Bindings α) : List String := b.map (·.1)

/-- Binds a name. -/
def set (b : Bindings α) (name : String) (value : α) : Bindings α :=
  if b.has name then b.map fun entry => if entry.1 == name then (name, value) else entry
  else b ++ [(name, value)]

/-- Removes a name. -/
def erase (b : Bindings α) (name : String) : Bindings α := b.filter (·.1 != name)

/-- Moves a name behind all others. -/
def moveLast (b : Bindings α) (name : String) : Bindings α :=
  match b.get? name with
  | some value => b.erase name ++ [(name, value)]
  | none => b

/-- Binds names one after another. -/
def setAll (b : Bindings α) (entries : List (String × α)) : Bindings α :=
  entries.foldl (fun b entry => b.set entry.1 entry.2) b

/-- Bindings with each name bound once. -/
def ofList (entries : List (String × α)) : Bindings α := setAll [] entries

end Bindings

/-- Texts in ascending order of their characters. -/
def sortTexts (texts : List String) : List String := texts.mergeSort fun a b => decide (a ≤ b)

end PathTemplates
