import PathTemplates.Value

/-! # Contexts

The values that the variables of a template stand for. A context is never changed; layering gives a
new one. -/

namespace PathTemplates

/-- Variables with their values. -/
structure Context where
  /-- The variables in order of first binding. -/
  values : Dict String Value

namespace Context

/-- The context without variables. -/
def empty : Context := ⟨.empty⟩

/-- Binds the value of each variable's data, in order. -/
def toValues (done : Dict String Value) : List (String × Datum) → Except DatumError (Dict String Value)
  | [] => .ok done
  | (name, item) :: rest => do
    let value ← item.toValue
    toValues (done.set name value) rest

/-- A context from plain data. -/
def ofData (data : Dict String Datum) : Except DatumError Context :=
  (toValues .empty data.entries).map Context.mk

/-- The value of a variable. -/
def get? (c : Context) (name : String) : Option Value := c.values.get? name

/-- Whether a variable is bound. -/
def has (c : Context) (name : String) : Bool := c.values.has name

/-- The names of the variables in ascending order. -/
def names (c : Context) : List String := sortTexts c.values.keys

/-- The names of the variables in order of first binding. -/
def order (c : Context) : List String := c.values.keys

/-- The number of variables. -/
def size (c : Context) : Nat := c.values.keys.length

/-- The context with one more variable on top. -/
def bind (c : Context) (name : String) (value : Value) : Context := ⟨c.values.set name value⟩

/-- The context with data bound on top. -/
def layered (c : Context) (extra : Dict String Datum) : Except DatumError Context :=
  ofData ((Datum.ofValues c.values).setAll extra.entries)

/-- Whether two contexts bind the same variables to the same values. -/
def same (a b : Context) : Bool := Value.same (.mapping a.values) (.mapping b.values)

/-- How a message shows a context. -/
def shown (c : Context) : String :=
  "Context(\x7b" ++ Value.shownEntries (c.values.map Value.shown) ++ "\x7d)"

end Context

end PathTemplates
