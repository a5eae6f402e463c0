import PathTemplates.Number.Floating

/-! # JSON values

Whole numbers are told apart from numbers with a fraction or an exponent, and objects keep the order
of their members. -/

namespace PathTemplates

/-- A JSON value. -/
inductive Json
  /-- The null value. -/
  | null
  /-- A truth value. -/
  | bool (value : Bool)
  /-- A number written without fraction and exponent. -/
  | int (value : Int)
  /-- Any other number. -/
  | float (value : Floating)
  /-- A text. -/
  | text (value : String)
  /-- A list. -/
  | array (items : List Json)
  /-- Members in the order in which they were written. -/
  | object (members : List (String × Json))

namespace Json

/-- The last member of an object with a given name. -/
def member? (name : String) : Json → Option Json
  | object members => (members.reverse.find? (·.1 == name)).map (·.2)
  | _ => none

end Json

end PathTemplates
