import PathTemplates.Error

/-! # Arities

How many arguments a function takes: at least so many, and at most so many or any number. -/

namespace PathTemplates

/-- How many arguments a function takes. -/
structure Arity where
  /-- The least number. -/
  minimum : Nat
  /-- The greatest number, if there is one. -/
  maximum : Option Nat
  /-- The least number does not exceed the greatest. -/
  minimum_le : ∀ m, maximum = some m → minimum ≤ m

/-- Why two numbers are not an arity. -/
inductive ArityError
  /-- The least number is negative. -/
  | negativeMinimum
  /-- The greatest number is below the least. -/
  | maximumBelow
  deriving DecidableEq

namespace ArityError

/-- The wording of the error. -/
def message : ArityError → String
  | negativeMinimum => "Arity minimum cannot be negative"
  | maximumBelow => "Arity maximum cannot be below the minimum"

end ArityError

namespace Arity

/-- Exactly so many arguments. -/
def exactly (n : Nat) : Arity := ⟨n, some n, fun _ h => Nat.le_of_eq (Option.some.inj h)⟩

/-- At least so many arguments. -/
def atLeast (n : Nat) : Arity := ⟨n, none, fun _ h => nomatch h⟩

/-- The arity with given bounds, if they are in order. -/
def ofBounds (minimum : Int) (maximum : Option Int) : Except ArityError Arity :=
  if minimum < 0 then .error .negativeMinimum
  else match maximum with
    | none => .ok (atLeast minimum.toNat)
    | some m =>
      if h : minimum ≤ m then
        .ok ⟨minimum.toNat, some m.toNat, fun _ e => by
          rw [← Option.some.inj e]; exact Int.toNat_le_toNat h⟩
      else .error .maximumBelow

/-- Whether any number from the least on is taken. -/
def variadic (a : Arity) : Bool := a.maximum.isNone

/-- Whether a number of arguments is taken. -/
def accepts (a : Arity) (count : Int) : Bool :=
  a.minimum ≤ count && (match a.maximum with
    | some m => count ≤ m
    | none => true)

/-- The arity in words. -/
def describe (a : Arity) : String :=
  let (bound, count) := match a.maximum with
    | none => ("at least " ++ toString a.minimum, a.minimum)
    | some m =>
      if a.minimum = m then (if m = 0 then "no" else toString m, m)
      else (toString a.minimum ++ " to " ++ toString m, m)
  bound ++ " " ++ EvalCause.argumentWord count

end Arity

end PathTemplates
