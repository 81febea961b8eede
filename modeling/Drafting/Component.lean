import Drafting.Value.Conversion

/-!
# Components

What a sketch stores is made of numbers: the components of vectors, radii and parameters. As a rule
they are the reals that results are given in, but they can be more than that. `Component τ α` says
how numbers of type `τ` are taken from values and reals of type `α` and shown as values, and when
one of them is at fault.
-/

namespace Drafting

/-- Numbers of type `τ` as parts of what is stored, over reals of type `α`. -/
class Component (τ α : Type) where
  ofReal : α → τ
  /-- A component of a vector that is given as such. -/
  ofValue : Value α → Except (Fault α) τ
  toValue : τ → Value α
  /-- What a number is at fault for, if it is. -/
  fault? : τ → Option (Fault α)
  /-- An option as a factor of numbers. -/
  factor : Value α → Except (Fault α) τ
  /-- An option as the greatest number to be content with. -/
  bound : Value α → Except (Fault α) τ

/-- Reals are components of themselves, and none is at fault. -/
instance {α : Type} [Scalar α] : Component α α where
  ofReal x := x
  ofValue := Value.toReal
  toValue := .real
  fault? _ := none
  factor := Value.factor
  bound := Value.bound

end Drafting
