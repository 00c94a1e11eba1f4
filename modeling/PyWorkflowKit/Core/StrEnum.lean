import Mathlib.Data.List.Basic

/-!
# String enumerations

Enumerations whose members carry a distinct string value and can be looked up
by it.
-/

namespace PyWorkflowKit.Core

class StrEnum (α : Type) where
  members : List α
  value : α → String
  find_value : ∀ member,
    (members.find? fun other => value other = value member) = some member

namespace StrEnum

variable {α : Type} [StrEnum α]

/-- The member with the given value, when there is one. -/
def parse? (text : String) : Option α :=
  members.find? fun member => value member = text

@[simp]
theorem parse?_value (member : α) : parse? (value member) = some member :=
  find_value member

theorem value_injective : Function.Injective (value : α → String) := by
  intro left right hvalue
  have hleft := parse?_value left
  rw [hvalue, parse?_value] at hleft
  exact (Option.some.inj hleft).symm

end StrEnum

end PyWorkflowKit.Core
