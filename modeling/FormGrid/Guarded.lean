import FormGrid.Checked

/-!
# Computations with look-ups

Some computations look up entries of lists by their numbers. A look-up beyond the end of a list is a
fault of another kind than an overflow, and it ends the computation as well. So a `Guarded`
computation ends with its result or with its first `Fault`, and a `Checked` computation is one that
looks nowhere.

## Main definitions

* `Fault`, `Guarded`: computations that may also look beyond the end of a list.
* `Guarded.read`, `Guarded.write`: an entry is looked up, and another one is stored in its place.
-/

namespace FormGrid

/-- Why a computation ends without a result: a step overflows, or a list has no entry where it is
looked up. -/
inductive Fault where
  | overflow (o : Overflow)
  | outOfRange
  deriving DecidableEq

/-- A computation that ends at its first fault. -/
abbrev Guarded : Type → Type := Except Fault

namespace Guarded

variable {α : Type}

/-- A computation in which nothing but an overflow can happen. -/
def ofChecked (step : Checked α) : Guarded α := step.mapError .overflow

instance : MonadLift Checked Guarded := ⟨ofChecked⟩

/-- The entry at a position of a list. -/
def read (as : List α) (i : Nat) : Guarded α :=
  match as[i]? with
  | some a => .ok a
  | none => .error .outOfRange

/-- The list with another entry at a position. -/
def write (as : List α) (i : Nat) (a : α) : Guarded (List α) :=
  if i < as.length then .ok (as.set i a) else .error .outOfRange

end Guarded

end FormGrid
