/-!
# Checked computations

Extents and indices live in bounded ranges, and every arithmetic step is asked whether its exact
result fits. A computation stops at the first step whose result does not: `Checked α` is either a
value or the `Overflow` that ended it, so what a failing computation reports is decided by the
order of its steps.

## Main definitions

* `Overflow`: the kind of step that did not fit, with its wording `Overflow.message`.
* `Checked`: values that may end in an overflow.
* `Checked.and`: conjunction that does not run its second condition when the first one fails.
-/

namespace FormGrid

/-- The kind of arithmetic step whose exact result lies outside its range. -/
inductive Overflow where
  | addition
  | subtraction
  | negation
  deriving DecidableEq, Repr

/-- The wording under which an overflow is reported. -/
def Overflow.message : Overflow → String
  | addition => "attempt to add with overflow"
  | subtraction => "attempt to subtract with overflow"
  | negation => "attempt to negate with overflow"

/-- A computation that ends at its first overflow. -/
abbrev Checked : Type → Type := Except Overflow

namespace Checked

/-- Both conditions hold; the second one is computed only where the first one does. -/
def and (first second : Checked Bool) : Checked Bool := do
  if ← first then second else return false

@[simp] theorem and_error (o : Overflow) (second : Checked Bool) :
    Checked.and (.error o) second = .error o := rfl

@[simp] theorem and_false (second : Checked Bool) :
    Checked.and (.ok false) second = .ok false := rfl

@[simp] theorem and_true (second : Checked Bool) :
    Checked.and (.ok true) second = second := rfl

/-- A sequence of two steps succeeds exactly when both do. -/
theorem bind_eq_ok_iff {α β : Type} {step : Checked α} {next : α → Checked β} {b : β} :
    (step >>= next) = .ok b ↔ ∃ a, step = .ok a ∧ next a = .ok b := by
  cases step with
  | error o => simp [bind, Except.bind]
  | ok a => simp [bind, Except.bind]

end Checked

end FormGrid
