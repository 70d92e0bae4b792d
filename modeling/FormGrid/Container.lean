import FormGrid.Arrangement
import FormGrid.Snapshot

/-!
# Containers

A container surrounds a root grid with insets. Its preferred size is that of the grid and the
insets together, and a rectangle given to it is shrunk by the insets before the grid is laid out.

## Main definitions

* `Container`, `Container.empty`, `Container.withInsets`.
* `Container.preferredSize`, `Container.minimumSize`.
* `Container.applyBounds`, `Container.snapshot`.
-/

namespace FormGrid

/-- A root grid with insets. -/
structure Container (K : Type) where
  root : Grid K
  insets : Gaps
  deriving DecidableEq

namespace Container

variable {K : Type}

/-- An empty grid without insets. -/
def empty : Container K := ⟨.empty, .none⟩

/-- The container with other insets. -/
def withInsets (b : Container K) (insets : Gaps) : Container K := ⟨b.root, insets⟩

/-- The container with a component inserted into its root grid. -/
def insert (b : Container K) (key : K) (c : Constraints) : Except InsertError (Container K) := do
  return ⟨← b.root.insert key c, b.insets⟩

/-- The container with a grid inserted into its root grid. -/
def insertSubGrid {α : Type} (b : Container K) (c : Constraints) (build : Grid K → α × Grid K) :
    Except InsertError (α × Container K) := do
  let (result, root) ← b.root.insertSubGrid c build
  return (result, ⟨root, b.insets⟩)

/-- The container without the first component with this key; nothing, where there is none. -/
def erase? [DecidableEq K] (b : Container K) (key : K) : Option (Container K) :=
  (b.root.erase? key).map fun root => ⟨root, b.insets⟩

/-- The constraints of the first component with this key. -/
def constraintsOf? [DecidableEq K] (b : Container K) (key : K) : Option Constraints :=
  b.root.constraintsOf? key

/-- The preferred size of the root grid with the insets around it. -/
def preferredSize (h : Host K) (b : Container K) : Checked (Measured K Size) := do
  let inner ← b.root.preferredSize h
  let outer ← Size.outset inner.value b.insets
  return ⟨outer, inner.queries⟩

/-- A container never asks for less than its preferred size. -/
def minimumSize (h : Host K) (b : Container K) : Checked (Measured K Size) := b.preferredSize h

/-- Lays the root grid out inside the insets of a rectangle and hands every component its bounds. -/
def applyBounds {σ : Type} (h : Host K) (setBounds : σ → K → Rect → σ) (b : Container K)
    (rect : Rect) (state : σ) : Checked (Measured K σ) := do
  let inner ← rect.inset b.insets
  b.root.applyBounds h setBounds inner state

/-- The snapshot of the root grid inside the insets of a rectangle. -/
def snapshot (h : Host K) (b : Container K) (rect : Rect) : Checked (Measured K (Snapshot K)) := do
  let inner ← rect.inset b.insets
  b.root.snapshot h inner

end Container

end FormGrid
