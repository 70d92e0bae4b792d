import FormGrid.Cells
import FormGrid.Constraints

/-!
# Grids

A grid has settings for its columns and its rows, and cells of which no two share a position. A
cell is inserted only where the grid is free; the new cell is compared with the existing ones in
registration order. Components are looked up and erased by key, the first one depth first, at
whatever depth it lies.

## Main definitions

* `Tracks`: the settings of the tracks of one axis.
* `Grid`, `Grid.empty`.
* `Grid.insert`, `Grid.insertSubGrid`, with `InsertError` where they refuse a cell.
* `Grid.erase?`, `Grid.constraintsOf?`.
-/

namespace FormGrid

/-- Settings of the tracks of one axis: which of them may be resized, and the gaps that belong to
each track; tracks beyond the list have none. -/
structure Tracks where
  resizable : IndexSet
  gaps : List Margin
  deriving DecidableEq

namespace Tracks

/-- No track may be resized, and none has a gap. -/
def plain : Tracks := ⟨.empty, []⟩

/-- The gaps of a single track. -/
def gapOf (t : Tracks) (track : Nat) : Margin := t.gaps.getD track .none

/-- The gaps at the two ends of a placement: those before its first and after its last track. -/
def gapAround (t : Tracks) (p : Placement) : Margin :=
  ⟨(t.gapOf p.start).before, (t.gapOf (p.stop - 1)).after⟩

end Tracks

/-- A grid of components known by keys of `K`. -/
abbrev Grid (K : Type) : Type := Tree (PerAxis Tracks) Constraints K

/-- Why a cell was not inserted. -/
inductive InsertError where
  /-- An existing cell shares a position with the new one. -/
  | occupied (c : Constraints)
  /-- A cell that had to be compared ends at a position that is no index. -/
  | overflow (o : Overflow)
  deriving DecidableEq

/-- The wording under which a refused cell is reported. -/
def InsertError.message : InsertError → String
  | occupied c =>
    "cells occupied already: x=" ++ toString c.x.start ++ ", y=" ++ toString c.y.start ++
      ", width=" ++ toString c.x.span ++ ", height=" ++ toString c.y.span
  | overflow o => o.message

namespace Grid

variable {K : Type}

/-- A grid without cells and with plain tracks. -/
def empty : Grid K := ⟨⟨.plain, .plain⟩, .nil⟩

/-- The settings of the columns. -/
def columns (g : Grid K) : Tracks := g.frame.x

/-- The settings of the rows. -/
def rows (g : Grid K) : Tracks := g.frame.y

/-- The grid with other settings of the columns. -/
def withColumns (g : Grid K) (t : Tracks) : Grid K := ⟨⟨t, g.frame.y⟩, g.cells⟩

/-- The grid with other settings of the rows. -/
def withRows (g : Grid K) (t : Tracks) : Grid K := ⟨⟨g.frame.x, t⟩, g.cells⟩

/-- No existing cell shares a position with a new one. -/
def checkFree (g : Grid K) (c : Constraints) : Except InsertError Unit :=
  match g.cells.infos.anyM (·.intersects c) with
  | .ok false => .ok ()
  | .ok true => .error (.occupied c)
  | .error o => .error (.overflow o)

/-- A grid is free for a cell if no existing cell intersects it. -/
theorem checkFree_eq_ok_iff {g : Grid K} {c : Constraints} :
    g.checkFree c = .ok () ↔ g.cells.infos.anyM (·.intersects c) = .ok false := by
  unfold checkFree
  split <;> simp_all

/-- The grid with one more cell, which holds a component. -/
def insert (g : Grid K) (key : K) (c : Constraints) : Except InsertError (Grid K) := do
  g.checkFree c
  return ⟨g.frame, g.cells ++ .component c key .nil⟩

/-- A component that is inserted becomes the last cell, and nothing else changes. -/
theorem insert_eq_ok_iff {g g' : Grid K} {key : K} {c : Constraints} :
    g.insert key c = .ok g' ↔
      g.checkFree c = .ok () ∧ g' = ⟨g.frame, g.cells ++ .component c key .nil⟩ := by
  unfold insert
  cases g.checkFree c with
  | error e => simp [bind, Except.bind]
  | ok u => simp [bind, Except.bind, pure, Except.pure, eq_comm]

/-- The grid with one more cell, which holds a grid. `build` makes that grid from the empty one
and has a result of its own; it is not run where the cell is refused. -/
def insertSubGrid {α : Type} (g : Grid K) (c : Constraints) (build : Grid K → α × Grid K) :
    Except InsertError (α × Grid K) := do
  g.checkFree c
  let (result, sub) := build .empty
  return (result, ⟨g.frame, g.cells ++ .grid c sub.frame sub.cells .nil⟩)

/-- The grid without the first component with this key; nothing, where there is none. -/
def erase? [DecidableEq K] (g : Grid K) (key : K) : Option (Grid K) :=
  (g.cells.erase? key).map fun cells => ⟨g.frame, cells⟩

/-- The constraints of the first component with this key. -/
def constraintsOf? [DecidableEq K] (g : Grid K) (key : K) : Option Constraints := g.cells.find? key

/-- The number of cells. -/
def size (g : Grid K) : Nat := g.cells.size

/-- There are no cells. -/
def isEmpty (g : Grid K) : Bool := g.size = 0

end Grid

end FormGrid
