import FormGrid.Layout.Site

/-!
# Snapshots

A snapshot shows a layout with everything that was decided in it: for every grid its bounds, its
preferred size and its edges, for every visible cell its slot, its bounds and its baseline. It has
the shape of the visible part of the grid.

## Main definitions

* `Snapshot`, with the data `Snapshot.Pane` of a grid and `Snapshot.Entry` of a cell.
* `Layout.snapshot`: the snapshot of a layout with the given bounds.
* `Grid.snapshot`: the snapshot of a grid that is laid out into a rectangle.
* `Snapshot.find?`, `Snapshot.subGrids`.
-/

namespace FormGrid

/-- What a snapshot shows of a grid. -/
structure Snapshot.Pane where
  bounds : Rect
  preferred : Size
  columns : List Int
  rows : List Int
  deriving DecidableEq, Repr

/-- What a snapshot shows of a cell. -/
structure Snapshot.Entry where
  constraints : Constraints
  slot : Rect
  bounds : Rect
  baseline : Option Int
  deriving DecidableEq, Repr

/-- A layout as it lies on the screen. -/
abbrev Snapshot (K : Type) : Type := Tree Snapshot.Pane Snapshot.Entry K

variable {K : Type}

/-- What a snapshot shows of the axes of a grid with these bounds. -/
def Snapshot.Pane.ofFrame (frame : PerAxis Resolved) (bounds : Rect) : Snapshot.Pane where
  bounds := bounds
  preferred := preferredOf frame
  columns := frame.x.edges
  rows := frame.y.edges

/-- What a snapshot shows of a cell with these bounds. -/
def Site.entry (s : Site) (c : LayoutCell) (bounds : Rect) : Checked Snapshot.Entry := do
  let slot ← s.slot c.constraints
  return ⟨c.constraints, slot, bounds, c.y.item.baseline.map Baseline.offset⟩

/-- The snapshot of the cells of a site. -/
def Cells.snapshot (s : Site) :
    Cells (PerAxis Resolved) LayoutCell K → Checked (Cells Snapshot.Pane Snapshot.Entry K)
  | nil => return nil
  | component c key rest => do
    let bounds ← s.componentBounds c
    let entry ← s.entry c bounds
    let rest ← rest.snapshot s
    return component entry key rest
  | grid c frame inner rest => do
    let bounds ← s.gridBounds c
    let inner ← inner.snapshot (Site.ofGrid frame inner bounds.origin)
    let entry ← s.entry c bounds
    let rest ← rest.snapshot s
    return grid entry (.ofFrame frame bounds) inner rest

/-- The snapshot of a layout with the given bounds. -/
def Layout.snapshot (layout : Layout K) (bounds : Rect) : Checked (Snapshot K) := do
  let cells ← layout.cells.snapshot (Site.ofGrid layout.frame layout.cells bounds.origin)
  return ⟨.ofFrame layout.frame bounds, cells⟩

/-- The snapshot of a grid that is laid out into a rectangle. -/
def Grid.snapshot (h : Host K) (g : Grid K) (rect : Rect) : Checked (Measured K (Snapshot K)) := do
  let layout ← g.layoutIn h rect
  let snapshot ← layout.value.snapshot rect
  return ⟨snapshot, layout.queries⟩

namespace Snapshot

/-- What the snapshot shows of the first component with this key, depth first. -/
def find? [DecidableEq K] (s : Snapshot K) (key : K) : Option Entry := s.cells.find? key

/-- The snapshots of the grids among the cells. -/
def subGrids (s : Snapshot K) : List (Snapshot K) := s.cells.subGrids

end Snapshot

end FormGrid
