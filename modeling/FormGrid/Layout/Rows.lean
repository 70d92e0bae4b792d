import FormGrid.Layout.Baseline
import FormGrid.Layout.Columns

/-!
# Rows

With the columns resolved, the visible cells are gone through once more, now for the rows.
Components that may share a baseline are asked for it at the width they are drawn with, and the
natural height of a nested grid is its preferred height, found on the way. Only when all cells of
a grid have been asked are their demands on its rows known, because cells that share a line demand
the height of all of them.

## Main definitions

* `Tree.gatherRows`: the cells with what they ask of the rows, and the demands on the rows of
  every grid.
* `rowView`: the view under which the rows are resolved.
-/

namespace FormGrid

variable {K : Type}

/-- The row sides of the cells of one grid. -/
def Cells.rowItems {F α : Type} (cells : Cells F (Axes α RowItem) K) : List RowItem :=
  cells.infos.map Axes.y

/-- The rows of a grid with these cells. -/
def Gathered.ofRowItems (cells : List RowItem) (tracks : Tracks) : Checked Gathered := do
  Gathered.ofDemands (← cells.mapM (·.request cells)) tracks

/-- The cells with what they ask of the rows, and the questions asked for it. -/
def Cells.gatherRows (h : Host K) :
    Cells (Axes Resolved Tracks) (Axes (Fitted Item) Item) K →
      Checked (Measured K (Cells (Axes Resolved Gathered) (Axes (Fitted Item) RowItem) K))
  | nil => return ⟨nil, []⟩
  | component c key rest => do
    let _ ← c.y.placement.stopIndex
    let row ← RowItem.measure h key c.x c.y
    let rest ← rest.gatherRows h
    return ⟨component ⟨c.x, row.value⟩ key rest.value, row.queries ++ rest.queries⟩
  | grid c frame inner rest => do
    let _ ← c.y.placement.stopIndex
    let inner ← inner.gatherRows h
    let rows ← Gathered.ofRowItems inner.value.rowItems frame.y
    let row : RowItem := ⟨{ c.y with natural := rows.preferred }, none⟩
    let rest ← rest.gatherRows h
    return ⟨grid ⟨c.x, row⟩ ⟨frame.x, rows⟩ inner.value rest.value, inner.queries ++ rest.queries⟩

/-- A grid whose rows have been gathered, and the questions asked for it. -/
def Tree.gatherRows (h : Host K) (t : Tree (Axes Resolved Tracks) (Axes (Fitted Item) Item) K) :
    Checked (Measured K (Tree (Axes Resolved Gathered) (Axes (Fitted Item) RowItem) K)) := do
  let cells ← t.cells.gatherRows h
  let rows ← Gathered.ofRowItems cells.value.rowItems t.frame.y
  return ⟨⟨⟨t.frame.x, rows⟩, cells.value⟩, cells.queries⟩

/-- The rows, gathered and not yet resolved. -/
def rowView : AxisView (Axes Resolved Gathered) (Axes (Fitted Item) RowItem) (PerAxis Resolved)
    (Axes (Fitted Item) (Fitted RowItem)) where
  gathered frame := frame.y
  item cell := cell.y.toItem
  settle frame rows := ⟨frame.x, rows⟩
  fit cell room := ⟨cell.x, ⟨cell.y, room⟩⟩

end FormGrid
