import FormGrid.Host
import FormGrid.Layout.Resolve

/-!
# Columns

A layout begins with the columns, since the height of a component may depend on the width it gets.
Going through the visible cells, nested grids included, collects what they ask of the columns; the
natural width of a nested grid is its preferred width, found on the way. Invisible cells end here,
and no later stage knows of them.

## Main definitions

* `Grid.gatherColumns`: the visible cells with what they ask of both axes, and the demands on the
  columns of every grid.
* `columnView`: the view under which the columns are resolved.
-/

namespace FormGrid

variable {K : Type}

/-- What a cell with this placement and natural extent asks of the tracks. -/
def Tracks.item (t : Tracks) (p : Placement) (natural : Int) : Item := ⟨p, t.gapAround p, natural⟩

/-- The visible cells, with what they ask of both axes, and their demands on the columns. What a
nested grid asks of the rows is not known yet. -/
def Cells.gatherColumns (h : Host K) (tracks : PerAxis Tracks) :
    Cells (PerAxis Tracks) Constraints K →
      Checked (Cells (Axes Gathered Tracks) (PerAxis Item) K × List Demand)
  | nil => return (nil, [])
  | component c key rest =>
    if h.isVisible key then do
      let _ ← c.x.stopIndex
      let size := h.preferredSize key
      let item := tracks.x.item c.x size.x
      let demand ← item.request
      let (rest, demands) ← rest.gatherColumns h tracks
      return (component ⟨item, tracks.y.item c.y size.y⟩ key rest, demand :: demands)
    else rest.gatherColumns h tracks
  | grid c frame inner rest =>
    if inner.isVisible h then do
      let _ ← c.x.stopIndex
      let (inner, nested) ← inner.gatherColumns h frame
      let columns ← Gathered.ofDemands nested frame.x
      let item := tracks.x.item c.x columns.preferred
      let demand ← item.request
      let (rest, demands) ← rest.gatherColumns h tracks
      return (grid ⟨item, tracks.y.item c.y 0⟩ ⟨columns, frame.y⟩ inner rest, demand :: demands)
    else rest.gatherColumns h tracks

/-- A grid of visible cells whose columns have been gathered. -/
def Grid.gatherColumns (h : Host K) (g : Grid K) :
    Checked (Tree (Axes Gathered Tracks) (PerAxis Item) K) := do
  let (cells, demands) ← g.cells.gatherColumns h g.frame
  let columns ← Gathered.ofDemands demands g.frame.x
  return ⟨⟨columns, g.frame.y⟩, cells⟩

/-- The columns, gathered and not yet resolved. -/
def columnView : AxisView (Axes Gathered Tracks) (PerAxis Item) (Axes Resolved Tracks)
    (Axes (Fitted Item) Item) where
  gathered frame := frame.x
  item cell := cell.x
  settle frame columns := ⟨columns, frame.y⟩
  fit cell room := ⟨⟨cell.x, room⟩, cell.y⟩

end FormGrid
