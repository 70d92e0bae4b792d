import FormGrid.Layout

/-!
# Sites

When a layout is placed on the screen, the cells of each of its grids are placed relative to the
upper left corner of that grid. A site holds what the cells of one grid have in common: the edges
of its tracks, the cells that may share a baseline, and the corner.

## Main definitions

* `Site`: what the cells of one grid have in common.
* `Site.componentBounds`, `Site.gridBounds`: the bounds of a component and of a nested grid.
* `Site.slot`: the whole area of the tracks of a cell.
-/

namespace FormGrid

/-- What the cells of one grid have in common when they are placed. -/
structure Site where
  columns : List Int
  rows : List Int
  cells : List RowItem
  origin : PerAxis Int

namespace Site

variable {K : Type}

/-- The site of a grid whose upper left corner is given. -/
def ofGrid (frame : PerAxis Resolved) (cells : Cells (PerAxis Resolved) LayoutCell K)
    (origin : PerAxis Int) : Site where
  columns := frame.x.edges
  rows := frame.y.edges
  cells := cells.infos.map (·.y.item)
  origin := origin

/-- The segment of a component on the y axis. With a shared baseline, the component's own upper
edge lies as far above the common line as its baseline is from that edge. -/
def rowSegment (s : Site) (row : Fitted RowItem) : Checked Segment :=
  let item := row.item.toItem
  let placement := item.placement
  match row.item.shared? s.cells with
  | none => item.segment row.room s.rows s.origin.y
  | some (baseline, shared) => do
    let height ← item.length row.room
    let top ← Pixel.add s.origin.y (edgeAt s.rows placement.start)
    let rowHeight ← Pixel.sub (edgeAt s.rows placement.stop) (edgeAt s.rows placement.start)
    let line ← Pixel.add top (← shared.offset placement.align rowHeight)
    let start ← Pixel.add (← Pixel.sub line baseline.offset) placement.padding.before
    return ⟨start, height⟩

/-- The bounds of a component: the segments of its content, grown by its paddings. -/
def componentBounds (s : Site) (c : LayoutCell) : Checked Rect := do
  let column ← c.x.item.segment c.x.room s.columns s.origin.x
  let row ← s.rowSegment c.y
  Rect.outset ⟨column, row⟩ c.constraints.paddings

/-- The bounds of a nested grid: all the room of its cell, whatever its alignment and paddings. -/
def gridBounds (s : Site) (c : LayoutCell) : Checked Rect := do
  let left ← c.x.item.lead s.columns s.origin.x
  let upper ← c.y.item.lead s.rows s.origin.y
  return ⟨⟨left, c.x.room⟩, ⟨upper, c.y.room⟩⟩

/-- The whole area of the tracks of a cell, gaps included. -/
def slot (s : Site) (c : Constraints) : Checked Rect := do
  let column := edgeAt s.columns c.x.start
  let row := edgeAt s.rows c.y.start
  let left ← Pixel.add s.origin.x column
  let upper ← Pixel.add s.origin.y row
  let width ← Pixel.sub (edgeAt s.columns c.x.stop) column
  let height ← Pixel.sub (edgeAt s.rows c.y.stop) row
  return ⟨⟨left, width⟩, ⟨upper, height⟩⟩

end Site

end FormGrid
