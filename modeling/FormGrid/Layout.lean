import FormGrid.Layout.Rows

/-!
# Layouts

A layout resolves the columns of a grid and of every grid nested in it, then the rows. Each axis
of the outermost grid may be given a length; without one it has its preferred length.

## Main definitions

* `Layout`: the visible cells with their room, and the axes of every grid with their edges.
* `Grid.layout`: the layout of a grid, with the baseline questions asked for it.
* `Grid.preferredSize`: the size a grid has when no length is given.
-/

namespace FormGrid

/-- A cell of a layout: its room on both axes and its baseline. -/
abbrev LayoutCell : Type := Axes (Fitted Item) (Fitted RowItem)

/-- The visible cells of a grid with their room, and the axes of every grid with their edges. -/
abbrev Layout (K : Type) : Type := Tree (PerAxis Resolved) LayoutCell K

variable {K : Type}

/-- The constraints the cell was inserted with. -/
def LayoutCell.constraints (c : LayoutCell) : Constraints :=
  ⟨c.x.item.placement, c.y.item.placement⟩

/-- The preferred size of a grid with these axes. -/
def preferredOf (frame : PerAxis Resolved) : Size := ⟨frame.x.preferred, frame.y.preferred⟩

namespace Grid

/-- The layout of a grid with the given width and height, or with the preferred ones. -/
def layout (h : Host K) (g : Grid K) (width height : Option Int) :
    Checked (Measured K (Layout K)) := do
  let columns ← g.gatherColumns h
  let resolved ← columns.resolve columnView width
  let rows ← resolved.gatherRows h
  let layout ← rows.value.resolve rowView height
  return ⟨layout, rows.queries⟩

/-- The size of a grid when no length is given. -/
def preferredSize (h : Host K) (g : Grid K) : Checked (Measured K Size) := do
  let layout ← g.layout h none none
  return ⟨preferredOf layout.value.frame, layout.queries⟩

/-- The layout of a grid with the size of a rectangle. -/
def layoutIn (h : Host K) (g : Grid K) (rect : Rect) : Checked (Measured K (Layout K)) :=
  g.layout h (some rect.x.length) (some rect.y.length)

end Grid

end FormGrid
