import FormGrid.Layout.Site

/-!
# Arrangements

An arrangement lists the visible components of a grid with their bounds, depth first and in
registration order. Nested grids show in it only through their components.

## Main definitions

* `Layout.place`: the components of a layout whose upper left corner is given.
* `Grid.arrange`: the components of a grid that is laid out into a rectangle.
* `Grid.applyBounds`: hands each component its bounds, in the order of the arrangement.
-/

namespace FormGrid

variable {K : Type}

/-- The components among the cells of a site, and in the grids nested in them. -/
def Cells.place (s : Site) : Cells (PerAxis Resolved) LayoutCell K → Checked (List (K × Rect))
  | nil => return []
  | component c key rest => do
    let bounds ← s.componentBounds c
    let others ← rest.place s
    return (key, bounds) :: others
  | grid c frame inner rest => do
    let bounds ← s.gridBounds c
    let inside ← inner.place (Site.ofGrid frame inner bounds.origin)
    let others ← rest.place s
    return inside ++ others

/-- The components of a layout whose upper left corner is given. -/
def Layout.place (layout : Layout K) (origin : PerAxis Int) : Checked (List (K × Rect)) :=
  layout.cells.place (Site.ofGrid layout.frame layout.cells origin)

namespace Grid

/-- The components of a grid with their bounds, when it is laid out into a rectangle. -/
def arrange (h : Host K) (g : Grid K) (rect : Rect) : Checked (Measured K (List (K × Rect))) := do
  let layout ← g.layoutIn h rect
  let bounds ← layout.value.place rect.origin
  return ⟨bounds, layout.queries⟩

/-- Lays a grid out into a rectangle and hands every component its bounds, one after the other. -/
def applyBounds {σ : Type} (h : Host K) (setBounds : σ → K → Rect → σ) (g : Grid K) (rect : Rect)
    (state : σ) : Checked (Measured K σ) := do
  let arranged ← g.arrange h rect
  return ⟨arranged.value.foldl (fun state (key, bounds) => setBounds state key bounds) state,
    arranged.queries⟩

end Grid

end FormGrid
