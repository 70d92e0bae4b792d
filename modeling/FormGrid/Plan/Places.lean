import FormGrid.Plan.Passes
import FormGrid.Snapshot

/-!
# Placing a plan

When a plan is complete, the cells of its grid are placed between the edges, as components with their
bounds or in a snapshot. The cell of each entry is looked up in the grid once more. A component is
placed whether or not a plan belongs to its entry, a grid only where one does, and otherwise it is
dropped.

## Main definitions

* `Plan.Sheet.cellBounds`, `Plan.Sheet.slot`: the bounds of a cell, and the whole area of its tracks.
* `Plan.place`, `Plan.snapshot`: the components of a plan, and its snapshot.
* `Grid.planArrange`, `Grid.planSnapshot`: a grid is planned and placed.
-/

namespace FormGrid

variable {K : Type}

namespace Plan

namespace Sheet

/-- The segment of a component on the y axis, from its line where it stands on one. -/
def rowSegment (s : Sheet) (e : Entry) (c : Constraints) (origin : Int) : Guarded Segment :=
  let item := e.item .y c
  match e.baseline, s.lines.get? c.y with
  | some offset, some line => do
    let room ← item.guardedRoom s.edges.y
    let height ← item.length room
    let top ← c.y.guardedStart s.edges.y origin
    let rowHeight ← c.y.guardedExtent s.edges.y
    let level ← Pixel.add top (← line.offset c.y.align rowHeight)
    let start ← Pixel.add (← Pixel.sub level offset) c.y.padding.before
    return ⟨start, height⟩
  | _, _ => item.guardedSegment s.edges.y origin

/-- The bounds of a cell to whose entry no plan belongs: the segments of its content, grown by its
paddings. -/
def componentBounds (s : Sheet) (e : Entry) (c : Constraints) (origin : PerAxis Int) :
    Guarded Rect := do
  let column ← (e.item .x c).guardedSegment s.edges.x origin.x
  let row ← s.rowSegment e c origin.y
  Rect.outset ⟨column, row⟩ c.paddings

/-- The bounds of a cell to whose entry a plan belongs: all its room, whatever its alignment and
paddings. -/
def gridBounds (s : Sheet) (e : Entry) (c : Constraints) (origin : PerAxis Int) :
    Guarded Rect := do
  let left ← (e.item .x c).guardedLead s.edges.x origin.x
  let upper ← (e.item .y c).guardedLead s.edges.y origin.y
  let width ← (e.item .x c).guardedRoom s.edges.x
  let height ← (e.item .y c).guardedRoom s.edges.y
  return ⟨⟨left, width⟩, ⟨upper, height⟩⟩

/-- The whole area of the tracks of a cell, gaps included. -/
def slot (s : Sheet) (c : Constraints) (origin : PerAxis Int) : Guarded Rect := do
  let left ← c.x.guardedStart s.edges.x origin.x
  let upper ← c.y.guardedStart s.edges.y origin.y
  let width ← c.x.guardedExtent s.edges.x
  let height ← c.y.guardedExtent s.edges.y
  return ⟨⟨left, width⟩, ⟨upper, height⟩⟩

/-- What a snapshot shows of a cell with these bounds. -/
def entry (s : Sheet) (e : Entry) (c : Constraints) (origin : PerAxis Int) (bounds : Rect) :
    Guarded Snapshot.Entry := do
  let slot ← s.slot c origin
  return ⟨c, slot, bounds, e.baseline⟩

/-- What a snapshot shows of a grid with these bounds. -/
def pane (s : Sheet) (bounds : Rect) : Snapshot.Pane :=
  ⟨bounds, s.preferred, s.edges.x, s.edges.y⟩

end Sheet

namespace Entries

/-- The components among the cells of these entries, and in the plans that belong to them. -/
def place (g : Grid K) (s : Sheet) (origin : PerAxis Int) : Entries → Guarded (List (K × Rect))
  | .nil => return []
  | .component e _ rest => do
    let cell ← g.cellAt e.index
    let bounds ← s.componentBounds e cell.info origin
    let here :=
      match cell with
      | .component _ key => [(key, bounds)]
      | .grid _ _ => []
    let others ← place g s origin rest
    return here ++ others
  | .grid e sheet inner rest => do
    let cell ← g.cellAt e.index
    let bounds ← s.gridBounds e cell.info origin
    let here ←
      match cell with
      | .component _ key => pure [(key, bounds)]
      | .grid _ nested => place nested sheet bounds.origin inner
    let others ← place g s origin rest
    return here ++ others

/-- The snapshot of the cells of these entries. -/
def snapshot (g : Grid K) (s : Sheet) (origin : PerAxis Int) :
    Entries → Guarded (Cells Snapshot.Pane Snapshot.Entry K)
  | .nil => return .nil
  | .component e _ rest => do
    let cell ← g.cellAt e.index
    let bounds ← s.componentBounds e cell.info origin
    match cell with
    | .component c key => do
      let entry ← s.entry e c origin bounds
      let others ← snapshot g s origin rest
      return .component entry key others
    | .grid _ _ => snapshot g s origin rest
  | .grid e sheet inner rest => do
    let cell ← g.cellAt e.index
    let bounds ← s.gridBounds e cell.info origin
    match cell with
    | .component c key => do
      let entry ← s.entry e c origin bounds
      let others ← snapshot g s origin rest
      return .component entry key others
    | .grid c nested => do
      let inside ← snapshot nested sheet bounds.origin inner
      let entry ← s.entry e c origin bounds
      let others ← snapshot g s origin rest
      return .grid entry (sheet.pane bounds) inside others

end Entries

/-- The components of a plan whose upper left corner is given. -/
def place (g : Grid K) (origin : PerAxis Int) (plan : Plan) : Guarded (List (K × Rect)) :=
  Entries.place g plan.frame origin plan.cells

/-- The snapshot of a plan with the given bounds. -/
def snapshot (g : Grid K) (bounds : Rect) (plan : Plan) : Guarded (Snapshot K) := do
  let cells ← Entries.snapshot g plan.frame bounds.origin plan.cells
  return ⟨plan.frame.pane bounds, cells⟩

end Plan

namespace Grid

/-- The components of a grid with their bounds, when it is planned and placed in a rectangle. -/
def planArrange (h : Host K) (g : Grid K) (rect : Rect) :
    Guarded (Measured K (List (K × Rect))) := do
  let plan ← g.plan h (some rect.x.length) (some rect.y.length)
  let bounds ← plan.value.place g rect.origin
  return ⟨bounds, plan.queries⟩

/-- The snapshot of a grid that is planned and placed in a rectangle. -/
def planSnapshot (h : Host K) (g : Grid K) (rect : Rect) : Guarded (Measured K (Snapshot K)) := do
  let plan ← g.plan h (some rect.x.length) (some rect.y.length)
  let snapshot ← plan.value.snapshot g rect
  return ⟨snapshot, plan.queries⟩

end Grid

end FormGrid
