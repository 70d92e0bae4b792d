import FormGrid.Host
import FormGrid.Plan

/-!
# The passes over a plan

A plan is made from a grid by a first pass and completed by three others. The first pass goes through
the cells of the grid and makes an entry for each visible one. The others go through the entries, with
the grid at hand: they look up the cell of an entry by its number, and go on to the plan that belongs
to the entry if the cell holds a grid. Where a cell and its entry do not agree in this, the pass goes
on to the next entry.

## Main definitions

* `Grid.planColumns`: the entries, and the demands on the columns.
* `Plan.resolve`: the edges on one axis.
* `Plan.measureRows`: the baselines with their lines, and the demands on the rows.
* `Grid.plan`: all four passes.
-/

namespace FormGrid

variable {K : Type}

/-! ## Columns -/

namespace Plan

/-- What is kept of a grid whose columns have been gathered. -/
def Sheet.ofColumns (columns : Sizing) (width : Int) : Sheet where
  sizing := ⟨columns, .empty⟩
  preferred := ⟨width, 0⟩
  edges := ⟨[], []⟩
  lines := .empty

/-- The entry of a cell of this natural size, before the rows are gone through. -/
def Entry.ofCell (index : Nat) (c : Constraints) (tracks : Tracks) (natural : Size) : Entry where
  index := index
  natural := natural
  trackGap := ⟨tracks.gapAround c.x, .none⟩
  baseline := none

end Plan

/-- The entries of the visible cells, and the demands on the columns after their demands have been
made. The cells are numbered from `index` on. -/
def Cells.planColumns (h : Host K) (tracks : Tracks) :
    Cells (PerAxis Tracks) Constraints K → Nat → Sizing → Guarded (Sizing × Plan.Entries)
  | nil, _, columns => return (columns, nil)
  | component c key rest, index, columns =>
    if h.isVisible key then do
      let _ ← c.x.stopIndex
      let entry := Plan.Entry.ofCell index c tracks (h.preferredSize key)
      let columns ← columns.require (← (entry.item .x c).request)
      let (columns, others) ← rest.planColumns h tracks (index + 1) columns
      return (columns, component entry () others)
    else rest.planColumns h tracks (index + 1) columns
  | grid c frame inner rest, index, columns =>
    if inner.isVisible h then do
      let _ ← c.x.stopIndex
      let (nested, inside) ← inner.planColumns h frame.x 0 .empty
      let width ← nested.guardedPreferred
      let entry := Plan.Entry.ofCell index c tracks ⟨width, 0⟩
      let columns ← columns.require (← (entry.item .x c).request)
      let (columns, others) ← rest.planColumns h tracks (index + 1) columns
      return (columns, grid entry (.ofColumns nested width) inside others)
    else rest.planColumns h tracks (index + 1) columns

/-- The plan of a grid whose columns have been gathered. -/
def Grid.planColumns (h : Host K) (g : Grid K) : Guarded Plan := do
  let (columns, entries) ← g.cells.planColumns h g.frame.x 0 .empty
  let width ← columns.guardedPreferred
  return ⟨.ofColumns columns width, entries⟩

namespace Plan

/-! ## Edges -/

/-- The sheet with other edges on an axis. -/
def Sheet.withEdges (s : Sheet) (a : Axis) (edges : List Int) : Sheet :=
  { s with edges := s.edges.replace a edges }

/-- Finds the room of every cell between the edges, and resolves the plans that belong to the entries
with the room of their cells. -/
def Entries.resolve (a : Axis) (g : Grid K) (edges : List Int) : Entries → Guarded Entries
  | .nil => return .nil
  | .component e key rest => do
    let cell ← g.cellAt e.index
    let _ ← (e.item a cell.info).guardedRoom edges
    let rest ← Entries.resolve a g edges rest
    return .component e key rest
  | .grid e sheet inner rest => do
    let cell ← g.cellAt e.index
    let room ← (e.item a cell.info).guardedRoom edges
    let (sheet, inner) ←
      match cell with
      | .component _ _ => pure (sheet, inner)
      | .grid _ nested => do
        let axis ← (sheet.sizing.along a).guardedEdges room (nested.frame.along a).resizable
        let inner ← Entries.resolve a nested axis inner
        pure (sheet.withEdges a axis, inner)
    let rest ← Entries.resolve a g edges rest
    return .grid e sheet inner rest

/-- Resolves an axis of a plan with a length or, where none is given, with the preferred one. -/
def resolve (a : Axis) (g : Grid K) (length : Option Int) (plan : Plan) : Guarded Plan := do
  let sheet := plan.frame
  let total := length.getD (sheet.preferred.along a)
  let edges ← (sheet.sizing.along a).guardedEdges total (g.frame.along a).resizable
  let entries ← Entries.resolve a g edges plan.cells
  return ⟨sheet.withEdges a edges, entries⟩

/-! ## Rows -/

/-- The entry of a cell of a grid with these rows, before its component is asked for a baseline. -/
def Entry.startRow (e : Entry) (tracks : Tracks) (c : Constraints) : Entry :=
  { e with trackGap := ⟨e.trackGap.x, tracks.gapAround c.y⟩, baseline := none }

/-- Asks the host for the baseline of a component that may share one, at the width it is drawn with
between these columns, and registers the answer. -/
def Entry.measure (h : Host K) (key : K) (c : Constraints) (columns : List Int) (lines : LineTable)
    (e : Entry) : Guarded (LineTable × Measured K Entry) :=
  if c.y.sharesBaseline then do
    let room ← (e.item .x c).guardedRoom columns
    let width ← (e.item .x c).drawnLength room
    let query : Query K := ⟨key, ⟨width, e.natural.y⟩⟩
    match (h.baseline key query.size).filter (0 ≤ ·) with
    | some offset => do
      let baseline ← (e.item .y c).baselineAt offset
      return (lines.register c.y baseline, ⟨{ e with baseline := some offset }, [query]⟩)
    | none => return (lines, ⟨e, [query]⟩)
  else return (lines, ⟨e, []⟩)

/-- The demand of a cell on its rows: the height of its line, if it has a baseline and there is a
line for it. -/
def Entry.rowDemand (e : Entry) (lines : LineTable) (c : Constraints) : Checked Demand :=
  match e.baseline.bind fun _ => lines.get? c.y with
  | some line => do return ⟨c.y.start, c.y.span, ← line.height⟩
  | none => (e.item .y c).request

/-- The demands of the cells on the rows of their grid. -/
def demandRows (g : Grid K) (lines : LineTable) (entries : List Entry) : Guarded Sizing :=
  entries.foldlM (fun rows e => do
    let cell ← g.cellAt e.index
    rows.require (← e.rowDemand lines cell.info)) .empty

/-- The sheet of a grid whose rows have been gathered. -/
def Sheet.withRows (s : Sheet) (rows : Sizing) (height : Int) (lines : LineTable) : Sheet where
  sizing := ⟨s.sizing.x, rows⟩
  preferred := ⟨s.preferred.x, height⟩
  edges := s.edges
  lines := lines

/-- The entries with what they ask of the rows, the lines after their baselines have been registered,
and the questions asked for it. -/
def Entries.measureRows (h : Host K) (g : Grid K) (columns : List Int) :
    LineTable → Entries → Guarded (LineTable × Measured K Entries)
  | lines, .nil => return (lines, ⟨.nil, []⟩)
  | lines, .component e key rest => do
    let cell ← g.cellAt e.index
    let _ ← cell.info.y.stopIndex
    let e := e.startRow g.frame.y cell.info
    let (lines, e) ←
      match cell with
      | .component c key => e.measure h key c columns lines
      | .grid _ _ => pure (lines, ⟨e, []⟩)
    let (lines, rest) ← Entries.measureRows h g columns lines rest
    return (lines, ⟨.component e.value key rest.value, e.queries ++ rest.queries⟩)
  | lines, .grid e sheet inner rest => do
    let cell ← g.cellAt e.index
    let _ ← cell.info.y.stopIndex
    let e := e.startRow g.frame.y cell.info
    let (lines, e, sheet, inner) ←
      match cell with
      | .component c key => do
        let (lines, e) ← e.measure h key c columns lines
        pure (lines, e, sheet, inner)
      | .grid _ nested => do
        let (inside, inner) ← Entries.measureRows h nested sheet.edges.x .empty inner
        let rows ← demandRows nested inside inner.value.infos
        let height ← rows.guardedPreferred
        let e := { e with natural := ⟨e.natural.x, height⟩ }
        pure (lines, ⟨e, inner.queries⟩, sheet.withRows rows height inside, inner.value)
    let (lines, rest) ← Entries.measureRows h g columns lines rest
    return (lines, ⟨.grid e.value sheet inner rest.value, e.queries ++ rest.queries⟩)

/-- The plan of a grid whose rows have been gathered, and the questions asked for it. -/
def measureRows (h : Host K) (g : Grid K) (plan : Plan) : Guarded (Measured K Plan) := do
  let sheet := plan.frame
  let (lines, entries) ← Entries.measureRows h g sheet.edges.x .empty plan.cells
  let rows ← demandRows g lines entries.value.infos
  let height ← rows.guardedPreferred
  return ⟨⟨sheet.withRows rows height lines, entries.value⟩, entries.queries⟩

end Plan

/-- The plan of a grid with the given width and height, or with the preferred ones. -/
def Grid.plan (h : Host K) (g : Grid K) (width height : Option Int) :
    Guarded (Measured K Plan) := do
  let columns ← g.planColumns h
  let resolved ← columns.resolve .x g width
  let rows ← resolved.measureRows h g
  let plan ← rows.value.resolve .y g height
  return ⟨plan, rows.queries⟩

end FormGrid
