import FormGrid.Grid
import FormGrid.Layout.Baseline
import FormGrid.Sizing.Guarded

/-!
# Plans

A plan of a grid is what is kept of it while it is laid out. It has an entry for each visible cell,
which does not hold the cell but its number among the cells of the grid. Whoever needs the cell looks
it up in the grid, and in the same way its ends are looked up among the edges, and the line on which
its component stands in a table of lines. Where the cell holds a grid, a plan of that grid may belong
to the entry. So the entries of a plan have the shape of cells: an entry to which a plan belongs is a
grid there, an entry to which none belongs a component.

## Main definitions

* `LineTable.register`, `LineTable.get?`: the lines of a grid, by row and alignment.
* `Plan.Entry`: what is kept of a cell.
* `Plan.Sheet`: what is kept of a grid beside its cells.
* `Plan`, `Plan.Entries`: a plan and its entries.
* `Grid.cellAt`, `Item.guardedRoom`, `Item.guardedSegment`: looking up cells and edges.
-/

namespace FormGrid

/-! ## Lines -/

/-- The shared lines of a grid with their rows and alignments, in the order in which the first
baseline of each was registered. -/
structure LineTable where
  lines : List ((Nat × Align) × SharedLine)
  deriving DecidableEq, Repr

namespace LineTable

/-- No lines. -/
def empty : LineTable := ⟨[]⟩

/-- The lines after one more baseline with this row and alignment: the line there is raised to it,
and where there is none yet, a new one comes last. -/
def join (key : Nat × Align) (b : Baseline) :
    List ((Nat × Align) × SharedLine) → List ((Nat × Align) × SharedLine)
  | [] => [(key, SharedLine.join ⟨0, 0⟩ b)]
  | (other, line) :: lines =>
    if other = key then (other, line.join b) :: lines else (other, line) :: join key b lines

/-- The lines after the baseline of a cell with this row side has been registered. -/
def register (t : LineTable) (p : Placement) (b : Baseline) : LineTable :=
  ⟨join (p.start, p.align) b t.lines⟩

/-- The line for the row and the alignment of a cell. -/
def get? (t : LineTable) (p : Placement) : Option SharedLine := t.lines.lookup (p.start, p.align)

end LineTable

/-! ## Entries -/

namespace Plan

/-- What is kept of a cell: its number in the grid, its natural size, the gaps of the tracks around
it, and the baseline of its component, if that has been found. -/
structure Entry where
  index : Nat
  natural : Size
  trackGap : PerAxis Margin
  baseline : Option Int
  deriving DecidableEq, Repr

/-- What a cell with these constraints asks of an axis. -/
def Entry.item (e : Entry) (a : Axis) (c : Constraints) : Item :=
  ⟨c.along a, e.trackGap.along a, e.natural.along a⟩

/-- What is kept of a grid beside its cells: the demands on its axes, its preferred size, the edges of
its tracks, and the lines that its cells share. -/
structure Sheet where
  sizing : PerAxis Sizing
  preferred : Size
  edges : PerAxis (List Int)
  lines : LineTable
  deriving DecidableEq, Repr

/-- The entries of a plan. -/
abbrev Entries : Type := Cells Sheet Entry Unit

/-- The numbers of the cells to which entries belong. -/
def Entries.indices (entries : Entries) : List Nat := entries.infos.map Entry.index

end Plan

/-- What is kept of a grid while it is laid out. -/
abbrev Plan : Type := Tree Plan.Sheet Plan.Entry Unit

/-! ## Looking up -/

/-- The cell with this number. -/
def Grid.cellAt {K : Type} (g : Grid K) (index : Nat) :
    Guarded (Cell (PerAxis Tracks) Constraints K) :=
  Guarded.read g.cells.toList index

namespace Placement

/-- The length of the tracks that are covered. -/
def guardedExtent (p : Placement) (edges : List Int) : Guarded Int := do
  let stop ← Guarded.read edges p.stop
  let start ← Guarded.read edges p.start
  Pixel.sub stop start

/-- Where the first track that is covered starts. -/
def guardedStart (p : Placement) (edges : List Int) (origin : Int) : Guarded Int := do
  let start ← Guarded.read edges p.start
  Pixel.add origin start

end Placement

namespace Item

/-- The length of the tracks without gaps, never negative. -/
def guardedRoom (i : Item) (edges : List Int) : Guarded Int := do
  let extent ← i.placement.guardedExtent edges
  return max 0 (← Pixel.sub extent (← i.gap))

/-- Where the room starts. -/
def guardedLead (i : Item) (edges : List Int) (origin : Int) : Guarded Int := do
  let start ← i.placement.guardedStart edges origin
  Pixel.add (← Pixel.add start i.trackGap.before) i.placement.gap.before

/-- The segment of the content. -/
def guardedSegment (i : Item) (edges : List Int) (origin : Int) : Guarded Segment := do
  let room ← i.guardedRoom edges
  let length ← i.length room
  let lead ← i.guardedLead edges origin
  let start ← Pixel.add lead (← i.slack room length)
  return ⟨start, length⟩

end Item

end FormGrid
