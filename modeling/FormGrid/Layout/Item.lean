import FormGrid.Constraints
import FormGrid.Sizing.Edges

/-!
# What a cell asks of an axis

A cell takes part in the layout of each axis with its placement, the gaps of the tracks around it
and its natural extent. From these follow what it demands of its tracks, how much room they leave
it once their edges are known, and which segment of the axis its content gets.

## Main definitions

* `Item`: one axis of a cell that takes part in a layout.
* `Item.demand`: the length its tracks should have.
* `Item.room`: the length they have, less gaps.
* `Item.segment`: the segment of its content, paddings not counted.
-/

namespace FormGrid

/-- One axis of a cell that takes part in a layout. -/
structure Item where
  placement : Placement
  trackGap : Margin
  natural : Int
  deriving DecidableEq, Repr

/-- The position of an edge. -/
def edgeAt (edges : List Int) (edge : Nat) : Int := edges.getD edge 0

namespace Item

/-- All that is kept free before and after the content. -/
def gap (i : Item) : Checked Int := do
  Pixel.add (← i.placement.gap.total) (← i.trackGap.total)

/-- The length that the tracks should have: the natural extent with gaps, less the paddings, which
are painted outside. -/
def demand (i : Item) : Checked Int := do
  Pixel.sub (← Pixel.add i.natural (← i.gap)) (← i.placement.padding.total)

/-- The demand on the tracks of the placement. -/
def request (i : Item) : Checked Demand := do
  return ⟨i.placement.start, i.placement.span, ← i.demand⟩

/-- The length of the tracks without gaps, never negative. -/
def room (i : Item) (edges : List Int) : Checked Int := do
  let extent ← Pixel.sub (edgeAt edges i.placement.stop) (edgeAt edges i.placement.start)
  return max 0 (← Pixel.sub extent (← i.gap))

/-- The length of the content: all the room if the content fills it, and otherwise no more than
its natural extent without paddings. -/
def length (i : Item) (room : Int) : Checked Int :=
  match i.placement.align with
  | .fill => return room
  | _ => do return min room (← Pixel.sub i.natural (← i.placement.padding.total))

/-- The length of the content with its paddings. -/
def drawnLength (i : Item) (room : Int) : Checked Int := do
  Pixel.add (← i.length room) (← i.placement.padding.total)

/-- Where the room starts. -/
def lead (i : Item) (edges : List Int) (origin : Int) : Checked Int := do
  let start ← Pixel.add origin (edgeAt edges i.placement.start)
  Pixel.add (← Pixel.add start i.trackGap.before) i.placement.gap.before

/-- The room that the alignment leaves before the content. -/
def slack (i : Item) (room length : Int) : Checked Int :=
  match i.placement.align with
  | .leading | .fill => return 0
  | .center => do return (← Pixel.sub room length).tdiv 2
  | .trailing => Pixel.sub room length

/-- The segment of the content. -/
def segment (i : Item) (room : Int) (edges : List Int) (origin : Int) : Checked Segment := do
  let length ← i.length room
  let lead ← i.lead edges origin
  let start ← Pixel.add lead (← i.slack room length)
  return ⟨start, length⟩

/-- The room is never negative. -/
theorem room_nonneg {i : Item} {edges : List Int} {room : Int} (h : i.room edges = .ok room) :
    0 ≤ room := by
  obtain ⟨extent, -, hextent⟩ := Checked.bind_eq_ok_iff.mp h
  obtain ⟨gap, -, hgap⟩ := Checked.bind_eq_ok_iff.mp hextent
  obtain ⟨rest, -, hrest⟩ := Checked.bind_eq_ok_iff.mp hgap
  cases hrest
  exact Int.le_max_left 0 rest

end Item

end FormGrid
