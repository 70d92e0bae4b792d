import FormGrid.Host
import FormGrid.Layout.Resolve

/-!
# Baselines

Components of one row and one alignment stand on a common line if they have a baseline. Such a
cell counts in its row with an ascent above the line and a descent below it, and the cells of one
line demand together the largest ascent and the largest descent. A cell shares a line only if it
covers a single row and does not fill it.

## Main definitions

* `Baseline`, `RowItem`: the baseline of a component, and the row side of a cell that may have
  one.
* `RowItem.measure`: asks the host for the baseline of a component.
* `SharedLine`, `SharedLine.find?`: the line that the cells of a row and an alignment share.
* `SharedLine.offset`: where that line lies in its row.
-/

namespace FormGrid

/-- The baseline of a component: its distance from the component's upper edge, and the lengths
above and below it that the component takes up with gaps and without paddings. -/
structure Baseline where
  offset : Int
  ascent : Int
  descent : Int
  deriving DecidableEq, Repr

/-- The row side of a cell, with the baseline of its component if it shares a line. -/
structure RowItem extends Item where
  baseline : Option Baseline
  deriving DecidableEq, Repr

/-- The cell covers one row and does not fill it. -/
def Placement.sharesBaseline (p : Placement) : Bool := p.span = 1 ∧ p.align ≠ .fill

/-- The baseline at this distance from the upper edge of a component of natural height. -/
def Item.baselineAt (i : Item) (offset : Int) : Checked Baseline := do
  let gap := i.placement.gap
  let padding := i.placement.padding
  let above ← Pixel.add (← Pixel.add offset gap.before) i.trackGap.before
  let ascent ← Pixel.sub above padding.before
  let under ← Pixel.sub i.natural offset
  let below ← Pixel.add (← Pixel.add under gap.after) i.trackGap.after
  let descent ← Pixel.sub below padding.after
  return ⟨offset, ascent, descent⟩

variable {K : Type}

/-- Asks the host for the baseline of a component that may share one, at the width it is drawn
with and its natural height. A negative answer means that there is none. -/
def RowItem.measure (h : Host K) (key : K) (column : Fitted Item) (row : Item) :
    Checked (Measured K RowItem) :=
  if row.placement.sharesBaseline then do
    let width ← column.item.drawnLength column.room
    let query : Query K := ⟨key, ⟨width, row.natural⟩⟩
    match (h.baseline key query.size).filter (0 ≤ ·) with
    | some offset => return ⟨⟨row, some (← row.baselineAt offset)⟩, [query]⟩
    | none => return ⟨⟨row, none⟩, [query]⟩
  else return ⟨⟨row, none⟩, []⟩

/-! ## Shared lines -/

/-- The line that cells of one row and one alignment share: the largest ascent above it and the
largest descent below it among these cells, at least zero. -/
structure SharedLine where
  above : Int
  below : Int
  deriving DecidableEq, Repr

namespace SharedLine

/-- The line shared with one more cell. -/
def join (l : SharedLine) (b : Baseline) : SharedLine :=
  ⟨max l.above b.ascent, max l.below b.descent⟩

/-- The baselines of a row and an alignment. -/
def members (cells : List RowItem) (row : Nat) (align : Align) : List Baseline :=
  (cells.filter fun c => c.placement.start = row ∧ c.placement.align = align).filterMap
    RowItem.baseline

/-- The line of a row and an alignment, if some cell has a baseline there. -/
def find? (cells : List RowItem) (row : Nat) (align : Align) : Option SharedLine :=
  match members cells row align with
  | [] => none
  | b :: bs => some ((b :: bs).foldl join ⟨0, 0⟩)

/-- The height that the cells of the line demand of their row. -/
def height (l : SharedLine) : Checked Int := Pixel.add l.above l.below

/-- The distance of the line from the top of a row. -/
def offset (l : SharedLine) (align : Align) (rowHeight : Int) : Checked Int :=
  match align with
  | .leading | .fill => return l.above
  | .center => do Pixel.add ((← Pixel.sub rowHeight (← l.height)).tdiv 2) l.above
  | .trailing => Pixel.sub rowHeight l.below

end SharedLine

/-- The baseline of a cell with the line it shares. -/
def RowItem.shared? (c : RowItem) (cells : List RowItem) : Option (Baseline × SharedLine) := do
  let baseline ← c.baseline
  let line ← SharedLine.find? cells c.placement.start c.placement.align
  return (baseline, line)

/-- The demand of a cell on its rows: all cells of a shared line demand the same height. -/
def RowItem.request (c : RowItem) (cells : List RowItem) : Checked Demand :=
  match c.shared? cells with
  | some (_, line) => do return ⟨c.placement.start, c.placement.span, ← line.height⟩
  | none => c.toItem.request

end FormGrid
