import FormGrid.Geometry
import FormGrid.Index

/-!
# Constraints of a cell

A cell covers on each axis the tracks from its start up to its stop, and says how its content is
placed on them. Two questions are asked about the covered tracks: whether a cell covers a position
(`Constraints.occupies`) and whether two cells share one (`Constraints.intersects`). Both compare
edges, from the first comparison to the last, and a stop that is no index ends the question where
it is reached.

## Main definitions

* `Align`: where content sits on its tracks.
* `Placement`: one axis of a cell.
* `Constraints`: both axes, with the calls that adjust them.
-/

namespace FormGrid

/-- Where content sits on the tracks of its cell: at their start (left, top), in the middle, at
their end (right, bottom), or over their whole extent. -/
inductive Align where
  | leading
  | center
  | trailing
  | fill
  deriving DecidableEq, Repr

/-- One axis of a cell: the tracks it covers and how its content is placed on them. `gap` is kept
free around the content; `padding` is a border that the content paints outside of the extent it is
given. -/
structure Placement where
  start : Nat
  span : Nat
  align : Align
  gap : Margin
  padding : Margin
  deriving DecidableEq, Repr

namespace Placement

/-- The first track after the covered ones. -/
def stop (p : Placement) : Nat := p.start + p.span

/-- The stop, asked for as an index. -/
def stopIndex (p : Placement) : Checked Nat := Index.add p.start p.span

theorem stopIndex_eq_ok_iff {p : Placement} {n : Nat} :
    p.stopIndex = .ok n ↔ n = p.stop ∧ p.stop < Index.limit :=
  Index.add_eq_ok_iff

/-- The track is covered. -/
def occupies (p : Placement) (track : Nat) : Checked Bool :=
  Checked.and (.ok (p.start ≤ track)) do
    return track < (← p.stopIndex)

/-- Each of two placements starts before the other one stops. -/
def intersects (p q : Placement) : Checked Bool :=
  Checked.and
    (do return p.start < (← q.stopIndex))
    (do return q.start < (← p.stopIndex))

/-- The stop of a placement that ends at an index. -/
theorem stopIndex_of_lt {p : Placement} (h : p.stop < Index.limit) : p.stopIndex = .ok p.stop :=
  stopIndex_eq_ok_iff.mpr ⟨rfl, h⟩

/-- A placement that ends at an index covers the tracks from its start up to its stop. -/
theorem occupies_of_lt {p : Placement} (h : p.stop < Index.limit) (track : Nat) :
    p.occupies track = .ok (decide (p.start ≤ track ∧ track < p.stop)) := by
  by_cases hstart : p.start ≤ track
  · simp [occupies, stopIndex_of_lt h, hstart, pure, Except.pure, bind, Except.bind]
  · simp [occupies, hstart]

/-- Two placements that end at indices intersect if each starts before the other one stops. -/
theorem intersects_of_lt {p q : Placement} (hp : p.stop < Index.limit) (hq : q.stop < Index.limit) :
    p.intersects q = .ok (decide (p.start < q.stop ∧ q.start < p.stop)) := by
  by_cases hstart : p.start < q.stop
  · simp [intersects, stopIndex_of_lt hp, stopIndex_of_lt hq, hstart, pure, Except.pure, bind,
      Except.bind]
  · simp [intersects, stopIndex_of_lt hq, hstart, pure, Except.pure, bind, Except.bind]

end Placement

/-- A placement per axis. -/
abbrev Constraints : Type := PerAxis Placement

namespace Constraints

/-- A cell of one column and one row, at the start of its column and in the middle of its row. -/
def single (column row : Nat) : Constraints :=
  ⟨⟨column, 1, .leading, .none, .none⟩, ⟨row, 1, .center, .none, .none⟩⟩

instance : Inhabited Constraints := ⟨single 0 0⟩

/-- The same cell over other numbers of columns and rows. -/
def withSpan (c : Constraints) (columns rows : Nat) : Constraints :=
  ⟨{ c.x with span := columns }, { c.y with span := rows }⟩

/-- The same cell with other alignments. -/
def withAlign (c : Constraints) (horizontal vertical : Align) : Constraints :=
  ⟨{ c.x with align := horizontal }, { c.y with align := vertical }⟩

/-- The same cell with content over the whole extent of both axes. -/
def filling (c : Constraints) : Constraints := c.withAlign .fill .fill

/-- The same cell with other gaps. -/
def withGaps (c : Constraints) (g : Gaps) : Constraints :=
  ⟨{ c.x with gap := g.x }, { c.y with gap := g.y }⟩

/-- The same cell with other paddings. -/
def withPaddings (c : Constraints) (g : Gaps) : Constraints :=
  ⟨{ c.x with padding := g.x }, { c.y with padding := g.y }⟩

/-- The space kept free around the content. -/
def gaps (c : Constraints) : Gaps := ⟨c.x.gap, c.y.gap⟩

/-- The border the content paints itself. -/
def paddings (c : Constraints) : Gaps := ⟨c.x.padding, c.y.padding⟩

/-- The cell covers the position. -/
def occupies (c : Constraints) (column row : Nat) : Checked Bool :=
  Checked.and (c.x.occupies column) (c.y.occupies row)

/-- The two cells share a position. -/
def intersects (c d : Constraints) : Checked Bool :=
  Checked.and (c.x.intersects d.x) (c.y.intersects d.y)

end Constraints

end FormGrid
