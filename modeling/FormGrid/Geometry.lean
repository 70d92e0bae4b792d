import FormGrid.Axes
import FormGrid.Pixel

/-!
# Margins, sizes and rectangles

Everything drawn on the screen is given per axis: a size is an extent per axis, a rectangle is a
segment per axis, gaps are a margin per axis. A rectangle shrinks by gaps (`Rect.inset`) and grows
by them (`Rect.outset`); both compute the left and the upper edge first, then the width, then the
height.

## Main definitions

* `Margin`, `Gaps`: what is kept free before and after something.
* `Size`, `Size.outset`.
* `Segment`, `Rect`, `Rect.inset`, `Rect.outset`.
-/

namespace FormGrid

/-- What is kept free on an axis before and after something: left and right on the x axis, above
and below on the y axis. -/
structure Margin where
  before : Int
  after : Int
  deriving DecidableEq, Repr

namespace Margin

/-- Nothing is kept free. -/
def none : Margin := ⟨0, 0⟩

/-- Both sides together. -/
def total (m : Margin) : Checked Int := Pixel.add m.before m.after

end Margin

/-- A margin per axis. -/
abbrev Gaps : Type := PerAxis Margin

namespace Gaps

/-- Nothing is kept free. -/
def none : Gaps := ⟨.none, .none⟩

/-- The same distance on all four sides. -/
def uniform (distance : Int) : Gaps := ⟨⟨distance, distance⟩, ⟨distance, distance⟩⟩

end Gaps

/-- An extent per axis: the width is the x component, the height the y component. -/
abbrev Size : Type := PerAxis Int

/-- A size grown by gaps on every side. -/
def Size.outset (s : Size) (g : Gaps) : Checked Size := do
  let width ← Pixel.add s.x (← g.x.total)
  let height ← Pixel.add s.y (← g.y.total)
  return ⟨width, height⟩

/-- A stretch of one axis. -/
structure Segment where
  start : Int
  length : Int
  deriving DecidableEq, Repr

/-- Where a segment ends. -/
def Segment.stop (s : Segment) : Checked Int := Pixel.add s.start s.length

/-- A segment per axis. -/
abbrev Rect : Type := PerAxis Segment

namespace Rect

/-- The rectangle of a size at the origin. -/
def ofSize (s : Size) : Rect := ⟨⟨0, s.x⟩, ⟨0, s.y⟩⟩

/-- The extents of a rectangle. -/
def size (r : Rect) : Size := ⟨r.x.length, r.y.length⟩

/-- The upper left corner of a rectangle. -/
def origin (r : Rect) : PerAxis Int := ⟨r.x.start, r.y.start⟩

/-- A rectangle shrunk by gaps. -/
def inset (r : Rect) (g : Gaps) : Checked Rect := do
  let left ← Pixel.add r.x.start g.x.before
  let upper ← Pixel.add r.y.start g.y.before
  let width ← Pixel.sub r.x.length (← g.x.total)
  let height ← Pixel.sub r.y.length (← g.y.total)
  return ⟨⟨left, width⟩, ⟨upper, height⟩⟩

/-- A rectangle grown by gaps. -/
def outset (r : Rect) (g : Gaps) : Checked Rect := do
  let left ← Pixel.sub r.x.start g.x.before
  let upper ← Pixel.sub r.y.start g.y.before
  let width ← Pixel.add r.x.length (← g.x.total)
  let height ← Pixel.add r.y.length (← g.y.total)
  return ⟨⟨left, width⟩, ⟨upper, height⟩⟩

@[simp] theorem size_ofSize (s : Size) : size (ofSize s) = s := rfl

end Rect

end FormGrid
