/-!
# The two axes

A grid has an x axis, along which its columns lie, and a y axis, along which its rows lie. What a
thing has per axis is kept in an `Axes`, and the two components have one type wherever the axes
play the same part (`PerAxis`). Exchanging the axes is then a function of its own, `Axes.swap`, and
what concerns one axis at a time is said of an `Axis`.
-/

namespace FormGrid

/-- One value for the x axis and one for the y axis. -/
structure Axes (α β : Type) where
  x : α
  y : β
  deriving DecidableEq, Repr

/-- Values of one type for both axes. -/
abbrev PerAxis (α : Type) : Type := Axes α α

namespace Axes

/-- The axes exchanged. -/
def swap {α β : Type} (a : Axes α β) : Axes β α := ⟨a.y, a.x⟩

@[simp] theorem swap_swap {α β : Type} (a : Axes α β) : a.swap.swap = a := rfl

@[simp] theorem swap_x {α β : Type} (a : Axes α β) : a.swap.x = a.y := rfl

@[simp] theorem swap_y {α β : Type} (a : Axes α β) : a.swap.y = a.x := rfl

end Axes

/-- One of the two axes. -/
inductive Axis where
  | x
  | y
  deriving DecidableEq

/-- What belongs to an axis. -/
def Axes.along {α : Type} (p : PerAxis α) : Axis → α
  | .x => p.x
  | .y => p.y

/-- The same with another value for an axis. -/
def Axes.replace {α : Type} (p : PerAxis α) : Axis → α → PerAxis α
  | .x, value => ⟨value, p.y⟩
  | .y, value => ⟨p.x, value⟩

def Axis.other : Axis → Axis
  | .x => .y
  | .y => .x

end FormGrid
