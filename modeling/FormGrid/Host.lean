import FormGrid.Cells
import FormGrid.Geometry

/-!
# Hosts

A grid knows its components only by their keys. What it has to know about them it asks the host:
whether a component is visible, which size it prefers, and where its baseline lies at a given
size. Only the last question depends on the layout, so the questions of that kind are recorded: a
result that was measured comes with the queries made for it, in the order they were made.

## Main definitions

* `Host`: the answers of a host.
* `Query`, `Measured`: a question for a baseline, and a result with the questions made for it.
* `Cells.isVisible`, `Cell.isVisible`: a grid is visible if some component in it is.
-/

namespace FormGrid

/-- What a host says about its components. -/
structure Host (K : Type) where
  /-- The size at which the component shows itself whole. -/
  preferredSize : K → Size
  /-- Invisible components take no part in a layout. -/
  isVisible : K → Bool
  /-- The distance of the component's baseline from its upper edge at the given size. No answer
  and a negative one mean that the component has no baseline, and unless stated otherwise none
  has. -/
  baseline : K → Size → Option Int := fun _ _ => none

/-- The same host with components that have no baseline. -/
def Host.withoutBaselines {K : Type} (h : Host K) : Host K where
  preferredSize := h.preferredSize
  isVisible := h.isVisible

/-- A question for the baseline of a component at a size. -/
structure Query (K : Type) where
  key : K
  size : Size
  deriving DecidableEq, Repr

/-- A result with the questions made for it, in order. -/
structure Measured (K α : Type) where
  value : α
  queries : List (Query K)
  deriving DecidableEq, Repr

/-! ## Visibility -/

/-- Some component at some depth is visible. -/
def Cells.isVisible {F C K : Type} (h : Host K) (cells : Cells F C K) : Bool :=
  cells.anyKey h.isVisible

/-- The component of the cell is visible, or some component in its grid. -/
def Cell.isVisible {F C K : Type} (h : Host K) : Cell F C K → Bool
  | component _ key => h.isVisible key
  | grid _ tree => tree.cells.isVisible h

/-- Cells are visible exactly if one of them is. -/
theorem Cells.isVisible_eq_any_toList {F C K : Type} (h : Host K) (cells : Cells F C K) :
    cells.isVisible h = cells.toList.any (·.isVisible h) := by
  induction cells with
  | nil => rfl
  | component info key rest ih =>
    simpa [isVisible, anyKey, toList, Cell.isVisible] using congrArg _ ih
  | grid info frame inner rest _ ih =>
    simpa [isVisible, anyKey, toList, Cell.isVisible] using congrArg _ ih

end FormGrid
