import FormGrid.Grid
import FormGrid.Layout.Item

/-!
# Resolving an axis

When the demands on an axis of a grid have been gathered, its preferred length is known. The axis
is then given a length, its tracks get edges, and every cell gets room. The room of a cell that
holds a grid is the length that this grid is resolved with in turn, right after its cell. Columns
and rows are resolved in the same way; an `AxisView` says which part of the data belongs to the
axis at hand.

## Main definitions

* `Gathered`, `Resolved`: an axis of a grid before and after it has edges.
* `Fitted`: an axis of a cell with its room.
* `AxisView`: the axis at hand.
* `Tree.resolve`: the axis of a grid and of all grids nested in it.
-/

namespace FormGrid

/-- An axis of a grid whose demands are known. -/
structure Gathered where
  sizing : Sizing
  resizable : IndexSet
  preferred : Int
  deriving DecidableEq

namespace Gathered

/-- The axis on which these demands are made. -/
def ofDemands (demands : List Demand) (tracks : Tracks) : Checked Gathered := do
  let sizing : Sizing := ⟨demands⟩
  return ⟨sizing, tracks.resizable, ← sizing.preferred⟩

end Gathered

/-- An axis of a grid whose tracks have edges. -/
structure Resolved extends Gathered where
  edges : List Int
  deriving DecidableEq

/-- The edges of the tracks on an axis of the given length. -/
def Gathered.resolve (g : Gathered) (length : Int) : Checked Resolved := do
  return { g with edges := ← g.sizing.edges length g.resizable }

/-- An axis of a cell with the room that its tracks leave it. -/
structure Fitted (ι : Type) where
  item : ι
  room : Int
  deriving DecidableEq, Repr

/-- The axis at hand: where a grid keeps what was gathered on it and a cell what it asks of it,
and what becomes of both. -/
structure AxisView (F C F' C' : Type) where
  gathered : F → Gathered
  item : C → Item
  settle : F → Resolved → F'
  fit : C → Int → C'

variable {F C F' C' K : Type}

/-- Gives every cell its room between the edges, and every nested grid the room of its cell. -/
def Cells.resolve (v : AxisView F C F' C') (edges : List Int) :
    Cells F C K → Checked (Cells F' C' K)
  | nil => return nil
  | component info key rest => do
    let room ← (v.item info).room edges
    let rest ← rest.resolve v edges
    return component (v.fit info room) key rest
  | grid info frame inner rest => do
    let room ← (v.item info).room edges
    let axis ← (v.gathered frame).resolve room
    let inner ← inner.resolve v axis.edges
    let rest ← rest.resolve v edges
    return grid (v.fit info room) (v.settle frame axis) inner rest

/-- Resolves an axis of a grid, and of the grids nested in it, with a length or, where none is
given, with the preferred one. -/
def Tree.resolve (v : AxisView F C F' C') (length : Option Int) (t : Tree F C K) :
    Checked (Tree F' C' K) := do
  let gathered := v.gathered t.frame
  let axis ← gathered.resolve (length.getD gathered.preferred)
  let cells ← t.cells.resolve v axis.edges
  return ⟨v.settle t.frame axis, cells⟩

end FormGrid
