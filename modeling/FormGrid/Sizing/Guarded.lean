import FormGrid.Guarded
import FormGrid.Sizing.Edges

/-!
# Track sizes with look-ups

This module computes the least sizes and the edges of the tracks of an axis once more, with every
size in a list that is looked up and stored by the number of its track. The demands on single tracks
are gone through in their order, and the difference is given to the resizable tracks only, one after
the other. A run or a track beyond the end of the list ends the computation.

## Main definitions

* `Sizing.guardedMinSizes`, `Sizing.guardedPreferred`: the least size of every track, and their sum.
* `Sizing.guardedEdges`: where the tracks of an axis of a given length start and end.
-/

namespace FormGrid

namespace Demand

/-- The sizes of the tracks of the run. -/
def guardedRun (d : Demand) (sizes : List Int) : Guarded (List Int) :=
  if d.stop ≤ sizes.length then .ok (d.run sizes) else .error .outOfRange

/-- Lets the last track of a run make up for what the run lacks. -/
def guardedStretch (d : Demand) (sizes : List Int) : Guarded (List Int) := do
  let current ← Pixel.sum (← d.guardedRun sizes)
  if current < d.size then
    let lacking ← Pixel.sub d.size current
    let last ← Pixel.add (← Guarded.read sizes (d.stop - 1)) lacking
    Guarded.write sizes (d.stop - 1) last
  else
    return sizes

end Demand

namespace Sizing

/-- What each track gets when a demand is gone through: more, if the demand is on this track alone. -/
def guardedRaise (sizes : List Int) (d : Demand) : Guarded (List Int) :=
  if d.span = 1 then do
    let size ← Guarded.read sizes d.start
    Guarded.write sizes d.start (max size d.size)
  else
    return sizes

/-- The largest length that is asked of each track alone. -/
def guardedSingleSizes (s : Sizing) : Guarded (List Int) :=
  s.demands.foldlM guardedRaise (List.replicate s.count 0)

/-- The least size of every track. -/
def guardedMinSizes (s : Sizing) : Guarded (List Int) := do
  let sizes ← s.guardedSingleSizes
  s.spanning.foldlM (fun sizes d => d.guardedStretch sizes) sizes

/-- The length of the axis when every track has its least size. -/
def guardedPreferred (s : Sizing) : Guarded Int := do
  Pixel.sum (← s.guardedMinSizes)

/-- The size of the `k`-th of `n` resizable tracks after it received its share, or gave it up. -/
def receive (extra magnitude : Int) (n k : Nat) (size : Int) : Checked Int := do
  let part ← Pixel.check .addition (share magnitude n k)
  adjust extra part size

/-- The sizes after a track has become what it becomes as the `k`-th one. -/
def guardedChange (f : Nat → Int → Checked Int) (sizes : List Int) (p : Nat × Nat) :
    Guarded (List Int) := do
  let size ← Guarded.read sizes p.1
  let size ← f p.2 size
  Guarded.write sizes p.1 size

/-- Shares `extra` out among the target tracks, one after the other. There are assumed to be fewer
than `2 ^ 31` of them, as for `share`. -/
def guardedResize (extra : Int) (targets : List Nat) (sizes : List Int) : Guarded (List Int) :=
  if extra = 0 ∨ targets = [] then return sizes
  else do
    let magnitude ← Pixel.abs extra
    targets.zipIdx.foldlM (guardedChange (receive extra magnitude targets.length)) sizes

/-- The edges of the tracks on an axis of the length `total`. -/
def guardedEdges (s : Sizing) (total : Int) (resizable : IndexSet) : Guarded (List Int) := do
  let sizes ← s.guardedMinSizes
  let extra ← Pixel.sub total (← Pixel.sum sizes)
  boundaries 0 (← guardedResize extra (resizable.below s.count) sizes)

end Sizing

end FormGrid
