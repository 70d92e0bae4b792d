import FormGrid.Index
import FormGrid.Pixel

/-!
# Track sizes

The cells of a grid make demands on the tracks of an axis: a run of tracks must have at least a
given length altogether. The least sizes that meet all demands are chosen in two steps. A demand
on one track alone sets the track to the largest length that such a demand asks of it, or to zero.
The demands on longer runs are then gone through, the shortest runs first and otherwise in their
order; where a run is still too short, its last track grows by what is missing.

## Main definitions

* `Demand`, `Sizing`: a demand and the demands on one axis, in the order they were made.
* `Sizing.require`: one more demand.
* `Sizing.count`: the number of tracks, enough for every run, also for an empty one.
* `Sizing.minSizes`: the size of every track.
* `Sizing.preferred`: their sum.
-/

namespace FormGrid

/-- The `span` tracks from `start` on must have at least the length `size` altogether. -/
structure Demand where
  start : Nat
  span : Nat
  size : Int
  deriving DecidableEq, Repr

namespace Demand

/-- The first track after the run. -/
def stop (d : Demand) : Nat := d.start + d.span

/-- The sizes of the tracks of the run, among the sizes of all tracks. -/
def run (d : Demand) (sizes : List Int) : List Int := (sizes.drop d.start).take d.span

/-- Lets the last track of a run make up for what the run lacks. -/
def stretch (d : Demand) (sizes : List Int) : Checked (List Int) := do
  let current ← Pixel.sum (d.run sizes)
  if current < d.size then
    let lacking ← Pixel.sub d.size current
    let last ← Pixel.add (sizes.getD (d.stop - 1) 0) lacking
    return sizes.set (d.stop - 1) last
  else
    return sizes

end Demand

/-- The demands on the tracks of one axis, in the order they were made. -/
structure Sizing where
  demands : List Demand
  deriving DecidableEq, Repr

namespace Sizing

/-- No demands. -/
def empty : Sizing := ⟨[]⟩

/-- One more demand; its run has to end at an index. -/
def require (s : Sizing) (d : Demand) : Checked Sizing := do
  let _ ← Index.add d.start d.span
  return ⟨s.demands ++ [d]⟩

/-- The number of tracks: no run reaches beyond the last one. -/
def count (s : Sizing) : Nat := (s.demands.map Demand.stop).foldl max 0

/-- There are no tracks. -/
def isEmpty (s : Sizing) : Bool := s.count = 0

/-- The largest length that a demand on this track alone asks for, at least zero. -/
def singleSize (s : Sizing) (track : Nat) : Int :=
  ((s.demands.filter fun d => d.span = 1 ∧ d.start = track).map Demand.size).foldl max 0

/-- The demands on runs of two tracks or more, the shortest runs first and equally long ones in
the order they were made. -/
def spanning (s : Sizing) : List Demand :=
  (List.range' 2 (s.count - 1)).flatMap fun span => s.demands.filter (·.span = span)

/-- The least size of every track. -/
def minSizes (s : Sizing) : Checked (List Int) :=
  s.spanning.foldlM (fun sizes d => d.stretch sizes) ((List.range s.count).map s.singleSize)

/-- The length of the axis when every track has its least size. -/
def preferred (s : Sizing) : Checked Int := do
  Pixel.sum (← s.minSizes)

/-! ## The number of tracks -/

theorem le_foldl_max {ns : List Nat} {start : Nat} :
    start ≤ ns.foldl max start ∧ ∀ n ∈ ns, n ≤ ns.foldl max start := by
  induction ns generalizing start with
  | nil => simp
  | cons m ns ih =>
    obtain ⟨hstart, hmem⟩ := @ih (max start m)
    refine ⟨by simp only [List.foldl_cons]; omega, fun n hn => ?_⟩
    rcases List.mem_cons.mp hn with rfl | hn
    · simp only [List.foldl_cons]; omega
    · exact hmem n hn

/-- A demand that is accepted comes after the others. -/
theorem require_eq_ok_iff {s s' : Sizing} {d : Demand} :
    s.require d = .ok s' ↔ d.stop < Index.limit ∧ s' = ⟨s.demands ++ [d]⟩ := by
  unfold require Index.add Demand.stop
  split
  case isTrue h => simp [bind, Except.bind, pure, Except.pure, h, eq_comm]
  case isFalse h => simp [bind, Except.bind, h]

/-- No run reaches beyond the last track. -/
theorem stop_le_count {s : Sizing} {d : Demand} (h : d ∈ s.demands) : d.stop ≤ s.count :=
  le_foldl_max.2 _ (List.mem_map_of_mem h)

/-- Every demand on a longer run is gone through. -/
theorem mem_spanning {s : Sizing} {d : Demand} : d ∈ s.spanning ↔ d ∈ s.demands ∧ 2 ≤ d.span := by
  simp only [spanning, List.mem_flatMap, List.mem_range'_1, List.mem_filter, decide_eq_true_eq]
  constructor
  · rintro ⟨span, hspan, hmem, rfl⟩
    exact ⟨hmem, hspan.1⟩
  · rintro ⟨hmem, hspan⟩
    have := stop_le_count hmem
    exact ⟨d.span, ⟨hspan, by unfold Demand.stop at this; omega⟩, hmem, rfl⟩

end Sizing

end FormGrid
