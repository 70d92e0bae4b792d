import FormGrid.Sizing.Basic

/-!
# Track edges

Once an axis has a length, its tracks get their final sizes and with them their edges. What the
length exceeds the least sizes by goes to the resizable tracks, in shares that differ by at most a
pixel, the earlier tracks getting the larger ones; what it falls short by is taken from the same
tracks in the same shares, though no track becomes shorter than nothing. Without resizable tracks
the least sizes stay.

It is assumed throughout that an axis has fewer than `2 ^ 31` resizable tracks. The receivers of the
shares are then counted in numbers of pixels, and no conversion of a count loses anything.

## Main definitions

* `share`: one of `n` nearly equal parts of a magnitude.
* `Sizing.resize`: the sizes after the difference has been shared out.
* `boundaries`: the running sums of sizes.
* `Sizing.edges`: where the tracks of an axis of a given length start and end.

## Main results

* `length_of_boundaries_eq_ok`: there is one boundary more than there are sizes.
-/

namespace FormGrid

/-- The part of `magnitude` that falls to the `k`-th of `n` receivers: the quotient, and one more
for the first receivers as long as the remainder lasts. The numbers `n` and `k` enter as they are,
which assumes that there are fewer than `2 ^ 31` receivers. -/
def share (magnitude : Int) (n k : Nat) : Int :=
  magnitude / n + if (k : Int) < magnitude % n then 1 else 0

/-- The running sums of the sizes from `start` on, the start itself included. -/
def boundaries (start : Int) : List Int → Checked (List Int)
  | [] => return [start]
  | size :: sizes => do
    let next ← Pixel.add start size
    return start :: (← boundaries next sizes)

namespace Sizing

/-- The size of a track after it received its share of `extra`, or gave it up. -/
def adjust (extra part size : Int) : Checked Int :=
  if 0 < extra then Pixel.add size part
  else do return max 0 (← Pixel.sub size part)

/-- Shares `extra` out among the target tracks, which are listed in ascending order. Their number is
assumed to be less than `2 ^ 31`, as for `share`. -/
def resize (extra : Int) (targets : List Nat) (sizes : List Int) : Checked (List Int) :=
  if extra = 0 ∨ targets = [] then return sizes
  else do
    let magnitude ← Pixel.abs extra
    sizes.zipIdx.mapM fun (size, track) =>
      match targets.idxOf? track with
      | none => return size
      | some k => do
        let part ← Pixel.check .addition (share magnitude targets.length k)
        adjust extra part size

/-- The edges of the tracks on an axis of the length `total`: the start of each track and, last,
the end of the last one. -/
def edges (s : Sizing) (total : Int) (resizable : IndexSet) : Checked (List Int) := do
  let sizes ← s.minSizes
  let extra ← Pixel.sub total (← Pixel.sum sizes)
  boundaries 0 (← resize extra (resizable.below s.count) sizes)

end Sizing

/-- There is one boundary more than there are sizes. -/
theorem length_of_boundaries_eq_ok {start : Int} {sizes edges : List Int}
    (h : boundaries start sizes = .ok edges) : edges.length = sizes.length + 1 := by
  induction sizes generalizing start edges with
  | nil =>
    cases h
    rfl
  | cons size sizes ih =>
    obtain ⟨next, -, htail⟩ := Checked.bind_eq_ok_iff.mp h
    obtain ⟨rest, hrest, hedges⟩ := Checked.bind_eq_ok_iff.mp htail
    cases hedges
    simp [ih hrest]

end FormGrid
