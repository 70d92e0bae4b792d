import FormGrid.Proofs.Sizing.MinSizes
import FormGrid.Sizing.Edges
import Mathlib.Algebra.BigOperators.Group.Finset.Basic
import Mathlib.Algebra.BigOperators.Ring.Finset
import Mathlib.Algebra.Order.BigOperators.Group.Finset

/-!
# Shares of an extent

A magnitude is shared out among receivers in parts that add up to it, and a larger magnitude gives
no receiver less. So, when the length of an axis grows, every resizable track grows by what it
gets or is no longer deprived of, and all tracks together grow by no more than the axis.

## Main definitions

* `signedShare`: what a receiver gets, or gives up
* `Sizing.portion`: what falls to a track
* `Sizing.exactResize`: the sizes after an extent has been shared out

## Main results

* `sum_share`: the shares add up to the magnitude
* `Sizing.exactResize_le`, `Sizing.sum_exactResize_le`: more to share out makes no track shorter
  and all of them together longer by no more than the difference
-/

namespace FormGrid

/-! ## The parts of a magnitude -/

theorem share_nonneg {m : Int} (h : 0 ≤ m) (n k : Nat) : 0 ≤ share m n k := by
  have := Int.ediv_nonneg h (Int.natCast_nonneg n)
  unfold share
  split <;> omega

/-- A larger magnitude gives no receiver less. -/
theorem share_mono {m m' : Int} (h : m ≤ m') {n : Nat} (hn : 0 < n) (k : Nat) :
    share m n k ≤ share m' n k := by
  have hquotient : m / n ≤ m' / n := Int.ediv_le_ediv (by omega) h
  rcases hquotient.lt_or_eq with hlt | heq
  · unfold share
    split <;> split <;> omega
  · -- of the same quotient, the larger magnitude has the larger remainder
    have hm := Int.mul_ediv_add_emod m n
    have hm' := Int.mul_ediv_add_emod m' n
    rw [← heq] at hm'
    unfold share
    rw [← heq]
    split <;> split <;> omega

/-- The shares add up to the magnitude. -/
theorem sum_share (m : Int) {n : Nat} (hn : 0 < n) :
    ∑ k ∈ Finset.range n, share m n k = m := by
  have hlt : m % n < n := Int.emod_lt_of_pos m (by omega)
  have hnonneg : 0 ≤ m % n := Int.emod_nonneg m (by omega)
  have hones : ∑ k ∈ Finset.range n, (if (k : Int) < m % n then 1 else 0) = m % n := by
    have hfilter : (Finset.range n).filter (fun k : Nat => (k : Int) < m % n) =
        Finset.range (m % n).toNat := by
      ext k
      simp only [Finset.mem_filter, Finset.mem_range]
      omega
    rw [Finset.sum_boole, hfilter, Finset.card_range]
    exact Int.toNat_of_nonneg hnonneg
  calc ∑ k ∈ Finset.range n, share m n k
      = n * (m / n) + m % n := by
        simp only [share, Finset.sum_add_distrib, hones, Finset.sum_const, Finset.card_range,
          nsmul_eq_mul]
    _ = m := Int.mul_ediv_add_emod m n

/-- What the `k`-th of `n` receivers gets of an extent, or gives up of a negative one. -/
def signedShare (extra : Int) (n k : Nat) : Int :=
  if 0 < extra then share extra n k else -share (-extra) n k

theorem sum_signedShare (extra : Int) {n : Nat} (hn : 0 < n) :
    ∑ k ∈ Finset.range n, signedShare extra n k = extra := by
  by_cases h : 0 < extra
  · simp only [signedShare, if_pos h, sum_share extra hn]
  · simp only [signedShare, if_neg h, Finset.sum_neg_distrib, sum_share (-extra) hn, neg_neg]

/-! ## Sharing out among tracks -/

namespace Sizing

/-- The size of a track after it received its share, or gave it up as far as it can. -/
def exactAdjust (extra : Int) (n k : Nat) (size : Int) : Int := max 0 (size + signedShare extra n k)

/-- The size of a track after `extra` has been shared out among the target tracks. -/
def exactSize (extra : Int) (targets : List Nat) (track : Nat) (size : Int) : Int :=
  match targets.idxOf? track with
  | none => size
  | some k => exactAdjust extra targets.length k size

/-- The sizes after `extra` has been shared out among the target tracks. -/
def exactResize (extra : Int) (targets : List Nat) (sizes : List Int) : List Int :=
  sizes.zipIdx.map fun p => exactSize extra targets p.2 p.1

/-- What falls to a track, where `w k` falls to the `k`-th target. -/
def portion (w : Nat → Int) (targets : List Nat) (track : Nat) : Int :=
  ((targets.idxOf? track).map w).getD 0

/-- A larger extent makes no target shorter, and none longer by more than its share grows. -/
theorem exactAdjust_grows {extra extra' : Int} (h : extra ≤ extra') {n : Nat} (hn : 0 < n) (k : Nat)
    (size : Int) :
    exactAdjust extra n k size ≤ exactAdjust extra' n k size ∧
      exactAdjust extra' n k size ≤
        exactAdjust extra n k size + (signedShare extra' n k - signedShare extra n k) := by
  have hmono : signedShare extra n k ≤ signedShare extra' n k := by
    unfold signedShare
    split <;> split
    · exact share_mono h hn k
    · omega
    · have hgiven : 0 ≤ share (-extra) n k := share_nonneg (by omega) n k
      have hgot : 0 ≤ share extra' n k := share_nonneg (by omega) n k
      omega
    · exact Int.neg_le_neg (share_mono (by omega) hn k)
  unfold exactAdjust
  omega

/-- A larger extent makes no track shorter, and none longer by more than its portion grows. -/
theorem exactSize_grows {extra extra' : Int} (h : extra ≤ extra') (targets : List Nat) (track : Nat)
    (size : Int) :
    exactSize extra targets track size ≤ exactSize extra' targets track size ∧
      exactSize extra' targets track size ≤ exactSize extra targets track size +
        portion (fun k => signedShare extra' targets.length k - signedShare extra targets.length k)
          targets track := by
  unfold exactSize portion
  cases hk : targets.idxOf? track with
  | none => simp
  | some k =>
    have hpos : 0 < targets.length := by
      have := (List.idxOf?_eq_some_iff.mp hk).1
      omega
    exact exactAdjust_grows h hpos k size

theorem exactResize_eq_self {extra : Int} {targets : List Nat} {sizes : List Int}
    (h : ∀ p ∈ sizes.zipIdx, exactSize extra targets p.2 p.1 = p.1) :
    exactResize extra targets sizes = sizes := by
  unfold exactResize
  conv_rhs => rw [← List.zipIdx_map_fst 0 sizes]
  exact List.map_congr_left h

/-- Where there is nothing to share out, the sizes stay. -/
theorem exactResize_zero {targets : List Nat} {sizes : List Int} (hn : ∀ size ∈ sizes, 0 ≤ size) :
    exactResize 0 targets sizes = sizes := by
  have hshare : ∀ n k, signedShare 0 n k = 0 := by simp [signedShare, share]
  refine exactResize_eq_self ?_
  rintro ⟨size, track⟩ hmem
  have hsize := hn size (List.fst_mem_of_mem_zipIdx hmem)
  unfold exactSize
  split
  · rfl
  · simpa [exactAdjust, hshare] using hsize

/-- Where no track is a target, the sizes stay. -/
theorem exactResize_of_forall_le (extra : Int) {targets : List Nat} {sizes : List Int}
    (h : ∀ track ∈ targets, sizes.length ≤ track) : exactResize extra targets sizes = sizes := by
  refine exactResize_eq_self ?_
  rintro ⟨size, track⟩ hmem
  have hlt : track < sizes.length := by simpa using List.snd_lt_of_mem_zipIdx hmem
  have hnone : targets.idxOf? track = none :=
    List.idxOf?_eq_none_iff.mpr fun htrack => absurd (h track htrack) (by omega)
  simp only [exactSize, hnone]

theorem exactResize_nil (extra : Int) (sizes : List Int) : exactResize extra [] sizes = sizes :=
  exactResize_of_forall_le extra fun _ htrack => nomatch htrack

@[simp] theorem length_exactResize (extra : Int) (targets : List Nat) (sizes : List Int) :
    (exactResize extra targets sizes).length = sizes.length := by
  simp [exactResize]

/-! ### All tracks together -/

/-- The `k`-th target is found at its own place. -/
theorem portion_getElem {targets : List Nat} (hnodup : targets.Nodup) (w : Nat → Int) {k : Nat}
    (hk : k < targets.length) : portion w targets targets[k] = w k := by
  have hindex : targets.idxOf? targets[k] = some k := by
    refine List.idxOf?_eq_some_iff.mpr ⟨hk, rfl, ?_⟩
    intro j hj heq
    exact hj.ne ((List.Nodup.getElem_inj_iff hnodup).mp heq)
  simp [portion, hindex]

theorem map_portion_self {targets : List Nat} (hnodup : targets.Nodup) (w : Nat → Int) :
    targets.map (portion w targets) = (List.range targets.length).map w := by
  apply List.ext_getElem (by simp)
  intro k hk _
  have hk' : k < targets.length := by simpa using hk
  simp [portion_getElem hnodup w hk']

/-- All portions together are what falls to the targets. -/
theorem sum_portion {targets : List Nat} {count : Nat} (hnodup : targets.Nodup)
    (hlt : ∀ track ∈ targets, track < count) (w : Nat → Int) :
    ((List.range count).map (portion w targets)).sum = ∑ k ∈ Finset.range targets.length, w k := by
  have hsubset : targets.toFinset ⊆ Finset.range count := by
    intro track htrack
    exact Finset.mem_range.mpr (hlt track (List.mem_toFinset.mp htrack))
  calc ((List.range count).map (portion w targets)).sum
      = ∑ track ∈ Finset.range count, portion w targets track := rfl
    _ = ∑ track ∈ targets.toFinset, portion w targets track := by
        refine (Finset.sum_subset hsubset ?_).symm
        intro track _ hnot
        have hnone : targets.idxOf? track = none :=
          List.idxOf?_eq_none_iff.mpr fun hmem => hnot (List.mem_toFinset.mpr hmem)
        simp [portion, hnone]
    _ = ((List.range targets.length).map w).sum := by
        rw [List.sum_toFinset _ hnodup, map_portion_self hnodup]
    _ = ∑ k ∈ Finset.range targets.length, w k := rfl

/-- The portions of the tracks of an axis, one for each size. -/
theorem sum_zipIdx_portion {targets : List Nat} {sizes : List Int} (hnodup : targets.Nodup)
    (hlt : ∀ track ∈ targets, track < sizes.length) (w : Nat → Int) :
    (sizes.zipIdx.map fun p => portion w targets p.2).sum =
      ∑ k ∈ Finset.range targets.length, w k := by
  have htracks : sizes.zipIdx.map (fun p => portion w targets p.2) =
      (List.range sizes.length).map (portion w targets) := by
    rw [List.range_eq_range', ← List.zipIdx_map_snd 0 sizes, List.map_map]
    rfl
  rw [htracks, sum_portion hnodup hlt]

/-- A larger extent makes no track shorter. -/
theorem exactResize_le {extra extra' : Int} (h : extra ≤ extra') (targets : List Nat)
    (sizes : List Int) :
    SizesLE (exactResize extra targets sizes) (exactResize extra' targets sizes) := by
  unfold exactResize SizesLE
  rw [List.forall₂_map_left_iff, List.forall₂_map_right_iff, List.forall₂_same]
  exact fun p _ => (exactSize_grows h targets p.2 p.1).1

/-- A larger extent makes all tracks together longer by no more than it is larger. -/
theorem sum_exactResize_le {extra extra' : Int} (h : extra ≤ extra') {targets : List Nat}
    {sizes : List Int} (hnodup : targets.Nodup) (hlt : ∀ track ∈ targets, track < sizes.length) :
    (exactResize extra' targets sizes).sum ≤
      (exactResize extra targets sizes).sum + (extra' - extra) := by
  rcases Nat.eq_zero_or_pos targets.length with hempty | hpos
  · rw [List.length_eq_zero_iff.mp hempty, exactResize_nil, exactResize_nil]
    omega
  let growth : Nat → Int := fun k =>
    signedShare extra' targets.length k - signedShare extra targets.length k
  have hgrowth : (sizes.zipIdx.map fun p => portion growth targets p.2).sum = extra' - extra := by
    rw [sum_zipIdx_portion hnodup hlt, Finset.sum_sub_distrib, sum_signedShare _ hpos,
      sum_signedShare _ hpos]
  calc (exactResize extra' targets sizes).sum
      ≤ (sizes.zipIdx.map fun p =>
          exactSize extra targets p.2 p.1 + portion growth targets p.2).sum :=
        List.sum_le_sum fun p _ => (exactSize_grows h targets p.2 p.1).2
    _ = (exactResize extra targets sizes).sum + (extra' - extra) := by
        rw [List.sum_map_add, hgrowth]
        rfl

/-! ### What is computed -/

theorem adjust_eq_ok {extra size n : Int} {count k : Nat} (hsize : 0 ≤ size)
    (h : adjust extra (share extra.natAbs count k) size = .ok n) :
    n = exactAdjust extra count k size := by
  unfold adjust at h
  unfold exactAdjust signedShare
  split at h
  case isTrue hpos =>
    have := share_nonneg hpos.le count k
    rw [(Pixel.add_eq_ok_iff.mp h).1, if_pos hpos, Int.natAbs_of_nonneg hpos.le]
    omega
  case isFalse hneg =>
    simp only [Checked.bind_eq_ok_iff, Checked.pure_eq_ok_iff] at h
    obtain ⟨rest, hrest, rfl⟩ := h
    rw [(Pixel.sub_eq_ok_iff.mp hrest).1, if_neg hneg, Int.ofNat_natAbs_of_nonpos (by omega)]
    omega

/-- What is computed when an extent is shared out. -/
theorem resize_eq_ok {extra : Int} {targets : List Nat} {sizes sizes' : List Int}
    (hn : ∀ size ∈ sizes, 0 ≤ size) (h : resize extra targets sizes = .ok sizes') :
    sizes' = exactResize extra targets sizes := by
  unfold resize at h
  split at h
  case isTrue hidle =>
    rw [← Checked.pure_eq_ok_iff.mp h]
    rcases hidle with rfl | rfl
    · exact (exactResize_zero hn).symm
    · exact (exactResize_nil extra sizes).symm
  case isFalse hbusy =>
    obtain ⟨magnitude, hmagnitude, htracks⟩ := Checked.bind_eq_ok_iff.mp h
    rw [(Pixel.abs_eq_ok_iff.mp hmagnitude).1] at htracks
    refine Checked.eq_map_of_mapM_eq_ok ?_ htracks
    rintro ⟨size, track⟩ hmem n hsize
    unfold exactSize
    cases hk : targets.idxOf? track with
    | none =>
      simp only [hk, Checked.pure_eq_ok_iff] at hsize
      exact hsize.symm
    | some k =>
      simp only [hk] at hsize
      obtain ⟨part, hpart, hadjust⟩ := Checked.bind_eq_ok_iff.mp hsize
      rw [(Pixel.check_eq_ok_iff.mp hpart).1] at hadjust
      exact adjust_eq_ok (hn size (List.fst_mem_of_mem_zipIdx hmem)) hadjust

end Sizing

end FormGrid
