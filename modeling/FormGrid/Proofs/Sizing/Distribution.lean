import FormGrid.Proofs.Sizing.Edges
import Mathlib.Data.List.Sort

/-!
# How an axis distributes its length

An axis that is longer or shorter than the least sizes of its tracks gives the difference to its
resizable tracks, in parts that are equal up to a pixel and largest for the first tracks. What is
given adds up to the difference exactly, so an axis that is made longer ends where it should; an
axis that is made shorter ends there too, unless a track had less to give up than its part.

## Main definitions

* `Fair`: parts of a magnitude for tracks in ascending order
* `trackAt`: the length of a track between its edges
* `Sizing.Distributed`: edges that distribute a length among the resizable tracks

## Main results

* `share_fair`, `fair_portion`: the parts are equal up to a pixel and add up
* `Sizing.sum_exactResize`, `Sizing.sum_exactResize_eq_iff`: where the last track ends
* `Sizing.edges_distributed`: the edges of an axis
-/

namespace FormGrid

/-! ## Parts of a magnitude -/

/-- The parts of the tracks add up to the magnitude, and of two tracks the earlier one gets as much
as the later one, or one more. -/
structure Fair (magnitude : Int) (tracks : List Nat) (part : Nat → Int) : Prop where
  sum_eq : (tracks.map part).sum = magnitude
  even : ∀ i ∈ tracks, ∀ j ∈ tracks, i < j → part j ≤ part i ∧ part i ≤ part j + 1

theorem Fair.congr {magnitude : Int} {tracks : List Nat} {part part' : Nat → Int}
    (fair : Fair magnitude tracks part) (h : ∀ track ∈ tracks, part' track = part track) :
    Fair magnitude tracks part' := by
  refine ⟨?_, fun i hi j hj hij => ?_⟩
  · rw [List.map_congr_left h]
    exact fair.sum_eq
  · rw [h i hi, h j hj]
    exact fair.even i hi j hj hij

/-- An earlier receiver gets as much as a later one, or one more. -/
theorem share_fair (m : Int) (n : Nat) {j k : Nat} (hjk : j ≤ k) :
    share m n k ≤ share m n j ∧ share m n j ≤ share m n k + 1 := by
  unfold share
  split <;> split <;> omega

namespace Sizing

/-- The portions of tracks in ascending order are fair parts. -/
theorem fair_portion (m : Int) {targets : List Nat} (hsorted : targets.Pairwise (· < ·))
    (hne : targets ≠ []) : Fair m targets (portion (share m targets.length) targets) := by
  have hnodup : targets.Nodup := hsorted.imp fun hlt => hlt.ne
  refine ⟨?_, ?_⟩
  · rw [map_portion_self hnodup]
    exact sum_share m (List.length_pos_of_ne_nil hne)
  · intro i hi j hj hij
    obtain ⟨a, ha, rfl⟩ := List.mem_iff_getElem.mp hi
    obtain ⟨b, hb, rfl⟩ := List.mem_iff_getElem.mp hj
    have hab : a ≤ b := by
      by_contra hba
      have := List.pairwise_iff_getElem.mp hsorted b a hb ha (not_le.mp hba)
      omega
    rw [portion_getElem hnodup _ ha, portion_getElem hnodup _ hb]
    exact share_fair m targets.length hab

theorem portion_of_not_mem {targets : List Nat} {track : Nat} (h : track ∉ targets)
    (w : Nat → Int) : portion w targets track = 0 := by
  simp [portion, List.idxOf?_eq_none_iff.mpr h]

theorem portion_signedShare_of_nonneg {extra : Int} (h : 0 ≤ extra) (targets : List Nat)
    (track n : Nat) :
    portion (signedShare extra n) targets track = portion (share extra n) targets track := by
  have hshare : signedShare extra n = share extra n := by
    funext k
    rcases h.lt_or_eq with hpos | rfl
    · exact if_pos hpos
    · have hk : ¬ (k : Int) < 0 := by omega
      simp [signedShare, share, hk]
  rw [hshare]

theorem portion_signedShare_of_neg {extra : Int} (h : extra < 0) (targets : List Nat)
    (track n : Nat) :
    portion (signedShare extra n) targets track = -portion (share (-extra) n) targets track := by
  have hshare : ∀ k, signedShare extra n k = -share (-extra) n k := fun k => if_neg h.not_gt
  unfold portion
  cases targets.idxOf? track with
  | none => rfl
  | some k => exact hshare k

theorem portion_share_nonneg {m : Int} (h : 0 ≤ m) (targets : List Nat) (track n : Nat) :
    0 ≤ portion (share m n) targets track := by
  unfold portion
  cases targets.idxOf? track with
  | none => exact le_rfl
  | some k => exact share_nonneg h n k

/-! ## The sizes of the tracks -/

/-- A track gets its portion, or gives it up as far as it can. -/
theorem exactSize_eq_max {extra size : Int} (hsize : 0 ≤ size) (targets : List Nat) (track : Nat) :
    exactSize extra targets track size =
      max 0 (size + portion (signedShare extra targets.length) targets track) := by
  unfold exactSize portion
  cases targets.idxOf? track with
  | none => simpa using hsize
  | some k => rfl

theorem getD_exactResize (extra : Int) (targets : List Nat) {sizes : List Int} {track : Nat}
    (h : track < sizes.length) :
    (exactResize extra targets sizes).getD track 0 =
      exactSize extra targets track (sizes.getD track 0) := by
  simp [exactResize, h]

section Sums

variable {extra : Int} {targets : List Nat} {sizes : List Int}

/-- The sizes with what falls to the tracks, whether or not they have it to give up. -/
theorem sum_add_portion (extra : Int) (hnodup : targets.Nodup) (hne : targets ≠ [])
    (hlt : ∀ track ∈ targets, track < sizes.length) :
    (sizes.zipIdx.map fun p =>
        p.1 + portion (signedShare extra targets.length) targets p.2).sum = sizes.sum + extra := by
  rw [List.sum_map_add, sum_zipIdx_portion hnodup hlt,
    sum_signedShare extra (List.length_pos_of_ne_nil hne)]
  congr 1
  exact congrArg List.sum (List.zipIdx_map_fst 0 sizes)

/-- A longer axis is filled. -/
theorem sum_exactResize (hextra : 0 ≤ extra) (hnodup : targets.Nodup) (hne : targets ≠ [])
    (hlt : ∀ track ∈ targets, track < sizes.length) (hn : ∀ size ∈ sizes, 0 ≤ size) :
    (exactResize extra targets sizes).sum = sizes.sum + extra := by
  rw [← sum_add_portion extra hnodup hne hlt]
  refine congrArg List.sum (List.map_congr_left ?_)
  rintro ⟨size, track⟩ hmem
  have hsize : 0 ≤ size := hn size (List.fst_mem_of_mem_zipIdx hmem)
  have hportion := portion_share_nonneg hextra targets track targets.length
  rw [exactSize_eq_max hsize, portion_signedShare_of_nonneg hextra]
  exact max_eq_right (add_nonneg hsize hportion)

/-- A shorter axis does not end before its length, nor after its least sizes. -/
theorem sum_exactResize_bounds (hextra : extra ≤ 0) (hnodup : targets.Nodup)
    (hlt : ∀ track ∈ targets, track < sizes.length) (hn : ∀ size ∈ sizes, 0 ≤ size) :
    sizes.sum + extra ≤ (exactResize extra targets sizes).sum ∧
      (exactResize extra targets sizes).sum ≤ sizes.sum := by
  have hsum := sum_exactResize_le hextra hnodup hlt
  have hle := (exactResize_le hextra targets sizes).sum_le_sum
  rw [exactResize_zero hn] at hsum hle
  omega

/-- A shorter axis ends at its length exactly if every target has its part to give up. -/
theorem sum_exactResize_eq_iff (hextra : extra < 0) (hnodup : targets.Nodup) (hne : targets ≠ [])
    (hlt : ∀ track ∈ targets, track < sizes.length) (hn : ∀ size ∈ sizes, 0 ≤ size) :
    (exactResize extra targets sizes).sum = sizes.sum + extra ↔
      ∀ track ∈ targets,
        portion (share (-extra) targets.length) targets track ≤ sizes.getD track 0 := by
  have hsize : ∀ p ∈ sizes.zipIdx, exactSize extra targets p.2 p.1 =
      max 0 (p.1 + portion (signedShare extra targets.length) targets p.2) := fun p hp =>
    exactSize_eq_max (hn p.1 (List.fst_mem_of_mem_zipIdx hp)) targets p.2
  have hsizes := sum_add_portion extra hnodup hne hlt
  constructor
  · intro hsum track htrack
    by_contra hmore
    -- a track that has less than its part keeps the whole above what is left of the axis
    have hlt' := hlt track htrack
    have hmem : (sizes.getD track 0, track) ∈ sizes.zipIdx := by
      rw [List.mem_zipIdx_iff_getElem?]
      simp [List.getElem?_eq_getElem hlt']
    have hstrict : (sizes.zipIdx.map fun p =>
          p.1 + portion (signedShare extra targets.length) targets p.2).sum <
        (exactResize extra targets sizes).sum := by
      refine List.sum_lt_sum _ _ (fun p hp => ?_) ⟨_, hmem, ?_⟩
      · rw [hsize p hp]
        exact le_max_right 0 _
      · rw [hsize _ hmem, portion_signedShare_of_neg hextra]
        dsimp only
        omega
    omega
  · intro hparts
    rw [← hsizes]
    refine congrArg List.sum (List.map_congr_left ?_)
    rintro ⟨size, track⟩ hmem
    rw [hsize _ hmem]
    refine max_eq_right ?_
    have hnonneg : 0 ≤ size := hn size (List.fst_mem_of_mem_zipIdx hmem)
    by_cases htrack : track ∈ targets
    · have hpart := hparts track htrack
      have hget : sizes.getD track 0 = size := by
        rw [List.mem_zipIdx_iff_getElem?] at hmem
        simp [hmem]
      rw [portion_signedShare_of_neg hextra]
      dsimp only
      omega
    · rw [portion_of_not_mem htrack]
      simpa using hnonneg

end Sums

end Sizing

/-! ## The edges of an axis -/

namespace IndexSet

theorem pairwise_below (s : IndexSet) (count : Nat) : (s.below count).Pairwise (· < ·) :=
  s.ascending.filter _

/-- Sets with the same members on an axis list the same ones. -/
theorem below_congr {s s' : IndexSet} {count : Nat}
    (h : ∀ track < count, track ∈ s' ↔ track ∈ s) : s'.below count = s.below count := by
  refine (s'.pairwise_below count).eq_of_mem_iff (s.pairwise_below count) fun track => ?_
  rw [mem_below, mem_below]
  exact and_congr_left fun hlt => h track hlt

end IndexSet

/-- The length of a track between its edges. -/
def trackAt (edges : List Int) (track : Nat) : Int := edgeAt edges (track + 1) - edgeAt edges track

theorem trackAt_of_boundaries {start : Int} {sizes edges : List Int}
    (h : boundaries start sizes = .ok edges) {track : Nat} (htrack : track < sizes.length) :
    trackAt edges track = sizes.getD track 0 := by
  rw [trackAt, edgeAt_of_boundaries h htrack, edgeAt_of_boundaries h htrack.le,
    List.sum_take_succ sizes track htrack, List.getD_eq_getElem?_getD,
    List.getElem?_eq_getElem htrack, Option.getD_some]
  omega

namespace Sizing

/-- The edges distribute the length of an axis: the first one is at the start, none lies before the
one before it, and from `sizes`, the least sizes of the tracks, only the resizable tracks of the
axis differ. If there are such tracks, a longer axis is filled, and its resizable tracks grow by
fair parts of what it is longer. On a shorter one they give up fair parts of what it is shorter,
each as far as it has its part, and the axis ends at its length if all of them have. -/
structure Distributed (s : Sizing) (total : Int) (resizable : IndexSet) (sizes edges : List Int) :
    Prop where
  length_eq : edges.length = s.count + 1
  first_eq : edgeAt edges 0 = 0
  ascending : edges.Pairwise (· ≤ ·)
  kept : ∀ track < s.count, track ∉ resizable → trackAt edges track = sizes.getD track 0
  idle : resizable.below s.count = [] → edgeAt edges s.count = sizes.sum
  longer : resizable.below s.count ≠ [] → sizes.sum ≤ total →
    edgeAt edges s.count = total ∧
      Fair (total - sizes.sum) (resizable.below s.count) fun track =>
        trackAt edges track - sizes.getD track 0
  shorter : resizable.below s.count ≠ [] → total < sizes.sum →
    ∃ part, Fair (sizes.sum - total) (resizable.below s.count) part ∧
      (∀ track ∈ resizable.below s.count,
        trackAt edges track = max 0 (sizes.getD track 0 - part track)) ∧
      total ≤ edgeAt edges s.count ∧ edgeAt edges s.count ≤ sizes.sum ∧
      (edgeAt edges s.count = total ↔
        ∀ track ∈ resizable.below s.count, part track ≤ sizes.getD track 0)

variable {s : Sizing} {total : Int} {resizable : IndexSet} {edges : List Int}

/-- Edges never decrease, from the first one to the last. -/
theorem pairwise_edges (h : s.edges total resizable = .ok edges) : edges.Pairwise (· ≤ ·) := by
  have hlength := length_edges h
  refine List.pairwise_iff_getElem.mpr fun i j hi hj hij => ?_
  have hle := edges_mono h hij.le (by omega)
  simpa [edgeAt, hi, hj] using hle

/-- Tracks outside of an axis make no difference to it. -/
theorem edges_congr {resizable' : IndexSet}
    (h : ∀ track < s.count, track ∈ resizable' ↔ track ∈ resizable) :
    s.edges total resizable' = s.edges total resizable := by
  rw [Sizing.edges, Sizing.edges, IndexSet.below_congr h]

section Tracks

variable {sizes : List Int}

/-- A track of an axis gets its portion of the difference, or gives it up as far as it can. -/
theorem trackAt_eq_max (h : s.edges total resizable = .ok edges) (hsizes : s.minSizes = .ok sizes)
    {track : Nat} (htrack : track < s.count) :
    trackAt edges track = max 0 (sizes.getD track 0 +
      portion (signedShare (total - sizes.sum) (resizable.below s.count).length)
        (resizable.below s.count) track) := by
  obtain ⟨sizes', hsizes', hedges⟩ := edges_spec h
  cases hsizes.symm.trans hsizes'
  have hlength := length_minSizes hsizes
  rw [trackAt_of_boundaries hedges (by rw [length_exactResize]; omega),
    getD_exactResize _ _ (by omega), exactSize_eq_max (minSize_nonneg hsizes track)]

/-- The last edge is the sum of all sizes. -/
theorem edgeAt_count (h : s.edges total resizable = .ok edges) (hsizes : s.minSizes = .ok sizes) :
    edgeAt edges s.count =
      (exactResize (total - sizes.sum) (resizable.below s.count) sizes).sum := by
  obtain ⟨sizes', hsizes', hedges⟩ := edges_spec h
  cases hsizes.symm.trans hsizes'
  have hlength := length_minSizes hsizes
  rw [edgeAt_of_boundaries hedges (by rw [length_exactResize]; omega),
    List.take_of_length_le (by rw [length_exactResize]; omega), zero_add]

theorem lt_of_mem_targets (hsizes : s.minSizes = .ok sizes) :
    ∀ track ∈ resizable.below s.count, track < sizes.length := fun _ htrack =>
  length_minSizes hsizes ▸ IndexSet.lt_of_mem_below htrack

/-- A longer axis is filled, and its resizable tracks grow by fair parts. -/
theorem edges_longer (h : s.edges total resizable = .ok edges) (hsizes : s.minSizes = .ok sizes)
    (hne : resizable.below s.count ≠ []) (hle : sizes.sum ≤ total) :
    edgeAt edges s.count = total ∧
      Fair (total - sizes.sum) (resizable.below s.count) fun track =>
        trackAt edges track - sizes.getD track 0 := by
  have hextra : 0 ≤ total - sizes.sum := Int.sub_nonneg_of_le hle
  constructor
  · rw [edgeAt_count h hsizes, sum_exactResize hextra (resizable.nodup_below s.count) hne
      (lt_of_mem_targets hsizes) (minSizes_nonneg hsizes)]
    omega
  · refine (fair_portion _ (resizable.pairwise_below s.count) hne).congr fun track htrack => ?_
    have hsize := minSize_nonneg hsizes track
    have hportion := portion_share_nonneg hextra (resizable.below s.count) track
      (resizable.below s.count).length
    rw [trackAt_eq_max h hsizes (IndexSet.lt_of_mem_below htrack),
      portion_signedShare_of_nonneg hextra]
    omega

/-- The resizable tracks of a shorter axis give up fair parts, each as far as it has its part. -/
theorem edges_shorter (h : s.edges total resizable = .ok edges) (hsizes : s.minSizes = .ok sizes)
    (hne : resizable.below s.count ≠ []) (hlt : total < sizes.sum) :
    ∃ part, Fair (sizes.sum - total) (resizable.below s.count) part ∧
      (∀ track ∈ resizable.below s.count,
        trackAt edges track = max 0 (sizes.getD track 0 - part track)) ∧
      total ≤ edgeAt edges s.count ∧ edgeAt edges s.count ≤ sizes.sum ∧
      (edgeAt edges s.count = total ↔
        ∀ track ∈ resizable.below s.count, part track ≤ sizes.getD track 0) := by
  have hextra : total - sizes.sum < 0 := Int.sub_neg_of_lt hlt
  have hmagnitude : -(total - sizes.sum) = sizes.sum - total := Int.neg_sub total sizes.sum
  have hbounds := sum_exactResize_bounds hextra.le (resizable.nodup_below s.count)
    (lt_of_mem_targets hsizes) (minSizes_nonneg hsizes)
  have hmet := sum_exactResize_eq_iff hextra (resizable.nodup_below s.count) hne
    (lt_of_mem_targets hsizes) (minSizes_nonneg hsizes)
  rw [← edgeAt_count h hsizes, add_sub_cancel sizes.sum total] at hbounds hmet
  rw [hmagnitude] at hmet
  refine ⟨_, fair_portion _ (resizable.pairwise_below s.count) hne, ?_, hbounds.1, hbounds.2, hmet⟩
  intro track htrack
  rw [trackAt_eq_max h hsizes (IndexSet.lt_of_mem_below htrack),
    portion_signedShare_of_neg hextra, hmagnitude, Int.add_neg_eq_sub]

/-- The edges of an axis distribute its length among its resizable tracks. -/
theorem distributed (h : s.edges total resizable = .ok edges) (hsizes : s.minSizes = .ok sizes) :
    s.Distributed total resizable sizes edges where
  length_eq := length_edges h
  first_eq := edgeAt_zero h
  ascending := pairwise_edges h
  kept track htrack hnot := by
    have hnone : track ∉ resizable.below s.count := fun hmem => hnot (IndexSet.mem_below.mp hmem).1
    rw [trackAt_eq_max h hsizes htrack, portion_of_not_mem hnone, add_zero,
      max_eq_right (minSize_nonneg hsizes track)]
  idle hnone := by
    rw [edgeAt_count h hsizes, hnone, exactResize_nil]
  longer := edges_longer h hsizes
  shorter := edges_shorter h hsizes

end Tracks

/-- The edges of an axis distribute its length among its resizable tracks, and tracks outside of the
axis make no difference. -/
theorem edges_distributed (h : s.edges total resizable = .ok edges) :
    (∃ sizes, s.minSizes = .ok sizes ∧ s.Distributed total resizable sizes edges) ∧
      ∀ resizable' : IndexSet, (∀ track < s.count, track ∈ resizable' ↔ track ∈ resizable) →
        s.edges total resizable' = .ok edges := by
  refine ⟨?_, fun resizable' hmem => (edges_congr hmem).trans h⟩
  obtain ⟨sizes, hsizes, -⟩ := edges_spec h
  exact ⟨sizes, hsizes, distributed h hsizes⟩

end Sizing

namespace Form

/-- Four tracks, of which the third is short and the last is stretched by a demand on both. -/
def shelf : Sizing :=
  ⟨[⟨0, 1, 100⟩, ⟨1, 1, 20⟩, ⟨2, 1, 3⟩, ⟨2, 2, 40⟩, ⟨3, 1, 30⟩]⟩

/-- The shelf is 20 shorter than its least sizes. The third track has less than its part to give up,
so the axis does not end at its length; a tenth track is none of the shelf. -/
theorem shelf_distributed : ∃ edges part, shelf.minSizes = .ok [100, 20, 3, 37] ∧
    shelf.edges 140 (.ofList [1, 2, 3, 9]) = .ok edges ∧
    shelf.edges 140 (.ofList [1, 2, 3]) = .ok edges ∧
    edges = [0, 100, 113, 113, 144] ∧ trackAt edges 0 = 100 ∧ Fair 20 [1, 2, 3] part ∧
    trackAt edges 1 = max 0 (20 - part 1) ∧ trackAt edges 2 = max 0 (3 - part 2) ∧
    ¬ ∀ track ∈ [1, 2, 3], part track ≤ [100, 20, 3, 37].getD track 0 := by
  have hedges : shelf.edges 140 (.ofList [1, 2, 3, 9]) = .ok [0, 100, 113, 113, 144] := rfl
  obtain ⟨⟨sizes, hsizes, distributed⟩, houtside⟩ := Sizing.edges_distributed hedges
  obtain rfl : [100, 20, 3, 37] = sizes := Except.ok.inj hsizes
  obtain ⟨part, fair, hparts, -, -, hends⟩ := distributed.shorter (by decide) (by decide)
  refine ⟨_, part, rfl, hedges, houtside _ ?_, rfl, distributed.kept 0 (by decide) ?_, fair,
    hparts 1 (by decide), hparts 2 (by decide), fun hmet => absurd (hends.mpr hmet) (by decide)⟩
  · intro track htrack
    have htrack : track < 4 := htrack
    simp only [IndexSet.mem_ofList, List.mem_cons, List.not_mem_nil, or_false]
    omega
  · simp

end Form

end FormGrid
