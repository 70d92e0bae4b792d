import FormGrid.Proofs.Sizing.Shares

/-!
# Edges of an axis

The edges of the tracks of an axis are the running sums of sizes that come from the least sizes by
sharing out what the axis is longer or shorter. They never decrease. On an axis that has at least
its preferred length every demand is met and no edge lies beyond the end. When the axis grows,
every stretch between two edges grows, and none by more than the axis does.

## Main definitions

* `Grows`: one length is no less than another and exceeds it by no more than a bound
* `EdgesGrow`: all stretches between the edges of an axis grow

## Main results

* `Sizing.edges_mono`: edges never decrease
* `Sizing.edges_meet`, `Sizing.edgeAt_le_total`: an axis of the preferred length or more
* `Sizing.edges_grow`: an axis that is made longer
-/

namespace FormGrid

/-- The second length is no less than the first and exceeds it by no more than `δ`. -/
def Grows (δ length length' : Int) : Prop := length ≤ length' ∧ length' ≤ length + δ

/-- Every stretch between two edges grows, by no more than `δ`. -/
structure EdgesGrow (δ : Int) (edges edges' : List Int) : Prop where
  length_eq : edges'.length = edges.length
  first : edgeAt edges' 0 = edgeAt edges 0
  widen : ∀ {i j : Nat}, i ≤ j → j < edges.length →
    Grows δ (edgeAt edges j - edgeAt edges i) (edgeAt edges' j - edgeAt edges' i)

/-! ## Running sums -/

/-- A boundary is the sum of the sizes before it. -/
theorem getElem?_of_boundaries_eq_ok {start : Int} {sizes edges : List Int}
    (h : boundaries start sizes = .ok edges) {i : Nat} (hi : i ≤ sizes.length) :
    edges[i]? = some (start + (sizes.take i).sum) := by
  induction sizes generalizing start edges i with
  | nil =>
    cases h
    obtain rfl : i = 0 := by simpa using hi
    simp
  | cons size sizes ih =>
    obtain ⟨next, hnext, htail⟩ := Checked.bind_eq_ok_iff.mp h
    obtain ⟨rest, hrest, hedges⟩ := Checked.bind_eq_ok_iff.mp htail
    cases hedges
    cases i with
    | zero => simp
    | succ i =>
      rw [List.getElem?_cons_succ, ih hrest (by simpa using hi), (Pixel.add_eq_ok_iff.mp hnext).1,
        List.take_succ_cons, List.sum_cons, Int.add_assoc]

theorem edgeAt_of_boundaries {start : Int} {sizes edges : List Int}
    (h : boundaries start sizes = .ok edges) {i : Nat} (hi : i ≤ sizes.length) :
    edgeAt edges i = start + (sizes.take i).sum := by
  rw [edgeAt, List.getD_eq_getElem?_getD, getElem?_of_boundaries_eq_ok h hi, Option.getD_some]

/-- A running sum continues with the sizes of the tracks in between. -/
theorem sum_take_eq {sizes : List Int} {i j : Nat} (hij : i ≤ j) :
    (sizes.take j).sum = (sizes.take i).sum + ((sizes.take j).drop i).sum := by
  rw [← List.sum_append]
  congr 1
  conv_lhs => rw [← List.take_append_drop i (sizes.take j), List.take_take, min_eq_left hij]

theorem sum_take_mono {sizes : List Int} (hn : ∀ size ∈ sizes, 0 ≤ size) {i j : Nat} (hij : i ≤ j) :
    (sizes.take i).sum ≤ (sizes.take j).sum := by
  rw [sum_take_eq hij]
  have := List.sum_nonneg fun size (hsize : size ∈ (sizes.take j).drop i) =>
    hn size (List.mem_of_mem_take (List.mem_of_mem_drop hsize))
  omega

/-- Between two tracks, running sums of greater sizes grow more. -/
theorem sum_take_grows {sizes sizes' : List Int} (h : SizesLE sizes sizes') {i j : Nat}
    (hij : i ≤ j) :
    (sizes.take j).sum - (sizes.take i).sum ≤ (sizes'.take j).sum - (sizes'.take i).sum := by
  have hle := (List.forall₂_drop i (List.forall₂_take j h)).sum_le_sum
  have hsizes : (sizes.take j).sum = _ := sum_take_eq hij
  have hsizes' : (sizes'.take j).sum = _ := sum_take_eq hij
  omega

/-- The edges of greater sizes, when all sizes together grow by no more than `δ`. -/
theorem edgesGrow_of_boundaries {δ : Int} {sizes sizes' edges edges' : List Int}
    (h : boundaries 0 sizes = .ok edges) (h' : boundaries 0 sizes' = .ok edges')
    (hle : SizesLE sizes sizes') (hsum : sizes'.sum ≤ sizes.sum + δ) :
    EdgesGrow δ edges edges' := by
  have hlength := hle.length_eq
  have hedges := length_of_boundaries_eq_ok h
  have hedge : ∀ i ≤ sizes.length, edgeAt edges i = (sizes.take i).sum ∧
      edgeAt edges' i = (sizes'.take i).sum := by
    intro i hi
    rw [edgeAt_of_boundaries h hi, edgeAt_of_boundaries h' (hlength ▸ hi), zero_add, zero_add]
    exact ⟨rfl, rfl⟩
  refine ⟨by rw [length_of_boundaries_eq_ok h', hedges, hlength], ?_, ?_⟩
  · rw [(hedge 0 (Nat.zero_le _)).1, (hedge 0 (Nat.zero_le _)).2, List.take_zero, List.take_zero]
  · intro i j hij hj
    have hjlen : j ≤ sizes.length := by omega
    obtain ⟨hi, hi'⟩ := hedge i (hij.trans hjlen)
    obtain ⟨hj, hj'⟩ := hedge j hjlen
    -- what lies before, between and after the two edges grows by `δ` in all
    have hbefore := sum_take_grows hle (Nat.zero_le i)
    have hbetween := sum_take_grows hle hij
    have hafter := sum_take_grows hle hjlen
    rw [List.take_length, hlength, List.take_length] at hafter
    simp only [List.take_zero, List.sum_nil] at hbefore
    rw [hi, hi', hj, hj']
    constructor <;> omega

/-! ## The edges of an axis -/

namespace IndexSet

theorem nodup_below (s : IndexSet) (count : Nat) : (s.below count).Nodup :=
  (s.ascending.filter _).imp fun hlt => hlt.ne

theorem lt_of_mem_below {s : IndexSet} {count n : Nat} (h : n ∈ s.below count) : n < count :=
  (mem_below.mp h).2

end IndexSet

namespace Sizing

theorem exactResize_nonneg (extra : Int) (targets : List Nat) {sizes : List Int}
    (hn : ∀ size ∈ sizes, 0 ≤ size) : ∀ size ∈ exactResize extra targets sizes, 0 ≤ size := by
  intro size hsize
  obtain ⟨⟨old, track⟩, hmem, rfl⟩ := List.mem_map.mp hsize
  unfold exactSize
  split
  · exact hn old (List.fst_mem_of_mem_zipIdx hmem)
  · exact le_max_left 0 _

variable {s : Sizing} {total p : Int} {resizable : IndexSet} {edges : List Int}

/-- The edges bound the least sizes after the difference has been shared out. -/
theorem edges_spec (h : s.edges total resizable = .ok edges) :
    ∃ sizes, s.minSizes = .ok sizes ∧
      boundaries 0 (exactResize (total - sizes.sum) (resizable.below s.count) sizes) =
        .ok edges := by
  simp only [Sizing.edges, Checked.bind_eq_ok_iff] at h
  obtain ⟨sizes, hsizes, sum, hsum, extra, hextra, resized, hresized, hedges⟩ := h
  rw [(Pixel.sub_eq_ok_iff.mp hextra).1, Pixel.eq_sum_of_sum_eq_ok hsum] at hresized
  rw [resize_eq_ok (minSizes_nonneg hsizes) hresized] at hedges
  exact ⟨sizes, hsizes, hedges⟩

theorem length_edges (h : s.edges total resizable = .ok edges) : edges.length = s.count + 1 := by
  obtain ⟨sizes, hsizes, hedges⟩ := edges_spec h
  rw [length_of_boundaries_eq_ok hedges, length_exactResize, length_minSizes hsizes]

theorem edgeAt_zero (h : s.edges total resizable = .ok edges) : edgeAt edges 0 = 0 := by
  obtain ⟨sizes, -, hedges⟩ := edges_spec h
  simpa using edgeAt_of_boundaries hedges (Nat.zero_le _)

/-- Edges never decrease. -/
theorem edges_mono (h : s.edges total resizable = .ok edges) {i j : Nat} (hij : i ≤ j)
    (hj : j ≤ s.count) : edgeAt edges i ≤ edgeAt edges j := by
  obtain ⟨sizes, hsizes, hedges⟩ := edges_spec h
  have hlength := length_minSizes hsizes
  rw [edgeAt_of_boundaries hedges (by rw [length_exactResize]; omega),
    edgeAt_of_boundaries hedges (by rw [length_exactResize]; omega)]
  have := sum_take_mono (exactResize_nonneg (total - sizes.sum) (resizable.below s.count)
    (minSizes_nonneg hsizes)) hij
  omega

theorem sum_run_eq {d : Demand} {sizes : List Int} :
    (d.run sizes).sum = (sizes.take d.stop).sum - (sizes.take d.start).sum := by
  have hstart : d.start ≤ d.stop := Nat.le_add_right d.start d.span
  rw [sum_take_eq hstart, Demand.run, Demand.stop, List.take_drop]
  omega

theorem preferred_eq_ok (h : s.preferred = .ok p) {sizes : List Int}
    (hsizes : s.minSizes = .ok sizes) : p = sizes.sum := by
  simp only [preferred, Checked.bind_eq_ok_iff] at h
  obtain ⟨sizes', hsizes', hsum⟩ := h
  cases hsizes.symm.trans hsizes'
  exact Pixel.eq_sum_of_sum_eq_ok hsum

/-- On an axis of the preferred length or more, every demand on a run that is not empty is met. -/
theorem edges_meet (h : s.edges total resizable = .ok edges) (hp : s.preferred = .ok p)
    (hle : p ≤ total) {d : Demand} (hd : d ∈ s.demands) (hspan : 1 ≤ d.span) :
    d.size ≤ edgeAt edges d.stop - edgeAt edges d.start := by
  obtain ⟨sizes, hsizes, hedges⟩ := edges_spec h
  rw [preferred_eq_ok hp hsizes] at hle
  have hgrown := exactResize_le (Int.sub_nonneg_of_le hle) (resizable.below s.count) sizes
  rw [exactResize_zero (minSizes_nonneg hsizes)] at hgrown
  have hstop : d.stop ≤ sizes.length := by rw [length_minSizes hsizes]; exact stop_le_count hd
  have hstart : d.start ≤ d.stop := Nat.le_add_right _ _
  calc d.size ≤ (d.run sizes).sum := minSizes_meet hsizes hd hspan
    _ ≤ (d.run (exactResize (total - sizes.sum) (resizable.below s.count) sizes)).sum :=
      hgrown.sum_run_le d
    _ = edgeAt edges d.stop - edgeAt edges d.start := by
      rw [sum_run_eq, edgeAt_of_boundaries hedges (by rw [length_exactResize]; omega),
        edgeAt_of_boundaries hedges (by rw [length_exactResize]; omega)]
      omega

/-- No edge lies beyond the end of an axis of the preferred length or more. -/
theorem edgeAt_le_total (h : s.edges total resizable = .ok edges) (hp : s.preferred = .ok p)
    (hle : p ≤ total) {i : Nat} (hi : i ≤ s.count) : edgeAt edges i ≤ total := by
  obtain ⟨sizes, hsizes, hedges⟩ := edges_spec h
  have hlength := length_minSizes hsizes
  rw [preferred_eq_ok hp hsizes] at hle
  have hlt : ∀ track ∈ resizable.below s.count, track < sizes.length := fun track htrack =>
    hlength ▸ IndexSet.lt_of_mem_below htrack
  have hsum := sum_exactResize_le (Int.sub_nonneg_of_le hle) (resizable.nodup_below s.count) hlt
  rw [exactResize_zero (minSizes_nonneg hsizes)] at hsum
  have hcount : s.count ≤ (exactResize (total - sizes.sum) (resizable.below s.count) sizes).length :=
    by rw [length_exactResize, hlength]
  have hlast := edgeAt_of_boundaries hedges hcount
  rw [List.take_of_length_le (by rw [length_exactResize, hlength])] at hlast
  have := edges_mono h hi le_rfl
  omega

/-- When an axis is made longer, every stretch between its edges grows, and none by more than
the axis. -/
theorem edges_grow {total' : Int} {edges' : List Int} (h : s.edges total resizable = .ok edges)
    (h' : s.edges total' resizable = .ok edges') (hle : total ≤ total') :
    EdgesGrow (total' - total) edges edges' := by
  obtain ⟨sizes, hsizes, hedges⟩ := edges_spec h
  obtain ⟨sizes', hsizes', hedges'⟩ := edges_spec h'
  cases hsizes.symm.trans hsizes'
  have hextra : total - sizes.sum ≤ total' - sizes.sum := Int.sub_le_sub_right hle _
  have hlt : ∀ track ∈ resizable.below s.count, track < sizes.length := fun track htrack =>
    length_minSizes hsizes ▸ IndexSet.lt_of_mem_below htrack
  have hsum := sum_exactResize_le hextra (resizable.nodup_below s.count) hlt
  exact edgesGrow_of_boundaries hedges hedges' (exactResize_le hextra _ sizes) (by omega)

end Sizing

end FormGrid
