import FormGrid.Proofs.Sizing.Edges

/-!
# Demands on empty runs

A demand on no tracks at all asks for no length. What it does is to make the axis reach up to its
start: the tracks that this adds have no least size, and the least sizes of the others stay. The
edges of the others stay as well, unless an added track gets a share that would have been theirs.

## Main results

* `Sizing.minSizes_append_idle`, `Sizing.preferred_append_idle`: sizes after such a demand
* `Sizing.edgeAt_append_idle`: edges after such a demand
-/

namespace FormGrid

/-! ## Sizes followed by further sizes -/

namespace Demand

theorem run_append {d : Demand} {sizes : List Int} (hstop : d.stop ≤ sizes.length)
    (more : List Int) : d.run (sizes ++ more) = d.run sizes := by
  unfold stop at hstop
  rw [run, run, List.drop_append_of_le_length (by omega),
    List.take_append_of_le_length (by rw [List.length_drop]; omega)]

/-- Tracks after those of the run have no part in a stretch. -/
theorem stretch_append {d : Demand} {sizes sizes' : List Int} (hspan : 1 ≤ d.span)
    (hstop : d.stop ≤ sizes.length) (more : List Int) (h : d.stretch sizes = .ok sizes') :
    d.stretch (sizes ++ more) = .ok (sizes' ++ more) := by
  have hlast : d.stop - 1 < sizes.length := by unfold stop at hstop ⊢; omega
  simp only [stretch, Checked.bind_eq_ok_iff] at h ⊢
  obtain ⟨current, hcurrent, h⟩ := h
  refine ⟨current, by rw [run_append hstop]; exact hcurrent, ?_⟩
  split at h
  case isTrue hlt =>
    simp only [Checked.bind_eq_ok_iff, Checked.pure_eq_ok_iff] at h
    obtain ⟨lacking, hlacking, last, hadd, rfl⟩ := h
    simp only [if_pos hlt, Checked.bind_eq_ok_iff, Checked.pure_eq_ok_iff]
    refine ⟨lacking, hlacking, last, ?_, List.set_append_left _ _ hlast⟩
    rw [List.getD_eq_getElem?_getD, List.getElem?_append_left hlast,
      ← List.getD_eq_getElem?_getD]
    exact hadd
  case isFalse hle =>
    rw [if_neg hle, Checked.pure_eq_ok_iff.mp h]
    rfl

end Demand

namespace Sizing

theorem foldlM_stretch_append {ds : List Demand} {start sizes : List Int}
    (hrun : ∀ d ∈ ds, 1 ≤ d.span ∧ d.stop ≤ start.length) (more : List Int)
    (h : ds.foldlM (fun sizes d => d.stretch sizes) start = .ok sizes) :
    ds.foldlM (fun sizes d => d.stretch sizes) (start ++ more) = .ok (sizes ++ more) := by
  induction ds generalizing start with
  | nil =>
    rw [List.foldlM_nil, Checked.pure_eq_ok_iff] at h ⊢
    rw [h]
  | cons d ds ih =>
    rw [List.foldlM_cons] at h ⊢
    obtain ⟨next, hnext, hrest⟩ := Checked.bind_eq_ok_iff.mp h
    obtain ⟨hd, hds⟩ := List.forall_mem_cons.mp hrun
    have hlength := (Demand.stretch_le hnext).length_eq
    exact Checked.bind_eq_ok_iff.mpr
      ⟨next ++ more, Demand.stretch_append hd.1 hd.2 more hnext, ih (hlength ▸ hds) hrest⟩

/-- What is shared out among further tracks does not change the sizes of the first ones. -/
theorem take_exactResize_append (extra : Int) (targets : List Nat) (sizes more : List Int) {i : Nat}
    (hi : i ≤ sizes.length) :
    (exactResize extra targets (sizes ++ more)).take i =
      (exactResize extra targets sizes).take i := by
  unfold exactResize
  -- the share of a track depends on its number and on the targets, not on other sizes
  rw [List.zipIdx_append, List.map_append, List.take_append_of_le_length (by simpa using hi)]

/-! ## A demand on no tracks -/

variable {s : Sizing} {d : Demand}

theorem count_append (s : Sizing) (d : Demand) :
    (mk (s.demands ++ [d])).count = max s.count d.stop := by
  simp [count]

theorem singleSize_append_idle (hspan : d.span = 0) (track : Nat) :
    (mk (s.demands ++ [d])).singleSize track = s.singleSize track := by
  simp [singleSize, List.filter_append, hspan]

/-- No run is longer than the axis. -/
theorem flatMap_filter_span {n : Nat} (h : s.count - 1 ≤ n) :
    ((List.range' 2 n).flatMap fun span => s.demands.filter (·.span = span)) = s.spanning := by
  obtain ⟨k, rfl⟩ := Nat.exists_eq_add_of_le h
  have hnone : (List.range' (2 + (s.count - 1)) k).flatMap
      (fun span => s.demands.filter (·.span = span)) = [] := by
    rw [List.flatMap_eq_nil_iff]
    intro span hspan
    rw [List.filter_eq_nil_iff]
    intro d hd heq
    have hstop := stop_le_count hd
    have hlong := (List.mem_range'_1.mp hspan).1
    unfold Demand.stop at hstop
    simp only [decide_eq_true_eq] at heq
    omega
  have hrange : List.range' 2 (s.count - 1 + k) =
      List.range' 2 (s.count - 1) ++ List.range' (2 + (s.count - 1)) k := by
    rw [List.range'_append_1]
  rw [hrange, List.flatMap_append, hnone, List.append_nil, spanning]

theorem spanning_append_idle (hspan : d.span = 0) :
    (mk (s.demands ++ [d])).spanning = s.spanning := by
  have hfilter : ∀ span ∈ List.range' 2 ((mk (s.demands ++ [d])).count - 1),
      (s.demands ++ [d]).filter (·.span = span) = s.demands.filter (·.span = span) := by
    intro span hmem
    have hlong := (List.mem_range'_1.mp hmem).1
    have hne : ¬ d.span = span := by omega
    simp [List.filter_append, hne]
  have hcount := count_append s d
  calc (mk (s.demands ++ [d])).spanning
      = (List.range' 2 ((mk (s.demands ++ [d])).count - 1)).flatMap
          fun span => s.demands.filter (·.span = span) := List.flatMap_congr hfilter
    _ = s.spanning := flatMap_filter_span (by omega)

/-- The tracks that are added have no least size. -/
theorem minSizes_append_idle {sizes : List Int} (hspan : d.span = 0) (h : s.minSizes = .ok sizes) :
    ∃ n, (mk (s.demands ++ [d])).minSizes = .ok (sizes ++ List.replicate n 0) := by
  obtain ⟨n, hn⟩ := Nat.exists_eq_add_of_le (le_max_left s.count d.stop)
  refine ⟨n, ?_⟩
  have hsingles : (List.range (mk (s.demands ++ [d])).count).map
      (mk (s.demands ++ [d])).singleSize =
        (List.range s.count).map s.singleSize ++ List.replicate n 0 := by
    rw [count_append, hn, List.range_add, List.map_append, funext (singleSize_append_idle hspan)]
    congr 1
    rw [List.map_map, List.eq_replicate_iff]
    refine ⟨by simp, ?_⟩
    intro size hsize
    obtain ⟨track, -, rfl⟩ := List.mem_map.mp hsize
    exact singleSize_eq_zero (Nat.le_add_right _ _)
  rw [minSizes, spanning_append_idle hspan, hsingles]
  refine foldlM_stretch_append ?_ _ h
  intro d hd
  obtain ⟨hmem, hlong⟩ := mem_spanning.mp hd
  have hstop := stop_le_count hmem
  exact ⟨by omega, by simpa using hstop⟩

theorem sum_append_replicate_zero (sizes : List Int) (n : Nat) :
    (sizes ++ List.replicate n 0).sum = sizes.sum := by
  simp

/-- The preferred length stays. -/
theorem preferred_append_idle {p p' : Int} (hspan : d.span = 0) (h : s.preferred = .ok p)
    (h' : (mk (s.demands ++ [d])).preferred = .ok p') : p' = p := by
  obtain ⟨sizes, hsizes, -⟩ := Checked.bind_eq_ok_iff.mp h
  obtain ⟨n, hsizes'⟩ := minSizes_append_idle hspan hsizes
  rw [preferred_eq_ok h' hsizes', preferred_eq_ok h hsizes, sum_append_replicate_zero]

/-- The edges stay where they are, if the axis has its preferred length, or if no target is added,
or if there was none before. -/
theorem edgeAt_append_idle {total : Int} {resizable : IndexSet} {edges edges' : List Int}
    (hspan : d.span = 0) (h : s.edges total resizable = .ok edges)
    (h' : (mk (s.demands ++ [d])).edges total resizable = .ok edges')
    (hsteady : s.preferred = .ok total ∨
      (∀ track ∈ resizable, track < d.start → track < s.count) ∨
      ∀ track ∈ resizable, s.count ≤ track)
    {i : Nat} (hi : i ≤ s.count) : edgeAt edges' i = edgeAt edges i := by
  obtain ⟨sizes, hsizes, hedges⟩ := edges_spec h
  obtain ⟨n, hsizes'⟩ := minSizes_append_idle hspan hsizes
  obtain ⟨all, hall, hedges'⟩ := edges_spec h'
  cases hsizes'.symm.trans hall
  have hlength := length_minSizes hsizes
  have hilen : i ≤ sizes.length := by omega
  rw [edgeAt_of_boundaries hedges (by rw [length_exactResize]; exact hilen),
    edgeAt_of_boundaries hedges' (by rw [length_exactResize, List.length_append]; omega),
    sum_append_replicate_zero, take_exactResize_append _ _ _ _ hilen]
  rcases hsteady with hpreferred | hkept | hnone
  · rw [preferred_eq_ok hpreferred hsizes, Int.sub_self, exactResize_zero (minSizes_nonneg hsizes),
      exactResize_zero (minSizes_nonneg hsizes)]
  · have htargets : resizable.below (mk (s.demands ++ [d])).count = resizable.below s.count := by
      have hcount := count_append s d
      refine List.filter_congr fun track htrack => ?_
      have hlt := hkept track htrack
      unfold Demand.stop at hcount
      simp only [decide_eq_decide]
      omega
    rw [htargets]
  · have hafter : ∀ count, ∀ track ∈ resizable.below count, sizes.length ≤ track :=
      fun count track htrack => hlength ▸ hnone track (IndexSet.mem_below.mp htrack).1
    rw [exactResize_of_forall_le _ (hafter _), exactResize_of_forall_le _ (hafter _)]

end Sizing

end FormGrid
