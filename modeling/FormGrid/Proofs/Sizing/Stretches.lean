import FormGrid.Proofs.Sizing.Edges
import Mathlib.Order.Bounds.Basic

/-!
# How tracks come to their sizes

The least sizes come from what demands on single tracks ask for by stretches, one for each demand
on a longer run. What a stretch does is seen from the running sums of the sizes: from the end of
the run on they grow by what the run lacks, and before it they stay. So a statement about the least
sizes is proved of the sizes at first, and then of those after a stretch, given those before it. A
stretch may use which demands have been gone through, since no run among these is longer.

The first such statement is that no track gets more than demands ask for: a track is never longer
than the largest demand whose run ends with it. A track with which no run ends has no length.

## Main definitions

* `Sizing.requireAll`: demands that are made one after the other
* `Sizing.After`, `Sizing.Stretches`: the order of the demands, and a single step of it
* `Sizing.endingSize`: the largest demand that ends with a track

## Main results

* `Sizing.Stretches.sum_take`: the running sums after a stretch
* `Sizing.minSizes_induct`: what all stretches keep
* `Sizing.requireAll_minSizes`: every demand is met, and no track is longer than one that ends there
-/

namespace FormGrid

/-- A largest number is the one to start with or one of the list. -/
theorem foldl_max_eq_or_mem {α : Type} [LinearOrder α] (ns : List α) (start : α) :
    ns.foldl max start = start ∨ ns.foldl max start ∈ ns := by
  induction ns generalizing start with
  | nil => exact .inl rfl
  | cons n ns ih =>
    rw [List.foldl_cons]
    rcases ih (max start n) with hfirst | hmem
    · rw [hfirst]
      refine (max_choice start n).imp_right fun hmax => ?_
      rw [hmax]
      exact List.mem_cons_self
    · exact .inr (List.mem_cons_of_mem _ hmem)

/-- A size is the difference of two running sums. -/
theorem getD_eq_sum_take_sub (sizes : List Int) (track : Nat) :
    sizes.getD track 0 = (sizes.take (track + 1)).sum - (sizes.take track).sum := by
  by_cases htrack : track < sizes.length
  · rw [List.sum_take_succ sizes track htrack, List.getD_eq_getElem?_getD,
      List.getElem?_eq_getElem htrack, Option.getD_some]
    omega
  · rw [List.take_of_length_le (by omega), List.take_of_length_le (by omega),
      List.getD_eq_getElem?_getD, List.getElem?_eq_none (by omega), Option.getD_none, sub_self]

/-! ## The demands on an axis -/

namespace Sizing

/-- The demands, made one after the other on an axis without any. -/
def requireAll (ds : List Demand) : Checked Sizing := ds.foldlM require empty

theorem foldlM_require_eq_ok_iff {ds : List Demand} {s s' : Sizing} :
    ds.foldlM require s = .ok s' ↔
      (∀ d ∈ ds, d.stop < Index.limit) ∧ s' = ⟨s.demands ++ ds⟩ := by
  induction ds generalizing s with
  | nil =>
    rw [List.foldlM_nil, Checked.pure_eq_ok_iff, List.append_nil, eq_comm]
    simp
  | cons d ds ih =>
    simp only [List.foldlM_cons, Checked.bind_eq_ok_iff, require_eq_ok_iff, ih,
      List.forall_mem_cons]
    constructor
    · rintro ⟨_, ⟨hstop, rfl⟩, hstops, rfl⟩
      exact ⟨⟨hstop, hstops⟩, by simp⟩
    · rintro ⟨⟨hstop, hstops⟩, rfl⟩
      exact ⟨_, ⟨hstop, rfl⟩, hstops, by simp⟩

/-- An axis has the demands that were made, if all their runs end at indices. -/
theorem requireAll_eq_ok_iff {ds : List Demand} {s : Sizing} :
    requireAll ds = .ok s ↔ (∀ d ∈ ds, d.stop < Index.limit) ∧ s = ⟨ds⟩ :=
  foldlM_require_eq_ok_iff

/-- The axis reaches as far as the runs do. -/
theorem isLeast_count (s : Sizing) : IsLeast {n | ∀ d ∈ s.demands, d.stop ≤ n} s.count := by
  refine ⟨fun d hd => stop_le_count hd, fun n hn => ?_⟩
  rcases foldl_max_eq_or_mem (s.demands.map Demand.stop) 0 with hzero | hmem
  · rw [count, hzero]
    exact Nat.zero_le n
  · obtain ⟨d, hd, hstop⟩ := List.mem_map.mp hmem
    rw [count, ← hstop]
    exact hn d hd

/-- The largest size that is demanded of a run which ends with this track, at least zero. -/
def endingSize (s : Sizing) (track : Nat) : Int :=
  ((s.demands.filter fun d => 1 ≤ d.span ∧ d.stop = track + 1).map Demand.size).foldl max 0

variable {s : Sizing} {track : Nat}

theorem endingSize_nonneg (s : Sizing) (track : Nat) : 0 ≤ s.endingSize track :=
  le_foldl_max_int.1

theorem size_le_endingSize {d : Demand} (hd : d ∈ s.demands) (hspan : 1 ≤ d.span)
    (hstop : d.stop = track + 1) : d.size ≤ s.endingSize track := by
  refine le_foldl_max_int.2 _ (List.mem_map_of_mem ?_)
  simp [hd, hspan, hstop]

/-- It is zero, or some demand asks for it. -/
theorem endingSize_cases (s : Sizing) (track : Nat) : s.endingSize track = 0 ∨
    ∃ d ∈ s.demands, 1 ≤ d.span ∧ d.stop = track + 1 ∧ s.endingSize track = d.size := by
  refine (foldl_max_eq_or_mem _ 0).imp_right fun hmem => ?_
  obtain ⟨d, hd, hsize⟩ := List.mem_map.mp hmem
  obtain ⟨hd, hends⟩ := List.mem_filter.mp hd
  simp only [decide_eq_true_eq] at hends
  exact ⟨d, hd, hends.1, hends.2, hsize.symm⟩

/-- The size of a single track is zero, or some demand asks for it. -/
theorem singleSize_cases (s : Sizing) (track : Nat) : s.singleSize track = 0 ∨
    ∃ d ∈ s.demands, d.span = 1 ∧ d.start = track ∧ s.singleSize track = d.size := by
  refine (foldl_max_eq_or_mem _ 0).imp_right fun hmem => ?_
  obtain ⟨d, hd, hsize⟩ := List.mem_map.mp hmem
  obtain ⟨hd, hsingle⟩ := List.mem_filter.mp hd
  simp only [decide_eq_true_eq] at hsingle
  exact ⟨d, hd, hsingle.1, hsingle.2, hsize.symm⟩

/-- The sizes that the stretches start from. -/
theorem getD_singleSizes (s : Sizing) (track : Nat) :
    ((List.range s.count).map s.singleSize).getD track 0 = s.singleSize track := by
  rw [List.getD_eq_getElem?_getD]
  by_cases htrack : track < s.count
  · simp [htrack]
  · rw [singleSize_eq_zero (Nat.not_lt.mp htrack)]
    simp [htrack]

/-! ## The order of the demands -/

/-- The second demand comes after the first one: its run is longer, or equally long and it was made
later. -/
def After (s : Sizing) (d e : Demand) : Prop :=
  d.span < e.span ∨ d.span = e.span ∧ [d, e].Sublist s.demands

instance (s : Sizing) (d e : Demand) : Decidable (s.After d e) :=
  inferInstanceAs (Decidable (_ ∨ _ ∧ _))

theorem After.span_le {d e : Demand} (h : s.After d e) : d.span ≤ e.span := by
  rcases h with hlt | ⟨heq, -⟩
  · exact hlt.le
  · exact heq.le

/-- The demands are gone through in this order. -/
theorem pairwise_spanning (s : Sizing) : s.spanning.Pairwise s.After := by
  rw [spanning, List.pairwise_flatMap]
  constructor
  · intro span _
    refine List.pairwise_iff_forall_sublist.mpr fun {d e} hsub => ?_
    have hspan : ∀ d' ∈ [d, e], d'.span = span := fun d' hd' => by
      simpa using (List.mem_filter.mp (hsub.subset hd')).2
    exact .inr ⟨by simp [hspan], hsub.trans List.filter_sublist⟩
  · refine (List.pairwise_lt_range' 1).imp fun {span span'} hlt d hd e he => .inl ?_
    have hd := (List.mem_filter.mp hd).2
    have he := (List.mem_filter.mp he).2
    simp only [decide_eq_true_eq] at hd he
    omega

/-- A stretch on the way to the least sizes: `done` has been gone through, and `d` is next. -/
structure Stretches (s : Sizing) (done : List Demand) (d : Demand) (sizes sizes' : List Int) :
    Prop where
  mem : d ∈ s.demands
  long : 2 ≤ d.span
  after : ∀ e ∈ done, e ∈ s.demands ∧ s.After e d
  length_eq : sizes.length = s.count
  nonneg : ∀ size ∈ sizes, 0 ≤ size
  stretch_eq : d.stretch sizes = .ok sizes'

namespace Stretches

variable {done : List Demand} {d : Demand} {sizes sizes' : List Int}

/-- From the end of the run on, the running sums grow by what the run lacks. -/
theorem sum_take (h : s.Stretches done d sizes sizes') (i : Nat) :
    (sizes'.take i).sum = (sizes.take i).sum + if d.stop ≤ i then d.lack sizes else 0 := by
  have hlast : d.stop - 1 < sizes.length := by
    have hstop := stop_le_count h.mem
    have hlong := h.long
    have hlength := h.length_eq
    unfold Demand.stop at hstop ⊢
    omega
  have hpos : 1 ≤ d.stop := by
    have hlong := h.long
    unfold Demand.stop
    omega
  rw [Demand.stretch_eq_ok h.stretch_eq, List.take_set, List.sum_set']
  by_cases hi : d.stop ≤ i
  · have hlt : d.stop - 1 < (sizes.take i).length := by
      rw [List.length_take]
      omega
    rw [dif_pos hlt, if_pos hi, List.getElem_take, List.getD_eq_getElem?_getD,
      List.getElem?_eq_getElem hlast, Option.getD_some]
    omega
  · have hge : ¬ d.stop - 1 < (sizes.take i).length := by
      rw [List.length_take]
      omega
    rw [dif_neg hge, if_neg hi]

/-- What the run lacks, by running sums. -/
theorem lack_eq (d : Demand) (sizes : List Int) :
    d.lack sizes = max 0 (d.size - ((sizes.take d.stop).sum - (sizes.take d.start).sum)) := by
  rw [Demand.lack, sum_run_eq]

end Stretches

section Induction

variable {P : List Demand → List Int → Prop}
  (stretch : ∀ done d before after, s.Stretches done d before after → P done before →
    P (done ++ [d]) after)
include stretch

/-- What every stretch keeps holds at the end if it holds of the sizes when some demands have been
gone through. -/
theorem foldlM_stretch_induct {left done : List Demand} {start sizes : List Int}
    (hdone : done ++ left = s.spanning) (hlength : start.length = s.count)
    (hnonneg : ∀ size ∈ start, 0 ≤ size) (hstart : P done start)
    (hrun : left.foldlM (fun sizes d => d.stretch sizes) start = .ok sizes) :
    P s.spanning sizes := by
  induction left generalizing done start with
  | nil =>
    rw [List.foldlM_nil, Checked.pure_eq_ok_iff] at hrun
    rw [← hrun, ← hdone, List.append_nil]
    exact hstart
  | cons d left ih =>
    rw [List.foldlM_cons] at hrun
    obtain ⟨next, hnext, hrest⟩ := Checked.bind_eq_ok_iff.mp hrun
    have hle := Demand.stretch_le hnext
    obtain ⟨hmem, hlong⟩ := mem_spanning.mp (hdone ▸ by simp : d ∈ s.spanning)
    have hbefore : ∀ e ∈ done, e ∈ s.demands ∧ s.After e d := by
      intro e he
      have hspanning : e ∈ s.spanning := hdone ▸ List.mem_append_left _ he
      have hpairs := List.pairwise_append.mp (hdone ▸ s.pairwise_spanning)
      exact ⟨(mem_spanning.mp hspanning).1, hpairs.2.2 e he d List.mem_cons_self⟩
    have hstretched := stretch done d start next
      ⟨hmem, hlong, hbefore, hlength, hnonneg, hnext⟩ hstart
    exact ih (by simpa using hdone) (hle.length_eq ▸ hlength) (hle.nonneg hnonneg) hstretched hrest

/-- What holds of the sizes of single tracks and is kept by every stretch holds of the least
sizes. -/
theorem minSizes_induct {sizes : List Int} (h : s.minSizes = .ok sizes)
    (single : P [] ((List.range s.count).map s.singleSize)) : P s.spanning sizes := by
  refine foldlM_stretch_induct stretch rfl (by simp) ?_ single h
  intro size hsize
  obtain ⟨track, -, rfl⟩ := List.mem_map.mp hsize
  exact s.singleSize_nonneg track

end Induction

/-! ## No track is longer than demanded -/

theorem singleSize_le_endingSize (s : Sizing) (track : Nat) :
    s.singleSize track ≤ s.endingSize track := by
  rcases s.singleSize_cases track with hzero | ⟨d, hd, hspan, hstart, hsize⟩
  · rw [hzero]
    exact s.endingSize_nonneg track
  · rw [hsize]
    exact size_le_endingSize hd hspan.ge (by unfold Demand.stop; omega)

/-- After a stretch, the last track of the run is no longer than the demand. -/
theorem Stretches.getD_le {done : List Demand} {d : Demand} {sizes sizes' : List Int}
    (st : s.Stretches done d sizes sizes') (h : ∀ track, sizes.getD track 0 ≤ s.endingSize track)
    (track : Nat) : sizes'.getD track 0 ≤ s.endingSize track := by
  have hold := h track
  have hlong := st.long
  have hsum := st.sum_take track
  have hnext := st.sum_take (track + 1)
  rw [getD_eq_sum_take_sub] at hold ⊢
  by_cases hend : d.stop = track + 1
  · have hsize := size_le_endingSize st.mem (by omega) hend
    have hbefore := sum_take_mono st.nonneg (show d.start ≤ track by unfold Demand.stop at hend; omega)
    rw [if_neg (by omega)] at hsum
    rw [if_pos (by omega), lack_eq, hend] at hnext
    omega
  · split at hnext <;> split at hsum <;> omega

/-- Let demands be made one after the other. The least sizes that follow are one for each track up
to the end of the last run; none is negative, every demand on a run that is not empty is met, and no
track is longer than the largest demand whose run ends with it. A track has no length if no positive
size is demanded of a run that ends with it. -/
theorem requireAll_minSizes {ds : List Demand} {sizes : List Int} (hs : requireAll ds = .ok s)
    (h : s.minSizes = .ok sizes) :
    IsLeast {n | ∀ d ∈ ds, d.stop ≤ n} sizes.length ∧ (∀ size ∈ sizes, 0 ≤ size) ∧
      (∀ d ∈ ds, 1 ≤ d.span → d.size ≤ (d.run sizes).sum) ∧
      ∀ track, sizes.getD track 0 ≤ s.endingSize track ∧
        ((∀ d ∈ ds, 1 ≤ d.span → d.stop = track + 1 → d.size ≤ 0) → sizes.getD track 0 = 0) := by
  obtain ⟨-, rfl⟩ := requireAll_eq_ok_iff.mp hs
  refine ⟨?_, minSizes_nonneg h, fun d hd => minSizes_meet h hd, fun track => ?_⟩
  · rw [length_minSizes h]
    exact isLeast_count _
  have hle : sizes.getD track 0 ≤ endingSize ⟨ds⟩ track := by
    refine minSizes_induct (P := fun _ sizes => ∀ track, sizes.getD track 0 ≤ endingSize ⟨ds⟩ track)
      (fun done d before after st hbefore => st.getD_le hbefore) h (fun track => ?_) track
    rw [getD_singleSizes]
    exact singleSize_le_endingSize _ track
  refine ⟨hle, fun hnone => ?_⟩
  have hnonneg := minSize_nonneg h track
  rcases endingSize_cases ⟨ds⟩ track with hzero | ⟨d, hd, hspan, hstop, hsize⟩
  · omega
  · have hsmall := hnone d hd hspan hstop
    omega

end Sizing

namespace Form

/-- Five tracks: one demand on a single track, demands on two tracks of which one is negative, one on
three tracks, and one on none that makes the axis reach further. -/
def steps : List Demand := [⟨0, 1, 100⟩, ⟨1, 2, -5⟩, ⟨0, 3, 180⟩, ⟨1, 2, 60⟩, ⟨5, 0, 9⟩]

/-- The third track is stretched twice and still no longer than the largest demand that ends with
it. With the second and the last two tracks no positive demand ends. -/
theorem steps_minSizes : ∃ s, Sizing.requireAll steps = .ok s ∧ s.minSizes = .ok [100, 0, 80, 0, 0] ∧
    IsLeast {n | ∀ d ∈ steps, d.stop ≤ n} 5 ∧
    180 ≤ (Demand.run ⟨0, 3, 180⟩ [100, 0, 80, 0, 0]).sum ∧
    [100, 0, 80, 0, 0].getD 2 0 ≤ s.endingSize 2 ∧ s.endingSize 2 = 180 ∧
    [100, 0, 80, 0, 0].getD 1 (0 : Int) = 0 := by
  have hs : Sizing.requireAll steps = .ok ⟨steps⟩ := rfl
  have hsizes : (Sizing.mk steps).minSizes = .ok [100, 0, 80, 0, 0] := rfl
  obtain ⟨hcount, -, hmet, hends⟩ := Sizing.requireAll_minSizes hs hsizes
  refine ⟨_, hs, hsizes, hcount, hmet ⟨0, 3, 180⟩ (by decide) (by decide), (hends 2).1, rfl, ?_⟩
  exact (hends 1).2 (by decide)

end Form

end FormGrid
