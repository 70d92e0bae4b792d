import FormGrid.Proofs.Exact
import Mathlib.Algebra.BigOperators.Group.List.Basic
import Mathlib.Algebra.Order.BigOperators.Group.List
import Mathlib.Algebra.Order.Group.Int
import Mathlib.Data.List.Forall2

/-!
# Least track sizes meet their demands

A stretch lets the last track of a run grow by what the run lacks. It never shortens a track, so
a demand that is met once stays met while the longer runs are gone through, and the sizes at the
end meet all demands.

## Main results

* `Demand.stretch_le`, `Demand.stretch_meets`: one stretch
* `Sizing.foldlM_stretch`: a sequence of stretches
* `Sizing.minSizes_meet`: the least sizes meet every demand on a run that is not empty
* `Sizing.minSizes_nonneg`, `Sizing.length_minSizes`
-/

namespace FormGrid

/-! ## Sizes that are compared track by track -/

/-- No track is shorter among the second sizes. -/
abbrev SizesLE (sizes sizes' : List Int) : Prop := List.Forall₂ (· ≤ ·) sizes sizes'

namespace SizesLE

theorem refl (sizes : List Int) : SizesLE sizes sizes := List.forall₂_same.mpr fun _ _ => le_rfl

theorem trans {a b c : List Int} (hab : SizesLE a b) (hbc : SizesLE b c) : SizesLE a c := by
  induction hab generalizing c with
  | nil => exact hbc
  | cons hle _ ih =>
    cases hbc with
    | cons hle' hbc => exact .cons (hle.trans hle') (ih hbc)

/-- Replacing a size by a greater one. -/
theorem set {sizes : List Int} {track : Nat} {size : Int} (h : sizes.getD track 0 ≤ size) :
    SizesLE sizes (sizes.set track size) := by
  induction sizes generalizing track with
  | nil => exact .nil
  | cons first sizes ih =>
    cases track with
    | zero => exact .cons h (refl sizes)
    | succ track => exact .cons le_rfl (ih h)

theorem nonneg {sizes sizes' : List Int} (h : SizesLE sizes sizes') (hn : ∀ n ∈ sizes, 0 ≤ n) :
    ∀ n ∈ sizes', 0 ≤ n := by
  induction h with
  | nil => exact hn
  | cons hle _ ih =>
    obtain ⟨hfirst, hrest⟩ := List.forall_mem_cons.mp hn
    exact List.forall_mem_cons.mpr ⟨hfirst.trans hle, ih hrest⟩

/-- A run is no shorter among greater sizes. -/
theorem sum_run_le {sizes sizes' : List Int} (h : SizesLE sizes sizes') (d : Demand) :
    (d.run sizes).sum ≤ (d.run sizes').sum :=
  (List.forall₂_take d.span (List.forall₂_drop d.start h)).sum_le_sum

end SizesLE

/-- Beyond the last one, a size counts as zero. -/
theorem getD_nonneg {sizes : List Int} (hn : ∀ size ∈ sizes, 0 ≤ size) (track : Nat) :
    0 ≤ sizes.getD track 0 := by
  rw [List.getD_eq_getElem?_getD]
  cases hget : sizes[track]? with
  | none => exact le_rfl
  | some size => exact hn size (List.mem_of_getElem? hget)

/-! ## One stretch -/

namespace Demand

/-- The sum of a run whose last track is set to another size. -/
theorem sum_run_set {d : Demand} {sizes : List Int} (hspan : 1 ≤ d.span)
    (hstop : d.stop ≤ sizes.length) (size : Int) :
    (d.run (sizes.set (d.stop - 1) size)).sum =
      (d.run sizes).sum + (size - sizes.getD (d.stop - 1) 0) := by
  unfold stop at hstop
  have hlast : d.stop - 1 = d.start + (d.span - 1) := by unfold stop; omega
  have hlt : d.start + (d.span - 1) < sizes.length := by omega
  have hrun : d.run (sizes.set (d.stop - 1) size) = (d.run sizes).set (d.span - 1) size := by
    rw [run, run, hlast, List.drop_set, if_neg (by omega), Nat.add_sub_cancel_left, List.take_set]
  have hmem : d.span - 1 < (d.run sizes).length := by
    simp only [run, List.length_take, List.length_drop]
    omega
  rw [hrun, List.sum_set', dif_pos hmem, hlast]
  simp only [run, List.getElem_take, List.getElem_drop, List.getD_eq_getElem?_getD,
    List.getElem?_eq_getElem hlt, Option.getD_some]
  omega

/-- What a run lacks of the length that is demanded of it. -/
def lack (d : Demand) (sizes : List Int) : Int := max 0 (d.size - (d.run sizes).sum)

theorem lack_nonneg (d : Demand) (sizes : List Int) : 0 ≤ d.lack sizes := le_max_left _ _

/-- A stretch adds to the last track of a run what the run lacks. -/
theorem stretch_eq_ok {d : Demand} {sizes sizes' : List Int} (h : d.stretch sizes = .ok sizes') :
    sizes' = sizes.set (d.stop - 1) (sizes.getD (d.stop - 1) 0 + d.lack sizes) := by
  simp only [stretch, Checked.bind_eq_ok_iff] at h
  obtain ⟨current, hcurrent, h⟩ := h
  have hsum := Pixel.eq_sum_of_sum_eq_ok hcurrent
  unfold lack
  split at h
  case isTrue hlt =>
    simp only [Checked.bind_eq_ok_iff, Checked.pure_eq_ok_iff] at h
    obtain ⟨lacking, hlacking, last, hlast, rfl⟩ := h
    rw [(Pixel.add_eq_ok_iff.mp hlast).1, (Pixel.sub_eq_ok_iff.mp hlacking).1, hsum,
      max_eq_right (by omega)]
  case isFalse hle =>
    rw [← Checked.pure_eq_ok_iff.mp h, max_eq_left (by omega), add_zero]
    by_cases hlast : d.stop - 1 < sizes.length
    · rw [List.getD_eq_getElem?_getD, List.getElem?_eq_getElem hlast, Option.getD_some,
        List.set_getElem_self]
    · rw [List.set_eq_of_length_le (Nat.not_lt.mp hlast)]

/-- No track gets shorter by a stretch. -/
theorem stretch_le {d : Demand} {sizes sizes' : List Int} (h : d.stretch sizes = .ok sizes') :
    SizesLE sizes sizes' := by
  rw [stretch_eq_ok h]
  apply SizesLE.set
  have hlack := d.lack_nonneg sizes
  omega

/-- After a stretch the demand is met. -/
theorem stretch_meets {d : Demand} {sizes sizes' : List Int} (hspan : 1 ≤ d.span)
    (hstop : d.stop ≤ sizes.length) (h : d.stretch sizes = .ok sizes') :
    d.size ≤ (d.run sizes').sum := by
  rw [stretch_eq_ok h, sum_run_set hspan hstop]
  unfold lack
  omega

end Demand

/-! ## All demands -/

namespace Sizing

/-- Stretches never shorten a track, and each demand they are made for is met at the end. -/
theorem foldlM_stretch {ds : List Demand} {start sizes : List Int}
    (h : ds.foldlM (fun sizes d => d.stretch sizes) start = .ok sizes)
    (hrun : ∀ d ∈ ds, 1 ≤ d.span ∧ d.stop ≤ start.length) :
    SizesLE start sizes ∧ ∀ d ∈ ds, d.size ≤ (d.run sizes).sum := by
  induction ds generalizing start with
  | nil =>
    rw [List.foldlM_nil, Checked.pure_eq_ok_iff] at h
    exact ⟨h ▸ SizesLE.refl start, by simp⟩
  | cons d ds ih =>
    rw [List.foldlM_cons] at h
    obtain ⟨next, hnext, hrest⟩ := Checked.bind_eq_ok_iff.mp h
    obtain ⟨hd, hds⟩ := List.forall_mem_cons.mp hrun
    have hle := Demand.stretch_le hnext
    obtain ⟨hle', hmet⟩ := ih hrest (hle.length_eq ▸ hds)
    refine ⟨hle.trans hle', List.forall_mem_cons.mpr ⟨?_, hmet⟩⟩
    -- what is met after the first stretch stays met, as no later one shortens a track
    exact (Demand.stretch_meets hd.1 hd.2 hnext).trans (hle'.sum_run_le d)

theorem le_foldl_max_int {ns : List Int} {start : Int} :
    start ≤ ns.foldl max start ∧ ∀ n ∈ ns, n ≤ ns.foldl max start := by
  induction ns generalizing start with
  | nil => simp
  | cons m ns ih =>
    obtain ⟨hstart, hmem⟩ := @ih (max start m)
    rw [List.foldl_cons, List.forall_mem_cons]
    exact ⟨(le_max_left _ _).trans hstart, (le_max_right _ _).trans hstart, hmem⟩

theorem singleSize_nonneg (s : Sizing) (track : Nat) : 0 ≤ s.singleSize track :=
  le_foldl_max_int.1

/-- No demand asks anything of a track beyond the axis. -/
theorem singleSize_eq_zero {s : Sizing} {track : Nat} (h : s.count ≤ track) : s.singleSize track = 0 := by
  have hnone : s.demands.filter (fun d => d.span = 1 ∧ d.start = track) = [] := by
    rw [List.filter_eq_nil_iff]
    intro d hd hsingle
    have hstop := stop_le_count hd
    unfold Demand.stop at hstop
    simp only [decide_eq_true_eq] at hsingle
    omega
  rw [singleSize, hnone]
  rfl

/-- A demand on a single track is met by what the single demands ask of it. -/
theorem size_le_singleSize {s : Sizing} {d : Demand} (hd : d ∈ s.demands) (hspan : d.span = 1) :
    d.size ≤ s.singleSize d.start := by
  refine le_foldl_max_int.2 _ (List.mem_map_of_mem ?_)
  simp [hd, hspan]

/-- A demand on a single track asks for the size of this track alone. -/
theorem sum_run_single {s : Sizing} {d : Demand} (hd : d ∈ s.demands) (hspan : d.span = 1) :
    (d.run ((List.range s.count).map s.singleSize)).sum = s.singleSize d.start := by
  have hstop := stop_le_count hd
  have hlt : d.start < ((List.range s.count).map s.singleSize).length := by
    simp only [List.length_map, List.length_range]
    unfold Demand.stop at hstop
    omega
  rw [Demand.run, hspan, List.take_one_drop_eq_of_lt_length hlt]
  simp

variable {s : Sizing} {sizes : List Int}

/-- The least sizes come from the sizes of the single tracks by stretches. -/
theorem minSizes_spec (h : s.minSizes = .ok sizes) :
    SizesLE ((List.range s.count).map s.singleSize) sizes ∧
      ∀ d ∈ s.spanning, d.size ≤ (d.run sizes).sum := by
  apply foldlM_stretch h
  intro d hd
  obtain ⟨hmem, hspan⟩ := mem_spanning.mp hd
  simpa using ⟨by omega, stop_le_count hmem⟩

theorem length_minSizes (h : s.minSizes = .ok sizes) : sizes.length = s.count := by
  simpa using (minSizes_spec h).1.length_eq.symm

theorem minSizes_nonneg (h : s.minSizes = .ok sizes) : ∀ size ∈ sizes, 0 ≤ size := by
  apply (minSizes_spec h).1.nonneg
  intro size hsize
  obtain ⟨track, -, rfl⟩ := List.mem_map.mp hsize
  exact s.singleSize_nonneg track

theorem minSize_nonneg (h : s.minSizes = .ok sizes) (track : Nat) : 0 ≤ sizes.getD track 0 :=
  getD_nonneg (minSizes_nonneg h) track

/-- The least sizes meet every demand on a run that is not empty. -/
theorem minSizes_meet (h : s.minSizes = .ok sizes) {d : Demand} (hd : d ∈ s.demands)
    (hspan : 1 ≤ d.span) : d.size ≤ (d.run sizes).sum := by
  obtain ⟨hle, hmet⟩ := minSizes_spec h
  by_cases hsingle : d.span = 1
  · calc d.size ≤ s.singleSize d.start := size_le_singleSize hd hsingle
      _ = (d.run ((List.range s.count).map s.singleSize)).sum := (sum_run_single hd hsingle).symm
      _ ≤ (d.run sizes).sum := hle.sum_run_le d
  · exact hmet d (mem_spanning.mpr ⟨hd, by omega⟩)

end Sizing

end FormGrid
