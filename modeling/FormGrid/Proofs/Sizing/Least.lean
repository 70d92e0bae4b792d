import FormGrid.Proofs.Sizing.Stretches

/-!
# In which sense the sizes are least

The demands on an axis may be met by many sizes. Those that stretches lead to are compared with all
of them in two ways.

By their sum: if of any two runs one lies in the other or they have no common track, no sizes that
meet the demands have a smaller sum. The statement that the stretches keep is about parts of the
axis, and only about those that no run gone through so far lies across. Such a part is no longer
than it is in any other sizes. A stretch adds to a part what its own run lacks, and what is left of
the part on both sides of the run is a part again, because no longer run has been gone through.

By single tracks: a track that is stretched gets just what the run lacks, so it cannot be shortened
while the run has no more than that. The run may get more later, if a longer run ends inside of it.
Then the track may be longer than it has to be, and `Form.crossed_spare` is the smallest such axis.

## Main definitions

* `Sizing.Admits`: sizes that meet the demands
* `Sizing.Laminar`: runs that are nested or have no common track
* `Demand.Crosses`: a run that ends inside of another one and starts before it

## Main results

* `Sizing.preferred_isLeast`: the sum is least among nested runs
* `Sizing.minSizes_no_spare`: no track can be shortened whose runs are not crossed later
* `Form.crossed_spare`: one that can be shortened
-/

namespace FormGrid

namespace Demand

/-- All tracks of the run lie in this part of an axis. -/
def Within (d : Demand) (first stop : Nat) : Prop := first ≤ d.start ∧ d.stop ≤ stop

/-- No track of the run lies in this part of an axis. -/
def Outside (d : Demand) (first stop : Nat) : Prop := d.stop ≤ first ∨ stop ≤ d.start

/-- One of two runs lies in the other one, or they have no common track. -/
def Laminar (d e : Demand) : Prop :=
  d.Within e.start e.stop ∨ e.Within d.start d.stop ∨ d.Outside e.start e.stop

/-- The first run starts before the second one and ends inside of it, before its last track. -/
def Crosses (e d : Demand) : Prop := e.start < d.start ∧ d.start < e.stop ∧ e.stop < d.stop

instance (d : Demand) (first stop : Nat) : Decidable (d.Within first stop) :=
  inferInstanceAs (Decidable (_ ∧ _))

instance (d : Demand) (first stop : Nat) : Decidable (d.Outside first stop) :=
  inferInstanceAs (Decidable (_ ∨ _))

instance (d e : Demand) : Decidable (d.Laminar e) := inferInstanceAs (Decidable (_ ∨ _ ∨ _))

instance (e d : Demand) : Decidable (e.Crosses d) := inferInstanceAs (Decidable (_ ∧ _ ∧ _))

/-- A run that is no longer than another one cannot contain it without being the same. -/
theorem Laminar.within_or_outside {d e : Demand} (h : d.Laminar e) (hle : d.span ≤ e.span) :
    d.Within e.start e.stop ∨ d.Outside e.start e.stop := by
  unfold Laminar Within Outside stop at *
  omega

end Demand

namespace Sizing

/-- Sizes that meet the demands on an axis: one for each track, none negative, and together enough
for every run that is not empty. -/
structure Admits (s : Sizing) (sizes : List Int) : Prop where
  length_eq : sizes.length = s.count
  nonneg : ∀ size ∈ sizes, 0 ≤ size
  meets : ∀ d ∈ s.demands, 1 ≤ d.span → d.size ≤ (d.run sizes).sum

/-- Any two runs that are not empty are nested or have no common track. -/
def Laminar (s : Sizing) : Prop :=
  ∀ d ∈ s.demands, ∀ e ∈ s.demands, 1 ≤ d.span → 1 ≤ e.span → d.Laminar e

instance (s : Sizing) : Decidable s.Laminar :=
  inferInstanceAs (Decidable (∀ d ∈ s.demands, ∀ e ∈ s.demands, _ → _ → d.Laminar e))

variable {s : Sizing} {sizes sizes' other : List Int} {done : List Demand} {d : Demand} {track : Nat}

theorem admits_minSizes (h : s.minSizes = .ok sizes) : s.Admits sizes :=
  ⟨length_minSizes h, minSizes_nonneg h, fun _ hd => minSizes_meet h hd⟩

/-! ## The least sum -/

/-- None of the runs lies across an end of this part of the axis. -/
def Whole (done : List Demand) (first stop : Nat) : Prop :=
  ∀ d ∈ done, d.Within first stop ∨ d.Outside first stop

/-- No part of the axis that is whole is longer than it is in the other sizes. -/
def NoLonger (done : List Demand) (sizes other : List Int) : Prop :=
  ∀ first stop, first ≤ stop → Whole done first stop →
    (sizes.take stop).sum - (sizes.take first).sum ≤ (other.take stop).sum - (other.take first).sum

/-- At first no track is longer than in the other sizes. -/
theorem Admits.singleSizes_le (admits : s.Admits other) :
    SizesLE ((List.range s.count).map s.singleSize) other := by
  refine List.forall₂_iff_get.mpr ⟨by simp [admits.length_eq], fun track htrack hother => ?_⟩
  have hnonneg := admits.nonneg _ (List.get_mem other ⟨track, hother⟩)
  simp only [List.get_eq_getElem, List.getElem_map, List.getElem_range] at hnonneg ⊢
  rcases s.singleSize_cases track with hzero | ⟨d, hd, hspan, rfl, hsize⟩
  · rw [hzero]
    exact hnonneg
  · have hmet := admits.meets d hd hspan.ge
    rw [Demand.run, hspan, List.take_one_drop_eq_of_lt_length hother, List.sum_singleton] at hmet
    rw [hsize]
    exact hmet

/-- What a part has on both sides of a run in it is whole, for runs that do not lie across this
one. -/
theorem Whole.sides {first stop : Nat} (whole : Whole done first stop)
    (hd : d.Within first stop) (hdone : Whole done d.start d.stop) :
    Whole done first d.start ∧ Whole done d.stop stop := by
  have hends : d.start ≤ d.stop := Nat.le_add_right _ _
  refine ⟨fun e he => ?_, fun e he => ?_⟩
  all_goals
    have hpart := whole e he
    have hrun := hdone e he
    unfold Demand.Within Demand.Outside at *
    omega

/-- A stretch keeps the parts that are whole from being longer than they have to be. -/
theorem Stretches.noLonger (st : s.Stretches done d sizes sizes') (laminar : s.Laminar)
    (admits : s.Admits other) (h : NoLonger done sizes other) :
    NoLonger (done ++ [d]) sizes' other := by
  intro first stop hle whole
  have hlong := st.long
  have hwhole : Whole done first stop := fun e he => whole e (List.mem_append_left _ he)
  have hold := h first stop hle hwhole
  have hfirst := st.sum_take first
  have hstop := st.sum_take stop
  rcases whole d (by simp) with hin | hout
  · have hdone : Whole done d.start d.stop := fun e he => by
      obtain ⟨hmem, hafter⟩ := st.after e he
      by_cases hspan : 1 ≤ e.span
      · exact (laminar e hmem d st.mem hspan (by omega)).within_or_outside hafter.span_le
      · unfold Demand.Within Demand.Outside Demand.stop
        omega
    obtain ⟨hbefore, hafter⟩ := hwhole.sides hin hdone
    have hleft := h first d.start hin.1 hbefore
    have hright := h d.stop stop hin.2 hafter
    have hmet := admits.meets d st.mem (by omega)
    rw [sum_run_eq] at hmet
    obtain ⟨hin, hin'⟩ := hin
    rw [if_neg (by unfold Demand.stop; omega)] at hfirst
    rw [if_pos hin', lack_eq] at hstop
    omega
  · have hsame : d.stop ≤ first ↔ d.stop ≤ stop := by
      unfold Demand.Outside Demand.stop at *
      omega
    rw [hfirst, hstop]
    by_cases hbefore : d.stop ≤ first
    · rw [if_pos hbefore, if_pos (hsame.mp hbefore)]
      omega
    · rw [if_neg hbefore, if_neg fun hafter => hbefore (hsame.mpr hafter)]
      omega

/-- If any two runs are nested or have no common track, the least sizes have the least sum of all
sizes that meet the demands. -/
theorem preferred_isLeast {p : Int} (laminar : s.Laminar) (h : s.preferred = .ok p) :
    IsLeast {total | ∃ sizes, s.Admits sizes ∧ sizes.sum = total} p := by
  obtain ⟨sizes, hsizes, -⟩ := Checked.bind_eq_ok_iff.mp h
  obtain rfl : p = sizes.sum := preferred_eq_ok h hsizes
  refine ⟨⟨sizes, admits_minSizes hsizes, rfl⟩, ?_⟩
  rintro total ⟨other, admits, rfl⟩
  have hparts : NoLonger s.spanning sizes other := by
    refine minSizes_induct (P := fun done sizes => NoLonger done sizes other)
      (fun done d before after st hbefore => st.noLonger laminar admits hbefore) hsizes ?_
    exact fun first stop hle _ => sum_take_grows admits.singleSizes_le hle
  have hall := hparts 0 s.count (Nat.zero_le _) fun d hd =>
    .inl ⟨Nat.zero_le _, stop_le_count (mem_spanning.mp hd).1⟩
  rw [List.take_of_length_le (length_minSizes hsizes).le, List.take_of_length_le admits.length_eq.le]
    at hall
  simpa using hall

/-! ## Tracks that cannot be shortened -/

/-- If a track has a length, some run that ends with it has no more than is demanded of it. -/
def Tight (s : Sizing) (track : Nat) (done : List Demand) (sizes : List Int) : Prop :=
  0 < sizes.getD track 0 → ∃ d ∈ s.demands, 1 ≤ d.span ∧ d.stop = track + 1 ∧
    (d.span = 1 ∨ d ∈ done) ∧ (d.run sizes).sum ≤ d.size

theorem tight_singleSizes (s : Sizing) (track : Nat) :
    s.Tight track [] ((List.range s.count).map s.singleSize) := by
  intro hpos
  rw [getD_singleSizes] at hpos
  rcases s.singleSize_cases track with hzero | ⟨d, hd, hspan, rfl, hsize⟩
  · omega
  · refine ⟨d, hd, hspan.ge, by rw [Demand.stop, hspan], .inl hspan, ?_⟩
    rw [sum_run_single hd hspan, hsize]

/-- A stretch keeps a track from being longer than it has to be, unless it is one for a run that
crosses another one which ends with the track. -/
theorem Stretches.tight (st : s.Stretches done d sizes sizes')
    (uncrossed : ∀ e ∈ s.demands, e.stop = track + 1 → s.After e d → ¬ d.Crosses e)
    (h : s.Tight track done sizes) : s.Tight track (done ++ [d]) sizes' := by
  intro hpos
  have hlong := st.long
  by_cases hlast : d.stop = track + 1 ∧ 0 < d.lack sizes
  · refine ⟨d, st.mem, by omega, hlast.1, .inr (by simp), ?_⟩
    have hstart := st.sum_take d.start
    have hstop := st.sum_take d.stop
    rw [if_neg (by unfold Demand.stop; omega)] at hstart
    rw [if_pos le_rfl] at hstop
    have hlack := lack_eq d sizes
    rw [sum_run_eq]
    omega
  have hkept : sizes'.getD track 0 = sizes.getD track 0 := by
    have hnonneg := d.lack_nonneg sizes
    have hbefore := st.sum_take track
    have hafter := st.sum_take (track + 1)
    rw [getD_eq_sum_take_sub, getD_eq_sum_take_sub]
    split at hbefore <;> split at hafter <;> omega
  obtain ⟨e, he, hspan, hstop, hdone, hrun⟩ := h (hkept ▸ hpos)
  refine ⟨e, he, hspan, hstop, hdone.imp_right (List.mem_append_left _), ?_⟩
  have hnonneg := d.lack_nonneg sizes
  have hbefore := st.sum_take e.start
  have hafter := st.sum_take e.stop
  -- the run would only get more if the stretch were for a later run that ends inside of it
  have hoff : d.stop ≤ e.start ∨ e.stop ≤ d.stop := by
    rcases hdone with hsingle | hmem
    · unfold Demand.stop
      omega
    · have hcross := uncrossed e he hstop (st.after e hmem).2
      have hle := (st.after e hmem).2.span_le
      unfold Demand.Crosses Demand.stop at *
      omega
  rw [sum_run_eq] at hrun ⊢
  have hsame : d.stop = e.stop → d.lack sizes = 0 := by
    intro heq
    omega
  split at hbefore <;> split at hafter <;> omega

/-- A track that has a length cannot be shortened without breaking a demand, if no run that ends
with it is crossed by a later one. -/
theorem minSizes_no_spare (h : s.minSizes = .ok sizes) (hpos : 0 < sizes.getD track 0)
    (uncrossed : ∀ d ∈ s.demands, d.stop = track + 1 →
      ∀ e ∈ s.demands, s.After d e → ¬ e.Crosses d) :
    ∃ d ∈ s.demands, 1 ≤ d.span ∧
      (d.run (sizes.set track (sizes.getD track 0 - 1))).sum < d.size := by
  have htight : s.Tight track s.spanning sizes := by
    refine minSizes_induct (P := s.Tight track) ?_ h (s.tight_singleSizes track)
    intro done e before after st hbefore
    exact st.tight (fun d hd hstop hafter => uncrossed d hd hstop e st.mem hafter) hbefore
  obtain ⟨d, hd, hspan, hstop, -, hrun⟩ := htight hpos
  have hlength := length_minSizes h
  have hset := Demand.sum_run_set hspan (hlength ▸ stop_le_count hd) (sizes.getD track 0 - 1)
  rw [hstop, Nat.add_sub_cancel] at hset
  refine ⟨d, hd, hspan, ?_⟩
  rw [hset]
  omega

end Sizing

namespace Form

/-- A run of three tracks around one of two and a single one, two tracks beside it, and no track. -/
def nest : Sizing := ⟨[⟨0, 3, 90⟩, ⟨0, 2, 60⟩, ⟨2, 1, 10⟩, ⟨3, 2, 25⟩, ⟨1, 0, 7⟩]⟩

/-- The sizes of the nest are not the only ones of their sum, but there are none of a smaller one. -/
theorem nest_isLeast : nest.minSizes = .ok [0, 60, 30, 0, 25] ∧ nest.Laminar ∧
    nest.preferred = .ok 115 ∧
    IsLeast {total | ∃ sizes, nest.Admits sizes ∧ sizes.sum = total} 115 ∧
    nest.Admits [25, 35, 30, 25, 0] := by
  have hlaminar : nest.Laminar := by decide
  exact ⟨rfl, hlaminar, rfl, Sizing.preferred_isLeast hlaminar rfl, rfl, by decide, by decide⟩

/-- Two runs of two tracks, of which the one that is met later ends inside of the other. -/
def crossed : Sizing := ⟨[⟨1, 2, 10⟩, ⟨0, 2, 10⟩]⟩

/-- After the second run has been met, the last track has all its length to spare. -/
theorem crossed_spare : crossed.minSizes = .ok [0, 10, 10] ∧ crossed.Admits [0, 10, 0] ∧
    ¬ ∀ sizes, crossed.minSizes = .ok sizes → ∀ track, 0 < sizes.getD track 0 →
      ∃ d ∈ crossed.demands, 1 ≤ d.span ∧
        (d.run (sizes.set track (sizes.getD track 0 - 1))).sum < d.size :=
  ⟨rfl, ⟨rfl, by decide, by decide⟩, fun h => absurd (h _ rfl 2 (by decide)) (by decide)⟩

/-- The same runs, met in the other order, and a longer one that ends where the last of them does. -/
def uncrossed : Sizing := ⟨[⟨0, 3, 5⟩, ⟨0, 2, 10⟩, ⟨1, 2, 12⟩]⟩

/-- The run that ends with the last track is crossed, but only by one that was met before it, and
the track has nothing to spare. -/
theorem uncrossed_no_spare : uncrossed.minSizes = .ok [0, 10, 2] ∧
    Demand.Crosses ⟨0, 2, 10⟩ ⟨1, 2, 12⟩ ∧
    (∀ d ∈ uncrossed.demands, d.stop = 3 →
      ∀ e ∈ uncrossed.demands, uncrossed.After d e → ¬ e.Crosses d) ∧
    ∃ d ∈ uncrossed.demands, 1 ≤ d.span ∧ (d.run [0, 10, 1]).sum < d.size := by
  have hlater : ∀ d ∈ uncrossed.demands, d.stop = 2 + 1 →
      ∀ e ∈ uncrossed.demands, uncrossed.After d e → ¬ e.Crosses d := by decide
  have hsizes : uncrossed.minSizes = .ok [0, 10, 2] := rfl
  exact ⟨hsizes, by decide, hlater, Sizing.minSizes_no_spare hsizes (by decide) hlater⟩

end Form

end FormGrid
