import FormGrid.Proofs.Sizing.Distribution
import FormGrid.Proofs.Sizing.Stretches

/-!
# Which axes overflow

All arithmetic on an axis is checked, step by step. Sizes are never negative, so a sum of them that
is taken from the left fits exactly if the whole of it does. It follows that a stretch fails only
where its run is too long already: what the run lacks is less than what is demanded of it, and with
that the run is as long as demanded, its last track included.

Once the least sizes and their sum are known, an axis of the length `total` has two more steps that
may fail. The difference to the sum may be too small to be represented. Or it may be the least
number there is, which has no magnitude to share out. After that every number that comes up lies
between the difference and the longer one of the two lengths, so that nothing else can fail; and no
magnitude is shared out among no tracks.

## Main definitions

* `Sizing.Reaches`: a demand on a longer run is about to be met
* `Sizing.StepsFit`: the numbers that come up while a difference is shared out

## Main results

* `Pixel.sum_of_nonneg`: sums of sizes
* `Demand.stretch_eq_error_iff`, `Sizing.minSizes_eq_error_iff`: the least sizes
* `Sizing.stepsFit_of_sum_le`, `boundaries_of_sum_le`: steps that do not fail
* `Sizing.edges_eq_error_iff`: the edges
* `Sizing.overflow_exact`: all that can fail on an axis
-/

namespace FormGrid

/-! ## Sums of sizes -/

namespace Pixel

theorem representable_of_nonneg {n : Int} (hnonneg : 0 ≤ n) : Representable n ↔ n ≤ greatest :=
  and_iff_right (le_trans (by decide) hnonneg)

theorem check_of_representable {cause : Overflow} {n : Int} (h : Representable n) :
    check cause n = .ok n := if_pos h

/-- A running sum of numbers that are not negative fails only if the whole sum does. -/
theorem foldlM_add_of_nonneg {ns : List Int} {start : Int} (hn : ∀ n ∈ ns, 0 ≤ n)
    (hstart : 0 ≤ start) (hfits : start ≤ greatest) :
    ns.foldlM add start = check .addition (start + ns.sum) := by
  induction ns generalizing start with
  | nil =>
    rw [List.foldlM_nil, List.sum_nil, add_zero,
      check_of_representable ((representable_of_nonneg hstart).mpr hfits)]
    rfl
  | cons n ns ih =>
    obtain ⟨hfirst, hrest⟩ := List.forall_mem_cons.mp hn
    have hsum := List.sum_nonneg hrest
    rw [List.foldlM_cons, List.sum_cons, ← add_assoc]
    by_cases hnext : start + n ≤ greatest
    · have hfits : add start n = .ok (start + n) :=
        check_of_representable ((representable_of_nonneg (by omega)).mpr hnext)
      rw [hfits, Checked.ok_bind, ih hrest (by omega) hnext]
    · have hfails : add start n = .error .addition :=
        check_eq_error_iff.mpr ⟨rfl, mt (representable_of_nonneg (by omega)).mp hnext⟩
      rw [hfails, check_eq_error_iff.mpr ⟨rfl, mt (representable_of_nonneg (by omega)).mp (by omega)⟩]
      rfl

/-- A sum of numbers that are not negative is computed as a whole. -/
theorem sum_of_nonneg {ns : List Int} (hn : ∀ n ∈ ns, 0 ≤ n) : sum ns = check .addition ns.sum := by
  rw [sum, foldlM_add_of_nonneg hn le_rfl (by decide), zero_add]

theorem sum_eq_error_iff_of_nonneg {ns : List Int} {o : Overflow} (hn : ∀ n ∈ ns, 0 ≤ n) :
    sum ns = .error o ↔ o = .addition ∧ greatest < ns.sum := by
  rw [sum_of_nonneg hn, check_eq_error_iff, representable_of_nonneg (List.sum_nonneg hn), not_le]

end Pixel

/-! ## The least sizes -/

namespace Demand

variable {d : Demand} {sizes : List Int}

theorem nonneg_of_mem_run (hn : ∀ size ∈ sizes, 0 ≤ size) : ∀ size ∈ d.run sizes, 0 ≤ size :=
  fun size hsize => hn size (List.mem_of_mem_drop (List.mem_of_mem_take hsize))

/-- The last track of a run is no longer than the run. -/
theorem last_le_sum_run (hn : ∀ size ∈ sizes, 0 ≤ size) (hspan : 1 ≤ d.span) :
    sizes.getD (d.stop - 1) 0 ≤ (d.run sizes).sum := by
  have hstart : d.start ≤ d.stop - 1 := by unfold stop; omega
  have hlast : d.stop - 1 + 1 = d.stop := by unfold stop; omega
  have hbefore := sum_take_mono hn hstart
  rw [getD_eq_sum_take_sub, Sizing.sum_run_eq, hlast]
  omega

/-- What is added to the last track of a run that fits, and the track after that, fit as well. -/
theorem lack_fits (hn : ∀ size ∈ sizes, 0 ≤ size) (hspan : 1 ≤ d.span)
    (hsize : d.size ≤ Pixel.greatest) (hlacks : (d.run sizes).sum < d.size) :
    Pixel.Representable (d.size - (d.run sizes).sum) ∧
      Pixel.Representable (sizes.getD (d.stop - 1) 0 + (d.size - (d.run sizes).sum)) := by
  have hrun := List.sum_nonneg (nonneg_of_mem_run (d := d) hn)
  have hlast := last_le_sum_run hn hspan
  have hnonneg := getD_nonneg hn (d.stop - 1)
  constructor
  · exact (Pixel.representable_of_nonneg (by omega)).mpr (by omega)
  · exact (Pixel.representable_of_nonneg (by omega)).mpr (by omega)

/-- A stretch fails exactly where the run is too long to be measured. -/
theorem stretch_eq_error_iff {o : Overflow} (hn : ∀ size ∈ sizes, 0 ≤ size) (hspan : 1 ≤ d.span)
    (hsize : d.size ≤ Pixel.greatest) :
    d.stretch sizes = .error o ↔ o = .addition ∧ Pixel.greatest < (d.run sizes).sum := by
  rw [stretch, Checked.bind_eq_error_iff,
    Pixel.sum_eq_error_iff_of_nonneg (nonneg_of_mem_run hn)]
  -- once the run is measured, what it lacks and its new last track fit
  refine or_iff_left ?_
  rintro ⟨current, hcurrent, hfails⟩
  obtain rfl := Pixel.eq_sum_of_sum_eq_ok hcurrent
  split at hfails
  case isTrue hlacks =>
    obtain ⟨hlack, hlast⟩ := lack_fits hn hspan hsize hlacks
    rw [Pixel.sub, Pixel.check_of_representable hlack, Checked.ok_bind, Pixel.add,
      Pixel.check_of_representable hlast, Checked.ok_bind] at hfails
    cases hfails
  case isFalse => cases hfails

end Demand

namespace Sizing

/-- The demands `done` have been gone through, which gave the tracks these sizes, and `d` is the next
demand. -/
structure Reaches (s : Sizing) (done : List Demand) (d : Demand) (sizes : List Int) : Prop where
  next : ∃ left, s.spanning = done ++ d :: left
  sizes_eq : done.foldlM (fun sizes d => d.stretch sizes) ((List.range s.count).map s.singleSize) =
    .ok sizes

variable {s : Sizing} {done : List Demand} {d : Demand} {sizes : List Int} {o : Overflow}

theorem Reaches.mem (h : s.Reaches done d sizes) : d ∈ s.demands ∧ 2 ≤ d.span := by
  obtain ⟨left, hspanning⟩ := h.next
  exact mem_spanning.mp (by simp [hspanning])

theorem Reaches.nonneg (h : s.Reaches done d sizes) : ∀ size ∈ sizes, 0 ≤ size := by
  obtain ⟨left, hspanning⟩ := h.next
  have hle := (foldlM_stretch h.sizes_eq fun e he => ?_).1
  · refine hle.nonneg fun size hsize => ?_
    obtain ⟨track, -, rfl⟩ := List.mem_map.mp hsize
    exact s.singleSize_nonneg track
  · obtain ⟨hmem, hlong⟩ := mem_spanning.mp (hspanning ▸ List.mem_append_left _ he)
    simpa using ⟨by omega, stop_le_count hmem⟩

/-- The least sizes fail exactly where a demand on a longer run is reached whose run is too long to be
measured. -/
theorem minSizes_eq_error_iff (hsizes : ∀ d ∈ s.demands, d.size ≤ Pixel.greatest) :
    s.minSizes = .error o ↔ o = .addition ∧
      ∃ done d sizes, s.Reaches done d sizes ∧ Pixel.greatest < (d.run sizes).sum := by
  have hstretch : ∀ {done d sizes}, s.Reaches done d sizes →
      (d.stretch sizes = .error o ↔ o = .addition ∧ Pixel.greatest < (d.run sizes).sum) := by
    intro done d sizes reaches
    obtain ⟨hmem, hlong⟩ := reaches.mem
    exact Demand.stretch_eq_error_iff reaches.nonneg (by omega) (hsizes d hmem)
  rw [minSizes, Checked.foldlM_eq_error_iff]
  constructor
  · rintro ⟨done, d, left, sizes, hspanning, hdone, hfails⟩
    have reaches : s.Reaches done d sizes := ⟨⟨left, hspanning⟩, hdone⟩
    obtain ⟨rfl, hlong⟩ := (hstretch reaches).mp hfails
    exact ⟨rfl, done, d, sizes, reaches, hlong⟩
  · rintro ⟨rfl, done, d, sizes, reaches, hlong⟩
    obtain ⟨left, hspanning⟩ := reaches.next
    exact ⟨done, d, left, sizes, hspanning, reaches.sizes_eq, (hstretch reaches).mpr ⟨rfl, hlong⟩⟩

/-- The preferred length fails where the least sizes do, or where they are too long together. -/
theorem preferred_eq_error_iff : s.preferred = .error o ↔ s.minSizes = .error o ∨
    o = .addition ∧ ∃ sizes, s.minSizes = .ok sizes ∧ Pixel.greatest < sizes.sum := by
  rw [preferred, Checked.bind_eq_error_iff]
  refine or_congr_right ?_
  constructor
  · rintro ⟨sizes, hsizes, hfails⟩
    obtain ⟨rfl, hlong⟩ := (Pixel.sum_eq_error_iff_of_nonneg (minSizes_nonneg hsizes)).mp hfails
    exact ⟨rfl, sizes, hsizes, hlong⟩
  · rintro ⟨rfl, sizes, hsizes, hlong⟩
    exact ⟨sizes, hsizes,
      (Pixel.sum_eq_error_iff_of_nonneg (minSizes_nonneg hsizes)).mpr ⟨rfl, hlong⟩⟩

end Sizing

/-! ## Steps that do not fail -/

/-- No part is more than the magnitude. -/
theorem share_le {m : Int} (h : 0 ≤ m) {n k : Nat} (hk : k < n) : share m n k ≤ m := by
  calc share m n k ≤ ∑ k ∈ Finset.range n, share m n k :=
        Finset.single_le_sum (fun k _ => share_nonneg h n k) (Finset.mem_range.mpr hk)
    _ = m := sum_share m (by omega)

/-- Running sums of sizes that fit together are computed. -/
theorem boundaries_of_sum_le {sizes : List Int} {start : Int} (hn : ∀ size ∈ sizes, 0 ≤ size)
    (hstart : 0 ≤ start) (hfits : start + sizes.sum ≤ Pixel.greatest) :
    ∃ edges, boundaries start sizes = .ok edges ∧ ∀ edge ∈ edges, Pixel.Representable edge := by
  induction sizes generalizing start with
  | nil =>
    refine ⟨[start], rfl, List.forall_mem_singleton.mpr ?_⟩
    exact (Pixel.representable_of_nonneg hstart).mpr (by simpa using hfits)
  | cons size sizes ih =>
    obtain ⟨hsize, hrest⟩ := List.forall_mem_cons.mp hn
    have hsum := List.sum_nonneg hrest
    rw [List.sum_cons] at hfits
    obtain ⟨edges, hedges, hall⟩ := ih hrest (show 0 ≤ start + size by omega) (by omega)
    refine ⟨start :: edges, ?_, List.forall_mem_cons.mpr ⟨?_, hall⟩⟩
    · rw [boundaries, Pixel.add, Pixel.check_of_representable
        ((Pixel.representable_of_nonneg (by omega)).mpr (by omega)), Checked.ok_bind, hedges]
      rfl
    · exact (Pixel.representable_of_nonneg hstart).mpr (by omega)

namespace Sizing

/-- The numbers that come up while a difference is shared out: the number of receivers, by which it is
divided, its magnitude with quotient and remainder, the parts, and the sizes with them. -/
structure StepsFit (extra : Int) (targets : List Nat) (sizes : List Int) : Prop where
  receivers : 0 < targets.length ∧ Pixel.Representable targets.length
  magnitude : Pixel.Representable extra.natAbs
  quotient : Pixel.Representable (extra.natAbs / targets.length : Int)
  remainder : Pixel.Representable (extra.natAbs % targets.length : Int)
  part : ∀ k < targets.length, Pixel.Representable (share extra.natAbs targets.length k)
  grown : 0 < extra → ∀ k < targets.length, ∀ size ∈ sizes,
    Pixel.Representable (size + share extra.natAbs targets.length k)
  shrunk : extra < 0 → ∀ k < targets.length, ∀ size ∈ sizes,
    Pixel.Representable (size - share extra.natAbs targets.length k)

variable {extra : Int} {targets : List Nat} {sizes : List Int}

/-- Parts of a difference to a length that fits, and the sizes with them, lie between the difference
and the longer length. -/
theorem stepsFit_of_sum_le (hn : ∀ size ∈ sizes, 0 ≤ size) (hsum : sizes.sum ≤ Pixel.greatest)
    (hleast : Pixel.least < extra) (hfits : sizes.sum + extra ≤ Pixel.greatest)
    (hne : targets ≠ []) (hcount : (targets.length : Int) ≤ Pixel.greatest) :
    StepsFit extra targets sizes := by
  have hpos : 0 < targets.length := List.length_pos_of_ne_nil hne
  have hnonneg := List.sum_nonneg hn
  have hmagnitude : (extra.natAbs : Int) ≤ Pixel.greatest := by
    unfold Pixel.least Pixel.greatest at *
    omega
  have hpart : ∀ k < targets.length, 0 ≤ share extra.natAbs targets.length k ∧
      share extra.natAbs targets.length k ≤ extra.natAbs := fun k hk =>
    ⟨share_nonneg (Int.natCast_nonneg _) _ k, share_le (Int.natCast_nonneg _) hk⟩
  have hsize : ∀ size ∈ sizes, 0 ≤ size ∧ size ≤ sizes.sum := fun size hsize =>
    ⟨hn size hsize, List.single_le_sum hn size hsize⟩
  refine ⟨⟨hpos, (Pixel.representable_of_nonneg (by omega)).mpr hcount⟩,
    (Pixel.representable_of_nonneg (by omega)).mpr hmagnitude, ?_, ?_, fun k hk => ?_,
    fun hextra k hk size hmem => ?_, fun hextra k hk size hmem => ?_⟩
  · have hquotient := Int.ediv_nonneg (Int.natCast_nonneg extra.natAbs)
      (Int.natCast_nonneg targets.length)
    have hle := Int.ediv_le_self (targets.length : Int) (Int.natCast_nonneg extra.natAbs)
    exact (Pixel.representable_of_nonneg hquotient).mpr (hle.trans hmagnitude)
  · have hremainder := Int.emod_nonneg (extra.natAbs : Int)
      (by omega : (targets.length : Int) ≠ 0)
    have hlt := Int.emod_lt_of_pos (extra.natAbs : Int) (by omega : (0 : Int) < targets.length)
    exact (Pixel.representable_of_nonneg hremainder).mpr (by omega)
  · obtain ⟨hlow, hhigh⟩ := hpart k hk
    exact (Pixel.representable_of_nonneg hlow).mpr (hhigh.trans hmagnitude)
  · obtain ⟨hlow, hhigh⟩ := hpart k hk
    obtain ⟨hsmall, hlarge⟩ := hsize size hmem
    exact (Pixel.representable_of_nonneg (by omega)).mpr (by omega)
  · obtain ⟨hlow, hhigh⟩ := hpart k hk
    obtain ⟨hsmall, hlarge⟩ := hsize size hmem
    unfold Pixel.Representable
    unfold Pixel.least Pixel.greatest at *
    omega

/-- A track gets its part or gives it up, where the numbers fit. -/
theorem StepsFit.adjust_eq (fits : StepsFit extra targets sizes) (hextra : extra ≠ 0) {k : Nat}
    (hk : k < targets.length) {size : Int} (hmem : size ∈ sizes) (hsize : 0 ≤ size) :
    adjust extra (share extra.natAbs targets.length k) size =
      .ok (exactAdjust extra targets.length k size) := by
  obtain ⟨n, hn⟩ : ∃ n, adjust extra (share extra.natAbs targets.length k) size = .ok n := by
    unfold adjust
    split
    case isTrue hpos => exact ⟨_, Pixel.check_of_representable (fits.grown hpos k hk size hmem)⟩
    case isFalse hneg =>
      have hshrunk := fits.shrunk (by omega) k hk size hmem
      rw [Pixel.sub, Pixel.check_of_representable hshrunk, Checked.ok_bind]
      exact ⟨_, rfl⟩
  rw [hn, adjust_eq_ok hsize hn]

/-- The difference is shared out, where the numbers fit. -/
theorem StepsFit.resize_eq (fits : StepsFit extra targets sizes) (hextra : extra ≠ 0)
    (hn : ∀ size ∈ sizes, 0 ≤ size) :
    resize extra targets sizes = .ok (exactResize extra targets sizes) := by
  have hbusy : ¬ (extra = 0 ∨ targets = []) := by
    rintro (hzero | hempty)
    · exact hextra hzero
    · have hpos := fits.receivers.1
      simp [hempty] at hpos
  rw [resize, if_neg hbusy, Pixel.abs, Pixel.check_of_representable fits.magnitude, Checked.ok_bind]
  refine Checked.mapM_eq_ok_map ?_
  rintro ⟨size, track⟩ hmem
  have hsize := List.fst_mem_of_mem_zipIdx hmem
  dsimp only
  unfold exactSize
  cases hk : targets.idxOf? track with
  | none => rfl
  | some k =>
    have hlt := (List.idxOf?_eq_some_iff.mp hk).1
    dsimp only
    rw [Pixel.check_of_representable (fits.part k hlt), Checked.ok_bind]
    exact fits.adjust_eq hextra hlt hsize (hn size hsize)

/-! ## The edges -/

variable {s : Sizing} {total p : Int}

/-- Where the preferred length is computed, the edges take three more steps. -/
theorem edges_of_preferred_eq (hp : s.preferred = .ok p) (hsizes : s.minSizes = .ok sizes)
    (resizable : IndexSet) :
    s.edges total resizable = Pixel.sub total p >>= fun extra =>
      resize extra (resizable.below s.count) sizes >>= boundaries 0 := by
  have hsum : Pixel.sum sizes = .ok p := by
    rw [preferred, hsizes] at hp
    exact hp
  rw [Sizing.edges, hsizes, Checked.ok_bind, hsum]
  rfl

end Sizing

namespace IndexSet

theorem below_ne_nil_iff {r : IndexSet} {count : Nat} :
    r.below count ≠ [] ↔ ∃ i ∈ r, i < count := by
  constructor
  · intro hne
    obtain ⟨i, hi⟩ := List.exists_mem_of_ne_nil _ hne
    exact ⟨i, mem_below.mp hi⟩
  · rintro ⟨i, hi⟩
    exact List.ne_nil_of_mem (mem_below.mpr hi)

theorem length_below_le (r : IndexSet) (count : Nat) : (r.below count).length ≤ count := by
  have hsubset : (r.below count).toFinset ⊆ Finset.range count := by
    intro track htrack
    exact Finset.mem_range.mpr (lt_of_mem_below (List.mem_toFinset.mp htrack))
  have hcard := Finset.card_le_card hsubset
  rwa [List.toFinset_card_of_nodup (r.nodup_below count), Finset.card_range] at hcard

end IndexSet

namespace Sizing

variable {s : Sizing} {sizes : List Int} {total p : Int}

/-- A difference that can be shared out, if there is somebody to share it, leads to edges. -/
theorem edges_of_sub_fits (hp : s.preferred = .ok p) (hsizes : s.minSizes = .ok sizes)
    (hcount : (s.count : Int) ≤ Pixel.greatest) (htotal : total ≤ Pixel.greatest)
    (resizable : IndexSet) (hleast : Pixel.least ≤ total - p)
    (hshared : resizable.below s.count ≠ [] → total - p ≠ Pixel.least) :
    (∃ edges, s.edges total resizable = .ok edges ∧ ∀ edge ∈ edges, Pixel.Representable edge) ∧
      (total - p ≠ 0 → resizable.below s.count ≠ [] →
        StepsFit (total - p) (resizable.below s.count) sizes) := by
  have hn := minSizes_nonneg hsizes
  have hnonneg := List.sum_nonneg hn
  have hpsum : p = sizes.sum := preferred_eq_ok hp hsizes
  have hpfits : sizes.sum ≤ Pixel.greatest := by
    by_contra hlong
    have hfails : s.preferred = .error .addition :=
      preferred_eq_error_iff.mpr (.inr ⟨rfl, sizes, hsizes, not_le.mp hlong⟩)
    cases hp.symm.trans hfails
  have hfits : total - p ≠ 0 → resizable.below s.count ≠ [] →
      StepsFit (total - p) (resizable.below s.count) sizes := by
    intro _ hne
    have hreceivers := resizable.length_below_le s.count
    have hmore := hshared hne
    exact stepsFit_of_sum_le hn hpfits (by omega) (by omega) hne (by omega)
  refine ⟨?_, hfits⟩
  have hsub : Pixel.sub total p = .ok (total - p) :=
    Pixel.check_of_representable ⟨hleast, by omega⟩
  rw [edges_of_preferred_eq hp hsizes, hsub, Checked.ok_bind]
  by_cases hidle : total - p = 0 ∨ resizable.below s.count = []
  · rw [resize, if_pos hidle]
    exact boundaries_of_sum_le hn le_rfl (by omega)
  · obtain ⟨hextra, hne⟩ := not_or.mp hidle
    rw [(hfits hextra hne).resize_eq hextra hn, Checked.ok_bind]
    have hnodup := resizable.nodup_below s.count
    have hlt : ∀ track ∈ resizable.below s.count, track < sizes.length := fun track htrack =>
      length_minSizes hsizes ▸ IndexSet.lt_of_mem_below htrack
    refine boundaries_of_sum_le (exactResize_nonneg _ _ hn) le_rfl ?_
    rcases le_total 0 (total - p) with hlonger | hshorter
    · rw [sum_exactResize hlonger hnodup hne hlt hn]
      omega
    · have hbounds := (sum_exactResize_bounds hshorter hnodup hlt hn).2
      omega

/-- Where the preferred length is computed, the edges fail in two cases: the difference of the lengths
is too small, or it is the least number and there is a track to share it. -/
theorem edges_eq_error_iff (hp : s.preferred = .ok p) (hcount : (s.count : Int) ≤ Pixel.greatest)
    (htotal : Pixel.Representable total) (resizable : IndexSet) {o : Overflow} :
    s.edges total resizable = .error o ↔
      (o = .subtraction ∧ total - p < Pixel.least) ∨
        (o = .negation ∧ total - p = Pixel.least ∧ ∃ i ∈ resizable, i < s.count) := by
  obtain ⟨sizes, hsizes, -⟩ := Checked.bind_eq_ok_iff.mp hp
  rw [← IndexSet.below_ne_nil_iff]
  by_cases hsmall : total - p < Pixel.least
  · have hsub : Pixel.sub total p = .error .subtraction :=
      Pixel.check_eq_error_iff.mpr ⟨rfl, fun hfits => absurd hfits.1 (by omega)⟩
    have hfails : s.edges total resizable = .error .subtraction := by
      rw [edges_of_preferred_eq hp hsizes, hsub]
      rfl
    rw [hfails]
    constructor
    · intro h
      cases h
      exact .inl ⟨rfl, hsmall⟩
    · rintro (⟨rfl, -⟩ | ⟨-, heq, -⟩)
      · rfl
      · exact absurd heq hsmall.ne
  by_cases hleast : total - p = Pixel.least ∧ resizable.below s.count ≠ []
  · have hsub : Pixel.sub total p = .ok Pixel.least := by
      rw [Pixel.sub, hleast.1]
      rfl
    have hfails : s.edges total resizable = .error .negation := by
      rw [edges_of_preferred_eq hp hsizes, hsub, Checked.ok_bind, resize,
        if_neg (by simpa [Pixel.least] using hleast.2)]
      rfl
    rw [hfails]
    constructor
    · intro h
      cases h
      exact .inr ⟨rfl, hleast⟩
    · rintro (⟨-, hlow⟩ | ⟨rfl, -⟩)
      · exact absurd hlow hsmall
      · rfl
  · have hshared : resizable.below s.count ≠ [] → total - p ≠ Pixel.least := fun hne heq =>
      hleast ⟨heq, hne⟩
    obtain ⟨edges, hedges, -⟩ :=
      (edges_of_sub_fits hp hsizes hcount htotal.2 resizable (not_lt.mp hsmall) hshared).1
    refine iff_of_false (fun hfails => by cases hedges.symm.trans hfails) ?_
    rintro (⟨-, hlow⟩ | ⟨-, hlow⟩)
    · exact hsmall hlow
    · exact hleast hlow

/-- Edges that are computed are numbers of pixels, and so is everything that comes up on the way. -/
theorem fits_of_edges {edges : List Int} (hp : s.preferred = .ok p)
    (hcount : (s.count : Int) ≤ Pixel.greatest) (htotal : Pixel.Representable total)
    {resizable : IndexSet} (hedges : s.edges total resizable = .ok edges) :
    (∀ edge ∈ edges, Pixel.Representable edge) ∧
      ∀ sizes, s.minSizes = .ok sizes → total - p ≠ 0 → (∃ i ∈ resizable, i < s.count) →
        StepsFit (total - p) (resizable.below s.count) sizes := by
  obtain ⟨sizes, hsizes, -⟩ := Checked.bind_eq_ok_iff.mp hp
  have hfine : ∀ o, ¬ s.edges total resizable = .error o := fun o hfails => by
    cases hedges.symm.trans hfails
  simp only [edges_eq_error_iff hp hcount htotal, not_or, not_and] at hfine
  have hleast : Pixel.least ≤ total - p := not_lt.mp ((hfine .subtraction).1 rfl)
  have hshared : resizable.below s.count ≠ [] → total - p ≠ Pixel.least := fun hne heq =>
    (hfine .negation).2 rfl heq (IndexSet.below_ne_nil_iff.mp hne)
  obtain ⟨⟨edges', hedges', hall⟩, hsteps⟩ :=
    edges_of_sub_fits hp hsizes hcount htotal.2 resizable hleast hshared
  cases hedges.symm.trans hedges'
  refine ⟨hall, fun sizes' hsizes' hextra hsome => ?_⟩
  cases hsizes.symm.trans hsizes'
  exact hsteps hextra (IndexSet.below_ne_nil_iff.mpr hsome)

/-- Let all demands be numbers of pixels, on no more tracks than there are such numbers. Then the least
sizes fail exactly where a longer run that is about to be stretched is too long already, and stretching
it never fails. The preferred length fails where the least sizes do, or where their sum is too long.
Where it does not, the edges of an axis of any length fail exactly if the difference to the preferred
length is too small, or if it is the least number and some track may be resized. Otherwise all
edges are numbers of pixels, and so is everything that comes up while a difference is shared out, by
a number of receivers that is not zero. -/
theorem overflow_exact (hsizes : ∀ d ∈ s.demands, Pixel.Representable d.size)
    (hcount : s.count < 2147483648) :
    (∀ o, s.minSizes = .error o ↔ o = .addition ∧
      ∃ done d sizes, s.Reaches done d sizes ∧ Pixel.greatest < (d.run sizes).sum) ∧
    (∀ done d sizes, s.Reaches done d sizes → (d.run sizes).sum < d.size →
      Pixel.Representable (d.size - (d.run sizes).sum) ∧
        Pixel.Representable (sizes.getD (d.stop - 1) 0 + (d.size - (d.run sizes).sum))) ∧
    (∀ o, s.preferred = .error o ↔ s.minSizes = .error o ∨
      o = .addition ∧ ∃ sizes, s.minSizes = .ok sizes ∧ Pixel.greatest < sizes.sum) ∧
    ∀ p, s.preferred = .ok p → ∀ total, Pixel.Representable total → ∀ resizable : IndexSet,
      (∀ o, s.edges total resizable = .error o ↔
        (o = .subtraction ∧ total - p < Pixel.least) ∨
          (o = .negation ∧ total - p = Pixel.least ∧ ∃ i ∈ resizable, i < s.count)) ∧
      ∀ edges, s.edges total resizable = .ok edges →
        (∀ edge ∈ edges, Pixel.Representable edge) ∧
        ∀ sizes, s.minSizes = .ok sizes → total - p ≠ 0 → (∃ i ∈ resizable, i < s.count) →
          StepsFit (total - p) (resizable.below s.count) sizes := by
  have hlimit : (s.count : Int) ≤ Pixel.greatest := by
    unfold Pixel.greatest
    omega
  refine ⟨fun o => minSizes_eq_error_iff fun d hd => (hsizes d hd).2, ?_,
    fun o => preferred_eq_error_iff, fun p hp total htotal resizable => ⟨fun o =>
      edges_eq_error_iff hp hlimit htotal resizable, fun edges hedges =>
      fits_of_edges hp hlimit htotal hedges⟩⟩
  intro done d sizes reaches hlacks
  obtain ⟨hmem, hlong⟩ := reaches.mem
  exact Demand.lack_fits reaches.nonneg (by omega) (hsizes d hmem).2 hlacks

end Sizing

namespace Form

/-- Two tracks that are representable and whose sum is not, and a demand on both. -/
def vast : Sizing := ⟨[⟨0, 1, 2147483647⟩, ⟨1, 1, 1⟩, ⟨0, 2, 5⟩]⟩

/-- The same tracks without the demand on both. -/
def vastApart : Sizing := ⟨[⟨0, 1, 2147483647⟩, ⟨1, 1, 1⟩]⟩

/-- A single track. -/
def lone : Sizing := ⟨[⟨0, 1, 7⟩]⟩

/-- The two tracks cannot be measured together. Above the least number, the lone track takes every
length; at it, the length cannot be shared out, and below it there is no difference. -/
theorem vast_overflow : vast.minSizes = .error .addition ∧ vastApart.preferred = .error .addition ∧
    lone.edges (-2147483642) (.ofList [0]) = .error .subtraction ∧
    lone.edges (-2147483641) (.ofList [0]) = .error .negation ∧
    lone.edges (-2147483641) (.ofList [1]) = .ok [0, 7] ∧
    lone.edges (-2147483640) (.ofList [0]) = .ok [0, 0] ∧
    Sizing.StepsFit (-2147483647) [0] [7] := by
  have hvast := @Sizing.overflow_exact vast (by decide) (by decide)
  have hapart := @Sizing.overflow_exact vastApart (by decide) (by decide)
  have hlone := (@Sizing.overflow_exact lone (by decide) (by decide)).2.2.2 7 rfl
  have hreaches : vast.Reaches [] ⟨0, 2, 5⟩ [2147483647, 1] := ⟨⟨[], rfl⟩, rfl⟩
  have hedges : lone.edges (-2147483640) (.ofList [0]) = .ok [0, 0] := rfl
  refine ⟨(hvast.1 _).mpr ⟨rfl, _, _, _, hreaches, by decide⟩,
    (hapart.2.2.1 _).mpr (.inr ⟨rfl, [2147483647, 1], rfl, by decide⟩), ?_, ?_, rfl, hedges, ?_⟩
  · exact ((hlone (-2147483642) (by decide) (.ofList [0])).1 _).mpr (.inl ⟨rfl, by decide⟩)
  · exact ((hlone (-2147483641) (by decide) (.ofList [0])).1 _).mpr
      (.inr ⟨rfl, rfl, 0, by decide, by decide⟩)
  · exact ((hlone (-2147483640) (by decide) (.ofList [0])).2 _ hedges).2 [7] rfl (by decide)
      ⟨0, by decide, by decide⟩

end Form

end FormGrid
