import FormGrid.Proofs.Sizing.Edges
import FormGrid.Sizing.Guarded

/-!
# Looking up and storing tracks

No look-up of an axis fails. Every run that is demanded ends among the tracks, since the number of
tracks follows from the demands, and only tracks of the axis are resized. So track sizes and edges
that are found with look-ups are those that are found without, down to the overflow that comes first.

The two differ in their order. Here the demands on single tracks are gone through one after the other
(`Sizing.guardedRaise_eq` is the step), and the difference is given to the resizable tracks in turn
(`Sizing.foldlM_guardedChange`), while the computation without look-ups finds each size by itself.

## Main results

* `Guarded.bind_eq`, `Guarded.foldlM_eq`: a sequence of steps looks nowhere else if no step does
* `Sizing.guardedMinSizes_eq`, `Sizing.guardedEdges_eq`: all look-ups find something
-/

namespace FormGrid

/-! ## Computations with look-ups -/

namespace Guarded

variable {α β : Type}

theorem read_eq {as : List α} {i : Nat} (h : i < as.length) (d : α) :
    read as i = .ok (as.getD i d) := by
  rw [read, List.getD_eq_getElem?_getD, List.getElem?_eq_getElem h, Option.getD_some]

theorem write_eq {as : List α} {i : Nat} (h : i < as.length) (a : α) :
    write as i a = .ok (as.set i a) := if_pos h

theorem ok_bind (a : α) (next : α → Guarded β) : (Except.ok a >>= next) = next a := rfl

/-- A sequence looks nowhere but where there is something, if its first step does not and what
follows a result of this step does not. -/
theorem bind_eq {step : Guarded α} {step' : Checked α} {next : α → Guarded β}
    {next' : α → Checked β} (hstep : step = ofChecked step')
    (hnext : ∀ a, step' = .ok a → next a = ofChecked (next' a)) :
    step >>= next = ofChecked (step' >>= next') := by
  subst hstep
  cases step' with
  | error o => rfl
  | ok a => exact hnext a rfl

/-- A loop looks nowhere but where there is something, if no step does that starts where the steps
before it have led. -/
theorem foldlM_eq {P : β → Prop} {f : β → α → Guarded β} {f' : β → α → Checked β} {as : List α}
    {b : β} (hb : P b) (hf : ∀ b, P b → ∀ a ∈ as, f b a = ofChecked (f' b a))
    (hP : ∀ b, P b → ∀ a ∈ as, ∀ b', f' b a = .ok b' → P b') :
    as.foldlM f b = ofChecked (as.foldlM f' b) := by
  induction as generalizing b with
  | nil => rfl
  | cons a as ih =>
    rw [List.foldlM_cons, List.foldlM_cons]
    refine bind_eq (hf b hb a List.mem_cons_self) fun b' hb' => ?_
    refine ih (hP b hb a List.mem_cons_self b' hb') ?_ ?_
    · exact fun b hb a ha => hf b hb a (List.mem_cons_of_mem _ ha)
    · exact fun b hb a ha => hP b hb a (List.mem_cons_of_mem _ ha)

end Guarded

/-! ## Demands -/

namespace Demand

theorem guardedStretch_eq {d : Demand} {sizes : List Int} (hspan : 1 ≤ d.span)
    (hstop : d.stop ≤ sizes.length) :
    d.guardedStretch sizes = Guarded.ofChecked (d.stretch sizes) := by
  have hlast : d.stop - 1 < sizes.length := by
    have : 1 ≤ d.stop := Nat.le_add_left_of_le hspan
    omega
  unfold guardedStretch stretch
  rw [guardedRun, if_pos hstop, Guarded.ok_bind]
  apply Guarded.bind_eq rfl
  intro current _
  split
  case isTrue =>
    apply Guarded.bind_eq rfl
    intro lacking _
    rw [Guarded.read_eq hlast 0, Guarded.ok_bind]
    apply Guarded.bind_eq rfl
    intro last _
    exact Guarded.write_eq hlast last
  case isFalse => rfl

end Demand

/-! ## Least sizes -/

namespace Sizing

theorem singleSize_append (ds : List Demand) (d : Demand) (track : Nat) :
    singleSize ⟨ds ++ [d]⟩ track =
      if d.span = 1 ∧ d.start = track then max (singleSize ⟨ds⟩ track) d.size
      else singleSize ⟨ds⟩ track := by
  unfold singleSize
  by_cases hd : d.span = 1 ∧ d.start = track
  · simp [List.filter_append, hd]
  · simp [List.filter_append, hd]

/-- Going through one more demand raises the size of its track. -/
theorem guardedRaise_eq {ds : List Demand} {d : Demand} {n : Nat} (hstop : d.stop ≤ n) :
    guardedRaise ((List.range n).map (singleSize ⟨ds⟩)) d =
      .ok ((List.range n).map (singleSize ⟨ds ++ [d]⟩)) := by
  unfold guardedRaise
  split
  case isTrue hspan =>
    have hstart : d.start < n := by
      unfold Demand.stop at hstop
      omega
    have hlength : d.start < ((List.range n).map (singleSize ⟨ds⟩)).length := by simpa using hstart
    rw [Guarded.read_eq hlength 0, Guarded.ok_bind, Guarded.write_eq hlength]
    congr 1
    apply List.ext_getElem
    · simp
    intro track htrack _
    rw [List.getElem_set]
    by_cases heq : d.start = track
    · subst heq
      simp [singleSize_append, hspan, hstart]
    · simp [singleSize_append, heq]
  case isFalse hspan =>
    have hsame : singleSize ⟨ds ++ [d]⟩ = singleSize ⟨ds⟩ := by
      funext track
      rw [singleSize_append, if_neg fun h => hspan h.1]
    rw [hsame]
    rfl

/-- Going through the demands once finds the largest length that is asked of each track. -/
theorem guardedSingleSizes_eq (s : Sizing) :
    s.guardedSingleSizes = .ok ((List.range s.count).map s.singleSize) := by
  unfold guardedSingleSizes
  -- the demands that have been gone through are those of an axis of the same length
  suffices h : ∀ done left, s.demands = done ++ left →
      left.foldlM guardedRaise ((List.range s.count).map (singleSize ⟨done⟩)) =
        .ok ((List.range s.count).map s.singleSize) by
    have hnone : (List.range s.count).map (singleSize ⟨[]⟩) = List.replicate s.count 0 := by
      rw [show singleSize ⟨[]⟩ = fun _ => 0 from rfl, List.map_const', List.length_range]
    rw [← hnone]
    exact h [] s.demands rfl
  intro done left hdemands
  induction left generalizing done with
  | nil =>
    rw [List.append_nil] at hdemands
    rw [← hdemands]
    rfl
  | cons d left ih =>
    have hd : d ∈ s.demands := by simp [hdemands]
    rw [List.foldlM_cons, guardedRaise_eq (stop_le_count hd), Guarded.ok_bind]
    apply ih
    rw [hdemands, List.append_assoc, List.singleton_append]

/-- All runs that are demanded end among the tracks. -/
theorem guardedMinSizes_eq (s : Sizing) : s.guardedMinSizes = Guarded.ofChecked s.minSizes := by
  unfold guardedMinSizes minSizes
  rw [guardedSingleSizes_eq, Guarded.ok_bind]
  refine Guarded.foldlM_eq (P := fun sizes => sizes.length = s.count) (by simp) ?_ ?_
  · intro sizes hlength d hd
    obtain ⟨hmem, hspan⟩ := mem_spanning.mp hd
    apply Demand.guardedStretch_eq (by omega)
    rw [hlength]
    exact stop_le_count hmem
  · intro sizes hlength d _ sizes' hsizes'
    rw [(Demand.stretch_le hsizes').length_eq.symm, hlength]

theorem guardedPreferred_eq (s : Sizing) : s.guardedPreferred = Guarded.ofChecked s.preferred :=
  Guarded.bind_eq s.guardedMinSizes_eq fun _ _ => rfl

/-! ## Edges -/

theorem guardedChange_eq (f : Nat → Int → Checked Int) (done : List Int) (size : Int)
    (sizes : List Int) (k : Nat) :
    guardedChange f (done ++ size :: sizes) (done.length, k) =
      (Guarded.ofChecked (f k size) >>= fun size => .ok (done ++ size :: sizes)) := by
  have hlength : done.length < (done ++ size :: sizes).length := by simp
  have hread : (done ++ size :: sizes).getD done.length 0 = size := by simp
  unfold guardedChange
  rw [Guarded.read_eq hlength 0, Guarded.ok_bind, hread]
  congr 1
  funext size'
  rw [Guarded.write_eq hlength]
  simp

/-- What becomes of a track when all tracks are gone through. -/
def changed (f : Nat → Int → Checked Int) (number : Nat → Option Nat) (p : Int × Nat) :
    Checked Int :=
  match number p.2 with
  | none => return p.1
  | some k => f k p.1

/-- To change some tracks one after the other, in ascending order, is to go through all tracks and to
change these. `number` gives the place of a track among those to be changed, counted from `k`. -/
theorem foldlM_guardedChange (f : Nat → Int → Checked Int) (number : Nat → Option Nat)
    {targets : List Nat} {done sizes : List Int} {k : Nat} (hsorted : targets.Pairwise (· < ·))
    (hrange : ∀ track ∈ targets, done.length ≤ track ∧ track < done.length + sizes.length)
    (hnumber : ∀ track, done.length ≤ track → number track = (targets.idxOf? track).map (k + ·)) :
    (targets.zipIdx k).foldlM (guardedChange f) (done ++ sizes) =
      Guarded.ofChecked (do
        let rest ← (sizes.zipIdx done.length).mapM (changed f number)
        return done ++ rest) := by
  -- the tracks are gone through; those in `done` are left behind for good
  induction sizes generalizing targets done k with
  | nil =>
    cases targets with
    | nil => rfl
    | cons track targets =>
      obtain ⟨hle, hlt⟩ := hrange track List.mem_cons_self
      simp only [List.length_nil] at hlt
      omega
  | cons size sizes ih =>
    have hnext : ∀ (size' : Int) {targets : List Nat} {k : Nat}, targets.Pairwise (· < ·) →
        (∀ track ∈ targets, done.length < track ∧ track < done.length + (sizes.length + 1)) →
        (∀ track, done.length < track → number track = (targets.idxOf? track).map (k + ·)) →
        (targets.zipIdx k).foldlM (guardedChange f) (done ++ size' :: sizes) =
          Guarded.ofChecked (do
            let rest ← (sizes.zipIdx (done.length + 1)).mapM (changed f number)
            return done ++ size' :: rest) := by
      intro size' targets k hsorted hrange hnumber
      have hrest := @ih targets (done ++ [size']) k hsorted
      simp only [List.length_append, List.length_singleton, List.append_assoc,
        List.singleton_append] at hrest
      apply hrest
      · intro track htrack
        have := hrange track htrack
        omega
      · exact fun track htrack => hnumber track htrack
    simp only [List.zipIdx_cons, List.mapM_cons, bind_assoc, pure_bind]
    by_cases hfirst : done.length ∈ targets
    case neg =>
      have hstays : changed f number (size, done.length) = .ok size := by
        simp only [changed, hnumber _ le_rfl, List.idxOf?_eq_none_iff.mpr hfirst]
        rfl
      rw [hstays, Checked.ok_bind]
      refine hnext size hsorted (fun track htrack => ?_) fun track htrack => hnumber track htrack.le
      obtain ⟨hle, hlt⟩ := hrange track htrack
      exact ⟨lt_of_le_of_ne hle fun heq => hfirst (heq ▸ htrack), hlt⟩
    case pos =>
      obtain ⟨targets, rfl⟩ : ∃ others, targets = done.length :: others := by
        cases targets with
        | nil => cases hfirst
        | cons track targets =>
          rcases List.mem_cons.mp hfirst with heq | hmem
          · exact ⟨targets, by rw [heq]⟩
          · have hlt := (List.pairwise_cons.mp hsorted).1 _ hmem
            have hle := (hrange track List.mem_cons_self).1
            omega
      obtain ⟨hbefore, hsorted⟩ := List.pairwise_cons.mp hsorted
      have hchanges : changed f number (size, done.length) = f k size := by
        simp only [changed, hnumber _ le_rfl, List.idxOf?_cons, beq_self_eq_true, if_true]
        rfl
      rw [List.zipIdx_cons, List.foldlM_cons, guardedChange_eq, hchanges, bind_assoc]
      refine Guarded.bind_eq rfl fun size' _ => ?_
      apply hnext size' hsorted
      · intro track htrack
        exact ⟨hbefore track htrack, (hrange track (List.mem_cons_of_mem _ htrack)).2⟩
      · intro track htrack
        have hne : done.length ≠ track := by omega
        rw [hnumber track htrack.le, List.idxOf?_cons, if_neg (by simpa using hne), Option.map_map]
        congr 1
        funext j
        simp only [Function.comp_apply]
        omega

/-- All tracks that are resized are tracks of the axis. -/
theorem guardedResize_eq (extra : Int) {targets : List Nat} {sizes : List Int}
    (hsorted : targets.Pairwise (· < ·)) (hlt : ∀ track ∈ targets, track < sizes.length) :
    guardedResize extra targets sizes = Guarded.ofChecked (resize extra targets sizes) := by
  unfold guardedResize resize
  split
  case isTrue => rfl
  case isFalse =>
    refine Guarded.bind_eq rfl fun magnitude _ => ?_
    have hloop := @foldlM_guardedChange (receive extra magnitude targets.length) (targets.idxOf? ·)
      targets [] sizes 0 hsorted (by simpa using hlt) (by simp)
    simp only [List.nil_append, List.length_nil, bind_pure] at hloop
    exact hloop

/-- All look-ups of an axis find something: the runs that are demanded end among its tracks, and only
tracks are resized. -/
theorem guardedEdges_eq (s : Sizing) (total : Int) (resizable : IndexSet) :
    s.guardedEdges total resizable = Guarded.ofChecked (s.edges total resizable) := by
  unfold guardedEdges edges
  apply Guarded.bind_eq s.guardedMinSizes_eq
  intro sizes hsizes
  have hlt : ∀ track ∈ resizable.below s.count, track < sizes.length := by
    intro track htrack
    rw [length_minSizes hsizes]
    exact IndexSet.lt_of_mem_below htrack
  apply Guarded.bind_eq rfl
  intro sum _
  apply Guarded.bind_eq rfl
  intro extra _
  exact Guarded.bind_eq (guardedResize_eq extra (resizable.ascending.filter _) hlt) fun _ _ => rfl

end Sizing

end FormGrid
