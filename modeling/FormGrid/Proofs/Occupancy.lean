import FormGrid.Proofs.Registry

/-!
# Positions of a cell

A cell covers the positions whose column and row are among its tracks. It can be asked for a
position (`Constraints.occupies`), and two cells can be asked for a common one
(`Constraints.intersects`). The second question compares the edges of the cells and looks at no
position. For cells that cover something the answers agree.

A placement without tracks covers nothing, and yet its edge may lie strictly between the edges of
another one, which it splits. The comparison of edges cannot tell this from a common track. It says
that two cells intersect exactly if on each axis they have a common track or one splits the other,
and a new cell is refused exactly if that is so for an existing one. A cell without tracks which is
at an edge of another one, or outside of it, splits nothing, and is not refused.

## Main definitions

* `Constraints.Covers`, `Constraints.Meets`: positions of a cell, and of two cells at once
* `Constraints.Splits`, `Constraints.Touches`: what the comparison of edges sees
* `Checked.Decides`: a computation that ends with the answer to a question
* `Grid.RefusesIff`: when a grid refuses a cell

## Main results

* `Constraints.Indexed.decides_intersects`: when cells intersect
* `Constraints.Indexed.meets_iff`: when they cover a common position
* `Grid.checkFree_of_proper`: when a cell is refused among cells that all cover something
* `Grid.refusesIff_touches`: when a cell is refused among any cells, and when that agrees with the
  positions it can be asked for
-/

namespace FormGrid

variable {K : Type}

/-! ## Computations that answer a question -/

namespace Checked

/-- The computation ends, and its result says whether `p` holds. -/
def Decides (question : Checked Bool) (p : Prop) : Prop :=
  ∃ b, question = .ok b ∧ (b = true ↔ p)

theorem Decides.and {first second : Checked Bool} {p q : Prop} (hfirst : Decides first p)
    (hsecond : Decides second q) : Decides (Checked.and first second) (p ∧ q) := by
  obtain ⟨b, rfl, hp⟩ := hfirst
  obtain ⟨b', rfl, hq⟩ := hsecond
  cases b with
  | true => exact ⟨b', rfl, by simp [← hp, hq]⟩
  | false => exact ⟨false, rfl, by simp [← hp]⟩

theorem Decides.anyM {α : Type} {f : α → Checked Bool} {p : α → Prop} {as : List α}
    (h : ∀ a ∈ as, Decides (f a) (p a)) : Decides (as.anyM f) (∃ a ∈ as, p a) := by
  induction as with
  | nil => exact ⟨false, rfl, by simp⟩
  | cons a as ih =>
    obtain ⟨hfirst, hothers⟩ := List.forall_mem_cons.mp h
    obtain ⟨first, hfirst, hp⟩ := hfirst
    obtain ⟨rest, hrest, hsome⟩ := ih hothers
    simp only [Decides, List.anyM_cons, hfirst, List.exists_mem_cons_iff, ← hp, ← hsome]
    cases first with
    | true => exact ⟨true, rfl, by simp⟩
    | false => exact ⟨rest, hrest, by simp⟩

theorem Decides.congr {question : Checked Bool} {p q : Prop} (h : Decides question p)
    (hpq : p ↔ q) : Decides question q := by
  obtain ⟨b, hb, hp⟩ := h
  exact ⟨b, hb, hp.trans hpq⟩

theorem Decides.eq_true_iff {question : Checked Bool} {p : Prop} (h : Decides question p) :
    question = .ok true ↔ p := by
  obtain ⟨b, rfl, hp⟩ := h
  simpa using hp

end Checked

/-! ## Positions -/

namespace Placement

/-- The track is one of those of the placement. -/
def Covers (p : Placement) (track : Nat) : Prop := p.start ≤ track ∧ track < p.stop

/-- The placement has no tracks, and its edge lies strictly between the edges of the other one. -/
def Splits (p q : Placement) : Prop := p.span = 0 ∧ q.start < p.start ∧ p.start < q.stop

/-- The placements have a common track, or one of them splits the other. -/
def Touches (p q : Placement) : Prop :=
  (∃ track, p.Covers track ∧ q.Covers track) ∨ p.Splits q ∨ q.Splits p

variable {p q : Placement}

theorem Apart.not_covers (h : p.Apart q) {track : Nat} (hp : p.Covers track) :
    ¬ q.Covers track := by
  unfold Apart Covers at *
  omega

/-- A placement that covers a track is not empty, so it splits nothing. -/
theorem Covers.not_splits {track : Nat} (h : p.Covers track) : ¬ p.Splits q := by
  unfold Covers Splits stop at *
  omega

/-- Two placements that are not empty have a common track if each starts before the other stops. -/
theorem exists_covers_iff (hp : 1 ≤ p.span) (hq : 1 ≤ q.span) :
    (∃ track, p.Covers track ∧ q.Covers track) ↔ p.start < q.stop ∧ q.start < p.stop := by
  unfold Covers
  constructor
  · rintro ⟨track, h⟩
    omega
  · intro h
    unfold stop at *
    exact ⟨max p.start q.start, by omega⟩

/-- Any two placements touch exactly if each starts before the other stops. -/
theorem touches_iff : p.Touches q ↔ p.start < q.stop ∧ q.start < p.stop := by
  by_cases hspans : 1 ≤ p.span ∧ 1 ≤ q.span
  · have hnone : ¬ (p.Splits q ∨ q.Splits p) := by
      unfold Splits
      omega
    rw [Touches, or_iff_left hnone, exists_covers_iff hspans.1 hspans.2]
  · have hnone : ¬ ∃ track, p.Covers track ∧ q.Covers track := by
      rintro ⟨track, hp, hq⟩
      unfold Covers stop at hp hq
      omega
    rw [Touches, or_iff_right hnone]
    unfold Splits stop
    omega

end Placement

namespace Constraints

/-- The cell covers the position. -/
def Covers (c : Constraints) (column row : Nat) : Prop := c.x.Covers column ∧ c.y.Covers row

/-- The two cells cover a common position. -/
def Meets (c d : Constraints) : Prop := ∃ column row, c.Covers column row ∧ d.Covers column row

/-- On one of the axes, the cell has no tracks and splits the other one. -/
def Splits (c d : Constraints) : Prop := c.x.Splits d.x ∨ c.y.Splits d.y

/-- On each axis, the cells have a common track or one of them splits the other. -/
def Touches (c d : Constraints) : Prop := c.x.Touches d.x ∧ c.y.Touches d.y

/-- There is a position for which both cells, when asked, say that they cover it. -/
def SharesPosition (c d : Constraints) : Prop :=
  ∃ column row, c.occupies column row = .ok true ∧ d.occupies column row = .ok true

/-- The stops of the cell are indices. -/
structure Indexed (c : Constraints) : Prop where
  column_stop : c.x.stop < Index.limit
  row_stop : c.y.stop < Index.limit

/-- The cell covers at least one column and one row, and its stops are indices. -/
structure Proper (c : Constraints) : Prop where
  columns : 1 ≤ c.x.span
  rows : 1 ≤ c.y.span
  column_stop : c.x.stop < Index.limit
  row_stop : c.y.stop < Index.limit

variable {c d : Constraints}

theorem Proper.indexed (hc : c.Proper) : c.Indexed := ⟨hc.column_stop, hc.row_stop⟩

/-- A proper cell has tracks on both axes, so it splits nothing. -/
theorem Proper.not_splits (hc : c.Proper) : ¬ c.Splits d := by
  obtain ⟨hcolumns, hrows, -, -⟩ := hc
  unfold Splits Placement.Splits
  omega

/-- Cells that lie apart cover no common position. -/
theorem Apart.not_meets (h : c.Apart d) : ¬ c.Meets d := by
  rintro ⟨column, row, hc, hd⟩
  rcases h with hx | hy
  · exact hx.not_covers hc.1 hd.1
  · exact hy.not_covers hc.2 hd.2

/-- Two cells cover a common position exactly if they touch and none splits the other. -/
theorem meets_iff : c.Meets d ↔ c.Touches d ∧ ¬ c.Splits d ∧ ¬ d.Splits c := by
  constructor
  · rintro ⟨column, row, ⟨hx, hy⟩, hx', hy'⟩
    refine ⟨⟨.inl ⟨column, hx, hx'⟩, .inl ⟨row, hy, hy'⟩⟩, ?_, ?_⟩
    · exact not_or.mpr ⟨hx.not_splits, hy.not_splits⟩
    · exact not_or.mpr ⟨hx'.not_splits, hy'.not_splits⟩
  · rintro ⟨⟨hx, hy⟩, hc, hd⟩
    obtain ⟨hcx, hcy⟩ := not_or.mp hc
    obtain ⟨hdx, hdy⟩ := not_or.mp hd
    obtain ⟨column, hx, hx'⟩ := hx.resolve_right (not_or.mpr ⟨hcx, hdx⟩)
    obtain ⟨row, hy, hy'⟩ := hy.resolve_right (not_or.mpr ⟨hcy, hdy⟩)
    exact ⟨column, row, ⟨hx, hy⟩, hx', hy'⟩

namespace Indexed

/-- A cell whose stops are indices can be asked for each position. -/
theorem decides_occupies (hc : c.Indexed) (column row : Nat) :
    Checked.Decides (c.occupies column row) (c.Covers column row) := by
  unfold occupies
  rw [Placement.occupies_of_lt hc.column_stop, Placement.occupies_of_lt hc.row_stop]
  exact .and ⟨_, rfl, decide_eq_true_iff⟩ ⟨_, rfl, decide_eq_true_iff⟩

/-- Two cells whose stops are indices intersect exactly if they touch. -/
theorem decides_intersects (hc : c.Indexed) (hd : d.Indexed) :
    Checked.Decides (c.intersects d) (c.Touches d) := by
  unfold intersects Touches
  rw [Placement.intersects_of_lt hc.column_stop hd.column_stop,
    Placement.intersects_of_lt hc.row_stop hd.row_stop, Placement.touches_iff,
    Placement.touches_iff]
  exact .and ⟨_, rfl, decide_eq_true_iff⟩ ⟨_, rfl, decide_eq_true_iff⟩

theorem sharesPosition_iff (hc : c.Indexed) (hd : d.Indexed) :
    c.SharesPosition d ↔ c.Touches d ∧ ¬ c.Splits d ∧ ¬ d.Splits c := by
  rw [← meets_iff]
  unfold SharesPosition Meets
  simp only [(hc.decides_occupies _ _).eq_true_iff, (hd.decides_occupies _ _).eq_true_iff]

end Indexed

/-- Proper cells intersect exactly if they cover a common position. -/
theorem Proper.decides_intersects (hc : c.Proper) (hd : d.Proper) :
    Checked.Decides (c.intersects d) (c.Meets d) := by
  refine (hc.indexed.decides_intersects hd.indexed).congr ?_
  rw [meets_iff, and_iff_left ⟨hc.not_splits, hd.not_splits⟩]

end Constraints

/-! ## Refused cells -/

/-- A call that would insert the cell is refused in this case and in no other, and the refusal says
that the cell's place is occupied. -/
def RefusedIff {α : Type} (c : Constraints) (p : Prop) (result : Except InsertError α) : Prop :=
  (result = .error (.occupied c) ↔ p) ∧ ((∃ a, result = .ok a) ↔ ¬ p)

/-- What is done after the check refuses nothing. -/
theorem RefusedIff.bind {α β : Type} {c : Constraints} {p : Prop} {result : Except InsertError α}
    (h : RefusedIff c p result) {next : α → Except InsertError β}
    (hnext : ∀ a, ∃ b, next a = .ok b) : RefusedIff c p (result >>= next) := by
  cases result with
  | error e => simpa [RefusedIff, Bind.bind, Except.bind] using h
  | ok a =>
    obtain ⟨b, hb⟩ := hnext a
    simpa [RefusedIff, Bind.bind, Except.bind, hb] using h

namespace Grid

variable {g t : Grid K} {c : Constraints} {p : Prop}

/-- The grid refuses the cell in this case and in no other, whether it is to hold a component or a
grid. -/
def RefusesIff (g : Grid K) (c : Constraints) (p : Prop) : Prop :=
  (∀ key, RefusedIff c p (g.insert key c)) ∧
    ∀ (α : Type) (build : Grid K → α × Grid K), RefusedIff c p (g.insertSubGrid c build)

theorem refusedIff_checkFree (h : Checked.Decides (g.cells.infos.anyM (·.intersects c)) p) :
    RefusedIff c p (g.checkFree c) := by
  obtain ⟨b, hb, hp⟩ := h
  unfold RefusedIff checkFree
  rw [hb, ← hp]
  cases b <;> simp

theorem refusesIff_of_checkFree (h : RefusedIff c p (g.checkFree c)) : g.RefusesIff c p :=
  ⟨fun _ => h.bind fun _ => ⟨_, rfl⟩, fun _ _ => h.bind fun _ => ⟨_, rfl⟩⟩

/-- Among proper cells, a new one is refused exactly if some existing one covers one of its
positions, and the refusal says so. -/
theorem checkFree_of_proper (hc : c.Proper) (hcells : ∀ d ∈ t.cells.infos, d.Proper) :
    (t.checkFree c = .error (.occupied c) ↔ ∃ d ∈ t.cells.infos, d.Meets c) ∧
      (t.checkFree c = .ok () ↔ ∀ d ∈ t.cells.infos, ¬ d.Meets c) := by
  have hdecides := Checked.Decides.anyM fun d hd => (hcells d hd).decides_intersects hc
  obtain ⟨hoccupied, hfree⟩ := refusedIff_checkFree hdecides
  have hunit : t.checkFree c = .ok () ↔ ∃ u, t.checkFree c = .ok u :=
    ⟨fun h => ⟨(), h⟩, fun ⟨(), h⟩ => h⟩
  refine ⟨hoccupied, ?_⟩
  rw [hunit, hfree]
  simp

/-- Let the stops of a cell be indices. Asked whether it intersects another such cell, it says so
exactly if the two touch, and they cover a common position exactly if they touch and none splits the
other. Among such cells it is refused exactly if it touches one of them. So where none of them and
the new one split each other, it is refused exactly if it shares a position with one of them. -/
theorem refusesIff_touches (hc : c.Indexed) :
    (∀ d : Constraints, d.Indexed →
      Checked.Decides (c.intersects d) (c.Touches d) ∧
      (c.SharesPosition d ↔ c.Touches d ∧ ¬ c.Splits d ∧ ¬ d.Splits c)) ∧
    ∀ g : Grid K, (∀ d ∈ g.cells.infos, d.Indexed) →
      g.RefusesIff c (∃ d ∈ g.cells.infos, d.Touches c) ∧
      ((∀ d ∈ g.cells.infos, ¬ d.Splits c ∧ ¬ c.Splits d) →
        g.RefusesIff c (∃ d ∈ g.cells.infos, d.SharesPosition c)) := by
  refine ⟨fun d hd => ⟨hc.decides_intersects hd, hc.sharesPosition_iff hd⟩, fun g hcells => ?_⟩
  have hdecides := Checked.Decides.anyM fun d hd => (hcells d hd).decides_intersects hc
  refine ⟨refusesIff_of_checkFree (refusedIff_checkFree hdecides), fun hsplits => ?_⟩
  refine refusesIff_of_checkFree (refusedIff_checkFree (hdecides.congr ?_))
  refine exists_congr fun d => and_congr_right fun hd => ?_
  rw [(hcells d hd).sharesPosition_iff hc, and_iff_left (hsplits d hd)]

end Grid

namespace Form

/-- Three columns in one row. -/
def wide : Constraints := (Constraints.single 0 0).withSpan 3 1

/-- No column, where the given one starts. -/
def slit (column : Nat) : Constraints := (Constraints.single column 0).withSpan 0 1

/-- A grid with a single component. -/
def gridOf (c : Constraints) : Grid Nat := ⟨⟨.plain, .plain⟩, .component c 1 .nil⟩

theorem indexed_wide : wide.Indexed := ⟨by decide, by decide⟩

/-- Inside the wide cell a slit covers nothing. Yet each of the two is said to intersect the other,
and is refused after it. -/
theorem slit_inside : (slit 1).Indexed ∧
    (∀ column row, (slit 1).occupies column row = .ok false) ∧ ¬ wide.SharesPosition (slit 1) ∧
    wide.intersects (slit 1) = .ok true ∧ (slit 1).intersects wide = .ok true ∧
    (gridOf wide).insert 2 (slit 1) = .error (.occupied (slit 1)) ∧
    (gridOf (slit 1)).insert 2 wide = .error (.occupied wide) := by
  have hindexed : (slit 1).Indexed := ⟨by decide, by decide⟩
  have hnone : ∀ column row, (slit 1).occupies column row = .ok false := by
    intro column row
    obtain ⟨b, hb, hcovers⟩ := hindexed.decides_occupies column row
    rw [hb, Except.ok.injEq, ← Bool.not_eq_true, hcovers]
    rintro ⟨⟨hstart, hstop⟩, -⟩
    exact absurd hstop (Nat.not_lt.mpr hstart)
  refine ⟨hindexed, hnone, ?_, rfl, rfl, rfl, rfl⟩
  rintro ⟨column, row, -, hslit⟩
  rw [hnone column row] at hslit
  cases hslit

/-- At the end of the wide cell a slit splits nothing, and it is accepted since it shares no
position. Inside of it, a slit is refused since it touches the wide cell. -/
theorem slit_refusesIff :
    (gridOf wide).RefusesIff (slit 3) (∃ d ∈ [wide], d.SharesPosition (slit 3)) ∧
    (∃ g, (gridOf wide).insert 2 (slit 3) = .ok g) ∧
    (gridOf wide).RefusesIff (slit 1) (∃ d ∈ [wide], d.Touches (slit 1)) ∧
    wide.Touches (slit 1) := by
  have hcells : ∀ d ∈ (gridOf wide).cells.infos, d.Indexed := by
    simpa [gridOf, Cells.infos] using indexed_wide
  have hend := Grid.refusesIff_touches (K := Nat) (c := slit 3) ⟨by decide, by decide⟩
  have hinside := Grid.refusesIff_touches (K := Nat) (c := slit 1) ⟨by decide, by decide⟩
  refine ⟨(hend.2 _ hcells).2 ?_, ⟨_, rfl⟩, (hinside.2 _ hcells).1, ?_⟩
  · have hsplits : ¬ wide.Splits (slit 3) ∧ ¬ (slit 3).Splits wide := by
      unfold Constraints.Splits Placement.Splits
      decide
    simpa [gridOf, Cells.infos] using hsplits
  · exact ⟨Placement.touches_iff.mpr (by decide), Placement.touches_iff.mpr (by decide)⟩

end Form

end FormGrid
