import FormGrid.Proofs.Lines

/-!
# What a host is asked, and what becomes of the answers

The baseline of a component may depend on its size, so a host is asked for it at the width that the
component is going to have. That width is found when the rows are gathered, and once more when the
components are placed; both are the length of the same content in the same room. So the questions of
a layout can be read off the bounds that it assigns.

An answer that is not negative puts the component on the line of its row and alignment: it counts
among the components for which the line is made, and its baseline is placed on the line. Without
such an answer a component counts for no line, and its own alignment says where it is.

## Main definitions

* `Snapshot.Entry.answer`: what the host answers for a component at its bounds
* `Snapshot.Counts`: a component counts for the line of its row and alignment
* `Snapshot.linePosition`, `Snapshot.ownSegment`: where a component is that counts for a line, and
  one that does not
* `Snapshot.Aligned`: a component takes part in the alignment of baselines by its answer

## Main results

* `Grid.aligned_shown`: the components in the cells of one grid
* `Grid.arrange_questions`: whole forms
-/

namespace FormGrid

variable {K : Type}

/-! ## Answers -/

namespace Snapshot

/-- The answer of the host, if it is asked for a component with these bounds. -/
def Entry.answer (h : Host K) (key : K) (e : Entry) : Option Int :=
  h.baseline key ⟨e.bounds.x.length, (h.preferredSize key).y⟩

/-- The line for these components. -/
def sharedLine (h : Host K) (rows : Tracks) (ms : List (Standing K)) : SharedLine :=
  (ms.map (·.measured h rows)).foldl SharedLine.join ⟨0, 0⟩

/-- Where the line of a row and an alignment is, for the components that are shown there with a
baseline. -/
def linePosition (h : Host K) (rows : Tracks) (node : Snapshot K) (row : Nat) (align : Align) : Int :=
  node.rowTop row + (sharedLine h rows (standing node.cells row align)).exactOffset align
    (node.rowTop (row + 1) - node.rowTop row)

/-- The component counts with this baseline for the line of its row and alignment. -/
def Counts (node : Snapshot K) (key : K) (e : Entry) (baseline : Int) : Prop :=
  ⟨key, e, baseline⟩ ∈ standing node.cells e.constraints.y.start e.constraints.y.align

/-- Where a component is in its rows by its own alignment. -/
def ownSegment (h : Host K) (rows : Tracks) (node : Snapshot K) (key : K) (e : Entry) : Segment :=
  let item := rows.item e.constraints.y (h.preferredSize key).y
  (item.exactSegment (item.exactRoom node.frame.rows) node.frame.rows node.frame.bounds.y.start).grow
    e.constraints.y.padding

/-- The component counts for a line exactly if it is asked for its baseline, and the answer is not
negative. Then it has its baseline on that line, and otherwise it is where its own alignment
says. -/
structure Aligned (h : Host K) (rows : Tracks) (node : Snapshot K) (key : K) (e : Entry) : Prop where
  counts_iff : ∀ b, node.Counts key e b ↔
    e.constraints.y.sharesBaseline ∧ e.answer h key = some b ∧ 0 ≤ b
  on_line : ∀ b, node.Counts key e b →
    e.bounds.y.start + b = node.linePosition h rows e.constraints.y.start e.constraints.y.align
  own : (∀ b, ¬ node.Counts key e b) → e.bounds.y = node.ownSegment h rows key e

theorem counts_iff_baseline {node : Snapshot K} {key : K} {e : Entry}
    (hmem : .component e key ∈ node.cells.toList) {b : Int} :
    node.Counts key e b ↔ e.baseline = some b := by
  rw [Counts, mem_standing]
  exact ⟨fun hcounts => hcounts.2.2, fun heq => ⟨hmem, ⟨rfl, rfl⟩, heq⟩⟩

end Snapshot

/-- The distance of a baseline that was measured is the answer of the host. -/
theorem RowItem.offset_of_measure {h : Host K} {key : K} {column : Fitted Item} {row : Item}
    {m : Measured K RowItem} (hm : RowItem.measure h key column row = .ok m) :
    m.value.baseline.map Baseline.offset =
      if row.placement.sharesBaseline then
        (h.baseline key ⟨column.item.exactDrawnLength column.room, row.natural⟩).filter (0 ≤ ·)
      else none := by
  rw [measure_eq_ok hm, exactMeasure]
  split
  · rw [Option.map_map]
    exact Option.map_id'
  · rfl

/-- A component is shown with a baseline if it was asked for it, and gave an answer that is not
negative. -/
theorem Site.Shows.baseline_answer {h : Host K} {tracks : PerAxis Tracks}
    {edges : PerAxis (List Int)} {c : Constraints} {l : LayoutCell} {key : K} {s : Site}
    {e : Snapshot.Entry} {query : List (Query K)} (shows : s.Shows s.componentBounds l e)
    (fits : l.Fits tracks edges c (h.preferredSize key))
    (measured : RowItem.measure h key l.x (tracks.y.item c.y (h.preferredSize key).y) =
      .ok ⟨l.y.item, query⟩) :
    e.baseline =
      if e.constraints.y.sharesBaseline then (e.answer h key).filter (0 ≤ ·) else none := by
  have hwidth : e.bounds.x.length = l.x.item.exactDrawnLength l.x.room := by
    rw [shows.component_bounds]
    rfl
  rw [shows.baseline_eq, RowItem.offset_of_measure measured, Snapshot.Entry.answer, hwidth,
    shows.constraints_eq, fits.constraints_eq]
  rfl

/-! ## One grid -/

namespace Grid

variable {h : Host K} {g : Grid K} {rect : Rect} {shown : Snapshot K} {asked : List (Query K)}
  {e : Snapshot.Entry} {key : K}

theorem baseline_shown (hshown : g.snapshot h rect = .ok ⟨shown, asked⟩)
    (hmem : Cell.component e key ∈ shown.cells.toList) :
    e.baseline =
      if e.constraints.y.sharesBaseline then (e.answer h key).filter (0 ≤ ·) else none := by
  obtain ⟨layout, laid, -, hcells, -⟩ := snapshot_eq_ok_iff.mp hshown
  obtain ⟨c, l, query, -, fits, measured, shows⟩ := laid.exists_of_mem_toList hcells hmem
  exact shows.baseline_answer fits measured

/-- The components that are shown with a baseline have it where the line for them is. -/
theorem line_eq_linePosition (hshown : g.snapshot h rect = .ok ⟨shown, asked⟩) {row : Nat}
    {align : Align} {m : Snapshot.Standing K} (hm : m ∈ Snapshot.standing shown.cells row align) :
    m.line = shown.linePosition h g.rows row align := by
  obtain ⟨layout, laid, -, hcells, hframe⟩ := snapshot_eq_ok_iff.mp hshown
  have htop := Snapshot.rowTop_of_frame hframe
  have hmembers := laid.map_standing hcells row align
  cases hline : SharedLine.find? (layoutRows layout.cells) row align with
  | none =>
    rw [SharedLine.members_eq_nil_of_find? hline, List.map_eq_nil_iff] at hmembers
    rw [hmembers] at hm
    cases hm
  | some line =>
    have hshared : Snapshot.sharedLine h g.rows (Snapshot.standing shown.cells row align) = line :=
      (congrArg (List.foldl SharedLine.join ⟨0, 0⟩) hmembers).trans
        (SharedLine.eq_foldl_of_find? hline).symm
    rw [Snapshot.linePosition, hshared, htop, htop, add_sub_add_left_eq_sub]
    exact laid.line_of_mem_standing hcells hline hm

/-- A component without a baseline is where its own alignment says. -/
theorem own_of_baseline (hshown : g.snapshot h rect = .ok ⟨shown, asked⟩)
    (hmem : Cell.component e key ∈ shown.cells.toList) (hnone : e.baseline = none) :
    e.bounds.y = shown.ownSegment h g.rows key e := by
  obtain ⟨layout, laid, -, hcells, hframe⟩ := snapshot_eq_ok_iff.mp hshown
  obtain ⟨c, l, query, -, fits, -, shows⟩ := laid.exists_of_mem_toList hcells hmem
  rw [shows.baseline_eq, Option.map_eq_none_iff] at hnone
  have hitem : g.rows.item e.constraints.y (h.preferredSize key).y = l.y.item.toItem := by
    rw [shows.constraints_eq, fits.constraints_eq]
    exact fits.row.symm
  have hroom : l.y.room = l.y.item.exactRoom layout.frame.y.edges := Item.room_eq_ok fits.row_room
  have hshared : l.y.item.shared? (layoutRows layout.cells) = none := by
    rw [RowItem.shared?, hnone]
    rfl
  have hsegment : (Site.ofGrid layout.frame layout.cells rect.origin).exactRowSegment l.y =
      l.y.item.exactSegment l.y.room layout.frame.y.edges rect.y.start := by
    unfold Site.exactRowSegment
    rw [show l.y.item.shared? (Site.ofGrid layout.frame layout.cells rect.origin).cells = none from
      hshared]
    rfl
  rw [Snapshot.ownSegment, hitem, hframe, shows.component_bounds, shows.constraints_eq]
  show Segment.grow (Site.exactRowSegment _ l.y) _ = _
  rw [hsegment, hroom]
  rfl

/-- A component takes part in the alignment of baselines by its answer. -/
theorem aligned_shown (hshown : g.snapshot h rect = .ok ⟨shown, asked⟩)
    (hmem : Cell.component e key ∈ shown.cells.toList) : shown.Aligned h g.rows key e where
  counts_iff b := by
    rw [Snapshot.counts_iff_baseline hmem, baseline_shown hshown hmem,
      Option.ite_none_right_eq_some, Option.filter_eq_some_iff, decide_eq_true_iff]
  on_line b hcounts := line_eq_linePosition hshown hcounts
  own halone := by
    apply own_of_baseline hshown hmem
    rw [Option.eq_none_iff_forall_ne_some]
    intro b hb
    exact halone b ((Snapshot.counts_iff_baseline hmem).mpr hb)

/-! ## Whole forms -/

/-- The questions of a layout are those of the visible components that cover a single row and do not
fill it, in the order in which these were registered, each at the width of the bounds that the
layout assigns and at the preferred height. A component takes part in the alignment of baselines
exactly if it answers, and the answer is not negative. -/
theorem arrange_questions {placed : List (K × Rect)}
    (hplaced : g.arrange h rect = .ok ⟨placed, asked⟩) :
    ∃ shown, g.snapshot h rect = .ok ⟨shown, asked⟩ ∧
      placed = Snapshot.placed shown.cells.entries ∧
      (∀ (σ : Type) (setBounds : σ → K → Rect → σ) (state : σ),
        g.applyBounds h setBounds rect state =
          .ok ⟨placed.foldl (fun state p => setBounds state p.1 p.2) state, asked⟩) ∧
      (shown.cells.entries.map (fun e => (e.1, e.2.constraints)) =
        g.cells.entries.filter fun e => h.isVisible e.1) ∧
      asked = Snapshot.asked h shown.cells.entries ∧
      List.Forall₂ (fun (t : Grid K) (node : Snapshot K) =>
          ∀ e key, Cell.component e key ∈ node.cells.toList → node.Aligned h t.rows key e)
        (g :: (g.cells.visibleGrids h).map Prod.snd) shown.nodes := by
  obtain ⟨shown, hshown, heq⟩ := snapshot_of_arrange hplaced
  refine ⟨shown, hshown, heq, ?_, entries_of_snapshot hshown, asked_of_snapshot hshown, ?_⟩
  · intro σ setBounds state
    simp only [applyBounds, Checked.bind_eq_ok_iff, Checked.pure_eq_ok_iff]
    exact ⟨_, hplaced, rfl⟩
  · refine (nodes_shown hshown).imp ?_
    rintro t node ⟨inside, hself⟩ e key hmem
    exact aligned_shown hself hmem

end Grid

namespace Form

/-- A host as before, but the field (2) gives a negative answer. -/
def reservedHost : Host Nat := ComponentTable.host
  [(1, ⟨⟨30, 10⟩, true, .fixed 8⟩), (2, ⟨⟨40, 20⟩, true, .fixed (-1)⟩), (3, ⟨⟨5, 5⟩, false, .none⟩),
    (4, ⟨⟨25, 16⟩, true, .fixed 12⟩), (5, ⟨⟨26, 14⟩, true, .proportional 2 0 2⟩)]

/-- All visible components of the form are asked for their baselines. The label stands on a line
for which the field does not count. -/
theorem grid_questions : ∃ placed asked shown label field inner,
    grid.arrange reservedHost rect = .ok ⟨placed, asked⟩ ∧
    grid.snapshot reservedHost rect = .ok ⟨shown, asked⟩ ∧
    asked.map Query.key = [1, 2, 4, 5] ∧ asked = Snapshot.asked reservedHost shown.cells.entries ∧
    shown.cells.toList = [.component label 1, .component field 2, inner] ∧
    shown.Counts 1 label 8 ∧ (∀ b, ¬ shown.Counts 2 field b) ∧
    field.bounds.y = shown.ownSegment reservedHost grid.rows 2 field := by
  obtain ⟨placed, asked, shown, label, field, inner, hplaced, hshown, hkeys, hcells, hspan, hlabel,
      hfield⟩ : ∃ placed asked shown label field inner,
      grid.arrange reservedHost rect = .ok ⟨placed, asked⟩ ∧
      grid.snapshot reservedHost rect = .ok ⟨shown, asked⟩ ∧
      asked.map Query.key = [1, 2, 4, 5] ∧
      shown.cells.toList = [.component label 1, .component field 2, inner] ∧
      label.constraints.y.sharesBaseline ∧ label.answer reservedHost 1 = some 8 ∧
      field.answer reservedHost 2 = some (-1) :=
    ⟨_, _, _, _, _, _, rfl, rfl, rfl, rfl, rfl, rfl, rfl⟩
  obtain ⟨shown', hshown', -, -, -, hasked, hnodes⟩ := Grid.arrange_questions hplaced
  cases hshown.symm.trans hshown'
  have haligned := (List.forall₂_cons.mp hnodes).1
  have hcounts := (haligned label 1 (by simp [hcells])).counts_iff 8
  have halone : ∀ b, ¬ shown.Counts 2 field b := by
    intro b hcounts
    obtain ⟨-, hanswer, hb⟩ := ((haligned field 2 (by simp [hcells])).counts_iff b).mp hcounts
    cases hfield.symm.trans hanswer
    exact absurd hb (by decide)
  exact ⟨placed, asked, shown, label, field, inner, hplaced, hshown, hkeys, hasked, hcells,
    hcounts.mpr ⟨hspan, hlabel, by decide⟩, halone,
    (haligned field 2 (by simp [hcells])).own halone⟩

end Form

end FormGrid
