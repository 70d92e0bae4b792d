import FormGrid.Proofs.Demands
import FormGrid.Proofs.Nesting

/-!
# Components that stand on a line

The components of a grid which are shown with a baseline stand on common lines, one for each row
and alignment. What a component needs above and below its baseline can be read off the snapshot,
together with the gaps of the row and the component's preferred height. Where the row is as high as
all of them need together, the line leaves each of them this space.

The line is computed from what was measured when the rows were gathered, and used when the
components are placed. Both are done for each grid by itself, so the lines of a nested grid follow
from its own snapshot.

## Main definitions

* `Snapshot.Standing`, `Snapshot.standing`: the components on the line of a row and an alignment
* `Snapshot.lineHeight`: the height that these need together
* `Snapshot.SharesLine`: they stand on a line which has its place in the row

## Main results

* `Cells.Laid.map_standing`: they are the components that were measured for the line
* `Grid.line_shown`: the lines of one grid
* `Grid.snapshot_lines`: the lines of the grids at all depths
-/

namespace FormGrid

variable {K : Type}

/-! ## What a snapshot shows of a line -/

namespace Snapshot

/-- A component that is shown with a baseline. -/
structure Standing (K : Type) where
  key : K
  entry : Entry
  baseline : Int

namespace Standing

/-- Where its baseline is. -/
def line (m : Standing K) : Int := m.entry.bounds.y.start + m.baseline

/-- What it needs above its baseline, with gaps and without the padding. -/
def ascent (rows : Tracks) (m : Standing K) : Int :=
  let p := m.entry.constraints.y
  m.baseline + p.gap.before + (rows.gapOf p.start).before - p.padding.before

/-- What it needs below its baseline at its preferred height, with gaps and without the padding. -/
def descent (h : Host K) (rows : Tracks) (m : Standing K) : Int :=
  let p := m.entry.constraints.y
  (h.preferredSize m.key).y - m.baseline + p.gap.after + (rows.gapOf p.start).after -
    p.padding.after

/-- Its baseline with what it needs. -/
def measured (h : Host K) (rows : Tracks) (m : Standing K) : Baseline :=
  ⟨m.baseline, m.ascent rows, m.descent h rows⟩

end Standing

/-- The component in a cell, if it is shown with a baseline in this row and alignment. -/
def standing? (row : Nat) (align : Align) : Cell Pane Entry K → Option (Standing K)
  | .component e key =>
    if e.constraints.y.start = row ∧ e.constraints.y.align = align then
      e.baseline.map fun offset => ⟨key, e, offset⟩
    else none
  | .grid _ _ => none

/-- The components in the cells that are shown with a baseline in this row and alignment. -/
def standing (cells : Cells Pane Entry K) (row : Nat) (align : Align) : List (Standing K) :=
  cells.toList.filterMap (standing? row align)

/-- The height of a line on which these components stand: the largest ascent and the largest
descent, each at least zero. -/
def lineHeight (h : Host K) (rows : Tracks) (ms : List (Standing K)) : Int :=
  (ms.map (·.ascent rows)).foldl max 0 + (ms.map (·.descent h rows)).foldl max 0

/-- The top of a row. -/
def rowTop (node : Snapshot K) (row : Nat) : Int :=
  node.frame.bounds.y.start + edgeAt node.frame.rows row

theorem rowTop_of_frame {node : Snapshot K} {frame : PerAxis Resolved} {rect : Rect}
    (hframe : node.frame = .ofFrame frame rect) (row : Nat) :
    node.rowTop row = rect.y.start + edgeAt frame.y.edges row := by
  rw [rowTop, hframe, Pane.ofFrame]

/-- The components of a row and an alignment that are shown with a baseline have it on the line. If
the row is high enough for them, the line leaves each of them what it needs above and below. -/
structure SharesLine (h : Host K) (rows : Tracks) (node : Snapshot K) (row : Nat) (align : Align)
    (line : Int) : Prop where
  line_eq : ∀ m ∈ standing node.cells row align, m.line = line
  fits : lineHeight h rows (standing node.cells row align) ≤
      node.rowTop (row + 1) - node.rowTop row →
    ∀ m ∈ standing node.cells row align,
      m.ascent rows ≤ line - node.rowTop row ∧
        m.descent h rows ≤ node.rowTop (row + 1) - line

theorem standing_component (e : Entry) (key : K) (rest : Cells Pane Entry K) (row : Nat)
    (align : Align) : standing (.component e key rest) row align =
      (standing? row align (.component e key)).toList ++ standing rest row align := by
  rw [standing, Cells.toList, List.filterMap_cons]
  cases standing? row align (.component e key) <;> rfl

theorem standing_grid (e : Entry) (frame : Pane) (inner rest : Cells Pane Entry K) (row : Nat)
    (align : Align) : standing (.grid e frame inner rest) row align = standing rest row align :=
  rfl

theorem mem_standing {cells : Cells Pane Entry K} {row : Nat} {align : Align} {m : Standing K} :
    m ∈ standing cells row align ↔ .component m.entry m.key ∈ cells.toList ∧
      (m.entry.constraints.y.start = row ∧ m.entry.constraints.y.align = align) ∧
      m.entry.baseline = some m.baseline := by
  rw [standing, List.mem_filterMap]
  constructor
  · rintro ⟨cell, hcell, hm⟩
    cases cell with
    | grid e tree => cases hm
    | component e key =>
      obtain ⟨hrow, hm⟩ := Option.ite_none_right_eq_some.mp hm
      obtain ⟨offset, hoffset, rfl⟩ := Option.map_eq_some_iff.mp hm
      exact ⟨hcell, hrow, hoffset⟩
  · rintro ⟨hcell, hrow, hbaseline⟩
    refine ⟨_, hcell, ?_⟩
    rw [standing?, if_pos hrow, hbaseline]
    rfl

end Snapshot

/-! ## The cells of one grid -/

theorem Tracks.gapAround_of_single (t : Tracks) {p : Placement} (hspan : p.span = 1) :
    t.gapAround p = ⟨(t.gapOf p.start).before, (t.gapOf p.start).after⟩ := by
  rw [gapAround, Placement.stop, hspan, Nat.add_sub_cancel]

theorem Site.Shows.baseline_eq {s : Site} {bounds : LayoutCell → Checked Rect} {l : LayoutCell}
    {e : Snapshot.Entry} (shows : s.Shows bounds l e) :
    e.baseline = l.y.item.baseline.map Baseline.offset := by
  rw [shows.eq_entry]

/-- What a component in a snapshot needs above and below its baseline is what was measured. -/
theorem LayoutCell.Fits.map_standing? {h : Host K} {tracks : PerAxis Tracks}
    {edges : PerAxis (List Int)} {c : Constraints} {l : LayoutCell} {key : K} {s : Site}
    {e : Snapshot.Entry} {query : List (Query K)}
    (fits : l.Fits tracks edges c (h.preferredSize key))
    (measured : RowItem.measure h key l.x (tracks.y.item c.y (h.preferredSize key).y) =
      .ok ⟨l.y.item, query⟩)
    (shows : s.Shows s.componentBounds l e) (row : Nat) (align : Align) :
    (Snapshot.standing? row align (.component e key)).map (·.measured h tracks.y) =
      if l.y.item.placement.start = row ∧ l.y.item.placement.align = align then
        l.y.item.baseline
      else none := by
  have hplacement : e.constraints.y = l.y.item.placement := congrArg Axes.y shows.constraints_eq
  rw [Snapshot.standing?, hplacement, shows.baseline_eq]
  split
  case isFalse => rfl
  case isTrue =>
    cases hbaseline : l.y.item.baseline with
    | none => rfl
    | some b =>
      have hb := RowItem.hasBaseline_of_measure measured hbaseline
      have hspan : c.y.span = 1 := by
        have hsingle := hb.single
        rw [fits.row] at hsingle
        exact hsingle
      have hexact : l.y.item.exactBaseline b.offset =
          Snapshot.Standing.measured h tracks.y ⟨key, e, b.offset⟩ := by
        rw [Snapshot.Standing.measured, Snapshot.Standing.ascent, Snapshot.Standing.descent,
          hplacement, Item.exactBaseline, fits.row, Tracks.item,
          tracks.y.gapAround_of_single hspan]
      exact congrArg some (hexact.symm.trans hb.eq_exactBaseline.symm)

namespace Cells.Laid

variable {h : Host K} {tracks : PerAxis Tracks} {edges : PerAxis (List Int)}
  {cells : Cells (PerAxis Tracks) Constraints K} {out : Cells (PerAxis Resolved) LayoutCell K}
  {asked : List (Query K)} {s : Site} {shown : Cells Snapshot.Pane Snapshot.Entry K}

/-- The components that are shown with a baseline are those whose baselines were measured. -/
theorem map_standing (laid : Laid h tracks edges cells out asked)
    (hshown : out.snapshot s = .ok shown) (row : Nat) (align : Align) :
    (Snapshot.standing shown row align).map (·.measured h tracks.y) =
      SharedLine.members (layoutRows out) row align := by
  induction laid generalizing shown with
  | nil =>
    cases hshown
    rfl
  | component _ fits measured _ ih =>
    obtain ⟨e, more, shows, hmore, rfl⟩ := snapshot_component_eq_ok_iff.mp hshown
    rw [Snapshot.standing_component, List.map_append, ih hmore, ← Option.toList_map,
      fits.map_standing? measured shows]
    exact (SharedLine.members_cons _ _ row align).symm
  | grid _ _ bare _ _ _ _ ih =>
    obtain ⟨e, inside, more, -, -, hmore, rfl⟩ := snapshot_grid_eq_ok_iff.mp hshown
    rw [Snapshot.standing_grid, ih hmore]
    simp only [layoutRows, infos, List.map_cons, SharedLine.members_cons, bare, ite_self,
      Option.toList_none, List.nil_append]

/-- A component with a baseline is placed with its baseline on the line of its row and alignment. -/
theorem line_of_mem_standing (laid : Laid h tracks edges cells out asked)
    (hshown : out.snapshot s = .ok shown) {row : Nat} {align : Align} {line : SharedLine}
    (hline : SharedLine.find? s.cells row align = some line) {m : Snapshot.Standing K}
    (hm : m ∈ Snapshot.standing shown row align) :
    m.line = s.origin.y + edgeAt s.rows row +
      line.exactOffset align (edgeAt s.rows (row + 1) - edgeAt s.rows row) := by
  obtain ⟨hcell, ⟨hrow, halign⟩, hoffset⟩ := Snapshot.mem_standing.mp hm
  obtain ⟨c, l, query, -, -, measured, shows⟩ := laid.exists_of_mem_toList hshown hcell
  have hplacement : m.entry.constraints.y = l.y.item.placement :=
    congrArg Axes.y shows.constraints_eq
  rw [hplacement] at hrow halign
  rw [shows.baseline_eq] at hoffset
  obtain ⟨b, hb, hbaseline⟩ := Option.map_eq_some_iff.mp hoffset
  have hspan := (RowItem.hasBaseline_of_measure measured hb).single
  have hshared : l.y.item.shared? s.cells = some (b, line) :=
    RowItem.shared?_eq_some_iff.mpr ⟨hb, by rw [hrow, halign, hline]⟩
  have hstop : l.y.item.placement.stop = row + 1 := by rw [Placement.stop, hrow, hspan]
  have htop : m.entry.bounds.y.start = (s.exactRowSegment l.y).start -
      l.y.item.placement.padding.before := by
    rw [shows.component_bounds]
    rfl
  rw [Snapshot.Standing.line, htop, ← hbaseline, Site.exactRowSegment]
  simp only [hshared, Placement.extent, hstop, hrow, halign]
  omega

end Cells.Laid

/-! ## Grids -/

namespace Grid

variable {h : Host K} {g : Grid K} {rect : Rect} {shown : Snapshot K} {asked : List (Query K)}

/-- The components of a grid stand on one line in each row and alignment. -/
theorem line_shown (hshown : g.snapshot h rect = .ok ⟨shown, asked⟩) (row : Nat) (align : Align) :
    ∃ line, shown.SharesLine h g.rows row align line := by
  obtain ⟨layout, laid, -, hcells, hframe⟩ := snapshot_eq_ok_iff.mp hshown
  have hmembers := laid.map_standing hcells row align
  have htop := Snapshot.rowTop_of_frame hframe
  cases hline : SharedLine.find? (layoutRows layout.cells) row align with
  | none =>
    have hnone : Snapshot.standing shown.cells row align = [] := by
      rw [SharedLine.members_eq_nil_of_find? hline] at hmembers
      exact List.map_eq_nil_iff.mp hmembers
    exact ⟨0, by simp [hnone], by simp [hnone]⟩
  | some line =>
    have hfold := SharedLine.eq_foldl_of_find? hline
    have hheight : Snapshot.lineHeight h g.rows (Snapshot.standing shown.cells row align) =
        line.exactHeight := by
      rw [hfold, ← hmembers, SharedLine.foldl_join, List.map_map, List.map_map]
      rfl
    refine ⟨rect.y.start + edgeAt layout.frame.y.edges row + line.exactOffset align
        (edgeAt layout.frame.y.edges (row + 1) - edgeAt layout.frame.y.edges row),
      fun m hm => laid.line_of_mem_standing hcells hline hm, fun hle m hm => ?_⟩
    rw [hheight, htop, htop, add_sub_add_left_eq_sub] at hle
    obtain ⟨habove, hbelow⟩ := line.exactOffset_bounds align hle
    have hmember : m.measured h g.rows ∈
        SharedLine.members (layoutRows layout.cells) row align := by
      rw [← hmembers]
      exact List.mem_map_of_mem hm
    have hneeds : m.ascent g.rows ≤ line.above ∧ m.descent h g.rows ≤ line.below :=
      hfold ▸ SharedLine.le_foldl_join hmember ⟨0, 0⟩
    rw [htop, htop]
    omega

/-- In every grid of a snapshot, at whatever depth, the components of each row and alignment that
are shown with a baseline stand on one line. If the row is high enough for them together, each of
them has what it needs above the line and below it. -/
theorem snapshot_lines (hshown : g.snapshot h rect = .ok ⟨shown, asked⟩) :
    List.Forall₂ (fun (t : Grid K) (node : Snapshot K) =>
        ∀ row align, ∃ line, node.SharesLine h t.rows row align line)
      (g :: (g.cells.visibleGrids h).map Prod.snd) shown.nodes := by
  refine (nodes_shown hshown).imp ?_
  rintro t node ⟨inside, hself⟩ row align
  exact line_shown hself row align

end Grid

namespace Form

/-- The label and the field of the form stand on one line, which has its place in their row, and so
do the buttons below. -/
theorem grid_lines : ∃ shown asked label field node line,
    grid.snapshot host rect = .ok ⟨shown, asked⟩ ∧
    Snapshot.standing shown.cells 0 .center = [label, field] ∧
    label.line = line ∧ field.line = line ∧
    field.ascent grid.rows ≤ line - shown.rowTop 0 ∧
    field.descent host grid.rows ≤ shown.rowTop 1 - line ∧
    shown.nodes = [shown, node] ∧
    ∃ line', node.SharesLine host buttons.rows 0 .center line' := by
  obtain ⟨shown, asked, label, field, node, hshown, hstanding, hheight, hnodes⟩ :
      ∃ shown asked label field node, grid.snapshot host rect = .ok ⟨shown, asked⟩ ∧
      Snapshot.standing shown.cells 0 .center = [label, field] ∧
      Snapshot.lineHeight host grid.rows [label, field] ≤ shown.rowTop 1 - shown.rowTop 0 ∧
      shown.nodes = [shown, node] :=
    ⟨_, _, _, _, _, rfl, rfl, by decide, rfl⟩
  have hlines := Grid.snapshot_lines hshown
  rw [hnodes] at hlines
  obtain ⟨hform, hnested⟩ := List.forall₂_cons.mp hlines
  obtain ⟨line, hline, hfits⟩ := hform 0 .center
  rw [hstanding] at hline hfits
  obtain ⟨habove, hbelow⟩ := hfits hheight field (by simp)
  exact ⟨shown, asked, label, field, node, line, hshown, hstanding, hline label (by simp),
    hline field (by simp), habove, hbelow, hnodes, (List.forall₂_cons.mp hnested).1 0 .center⟩

end Form

end FormGrid
