import FormGrid.Arrangement
import FormGrid.Plan.Places
import FormGrid.Proofs.Plan.Passes

/-!
# Plans and layouts in their places

A plan that follows a layout is placed as the layout is: the bounds and the slot of each cell are those
of its entry, found by look-ups that do not fail, and the whole is found by one induction over the
entries (`Plan.Entries.place_eq`, `Plan.Entries.snapshot_eq`). The plan of a nested grid is placed at
the corner of its cell, between its own edges.

## Main definitions

* `Plan.Sheet.Sites`: a sheet has what the cells of a site have in common

## Main results

* `Plan.Sheet.componentBounds_eq`, `Plan.Sheet.gridBounds_eq`, `Plan.Sheet.slot_eq`: single cells
* `Grid.planArrange_eq`, `Grid.planSnapshot_eq`: a grid that is planned and one that is laid out
-/

namespace FormGrid

variable {K : Type}

namespace Plan

/-- The sheet has the edges of a site and the lines of its cells. -/
structure Sheet.Sites (site : Site) (s : Sheet) : Prop where
  columns_eq : s.edges.x = site.columns
  rows_eq : s.edges.y = site.rows
  lines : s.HasLines site.cells

theorem Sheet.sites_of_follows {g : Grid K} {s : Sheet} {frame : PerAxis Resolved}
    {cells : Cells (PerAxis Resolved) LayoutCell K}
    (hsheet : (Stage.rowsResolved K).sheet g s ⟨frame, cells⟩) (origin : PerAxis Int) :
    s.Sites (Site.ofGrid frame cells origin) :=
  ⟨(hsheet.1 .x).edges_eq, (hsheet.1 .y).edges_eq, hsheet.2⟩

/-! ## Single cells -/

namespace Sheet

variable {g : Grid K} {s : Sheet} {site : Site} {e : Entry} {c : Constraints} {l : LayoutCell}

/-- The row side of a component lies as it does in the layout, on its line or by itself. -/
theorem rowSegment_eq (sites : s.Sites site)
    (hcell : (Stage.rowsResolved K).entry g s.edges e c l) :
    s.rowSegment e c site.origin.y = Guarded.ofChecked (site.rowSegment l.y) := by
  obtain ⟨fits, hrow⟩ := hcell
  obtain ⟨columns, rows, cells, origin⟩ := site
  obtain ⟨rfl, rfl, hlines⟩ := sites
  have hsegment : (e.item .y c).guardedSegment s.edges.y origin.y =
      Guarded.ofChecked (l.y.item.toItem.segment l.y.room s.edges.y origin.y) :=
    (fits .y).guardedSegment_eq origin.y
  rw [rowSegment, Site.rowSegment, RowItem.shared?, hrow.baseline_eq, hlines, hrow.placement_eq]
  cases l.y.item.baseline with
  | none => exact hsegment
  | some baseline =>
    cases SharedLine.find? cells c.y.start c.y.align with
    | none => exact hsegment
    | some line =>
      have hends : c.y.EndsAt s.edges.y := (fits .y).ends
      have hroom : (e.item .y c).guardedRoom s.edges.y = .ok l.y.room := (fits .y).guardedRoom_eq
      dsimp only [Option.map_some]
      rw [hroom, Guarded.ok_bind, hrow.item_eq]
      refine Guarded.bind_eq rfl fun height _ => ?_
      refine Guarded.bind_eq (Placement.guardedStart_eq hends origin.y) fun top _ => ?_
      refine Guarded.bind_eq (Placement.guardedExtent_eq hends) fun rowHeight _ => ?_
      refine Guarded.bind_eq rfl fun _ _ => Guarded.bind_eq rfl fun _ _ => ?_
      exact Guarded.bind_eq rfl fun _ _ => Guarded.bind_eq rfl fun _ _ => rfl

/-- A cell of the layout has the constraints of the cell in the grid. -/
theorem constraints_eq_of_entry (hcell : (Stage.rowsResolved K).entry g s.edges e c l) :
    l.constraints = c := by
  obtain ⟨fits, -⟩ := hcell
  have hcolumn : e.item .x c = l.x.item := (fits .x).item_eq
  have hrow : e.item .y c = l.y.item.toItem := (fits .y).item_eq
  rw [LayoutCell.constraints, ← hcolumn, ← hrow]
  rfl

theorem componentBounds_eq (sites : s.Sites site)
    (hcell : (Stage.rowsResolved K).entry g s.edges e c l) :
    s.componentBounds e c site.origin = Guarded.ofChecked (site.componentBounds l) := by
  have hrow := rowSegment_eq sites hcell
  have hconstraints := constraints_eq_of_entry hcell
  obtain ⟨columns, rows, cells, origin⟩ := site
  obtain ⟨rfl, rfl, -⟩ := sites
  have hcolumn : (e.item .x c).guardedSegment s.edges.x origin.x =
      Guarded.ofChecked (l.x.item.segment l.x.room s.edges.x origin.x) :=
    (hcell.1 .x).guardedSegment_eq origin.x
  rw [Site.componentBounds, hconstraints]
  refine Guarded.bind_eq hcolumn fun column _ => ?_
  exact Guarded.bind_eq hrow fun row _ => rfl

theorem gridBounds_eq (sites : s.Sites site)
    (hcell : (Stage.rowsResolved K).entry g s.edges e c l) :
    s.gridBounds e c site.origin = Guarded.ofChecked (site.gridBounds l) := by
  obtain ⟨fits, -⟩ := hcell
  obtain ⟨columns, rows, cells, origin⟩ := site
  obtain ⟨rfl, rfl, -⟩ := sites
  have hwidth : (e.item .x c).guardedRoom s.edges.x = .ok l.x.room := (fits .x).guardedRoom_eq
  have hheight : (e.item .y c).guardedRoom s.edges.y = .ok l.y.room := (fits .y).guardedRoom_eq
  refine Guarded.bind_eq ((fits .x).guardedLead_eq origin.x) fun left _ => ?_
  refine Guarded.bind_eq ((fits .y).guardedLead_eq origin.y) fun upper _ => ?_
  rw [hwidth, Guarded.ok_bind, hheight, Guarded.ok_bind]
  rfl

theorem slot_eq (sites : s.Sites site)
    (hcell : (Stage.rowsResolved K).entry g s.edges e c l) :
    s.slot c site.origin = Guarded.ofChecked (site.slot c) := by
  obtain ⟨fits, -⟩ := hcell
  obtain ⟨columns, rows, cells, origin⟩ := site
  obtain ⟨rfl, rfl, -⟩ := sites
  have hcolumn : c.x.EndsAt s.edges.x := (fits .x).ends
  have hrow : c.y.EndsAt s.edges.y := (fits .y).ends
  refine Guarded.bind_eq (Placement.guardedStart_eq hcolumn origin.x) fun left _ => ?_
  refine Guarded.bind_eq (Placement.guardedStart_eq hrow origin.y) fun upper _ => ?_
  refine Guarded.bind_eq (Placement.guardedExtent_eq hcolumn) fun width _ => ?_
  exact Guarded.bind_eq (Placement.guardedExtent_eq hrow) fun height _ => rfl

theorem entry_eq (sites : s.Sites site) (hcell : (Stage.rowsResolved K).entry g s.edges e c l)
    (bounds : Rect) :
    s.entry e c site.origin bounds = Guarded.ofChecked (site.entry l bounds) := by
  rw [entry, Site.entry, constraints_eq_of_entry hcell, hcell.2.baseline_eq]
  exact Guarded.bind_eq (slot_eq sites hcell) fun slot _ => rfl

theorem pane_eq {frame : PerAxis Resolved} {cells : Cells (PerAxis Resolved) LayoutCell K}
    (hsheet : (Stage.rowsResolved K).sheet g s ⟨frame, cells⟩) (bounds : Rect) :
    s.pane bounds = .ofFrame frame bounds := by
  obtain ⟨resolves, -⟩ := hsheet
  have hwidth : s.preferred.x = frame.x.preferred := (resolves .x).preferred_eq
  have hheight : s.preferred.y = frame.y.preferred := (resolves .y).preferred_eq
  have hcolumns : s.edges.x = frame.x.edges := (resolves .x).edges_eq
  have hrows : s.edges.y = frame.y.edges := (resolves .y).edges_eq
  rw [Snapshot.Pane.ofFrame, preferredOf, ← hwidth, ← hheight, ← hcolumns, ← hrows]
  rfl

end Sheet

/-! ## All cells -/

namespace Entries

variable {h : Host K} {g : Grid K} {s : Sheet} {site : Site} {entries : Entries}
  {cells : Cells (PerAxis Resolved) LayoutCell K}

/-- The components of a plan are those of the layout. -/
theorem place_eq (follow : Follow h (.rowsResolved K) g s.edges entries cells)
    (sites : s.Sites site) :
    place g s site.origin entries = Guarded.ofChecked (cells.place site) := by
  -- the plan of a nested grid has a sheet of its own, so only the edges are fixed
  generalize hedges : s.edges = edges at follow
  induction follow generalizing s site with
  | nil => rfl
  | component found entry others ih =>
    subst hedges
    rw [place, Cells.place, Grid.cellAt_eq found, Guarded.ok_bind]
    refine Guarded.bind_eq (Sheet.componentBounds_eq sites entry) fun bounds _ => ?_
    exact Guarded.bind_eq (ih sites rfl) fun _ _ => rfl
  | grid found entry indices sheet_eq inner others ihInner ihOthers =>
    subst hedges
    rw [place, Cells.place, Grid.cellAt_eq found, Guarded.ok_bind]
    refine Guarded.bind_eq (Sheet.gridBounds_eq sites entry) fun bounds _ => ?_
    have hinner := ihInner (Sheet.sites_of_follows sheet_eq bounds.origin) rfl
    refine Guarded.bind_eq hinner fun inside _ => ?_
    exact Guarded.bind_eq (ihOthers sites rfl) fun _ _ => rfl

/-- The cells of a plan are shown as those of the layout. -/
theorem snapshot_eq (follow : Follow h (.rowsResolved K) g s.edges entries cells)
    (sites : s.Sites site) :
    snapshot g s site.origin entries = Guarded.ofChecked (cells.snapshot site) := by
  generalize hedges : s.edges = edges at follow
  induction follow generalizing s site with
  | nil => rfl
  | component found entry others ih =>
    subst hedges
    rw [snapshot, Cells.snapshot, Grid.cellAt_eq found, Guarded.ok_bind]
    refine Guarded.bind_eq (Sheet.componentBounds_eq sites entry) fun bounds _ => ?_
    refine Guarded.bind_eq (Sheet.entry_eq sites entry bounds) fun _ _ => ?_
    exact Guarded.bind_eq (ih sites rfl) fun _ _ => rfl
  | grid found entry indices sheet_eq inner others ihInner ihOthers =>
    subst hedges
    rw [snapshot, Cells.snapshot, Grid.cellAt_eq found, Guarded.ok_bind]
    refine Guarded.bind_eq (Sheet.gridBounds_eq sites entry) fun bounds _ => ?_
    have hinner := ihInner (Sheet.sites_of_follows sheet_eq bounds.origin) rfl
    refine Guarded.bind_eq hinner fun inside _ => ?_
    refine Guarded.bind_eq (Sheet.entry_eq sites entry bounds) fun _ _ => ?_
    refine Guarded.bind_eq (ihOthers sites rfl) fun _ _ => ?_
    rw [Sheet.pane_eq sheet_eq]
    rfl

end Entries

end Plan

/-! ## Grids -/

namespace Grid

variable (h : Host K) (g : Grid K) (rect : Rect)

/-- A grid that is planned and placed has the components of the grid that is laid out. -/
theorem planArrange_eq : g.planArrange h rect = Guarded.ofChecked (g.arrange h rect) := by
  refine (Guarded.Simulates.bind (g.plan_simulates h _ _) ?_).eq
  rintro plan layout ⟨hasked, follows⟩ -
  have hplaced : plan.value.place g rect.origin = Guarded.ofChecked (layout.value.place rect.origin) :=
    Plan.Entries.place_eq follows.entries (Plan.Sheet.sites_of_follows follows.sheet rect.origin)
  refine .bind_eq hplaced fun bounds _ => .ok ?_
  rw [hasked]

/-- A grid that is planned and placed is shown as the grid that is laid out. -/
theorem planSnapshot_eq : g.planSnapshot h rect = Guarded.ofChecked (g.snapshot h rect) := by
  refine (Guarded.Simulates.bind (g.plan_simulates h _ _) ?_).eq
  rintro plan layout ⟨hasked, follows⟩ -
  have hcells := Plan.Entries.snapshot_eq follows.entries
    (Plan.Sheet.sites_of_follows follows.sheet rect.origin)
  have hshown : plan.value.snapshot g rect = Guarded.ofChecked (layout.value.snapshot rect) := by
    refine Guarded.bind_eq hcells fun cells _ => ?_
    rw [Plan.Sheet.pane_eq follows.sheet]
    rfl
  refine .bind_eq hshown fun snapshot _ => .ok ?_
  rw [hasked]

end Grid

end FormGrid
