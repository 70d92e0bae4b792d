import FormGrid.Host.Table
import FormGrid.Proofs.Shown

/-!
# Nested grids are laid out by themselves

A layout goes through the whole tree in each of its passes, and what it knows of a nested grid is
kept from one pass to the next. Nothing else comes in: the nested grid is shown as it would be if
it alone were laid out into the bounds of its cell, and what an arrangement lists of it and asks
for it is a block of what the whole arrangement lists and asks.

## Main results

* `Cells.Laid.grids_shown`: the snapshots of the grids in the cells of a layout
* `Grid.nodes_shown`: the snapshots of the visible grids at all depths
* `Grid.snapshot_compositional`: nested grids at all depths, in snapshots and arrangements
-/

namespace FormGrid

variable {K : Type}

/-- What is shown of the grids in the cells of a layout are their own snapshots. -/
theorem Cells.Laid.grids_shown {h : Host K} {tracks : PerAxis Tracks} {edges : PerAxis (List Int)}
    {cells : Cells (PerAxis Tracks) Constraints K} {out : Cells (PerAxis Resolved) LayoutCell K}
    {asked : List (Query K)} {s : Site} {shown : Cells Snapshot.Pane Snapshot.Entry K}
    (laid : Laid h tracks edges cells out asked) (hshown : out.snapshot s = .ok shown) :
    List.Forall₂ (fun p n => n.1.constraints = p.1 ∧
        ∃ inside, Grid.snapshot h p.2 n.1.bounds = .ok ⟨n.2, inside⟩)
      cells.grids shown.grids := by
  induction laid generalizing s shown with
  | nil =>
    cases hshown
    exact .nil
  | component _ _ _ _ ih =>
    obtain ⟨e, more, shows, hmore, rfl⟩ := snapshot_component_eq_ok_iff.mp hshown
    simpa only [grids_component] using ih hmore
  | @grid _ _ c l inner rest inside _ insideAsked _ frame axes _ fits _ sized laidInside _ ihInner
      ihRest =>
    obtain ⟨e, shownInside, more, shows, hinside, hmore, rfl⟩ :=
      snapshot_grid_eq_ok_iff.mp hshown
    -- alone in the bounds of its cell, the nested grid has the layout that it has in the whole
    have hsize : e.bounds.size = ⟨l.x.room, l.y.room⟩ := by
      rw [shows.grid_bounds]
      rfl
    have hself : Grid.snapshot h ⟨frame, inner⟩ e.bounds =
        .ok ⟨⟨.ofFrame axes e.bounds, shownInside⟩, insideAsked⟩ := by
      refine Grid.snapshot_eq_ok_iff.mpr ⟨⟨axes, inside⟩, ?_, ?_, hinside, rfl⟩
      · rw [laidInside.visible_eq]
        exact laidInside
      · rw [hsize]
        exact sized
    rw [grids_grid, grids_grid]
    exact .cons ⟨shows.constraints_eq.trans fits.constraints_eq, insideAsked, hself⟩
      (List.rel_append (ihInner hinside) (ihRest hmore))

namespace Grid

theorem bounds_of_snapshot {h : Host K} {g : Grid K} {rect : Rect} {shown : Snapshot K}
    {asked : List (Query K)} (hshown : g.snapshot h rect = .ok ⟨shown, asked⟩) :
    shown.frame.bounds = rect := by
  obtain ⟨layout, -, -, -, hframe⟩ := snapshot_eq_ok_iff.mp hshown
  rw [hframe, Snapshot.Pane.ofFrame]

/-- The snapshots of nested grids are those of the grids that stay when what is invisible goes. -/
theorem snapshot_visible (h : Host K) (g : Grid K) (rect : Rect) {shown : Snapshot K}
    {asked : List (Query K)} :
    Grid.snapshot h (g.visible h) rect = .ok ⟨shown, asked⟩ ↔
      g.snapshot h rect = .ok ⟨shown, asked⟩ := by
  simp only [snapshot_eq_ok_iff, Tree.visible, Cells.visible_visible]

/-- Every visible grid, at whatever depth, is shown as in a snapshot of its own. -/
theorem nodes_shown {h : Host K} {g : Grid K} {rect : Rect} {shown : Snapshot K}
    {asked : List (Query K)} (hshown : g.snapshot h rect = .ok ⟨shown, asked⟩) :
    List.Forall₂ (fun (t : Grid K) (node : Snapshot K) =>
        ∃ inside, t.snapshot h node.frame.bounds = .ok ⟨node, inside⟩)
      (g :: (g.cells.visibleGrids h).map Prod.snd) shown.nodes := by
  refine .cons ⟨asked, (bounds_of_snapshot hshown).symm ▸ hshown⟩ ?_
  obtain ⟨layout, laid, -, hcells, -⟩ := snapshot_eq_ok_iff.mp hshown
  have hgrids := laid.grids_shown hcells
  rw [← Cells.map_visible_visibleGrids, List.forall₂_map_left_iff] at hgrids
  rw [List.forall₂_map_left_iff, List.forall₂_map_right_iff]
  refine hgrids.imp ?_
  rintro ⟨c, t⟩ ⟨e, node⟩ ⟨-, inside, hvisible⟩
  have hself := (snapshot_visible h t e.bounds).mp hvisible
  exact ⟨inside, (bounds_of_snapshot hself).symm ▸ hself⟩

/-- Every grid in a snapshot, at whatever depth, is shown as in a snapshot of its own. -/
theorem snapshot_of_mem_nodes {h : Host K} {g : Grid K} {rect : Rect} {shown : Snapshot K}
    {asked : List (Query K)} (hshown : g.snapshot h rect = .ok ⟨shown, asked⟩) {node : Snapshot K}
    (hnode : node ∈ shown.nodes) :
    ∃ g' inside, Grid.snapshot h g' node.frame.bounds = .ok ⟨node, inside⟩ := by
  have hnodes := nodes_shown hshown
  obtain ⟨i, hi, rfl⟩ := List.mem_iff_getElem.mp hnode
  exact ⟨_, hnodes.get (hnodes.length_eq ▸ hi) hi⟩

/-- Nested grids at all depths are laid out by themselves. -/
theorem snapshot_compositional {h : Host K} {g : Grid K} {rect : Rect} {shown : Snapshot K}
    {asked : List (Query K)} (hshown : g.snapshot h rect = .ok ⟨shown, asked⟩) :
    g.arrange h rect = .ok ⟨Snapshot.placed shown.cells.entries, asked⟩ ∧
      List.Forall₂ (fun (p : Constraints × Grid K) n =>
          n.info.constraints = p.1 ∧
            ∃ bounds inside,
              p.2.snapshot h n.info.bounds = .ok ⟨n.tree, inside⟩ ∧
              p.2.arrange h n.info.bounds = .ok ⟨bounds, inside⟩ ∧
              Snapshot.placed shown.cells.entries =
                Snapshot.placed n.before ++ bounds ++ Snapshot.placed n.after ∧
              asked = Snapshot.asked h n.before ++ inside ++ Snapshot.asked h n.after)
        (g.cells.visibleGrids h) shown.cells.nested := by
  obtain ⟨layout, laid, -, hcells, -⟩ := snapshot_eq_ok_iff.mp hshown
  have hgrids := laid.grids_shown hcells
  rw [← Cells.map_visible_visibleGrids, List.forall₂_map_left_iff, Cells.grids,
    List.forall₂_map_right_iff] at hgrids
  refine ⟨arrange_of_snapshot hshown, ?_⟩
  have hplaced := (List.forall₂_and_left (p := (· ∈ shown.cells.nested)) _ _).mpr
    ⟨fun _ hn => hn, List.Forall₂.flip hgrids⟩
  refine List.Forall₂.flip (hplaced.imp ?_)
  rintro n ⟨c, nested⟩ ⟨hn, hconstraints, inside, hvisible⟩
  have hnested := (snapshot_visible h nested n.info.bounds).mp hvisible
  have hentries := Cells.entries_of_mem_nested hn
  refine ⟨hconstraints, _, inside, hnested, arrange_of_snapshot hnested, ?_, ?_⟩
  · rw [hentries, Snapshot.placed_append, Snapshot.placed_append]
  · rw [asked_of_snapshot hshown, hentries, Snapshot.asked_append, Snapshot.asked_append,
      ← asked_of_snapshot hnested]

end Grid

/-! ## A form -/

namespace Form

/-- A label (1) and a field (2) on one line, a note (3) that is not shown, and two buttons (4, 5). -/
def host : Host Nat := ComponentTable.host
  [(1, ⟨⟨30, 10⟩, true, .fixed 8⟩), (2, ⟨⟨40, 20⟩, true, .fixed 15⟩), (3, ⟨⟨5, 5⟩, false, .none⟩),
    (4, ⟨⟨25, 16⟩, true, .fixed 12⟩), (5, ⟨⟨26, 14⟩, true, .proportional 2 0 2⟩)]

/-- The buttons in one row, the second one as wide as its column. -/
def buttons : Grid Nat :=
  ⟨⟨⟨.ofList [1], [⟨0, 4⟩]⟩, .plain⟩,
    .component (.single 0 0) 4 (.component ((Constraints.single 1 0).withAlign .fill .center) 5 .nil)⟩

/-- The form with the buttons in a nested grid. -/
def grid : Grid Nat :=
  ⟨⟨⟨.ofList [1], [⟨0, 3⟩]⟩, ⟨.ofList [1], []⟩⟩,
    .component (.single 0 0) 1 <|
      .component ((Constraints.single 1 0).withPaddings (.uniform 1)) 2 <|
        .component (.single 0 1) 3 <|
          .grid ((Constraints.single 1 1).withGaps (.uniform 2)) buttons.frame buttons.cells .nil⟩

/-- A rectangle for the form. -/
def rect : Rect := ⟨⟨10, 120⟩, ⟨20, 60⟩⟩

/-- The buttons of the form are laid out by themselves. -/
theorem grid_compositional : ∃ shown asked n, grid.snapshot host rect = .ok ⟨shown, asked⟩ ∧
    shown.cells.nested = [n] ∧ ∃ bounds inside,
      buttons.snapshot host n.info.bounds = .ok ⟨n.tree, inside⟩ ∧
      buttons.arrange host n.info.bounds = .ok ⟨bounds, inside⟩ ∧
      Snapshot.placed shown.cells.entries =
        Snapshot.placed n.before ++ bounds ++ Snapshot.placed n.after ∧
      asked = Snapshot.asked host n.before ++ inside ++ Snapshot.asked host n.after := by
  obtain ⟨shown, asked, n, hshown, hnested⟩ : ∃ shown asked n,
      grid.snapshot host rect = .ok ⟨shown, asked⟩ ∧ shown.cells.nested = [n] :=
    ⟨_, _, _, rfl, rfl⟩
  have hgrids := (Grid.snapshot_compositional hshown).2
  rw [hnested] at hgrids
  obtain ⟨-, hbuttons⟩ := (List.forall₂_cons.mp hgrids).1
  exact ⟨shown, asked, n, hshown, hnested, hbuttons⟩

end Form

end FormGrid
