import FormGrid.Proofs.Resizing
import FormGrid.Proofs.Sizing.Distribution

/-!
# Rectangles that are too small

A rectangle that is too small for a form, or that has a negative extent, does not turn anything in
the form around. Tracks shrink until they have no length and no further, so the edges of every grid
start at zero and never decrease. Gaps may be longer than the tracks they belong to, and then the
cell has no room, but its room is not negative. A component is drawn in this room, with its paddings
around it, and a nested grid gets the room as its own length, and passes it on.

## Main definitions

* `Snapshot.Entry.Bounded`: the length of a component on an axis is between nothing and the
  preferred one

## Main results

* `Cells.Laid.entries_bounded`, `Cells.Laid.grids_nonneg`: the cells of one grid, and those nested
  in them
* `Grid.edges_shown`: the edges of one grid
* `Grid.arrange_nonneg`: whole forms
-/

namespace FormGrid

variable {K : Type}

namespace Item

variable {i : Item} {room : Int}

/-- Content is drawn with a length that is not negative, if the paddings add one to it. -/
theorem exactDrawnLength_nonneg (hroom : 0 ≤ room) (hnatural : 0 ≤ i.natural)
    (hpadding : 0 ≤ i.placement.padding.exactTotal) : 0 ≤ i.exactDrawnLength room := by
  unfold exactDrawnLength exactLength
  split <;> omega

/-- Content that does not fill its room is drawn no longer than it naturally is. -/
theorem exactDrawnLength_le (halign : i.placement.align ≠ .fill) :
    i.exactDrawnLength room ≤ i.natural := by
  unfold exactDrawnLength exactLength
  split
  · exact absurd ‹_› halign
  · omega

end Item

/-- On an axis, the length of a component is not negative, if its preferred length and its paddings
are not, and it is no longer than preferred unless it fills its room. -/
structure Snapshot.Entry.Bounded (h : Host K) (a : Axis) (key : K) (e : Snapshot.Entry) : Prop where
  nonneg : 0 ≤ (h.preferredSize key).along a → 0 ≤ (e.constraints.along a).padding.exactTotal →
    0 ≤ (e.bounds.along a).length
  le_preferred : (e.constraints.along a).align ≠ .fill →
    (e.bounds.along a).length ≤ (h.preferredSize key).along a

/-! ## The cells of one grid -/

/-- A component with room of any length is bounded. -/
theorem Site.Shows.bounded {h : Host K} {s : Site} {tracks : PerAxis Tracks}
    {edges : PerAxis (List Int)} {c : Constraints} {l : LayoutCell} {key : K} {e : Snapshot.Entry}
    (shows : s.Shows s.componentBounds l e) (fits : l.Fits tracks edges c (h.preferredSize key))
    (a : Axis) : e.Bounded h a key := by
  have hlength : (e.bounds.along a).length = (l.itemAt a).exactDrawnLength (l.roomAt a) := by
    rw [shows.component_bounds, length_exactBounds_along]
  have hplacement : e.constraints.along a = (l.itemAt a).placement := by
    rw [shows.constraints_eq, LayoutCell.placement_along]
  constructor
  · intro hnatural hpadding
    rw [← fits.natural_along] at hnatural
    rw [hplacement] at hpadding
    rw [hlength]
    exact Item.exactDrawnLength_nonneg (fits.roomAt_nonneg a) hnatural hpadding
  · intro halign
    rw [hplacement] at halign
    rw [hlength, ← fits.natural_along]
    exact Item.exactDrawnLength_le halign

namespace Cells

variable {h : Host K} {tracks : PerAxis Tracks} {edges : PerAxis (List Int)}
  {cells : Cells (PerAxis Tracks) Constraints K} {out : Cells (PerAxis Resolved) LayoutCell K}
  {asked : List (Query K)} {s : Site} {shown : Cells Snapshot.Pane Snapshot.Entry K}

/-- All components are bounded, at all depths. -/
theorem Laid.entries_bounded (laid : Laid h tracks edges cells out asked)
    (hshown : out.snapshot s = .ok shown) : ∀ e ∈ shown.entries, ∀ a, e.2.Bounded h a e.1 := by
  induction laid generalizing s shown with
  | nil =>
    cases hshown
    exact fun _ he => nomatch he
  | component _ fits _ _ ih =>
    obtain ⟨e, more, shows, hmore, rfl⟩ := snapshot_component_eq_ok_iff.mp hshown
    exact List.forall_mem_cons.mpr ⟨shows.bounded fits, ih hmore⟩
  | grid _ _ _ _ _ _ ihInner ihRest =>
    obtain ⟨e, inside, more, -, hinside, hmore, rfl⟩ := snapshot_grid_eq_ok_iff.mp hshown
    exact List.forall_mem_append.mpr ⟨ihInner hinside, ihRest hmore⟩

/-- No nested grid has a negative extent, at whatever depth. -/
theorem Laid.grids_nonneg (laid : Laid h tracks edges cells out asked)
    (hshown : out.snapshot s = .ok shown) :
    ∀ p ∈ shown.grids, ∀ a, 0 ≤ (p.1.bounds.along a).length := by
  induction laid generalizing s shown with
  | nil =>
    cases hshown
    exact fun _ hp => nomatch hp
  | component _ _ _ _ ih =>
    obtain ⟨e, more, -, hmore, rfl⟩ := snapshot_component_eq_ok_iff.mp hshown
    rw [grids_component]
    exact ih hmore
  | grid _ fits _ _ _ _ ihInner ihRest =>
    obtain ⟨e, inside, more, shows, hinside, hmore, rfl⟩ := snapshot_grid_eq_ok_iff.mp hshown
    rw [grids_grid, List.forall_mem_cons, List.forall_mem_append]
    refine ⟨?_, ihInner hinside, ihRest hmore⟩
    intro a
    rw [shows.grid_bounds, Site.exactGridBounds_along]
    exact fits.roomAt_nonneg a

end Cells

/-! ## Grids -/

theorem Sizing.head?_edges {s : Sizing} {total : Int} {resizable : IndexSet} {edges : List Int}
    (h : s.edges total resizable = .ok edges) : edges.head? = some 0 := by
  obtain ⟨sizes, -, hedges⟩ := edges_spec h
  rw [List.head?_eq_getElem?, getElem?_of_boundaries_eq_ok hedges (Nat.zero_le _)]
  rfl

namespace Grid

variable {h : Host K} {g : Grid K} {rect : Rect} {shown : Snapshot K} {asked : List (Query K)}

/-- On both axes, the edges of a grid start at zero and never decrease. -/
theorem edges_shown (hshown : g.snapshot h rect = .ok ⟨shown, asked⟩) (a : Axis) :
    (shown.frame.edges a).head? = some 0 ∧ (shown.frame.edges a).Pairwise (· ≤ ·) := by
  obtain ⟨layout, -, sized, -, hframe⟩ := snapshot_eq_ok_iff.mp hshown
  have hedges := (sized.spans_along a).edges_eq
  rw [hframe, Snapshot.Pane.edges_ofFrame]
  exact ⟨Sizing.head?_edges hedges, Sizing.pairwise_edges hedges⟩

/-- The grids in a snapshot are the visible ones. -/
theorem grids_of_snapshot (hshown : g.snapshot h rect = .ok ⟨shown, asked⟩) :
    shown.cells.grids.map (fun p => p.1.constraints) = (g.cells.visibleGrids h).map Prod.fst := by
  obtain ⟨layout, laid, -, hcells, -⟩ := snapshot_eq_ok_iff.mp hshown
  have hgrids := laid.grids_shown hcells
  rw [← Cells.map_visible_visibleGrids, List.forall₂_map_left_iff] at hgrids
  have hall : List.Forall₂ (· = ·) (shown.cells.grids.map fun p => p.1.constraints)
      ((g.cells.visibleGrids h).map Prod.fst) := by
    rw [List.forall₂_map_left_iff, List.forall₂_map_right_iff]
    exact (hgrids.imp fun _ _ hp => hp.1).flip
  rwa [List.forall₂_eq_eq_eq] at hall

/-- In a rectangle of any size, also a negative one, the components of a form have bounds that are
not negative and not larger than preferred, nested grids have bounds that are not negative, and
the edges of all grids start at zero and never decrease. -/
theorem arrange_nonneg {placed : List (K × Rect)}
    (hplaced : g.arrange h rect = .ok ⟨placed, asked⟩) :
    ∃ shown, g.snapshot h rect = .ok ⟨shown, asked⟩ ∧
      placed = Snapshot.placed shown.cells.entries ∧
      (shown.cells.entries.map (fun e => (e.1, e.2.constraints)) =
        g.cells.entries.filter fun e => h.isVisible e.1) ∧
      (∀ e ∈ shown.cells.entries, ∀ a, e.2.Bounded h a e.1) ∧
      shown.cells.grids.map (fun p => p.1.constraints) =
        (g.cells.visibleGrids h).map Prod.fst ∧
      (∀ p ∈ shown.cells.grids, ∀ a, 0 ≤ (p.1.bounds.along a).length) ∧
      ∀ node ∈ shown.nodes, ∀ a,
        (node.frame.edges a).head? = some 0 ∧ (node.frame.edges a).Pairwise (· ≤ ·) := by
  obtain ⟨shown, hshown, heq⟩ := snapshot_of_arrange hplaced
  obtain ⟨layout, laid, -, hcells, -⟩ := snapshot_eq_ok_iff.mp hshown
  refine ⟨shown, hshown, heq, entries_of_snapshot hshown, laid.entries_bounded hcells,
    grids_of_snapshot hshown, laid.grids_nonneg hcells, ?_⟩
  intro node hnode a
  obtain ⟨g', inside, hself⟩ := snapshot_of_mem_nodes hshown hnode
  exact edges_shown hself a

end Grid

namespace Form

/-- In a rectangle of negative width, the components of the form have no negative extents, and none
is higher than preferred. -/
theorem grid_nonneg : ∃ placed asked, grid.arrange host tinyRect = .ok ⟨placed, asked⟩ ∧
    placed.map Prod.fst = [1, 2, 4, 5] ∧
    ∀ p ∈ placed, 0 ≤ p.2.x.length ∧ 0 ≤ p.2.y.length ∧
      p.2.y.length ≤ (host.preferredSize p.1).y := by
  obtain ⟨placed, asked, hplaced, hkeys⟩ : ∃ placed asked,
      grid.arrange host tinyRect = .ok ⟨placed, asked⟩ ∧ placed.map Prod.fst = [1, 2, 4, 5] :=
    ⟨_, _, rfl, rfl⟩
  obtain ⟨shown, -, rfl, hentries, hbounded, -⟩ := Grid.arrange_nonneg hplaced
  have hmodest : ∀ p ∈ grid.cells.entries.filter fun e => host.isVisible e.1,
      (0 ≤ (host.preferredSize p.1).x ∧ 0 ≤ p.2.x.padding.exactTotal) ∧
        (0 ≤ (host.preferredSize p.1).y ∧ 0 ≤ p.2.y.padding.exactTotal) ∧
        p.2.y.align ≠ .fill := by decide
  rw [← hentries, List.forall_mem_map] at hmodest
  refine ⟨_, asked, hplaced, hkeys, ?_⟩
  rw [Snapshot.placed, List.forall_mem_map]
  intro e he
  obtain ⟨⟨hwidth, hx⟩, ⟨hheight, hy⟩, halign⟩ := hmodest e he
  exact ⟨(hbounded e he .x).nonneg hwidth hx, (hbounded e he .y).nonneg hheight hy,
    (hbounded e he .y).le_preferred halign⟩

end Form

end FormGrid
