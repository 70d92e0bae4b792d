import FormGrid.Proofs.Containment
import FormGrid.Proofs.Resizing

/-!
# Slots never overlap

The slot of a cell goes from the edge at which its tracks start to the edge at which they stop. The
edges of an axis are in order whatever its length, so slots lie as their cells do: where the tracks
of one cell end before those of another start, its slot ends before the other slot starts. Two cells
of a grid that was built are in this order on one of the axes, and so their slots share no point.

Nothing is asked of the rectangle. A grid that is too small, or of negative size, has tracks without
length, and the slots on them are empty.

## Main definitions

* `Snapshot.Entry.KeepsOrder`: on an axis, two slots lie as their cells do
* `Snapshot.Entry.ClearOf`: two slots share no point and lie as their cells do
* `Snapshot.tracks`: where the tracks of a placement are in a snapshot

## Main results

* `Grid.slots_clear`: the cells of one grid
* `Grid.snapshot_slots`: the cells of the grids at all depths
-/

namespace FormGrid

variable {K : Type}

/-- The end of a segment, which need not be a position on the screen. -/
def Segment.exactStop (s : Segment) : Int := s.start + s.length

namespace Snapshot.Entry

/-- If the tracks of one cell end where those of another start, or before, then so do the slots. -/
def KeepsOrder (a : Axis) (e e' : Entry) : Prop :=
  (e.constraints.along a).stop ≤ (e'.constraints.along a).start →
    (e.slot.along a).exactStop ≤ (e'.slot.along a).start

/-- Two slots share no point, and they lie on both axes as their cells do. -/
structure ClearOf (e e' : Entry) : Prop where
  disjoint : Disjoint e.slot.points e'.slot.points
  before : ∀ a, e.KeepsOrder a e'
  after : ∀ a, e'.KeepsOrder a e

end Snapshot.Entry

/-- The tracks of a placement, between the edges that are shown. -/
def Snapshot.tracks (node : Snapshot K) (a : Axis) (p : Placement) : Segment :=
  ⟨(node.frame.bounds.along a).start + edgeAt (node.frame.edges a) p.start,
    p.extent (node.frame.edges a)⟩

/-! ## Slots between edges -/

namespace Site

variable {s : Site}

theorem Ordered.along (ordered : s.Ordered) (a : Axis) {i j : Nat} (hij : i ≤ j)
    (hj : j < (s.edges.along a).length) :
    edgeAt (s.edges.along a) i ≤ edgeAt (s.edges.along a) j := by
  cases a with
  | x => exact ordered.columns hij hj
  | y => exact ordered.rows hij hj

/-- A slot ends before another one starts, if their cells do. -/
theorem exactStop_le_start (ordered : s.Ordered) {c d : Constraints} {a : Axis}
    (hd : (d.along a).stop < (s.edges.along a).length)
    (hle : (c.along a).stop ≤ (d.along a).start) :
    ((s.exactSlot c).along a).exactStop ≤ ((s.exactSlot d).along a).start := by
  have hstart : (d.along a).start ≤ (d.along a).stop := Nat.le_add_right _ _
  have hedges := ordered.along a hle (hstart.trans_lt hd)
  rw [exactSlot_along, exactSlot_along, Segment.exactStop, Placement.extent]
  dsimp only
  omega

/-- The slots of cells that lie apart share no point, and lie as the cells do. -/
theorem clear_slots (ordered : s.Ordered) {e e' : Snapshot.Entry}
    (hapart : e.constraints.Apart e'.constraints) (hslot : e.slot = s.exactSlot e.constraints)
    (hslot' : e'.slot = s.exactSlot e'.constraints)
    (hstop : ∀ a, (e.constraints.along a).stop < (s.edges.along a).length)
    (hstop' : ∀ a, (e'.constraints.along a).stop < (s.edges.along a).length) : e.ClearOf e' where
  disjoint := by
    rw [hslot, hslot']
    exact disjoint_slots ordered hapart ⟨hstop .x, hstop .y⟩ ⟨hstop' .x, hstop' .y⟩
  before a hle := by
    rw [hslot, hslot']
    exact exactStop_le_start ordered (hstop' a) hle
  after a hle := by
    rw [hslot, hslot']
    exact exactStop_le_start ordered (hstop a) hle

end Site

/-! ## Grids -/

/-- The cells of a snapshot are those of the layout, and their slots are between its edges. -/
theorem Cells.infos_shown {s : Site} {cells : Cells (PerAxis Resolved) LayoutCell K}
    {shown : Cells Snapshot.Pane Snapshot.Entry K} (hshown : cells.snapshot s = .ok shown) :
    shown.infos.map Snapshot.Entry.constraints = cells.infos.map LayoutCell.constraints ∧
      ∀ e ∈ shown.infos, e.slot = s.exactSlot e.constraints := by
  have hslot : ∀ {bounds : LayoutCell → Checked Rect} {c e}, s.Shows bounds c e →
      e.slot = s.exactSlot e.constraints := by
    intro bounds c e shows
    rw [shows.slot_eq, shows.constraints_eq]
  induction cells generalizing shown with
  | nil =>
    cases hshown
    exact ⟨rfl, fun _ he => nomatch he⟩
  | component c key rest ih =>
    obtain ⟨e, more, shows, hmore, rfl⟩ := snapshot_component_eq_ok_iff.mp hshown
    obtain ⟨hconstraints, hslots⟩ := ih hmore
    refine ⟨?_, List.forall_mem_cons.mpr ⟨hslot shows, hslots⟩⟩
    simp only [infos, List.map_cons, hconstraints, shows.constraints_eq]
  | grid c frame inner rest _ ih =>
    obtain ⟨e, inside, more, shows, -, hmore, rfl⟩ := snapshot_grid_eq_ok_iff.mp hshown
    obtain ⟨hconstraints, hslots⟩ := ih hmore
    refine ⟨?_, List.forall_mem_cons.mpr ⟨hslot shows, hslots⟩⟩
    simp only [infos, List.map_cons, hconstraints, shows.constraints_eq]

namespace Grid

variable {h : Host K} {g : Grid K} {rect : Rect} {shown : Snapshot K} {asked : List (Query K)}

/-- A slot covers the tracks of its cell. -/
theorem slot_along_eq_tracks (hshown : g.snapshot h rect = .ok ⟨shown, asked⟩) {e : Snapshot.Entry}
    (he : e ∈ shown.cells.infos) (a : Axis) :
    e.slot.along a = shown.tracks a (e.constraints.along a) := by
  obtain ⟨layout, -, -, hcells, hframe⟩ := snapshot_eq_ok_iff.mp hshown
  rw [(Cells.infos_shown hcells).2 e he, Site.exactSlot_along, Snapshot.tracks, hframe]
  cases a <;> rfl

/-- The cells that are shown of a grid are its visible ones, and their slots keep apart if the cells
do. -/
theorem slots_clear (hapart : g.cells.Apart) (hshown : g.snapshot h rect = .ok ⟨shown, asked⟩) :
    shown.cells.infos.map Snapshot.Entry.constraints = (g.cells.visible h).infos ∧
      shown.cells.infos.Pairwise Snapshot.Entry.ClearOf := by
  obtain ⟨layout, laid, sized, hcells, -⟩ := snapshot_eq_ok_iff.mp hshown
  obtain ⟨hconstraints, hslots⟩ := Cells.infos_shown hcells
  rw [laid.map_constraints] at hconstraints
  have hstops : ∀ e ∈ shown.cells.infos, ∀ a,
      (e.constraints.along a).stop < ((edgesOf layout.frame).along a).length := by
    intro e he a
    have hmem : e.constraints ∈ (g.cells.visible h).infos :=
      hconstraints ▸ List.mem_map_of_mem he
    obtain ⟨l, hl, heq⟩ := laid.exists_info hmem
    rw [← heq, ← LayoutCell.placement_along]
    exact sized.stop_lt a hl
  have hpairs := (hapart.visible h).pairwise
  rw [← hconstraints, List.pairwise_map] at hpairs
  refine ⟨hconstraints, hpairs.imp_of_mem ?_⟩
  intro e e' he he' hpair
  exact Site.clear_slots sized.ordered hpair (hslots e he) (hslots e' he') (hstops e he)
    (hstops e' he')

/-- In every grid of a snapshot, at whatever depth and however little room it has, the slots of the
visible cells cover their tracks. The slots of any two cells share no point, and they lie on both
axes as the cells do. -/
theorem snapshot_slots [DecidableEq K] (built : g.Built)
    (hshown : g.snapshot h rect = .ok ⟨shown, asked⟩) :
    List.Forall₂ (fun (t : Grid K) (node : Snapshot K) =>
        node.cells.infos.map Snapshot.Entry.constraints = (t.cells.visible h).infos ∧
          (∀ e ∈ node.cells.infos, ∀ a, e.slot.along a = node.tracks a (e.constraints.along a)) ∧
          node.cells.infos.Pairwise Snapshot.Entry.ClearOf)
      (g :: (g.cells.visibleGrids h).map Prod.snd) shown.nodes := by
  have hapart : ∀ t ∈ g :: (g.cells.visibleGrids h).map Prod.snd, t.cells.Apart := by
    rw [List.forall_mem_cons, List.forall_mem_map]
    exact ⟨built.apart, fun p hp =>
      built.apart.of_mem_grids p (Cells.visibleGrids_subset h g.cells hp)⟩
  refine ((List.forall₂_and_left (p := fun t : Grid K => t.cells.Apart) _ _).mpr
    ⟨hapart, nodes_shown hshown⟩).imp ?_
  rintro t node ⟨hcells, inside, hself⟩
  obtain ⟨hvisible, hclear⟩ := slots_clear hcells hself
  exact ⟨hvisible, fun e he => slot_along_eq_tracks hself he, hclear⟩

end Grid

namespace Form

/-- A label (1), and behind it a field without columns (2) and the buttons, which begin in the same
place. A note that was there before has been erased. -/
def strip : Grid Nat :=
  ⟨⟨⟨.ofList [0, 1], [⟨0, 3⟩]⟩, ⟨.empty, [⟨-2, 1⟩]⟩⟩,
    .component (.single 0 0) 1 <|
      .component ((Constraints.single 1 0).withSpan 0 2) 2 <|
        .grid ((Constraints.single 1 0).withSpan 2 1) buttons.frame buttons.cells .nil⟩

theorem strip_built : strip.Built := by
  have label := Grid.Built.empty.insert (rfl : Grid.empty.insert 1 (.single 0 0) = .ok _)
  have note := label.insert (rfl : Grid.insert _ 3 (.single 2 0) = .ok _)
  have field := note.insert
    (rfl : Grid.insert _ 2 ((Constraints.single 1 0).withSpan 0 2) = .ok _)
  have erased := field.erase (rfl : Grid.erase? _ 3 = some _)
  have filled := erased.insertSubGrid buttons_built
    (rfl : Grid.insertSubGrid _ ((Constraints.single 1 0).withSpan 2 1)
      (fun _ => ((), buttons)) = .ok ((), _))
  exact filled.settings strip.frame

/-- The cells of the strip in a rectangle of negative width: the field has no columns, and the
buttons lie behind the label. -/
theorem strip_slots : ∃ shown asked label field inner node,
    strip.snapshot host ⟨⟨10, -5⟩, ⟨20, 7⟩⟩ = .ok ⟨shown, asked⟩ ∧
    shown.cells.infos = [label, field, inner] ∧ shown.nodes = [shown, node] ∧
    label.ClearOf field ∧ field.ClearOf inner ∧
    label.slot.x.exactStop ≤ inner.slot.x.start ∧
    node.cells.infos.Pairwise Snapshot.Entry.ClearOf := by
  obtain ⟨shown, asked, label, field, inner, node, hshown, hinfos, hnodes, hle⟩ :
      ∃ shown asked label field inner node,
      strip.snapshot host ⟨⟨10, -5⟩, ⟨20, 7⟩⟩ = .ok ⟨shown, asked⟩ ∧
      shown.cells.infos = [label, field, inner] ∧ shown.nodes = [shown, node] ∧
      label.constraints.x.stop ≤ inner.constraints.x.start :=
    ⟨_, _, _, _, _, _, rfl, rfl, rfl, by decide⟩
  have hslots := Grid.snapshot_slots strip_built hshown
  rw [hnodes] at hslots
  obtain ⟨⟨-, -, hcells⟩, hnested⟩ := List.forall₂_cons.mp hslots
  rw [hinfos] at hcells
  obtain ⟨hlabel, hothers⟩ := List.pairwise_cons.mp hcells
  exact ⟨shown, asked, label, field, inner, node, hshown, hinfos, hnodes, hlabel _ (by simp),
    List.rel_of_pairwise_cons hothers (by simp), (hlabel _ (by simp)).before .x hle,
    (List.forall₂_cons.mp hnested).1.2.2⟩

end Form

end FormGrid
