import FormGrid.Proofs.Determined
import FormGrid.Proofs.Shown

/-!
# Where the cells of a layout lie

A layout has its cells in places that plain integers give: each cell in the bounds between the
edges of its grid, and each nested grid with its corner in the bounds of its cell. Snapshots and
arrangements that are computed show the cells there, so what two of them have in common is a
matter of their layouts alone.

## Main definitions

* `Site.exactEntry`, `Cells.exactSnapshot`: the cells of a layout in their places
* `Layout.exactSnapshot`: the cells of a whole layout
* `Snapshot.Pane.SameSide`, `Snapshot.Entry.SameSide`: what is shown is the same on an axis

## Main results

* `Cells.snapshot_eq_ok`: what is computed for the cells of one grid
* `Cells.SameSides.shown_along`: cells that are the same on an axis are shown the same on it
* `Grid.layout_of_snapshot`, `Grid.layout_of_arrange`, `Grid.layout_of_preferredSize`: what is
  computed for a grid comes from a layout
-/

namespace FormGrid

variable {K : Type}

/-- A cell with these bounds. -/
def Site.exactEntry (s : Site) (c : LayoutCell) (bounds : Rect) : Snapshot.Entry :=
  ⟨c.constraints, s.exactSlot c.constraints, bounds, c.y.item.baseline.map Baseline.offset⟩

namespace Cells

/-- The cells of a site in their places. -/
def exactSnapshot (s : Site) :
    Cells (PerAxis Resolved) LayoutCell K → Cells Snapshot.Pane Snapshot.Entry K
  | nil => nil
  | component c key rest => component (s.exactEntry c (s.exactBounds c)) key (rest.exactSnapshot s)
  | grid c frame inner rest =>
    grid (s.exactEntry c (s.exactGridBounds c)) (.ofFrame frame (s.exactGridBounds c))
      (inner.exactSnapshot (Site.ofGrid frame inner (s.exactGridBounds c).origin))
      (rest.exactSnapshot s)

theorem exactSnapshot_append (s : Site) (cells more : Cells (PerAxis Resolved) LayoutCell K) :
    (cells ++ more).exactSnapshot s = cells.exactSnapshot s ++ more.exactSnapshot s := by
  induction cells with
  | nil => rfl
  | component c key rest ih => simp [exactSnapshot, ih]
  | grid c frame inner rest _ ih => simp [exactSnapshot, ih]

/-- A snapshot that is computed shows the cells in their places. -/
theorem snapshot_eq_ok {s : Site} {cells : Cells (PerAxis Resolved) LayoutCell K}
    {shown : Cells Snapshot.Pane Snapshot.Entry K} (h : cells.snapshot s = .ok shown) :
    shown = cells.exactSnapshot s := by
  induction cells generalizing s shown with
  | nil =>
    cases h
    rfl
  | component c key rest ih =>
    obtain ⟨e, more, shows, hmore, rfl⟩ := snapshot_component_eq_ok_iff.mp h
    have hentry : e = s.exactEntry c (s.exactBounds c) := by
      rw [← shows.component_bounds]
      exact shows.eq_entry
    rw [exactSnapshot, ih hmore, hentry]
  | grid c frame inner rest ihInner ihRest =>
    obtain ⟨e, inside, more, shows, hinside, hmore, rfl⟩ := snapshot_grid_eq_ok_iff.mp h
    have hentry : e = s.exactEntry c (s.exactGridBounds c) := by
      rw [← shows.grid_bounds]
      exact shows.eq_entry
    rw [exactSnapshot, ihInner hinside, ihRest hmore, shows.grid_bounds, ← hentry]

end Cells

/-! ## Layouts that are the same on an axis -/

theorem Item.exactSegment_congr {i : Item} {edges edges' : List Int} {origin origin' : Int}
    (hstart : edgeAt edges' i.placement.start = edgeAt edges i.placement.start)
    (horigin : origin' = origin) (room : Int) :
    i.exactSegment room edges' origin' = i.exactSegment room edges origin := by
  rw [exactSegment, exactSegment, exactLead, exactLead, hstart, horigin]

namespace Site

variable {s s' : Site} {a : Axis} {l l' : LayoutCell}

/-- On an axis, a component lies where its cell, the ends of its tracks and the line it shares say. -/
theorem exactBounds_along_congr (hside : l.SameSide a l')
    (horigin : s'.origin.along a = s.origin.along a)
    (hends : (l.itemAt a).placement.SameEnds (s.edges.along a) (s'.edges.along a))
    (hlines : a = .y → ∀ c : RowItem, c.shared? s'.cells = c.shared? s.cells) :
    (s'.exactBounds l').along a = (s.exactBounds l).along a := by
  cases a with
  | x =>
    have hcell : l.x = l'.x := hside
    have horigin : s'.origin.x = s.origin.x := horigin
    obtain ⟨hstart, -⟩ : l.x.item.placement.SameEnds s.columns s'.columns := hends
    show (l'.x.item.exactSegment l'.x.room s'.columns s'.origin.x).grow l'.x.item.placement.padding =
      (l.x.item.exactSegment l.x.room s.columns s.origin.x).grow l.x.item.placement.padding
    rw [← hcell, Item.exactSegment_congr hstart horigin]
  | y =>
    have hcell : l.y = l'.y := hside
    have hends : l.y.item.placement.SameEnds s.rows s'.rows := hends
    have horigin : s'.origin.y = s.origin.y := horigin
    show (s'.exactRowSegment l'.y).grow l'.y.item.placement.padding =
      (s.exactRowSegment l.y).grow l.y.item.placement.padding
    rw [← hcell]
    congr 1
    unfold exactRowSegment
    dsimp only
    rw [hlines rfl, horigin, Item.exactSegment_congr hends.1 rfl, hends.1, hends.extent_eq]

theorem exactGridBounds_along_congr (hside : l.SameSide a l')
    (horigin : s'.origin.along a = s.origin.along a)
    (hends : (l.itemAt a).placement.SameEnds (s.edges.along a) (s'.edges.along a)) :
    (s'.exactGridBounds l').along a = (s.exactGridBounds l).along a := by
  rw [exactGridBounds_along, exactGridBounds_along, hside.itemAt_eq, hside.roomAt_eq, horigin,
    Item.exactLead, Item.exactLead, hends.1]

end Site

/-! ## Snapshots that are the same on an axis -/

namespace Snapshot

/-- The edges shown on an axis. -/
def Pane.edges (p : Pane) : Axis → List Int
  | .x => p.columns
  | .y => p.rows

theorem Pane.edges_ofFrame (frame : PerAxis Resolved) (bounds : Rect) (a : Axis) :
    (Pane.ofFrame frame bounds).edges a = (frame.along a).edges := by
  cases a <;> rfl

/-- What is shown of two grids is the same on an axis. -/
structure Pane.SameSide (a : Axis) (p p' : Pane) : Prop where
  bounds : p.bounds.along a = p'.bounds.along a
  preferred : p.preferred.along a = p'.preferred.along a
  edges : p.edges a = p'.edges a

/-- What is shown of two cells is the same on an axis. -/
structure Entry.SameSide (a : Axis) (e e' : Entry) : Prop where
  constraints : e.constraints.along a = e'.constraints.along a
  slot : e.slot.along a = e'.slot.along a
  bounds : e.bounds.along a = e'.bounds.along a

end Snapshot

namespace Site

variable {s s' : Site} {a : Axis} {l l' : LayoutCell}

theorem exactSlot_along (s : Site) (c : Constraints) (a : Axis) :
    (s.exactSlot c).along a =
      ⟨s.origin.along a + edgeAt (s.edges.along a) (c.along a).start,
        (c.along a).extent (s.edges.along a)⟩ := by
  cases a <;> rfl

/-- Two cells that are the same on an axis, and whose bounds are, are shown the same on it. -/
theorem exactEntry_sameSide (hside : l.SameSide a l')
    (horigin : s'.origin.along a = s.origin.along a)
    (hends : (l.itemAt a).placement.SameEnds (s.edges.along a) (s'.edges.along a))
    {bounds bounds' : Rect} (hbounds : bounds'.along a = bounds.along a) :
    (s.exactEntry l bounds).SameSide a (s'.exactEntry l' bounds') := by
  have hconstraints : l'.constraints.along a = l.constraints.along a := by
    rw [← l'.placement_along, ← l.placement_along, hside.itemAt_eq]
  refine ⟨hconstraints.symm, ?_, hbounds.symm⟩
  rw [l.placement_along] at hends
  show (s.exactSlot l.constraints).along a = (s'.exactSlot l'.constraints).along a
  rw [exactSlot_along, exactSlot_along, hconstraints, horigin, hends.1, hends.extent_eq]

end Site

theorem Snapshot.Pane.ofFrame_sameSide {a : Axis} {frame frame' : PerAxis Resolved}
    (haxis : frame.along a = frame'.along a) {bounds bounds' : Rect}
    (hbounds : bounds'.along a = bounds.along a) :
    (ofFrame frame bounds).SameSide a (ofFrame frame' bounds') := by
  refine ⟨hbounds.symm, ?_, ?_⟩
  · cases a <;> exact congrArg (·.toGathered.preferred) haxis
  · rw [edges_ofFrame, edges_ofFrame, haxis]

namespace Cells.SameSides

variable {a : Axis} {out out' : Cells (PerAxis Resolved) LayoutCell K}

/-- Cells that are the same on an axis are shown the same on it, at all depths. -/
theorem shown_along (same : SameSides a out out') {s s' : Site}
    (horigin : s'.origin.along a = s.origin.along a)
    (hends : ∀ l ∈ out.infos,
      (l.itemAt a).placement.SameEnds (s.edges.along a) (s'.edges.along a))
    (hlines : a = .y → ∀ c : RowItem, c.shared? s'.cells = c.shared? s.cells) :
    (out.exactSnapshot s).Alike (Snapshot.Pane.SameSide a) (Snapshot.Entry.SameSide a)
      (out'.exactSnapshot s') := by
  induction same generalizing s s' with
  | nil => exact .nil
  | component hside _ ih =>
    obtain ⟨hend, hends⟩ := List.forall_mem_cons.mp hends
    have hbounds := Site.exactBounds_along_congr hside horigin hend hlines
    exact .component (Site.exactEntry_sameSide hside horigin hend hbounds) (ih horigin hends hlines)
  | @grid l l' frame frame' inner inner' _ _ hside haxis hinside _ ihInside ihOthers =>
    obtain ⟨hend, hends⟩ := List.forall_mem_cons.mp hends
    have hbounds := Site.exactGridBounds_along_congr hside horigin hend
    have hcorner : ((s'.exactGridBounds l').origin).along a =
        ((s.exactGridBounds l).origin).along a := by
      cases a <;> exact congrArg Segment.start hbounds
    refine .grid (Site.exactEntry_sameSide hside horigin hend hbounds)
      (Snapshot.Pane.ofFrame_sameSide haxis hbounds) (ihInside hcorner ?_ ?_)
      (ihOthers horigin hends hlines)
    · intro l _
      show (l.itemAt a).placement.SameEnds ((edgesOf frame).along a) ((edgesOf frame').along a)
      rw [edgesOf_along, edgesOf_along, haxis]
      exact .refl _ _
    · rintro rfl c
      show c.shared? (layoutRows inner') = c.shared? (layoutRows inner)
      rw [SameSides.layoutRows_eq hinside]

/-- Cells that are the same on an axis lie in the same places on it, at all depths. -/
theorem bounds_along (same : SameSides a out out') {s s' : Site}
    (horigin : s'.origin.along a = s.origin.along a)
    (hends : ∀ l ∈ out.infos,
      (l.itemAt a).placement.SameEnds (s.edges.along a) (s'.edges.along a))
    (hlines : a = .y → ∀ c : RowItem, c.shared? s'.cells = c.shared? s.cells) :
    (out'.exactSnapshot s').entries.map (fun e => (e.1, e.2.bounds.along a)) =
      (out.exactSnapshot s).entries.map fun e => (e.1, e.2.bounds.along a) :=
  Alike.map_entries_eq ((same.shown_along horigin hends hlines).imp (fun _ _ _ => trivial)
    fun _ _ hentry => hentry.bounds)

end Cells.SameSides

/-- The cells of a layout in their places, when its upper left corner is given. -/
def Layout.exactSnapshot (layout : Layout K) (origin : PerAxis Int) :
    Cells Snapshot.Pane Snapshot.Entry K :=
  layout.cells.exactSnapshot (Site.ofGrid layout.frame layout.cells origin)

namespace Grid

variable {h : Host K} {g : Grid K} {rect : Rect} {asked : List (Query K)}

/-- A snapshot shows a layout that has the size of the rectangle. -/
theorem layout_of_snapshot {shown : Snapshot K} (hshown : g.snapshot h rect = .ok ⟨shown, asked⟩) :
    ∃ layout : Layout K,
      Cells.Laid h g.frame (edgesOf layout.frame) (g.cells.visible h) layout.cells asked ∧
        SizedBy g.frame layout.cells rect.size layout.frame ∧
        shown = ⟨.ofFrame layout.frame rect, layout.exactSnapshot rect.origin⟩ := by
  obtain ⟨layout, laid, sized, hcells, hframe⟩ := snapshot_eq_ok_iff.mp hshown
  refine ⟨layout, laid, sized, ?_⟩
  calc shown = ⟨shown.frame, shown.cells⟩ := rfl
    _ = _ := by rw [hframe, Cells.snapshot_eq_ok hcells, Layout.exactSnapshot]

/-- An arrangement lists the components of a layout that has the size of the rectangle. -/
theorem layout_of_arrange {placed : List (K × Rect)}
    (hplaced : g.arrange h rect = .ok ⟨placed, asked⟩) :
    ∃ layout : Layout K,
      Cells.Laid h g.frame (edgesOf layout.frame) (g.cells.visible h) layout.cells asked ∧
        SizedBy g.frame layout.cells rect.size layout.frame ∧
        placed = Snapshot.placed (layout.exactSnapshot rect.origin).entries := by
  obtain ⟨shown, hshown, rfl⟩ := snapshot_of_arrange hplaced
  obtain ⟨layout, laid, sized, rfl⟩ := layout_of_snapshot hshown
  exact ⟨layout, laid, sized, rfl⟩

/-- The preferred size is that of a layout to which it is given. -/
theorem layout_of_preferredSize {size : Size} (hsize : g.preferredSize h = .ok ⟨size, asked⟩) :
    ∃ layout : Layout K,
      Cells.Laid h g.frame (edgesOf layout.frame) (g.cells.visible h) layout.cells asked ∧
        SizedBy g.frame layout.cells size layout.frame ∧ size = preferredOf layout.frame := by
  obtain ⟨layout, hlayout, rfl⟩ := preferredSize_eq_ok_iff.mp hsize
  obtain ⟨laid, sized⟩ := layout_eq_ok_iff.mp hlayout
  exact ⟨layout, laid, sized, rfl⟩

end Grid

end FormGrid
