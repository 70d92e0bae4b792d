import FormGrid.Proofs.Nesting
import FormGrid.Proofs.Placed
import FormGrid.Proofs.Sizing.Idle

/-!
# Cells that cover nothing

A component that covers no tracks of an axis asks for no length on it. All that its cell does there
is to make the axis reach up to the start of the cell. So the preferred length of the axis stays,
and all other components keep their places on it, unless a resizable track comes onto the axis in
this way and takes a share of what other tracks had to themselves.

What the rows have to hold depends on the widths where there are baselines, so for the y axis the
columns must stay as well, or no component may have a baseline.

## Main definitions

* `Grid.trackCount`, `Grid.Steady`: the tracks of an axis, and when they keep their lengths
* `Layout.Followed`: two layouts, the second one with a further component

## Main results

* `Layout.Followed.preferred_eq`, `Layout.Followed.bounds_eq`: what stays on an axis
* `Grid.insert_idle`: preferred sizes and arrangements before and after such a component is inserted
-/

namespace FormGrid

variable {K : Type}

/-! ## Axes that reach further -/

/-- The second axis has one more demand than the first one, which is on no tracks, at `start`. -/
structure Resolved.Prolonged (start : Nat) (r r' : Resolved) : Prop where
  demands : ∃ d : Demand, d.start = start ∧ d.span = 0 ∧ r'.sizing = ⟨r.sizing.demands ++ [d]⟩
  resizable : r'.resizable = r.resizable

/-- The tracks of an axis of this length keep their lengths when it is made to reach up to `start`:
there is nothing to share out, or no resizable track is added, or there was none before. -/
def Resolved.Steady (r : Resolved) (length : Int) (start : Nat) : Prop :=
  r.preferred = length ∨ (∀ track ∈ r.resizable, track < start → track < r.sizing.count) ∨
    ∀ track ∈ r.resizable, r.sizing.count ≤ track

namespace Resolved.Prolonged

variable {start : Nat} {r r' : Resolved} {length length' : Int}

theorem preferred_eq (prolonged : r.Prolonged start r') (spans : r.Spans length)
    (spans' : r'.Spans length') : r'.preferred = r.preferred := by
  obtain ⟨d, -, hspan, hsizing⟩ := prolonged.demands
  have hpreferred' := spans'.preferred_eq
  rw [hsizing] at hpreferred'
  exact Sizing.preferred_append_idle hspan spans.preferred_eq hpreferred'

theorem edgeAt_eq (prolonged : r.Prolonged start r') (spans : r.Spans length)
    (spans' : r'.Spans length) (steady : r.Steady length start) {i : Nat}
    (hi : i ≤ r.sizing.count) : edgeAt r'.edges i = edgeAt r.edges i := by
  obtain ⟨d, rfl, hspan, hsizing⟩ := prolonged.demands
  have hedges' := spans'.edges_eq
  rw [hsizing, prolonged.resizable] at hedges'
  refine Sizing.edgeAt_append_idle hspan spans.edges_eq hedges' ?_ hi
  refine steady.imp_left fun hlength => ?_
  rw [← hlength]
  exact spans.preferred_eq

end Resolved.Prolonged

/-! ## Cells without a baseline -/

namespace RowItem

variable {cells : List RowItem} {r : RowItem}

/-- A cell without a baseline has no part in the lines that others share. -/
theorem shared?_append_bare (bare : r.baseline = none) (c : RowItem) :
    c.shared? (cells ++ [r]) = c.shared? cells := by
  have hmembers : ∀ row align, SharedLine.members (cells ++ [r]) row align =
      SharedLine.members cells row align := by
    intro row align
    rw [SharedLine.members, List.filter_append, List.filterMap_append, List.filter_cons]
    split <;> simp [bare, SharedLine.members]
  simp only [shared?, SharedLine.find?, hmembers]

theorem exactRequest_append_bare (bare : r.baseline = none) (c : RowItem) :
    c.exactRequest (cells ++ [r]) = c.exactRequest cells := by
  rw [exactRequest, exactRequest, shared?_append_bare bare]

/-- Only a component in a single row is asked for its baseline. -/
theorem baseline_of_span {h : Host K} {key : K} {column : Fitted Item} {row : Item}
    {m : Measured K RowItem} (hspan : row.placement.span ≠ 1)
    (hm : RowItem.measure h key column row = .ok m) : m.value.baseline = none := by
  have hshares : row.placement.sharesBaseline = false := by
    simp [Placement.sharesBaseline, hspan]
  rw [measure_eq_ok hm, exactMeasure, hshares]
  rfl

end RowItem

/-! ## Layouts with a further component -/

/-- A layout of a grid in one size, and one of the grid with a further component in another size,
which has the cells `before` with `l` behind them. -/
structure Layout.Followed (h : Host K) (g : Grid K) (c : Constraints) (key : K) (size size' : Size)
    (layout : Layout K) (before : Cells (PerAxis Resolved) LayoutCell K) (l : LayoutCell)
    (layout' : Layout K) : Prop where
  laid : ∃ asked, Cells.Laid h g.frame (edgesOf layout.frame) (g.cells.visible h) layout.cells asked
  laid' : ∃ asked, Cells.Laid h g.frame (edgesOf layout'.frame) (g.cells.visible h) before asked
  sized : SizedBy g.frame layout.cells size layout.frame
  sized' : SizedBy g.frame layout'.cells size' layout'.frame
  cells_eq : layout'.cells = before ++ .component l key .nil
  constraints_eq : l.constraints = c
  bare : c.y.span = 0 → l.y.item.baseline = none

/-- What is laid out after a visible component has been inserted. -/
theorem Grid.followed_of_insert {h : Host K} {g g' : Grid K} {key : K} {c : Constraints}
    (hkey : h.isVisible key = true) (hinsert : g.insert key c = .ok g') {layout layout' : Layout K}
    {size size' : Size} {asked asked' : List (Query K)}
    (laid : Cells.Laid h g.frame (edgesOf layout.frame) (g.cells.visible h) layout.cells asked)
    (laid' : Cells.Laid h g'.frame (edgesOf layout'.frame) (g'.cells.visible h) layout'.cells
      asked')
    (sized : SizedBy g.frame layout.cells size layout.frame)
    (sized' : SizedBy g'.frame layout'.cells size' layout'.frame) :
    ∃ before l, Layout.Followed h g c key size size' layout before l layout' := by
  obtain ⟨-, rfl⟩ := Grid.insert_eq_ok_iff.mp hinsert
  have hvisible : (g.cells ++ .component c key .nil).visible h =
      g.cells.visible h ++ .component c key .nil := by
    rw [Cells.visible_append, Cells.visible, if_pos hkey, Cells.visible]
  rw [hvisible] at laid'
  obtain ⟨before, behind, first, later, hcells, hbefore, hbehind⟩ := laid'.of_append
  cases hbehind with
  | component _ fits measured others =>
    cases others
    refine ⟨before, _, ⟨asked, laid⟩, ⟨first, hbefore⟩, sized, sized', hcells, fits.constraints_eq,
      fun hspan => RowItem.baseline_of_span ?_ measured⟩
    show c.y.span ≠ 1
    omega

namespace Layout.Followed

variable {h : Host K} {g : Grid K} {c : Constraints} {key : K} {layout layout' : Layout K}
  {before : Cells (PerAxis Resolved) LayoutCell K} {l : LayoutCell} {a : Axis} {size size' : Size}

theorem columns_alike (followed : Followed h g c key size size' layout before l layout') :
    Cells.SameDemands .x layout.cells before := by
  obtain ⟨asked, laid⟩ := followed.laid
  obtain ⟨asked', laid'⟩ := followed.laid'
  exact laid.columns_alike laid'

theorem rows_alike (followed : Followed h g c key size size' layout before l layout')
    (hwidths : h.NoBaselines ∨ Cells.SameSides .x layout.cells before) :
    Cells.SameDemands .y layout.cells before := by
  obtain ⟨asked, laid⟩ := followed.laid
  obtain ⟨asked', laid'⟩ := followed.laid'
  exact laid.rows_alike_of laid' hwidths

theorem columnItems_eq (followed : Followed h g c key size size' layout before l layout')
    (same : Cells.SameDemands .x layout.cells before) :
    columnItems layout'.cells = columnItems layout.cells ++ [l.x.item] := by
  rw [columnItems, followed.cells_eq, Cells.infos_append, List.map_append, ← columnItems,
    same.columnItems_eq]
  rfl

theorem layoutRows_eq (followed : Followed h g c key size size' layout before l layout')
    (same : Cells.SameDemands .y layout.cells before) :
    layoutRows layout'.cells = layoutRows layout.cells ++ [l.y.item] := by
  rw [layoutRows, followed.cells_eq, Cells.infos_append, List.map_append, ← layoutRows,
    same.layoutRows_eq]
  rfl

/-- A further component that covers no tracks of an axis makes the axis reach up to its start. -/
theorem prolonged (followed : Followed h g c key size size' layout before l layout')
    (same : Cells.SameDemands a layout.cells before) (hspan : (c.along a).span = 0) :
    (layout.frame.along a).Prolonged (c.along a).start (layout'.frame.along a) := by
  refine ⟨?_, (followed.sized'.resizable_along a).trans (followed.sized.resizable_along a).symm⟩
  have hplacement : (l.itemAt a).placement = c.along a :=
    followed.constraints_eq ▸ l.placement_along a
  cases a with
  | x =>
    refine ⟨l.x.item.exactRequest, congrArg Placement.start hplacement,
      (congrArg Placement.span hplacement).trans hspan, congrArg Sizing.mk ?_⟩
    show layout'.frame.x.sizing.demands = layout.frame.x.sizing.demands ++ [l.x.item.exactRequest]
    rw [followed.sized'.column_demands, followed.sized.column_demands,
      followed.columnItems_eq same, List.map_append, List.map_singleton]
  | y =>
    refine ⟨l.y.item.exactRequest (layoutRows layout.cells), congrArg Placement.start hplacement,
      (congrArg Placement.span hplacement).trans hspan, congrArg Sizing.mk ?_⟩
    show layout'.frame.y.sizing.demands =
      layout.frame.y.sizing.demands ++ [l.y.item.exactRequest (layoutRows layout.cells)]
    rw [followed.sized'.row_demands, followed.sized.row_demands, followed.layoutRows_eq same,
      List.map_append, List.map_singleton]
    simp only [RowItem.exactRequest_append_bare (followed.bare hspan)]

/-- The preferred length of the axis stays. -/
theorem preferred_eq (followed : Followed h g c key size size' layout before l layout')
    (same : Cells.SameDemands a layout.cells before) (hspan : (c.along a).span = 0) :
    (layout'.frame.along a).preferred = (layout.frame.along a).preferred :=
  (followed.prolonged same hspan).preferred_eq (followed.sized.spans_along a)
    (followed.sized'.spans_along a)

/-- On a steady axis, the ends of the other cells stay. -/
theorem sameEnds (followed : Followed h g c key size size' layout before l layout')
    (same : Cells.SameDemands a layout.cells before) (hspan : (c.along a).span = 0)
    (hsize : size'.along a = size.along a)
    (steady : (layout.frame.along a).Steady (size.along a) (c.along a).start) :
    ∀ m ∈ layout.cells.infos, (m.itemAt a).placement.SameEnds ((edgesOf layout.frame).along a)
      ((edgesOf layout'.frame).along a) := by
  intro m hm
  have spans := followed.sized.spans_along a
  have spans' := followed.sized'.spans_along a
  rw [hsize] at spans'
  have prolonged := followed.prolonged same hspan
  have hstop := followed.sized.stop_le a hm
  have hstart : (m.itemAt a).placement.start ≤ (m.itemAt a).placement.stop := Nat.le_add_right _ _
  rw [edgesOf_along, edgesOf_along]
  exact ⟨prolonged.edgeAt_eq spans spans' steady (hstart.trans hstop),
    prolonged.edgeAt_eq spans spans' steady hstop⟩

/-- On a steady axis, the other cells stay the same, down to the nested grids. -/
theorem sides_alike (followed : Followed h g c key size size' layout before l layout')
    (same : Cells.SameDemands a layout.cells before) (hspan : (c.along a).span = 0)
    (hsize : size'.along a = size.along a)
    (steady : (layout.frame.along a).Steady (size.along a) (c.along a).start) :
    Cells.SameSides a layout.cells before := by
  have hends := followed.sameEnds same hspan hsize steady
  obtain ⟨asked, laid⟩ := followed.laid
  obtain ⟨asked', laid'⟩ := followed.laid'
  refine laid.sides_alike laid' same fun d hd => ?_
  obtain ⟨m, hm, rfl⟩ := laid.exists_info hd
  rw [← m.placement_along]
  exact hends m hm

/-- On a steady axis, the other components stay in their places, at all depths. -/
theorem bounds_eq (followed : Followed h g c key size size' layout before l layout')
    (same : Cells.SameDemands a layout.cells before) (hspan : (c.along a).span = 0)
    (hsize : size'.along a = size.along a)
    (steady : (layout.frame.along a).Steady (size.along a) (c.along a).start)
    (origin : PerAxis Int) :
    (before.exactSnapshot (Site.ofGrid layout'.frame layout'.cells origin)).entries.map
        (fun e => (e.1, e.2.bounds.along a)) =
      (layout.exactSnapshot origin).entries.map fun e => (e.1, e.2.bounds.along a) := by
  refine (followed.sides_alike same hspan hsize steady).bounds_along rfl
    (followed.sameEnds same hspan hsize steady) ?_
  rintro rfl row
  show row.shared? (layoutRows layout'.cells) = row.shared? (layoutRows layout.cells)
  rw [followed.layoutRows_eq same]
  exact RowItem.shared?_append_bare (followed.bare hspan) row

/-- The further component comes last. -/
theorem placed_eq (followed : Followed h g c key size size' layout before l layout')
    (origin : PerAxis Int) :
    Snapshot.placed (layout'.exactSnapshot origin).entries =
      Snapshot.placed (before.exactSnapshot
        (Site.ofGrid layout'.frame layout'.cells origin)).entries ++
        [(key, (Site.ofGrid layout'.frame layout'.cells origin).exactBounds l)] := by
  let site := Site.ofGrid layout'.frame layout'.cells origin
  have hcells : layout'.exactSnapshot origin =
      before.exactSnapshot site ++ (Cells.component l key .nil).exactSnapshot site := by
    calc layout'.exactSnapshot origin
        = layout'.cells.exactSnapshot site := rfl
      _ = (before ++ .component l key .nil).exactSnapshot site :=
        congrArg (Cells.exactSnapshot site) followed.cells_eq
      _ = _ := Cells.exactSnapshot_append _ _ _
  rw [hcells, Cells.entries_append, Snapshot.placed_append]
  rfl

end Layout.Followed

/-! ## Grids with a further component -/

namespace Grid

/-- The number of tracks of an axis: no visible cell reaches beyond the last one. -/
def trackCount (h : Host K) (g : Grid K) (a : Axis) : Nat :=
  ((g.cells.visible h).infos.map fun c => (c.along a).stop).foldl max 0

/-- In this rectangle, the tracks of an axis keep their lengths when the axis is made to reach up to
`start`: it has just its preferred length, or no resizable track is added, or no track that it has
is resizable. -/
def Steady (h : Host K) (g : Grid K) (rect : Rect) (a : Axis) (start : Nat) : Prop :=
  (∃ layout asked, g.layoutIn h rect = .ok ⟨layout, asked⟩ ∧
      (preferredOf layout.frame).along a = rect.size.along a) ∨
    (∀ track ∈ (g.frame.along a).resizable, track < start → track < g.trackCount h a) ∨
    ∀ track ∈ (g.frame.along a).resizable, g.trackCount h a ≤ track

theorem preferredOf_along (frame : PerAxis Resolved) (a : Axis) :
    (preferredOf frame).along a = (frame.along a).preferred := by
  cases a <;> rfl

variable {h : Host K} {g g' : Grid K} {key : K} {c : Constraints}

theorem count_eq_trackCount {layout : Layout K} {size : Size} {edges : PerAxis (List Int)}
    {asked : List (Query K)}
    (laid : Cells.Laid h g.frame edges (g.cells.visible h) layout.cells asked)
    (sized : SizedBy g.frame layout.cells size layout.frame) (a : Axis) :
    (layout.frame.along a).sizing.count = g.trackCount h a := by
  rw [Sizing.count, sized.demands_stops, trackCount, ← laid.map_constraints, List.map_map]
  simp only [LayoutCell.placement_along, Function.comp_def]

theorem Steady.resolved {rect : Rect} {a : Axis} {start : Nat} (steady : g.Steady h rect a start)
    {layout : Layout K} {asked : List (Query K)}
    (laid : Cells.Laid h g.frame (edgesOf layout.frame) (g.cells.visible h) layout.cells asked)
    (sized : SizedBy g.frame layout.cells rect.size layout.frame) :
    (layout.frame.along a).Steady (rect.size.along a) start := by
  rw [Resolved.Steady, sized.resizable_along, count_eq_trackCount laid sized]
  refine steady.imp_left ?_
  rintro ⟨other, queries, hother, hpreferred⟩
  have hlayout : g.layoutIn h rect = .ok ⟨layout, asked⟩ := layout_eq_ok_iff.mpr ⟨laid, sized⟩
  cases hother.symm.trans hlayout
  rw [← preferredOf_along]
  exact hpreferred

/-- A component that covers no tracks of an axis leaves the preferred length of the axis. -/
theorem preferredSize_insert_idle (hkey : h.isVisible key = true)
    (hinsert : g.insert key c = .ok g') {size size' : Size} {asked asked' : List (Query K)}
    (hsize : g.preferredSize h = .ok ⟨size, asked⟩)
    (hsize' : g'.preferredSize h = .ok ⟨size', asked'⟩) :
    (c.x.span = 0 → size'.x = size.x) ∧
      (c.y.span = 0 → h.NoBaselines ∨ c.x.span = 0 → size'.y = size.y) := by
  obtain ⟨layout, laid, sized, rfl⟩ := layout_of_preferredSize hsize
  obtain ⟨layout', laid', sized', rfl⟩ := layout_of_preferredSize hsize'
  obtain ⟨before, l, followed⟩ := followed_of_insert hkey hinsert laid laid' sized sized'
  have hcolumns := followed.columns_alike
  have hwidth : c.x.span = 0 → (preferredOf layout'.frame).x = (preferredOf layout.frame).x :=
    followed.preferred_eq hcolumns
  refine ⟨hwidth, fun hspan hidle => ?_⟩
  have hwidths : h.NoBaselines ∨ Cells.SameSides .x layout.cells before :=
    hidle.imp_right fun hspan => followed.sides_alike hcolumns hspan (hwidth hspan) (.inl rfl)
  exact followed.preferred_eq (followed.rows_alike hwidths) hspan

/-- A component that covers no tracks of a steady axis leaves the other components in their places
on the axis. -/
theorem arrange_insert_idle (hkey : h.isVisible key = true) (hinsert : g.insert key c = .ok g')
    {rect : Rect} {placed placed' : List (K × Rect)} {asked asked' : List (Query K)}
    (hplaced : g.arrange h rect = .ok ⟨placed, asked⟩)
    (hplaced' : g'.arrange h rect = .ok ⟨placed', asked'⟩) :
    ∃ others bounds, placed' = others ++ [(key, bounds)] ∧
      (c.x.span = 0 → g.Steady h rect .x c.x.start →
        (others.map fun p => (p.1, p.2.x)) = placed.map fun p => (p.1, p.2.x)) ∧
      (c.y.span = 0 → g.Steady h rect .y c.y.start →
        h.NoBaselines ∨ c.x.span = 0 ∧ g.Steady h rect .x c.x.start →
        (others.map fun p => (p.1, p.2.y)) = placed.map fun p => (p.1, p.2.y)) := by
  obtain ⟨layout, laid, sized, rfl⟩ := layout_of_arrange hplaced
  obtain ⟨layout', laid', sized', rfl⟩ := layout_of_arrange hplaced'
  obtain ⟨before, l, followed⟩ := followed_of_insert hkey hinsert laid laid' sized sized'
  have hcolumns := followed.columns_alike
  refine ⟨_, _, followed.placed_eq rect.origin, ?_, ?_⟩
  · intro hspan steady
    have hbounds := followed.bounds_eq hcolumns hspan rfl (steady.resolved laid sized) rect.origin
    rw [Snapshot.placed, Snapshot.placed, List.map_map, List.map_map]
    exact hbounds
  · intro hspan steady hidle
    have hwidths : h.NoBaselines ∨ Cells.SameSides .x layout.cells before :=
      hidle.imp_right fun hx =>
        followed.sides_alike hcolumns hx.1 rfl (Steady.resolved hx.2 laid sized)
    have hbounds := followed.bounds_eq (followed.rows_alike hwidths) hspan rfl
      (steady.resolved laid sized) rect.origin
    rw [Snapshot.placed, Snapshot.placed, List.map_map, List.map_map]
    exact hbounds

/-- Components that keep their places on both axes keep their bounds. -/
theorem eq_of_axes {placed others : List (K × Rect)}
    (hx : (others.map fun p => (p.1, p.2.x)) = placed.map fun p => (p.1, p.2.x))
    (hy : (others.map fun p => (p.1, p.2.y)) = placed.map fun p => (p.1, p.2.y)) :
    others = placed := by
  induction others generalizing placed with
  | nil => exact (List.map_eq_nil_iff.mp hx.symm).symm
  | cons p others ih =>
    cases placed with
    | nil => cases hx
    | cons q placed =>
      obtain ⟨hfirst, hrest⟩ := List.cons_eq_cons.mp hx
      obtain ⟨hfirst', hrest'⟩ := List.cons_eq_cons.mp hy
      obtain ⟨key, x, y⟩ := p
      cases hfirst
      cases hfirst'
      rw [ih hrest hrest']

/-- After a visible component has been inserted whose cell covers no tracks of an axis, the
preferred length of this axis is what it was, and on a steady axis the other components are where
they were. For the y axis, the columns have to stay as well, or no component may have a baseline. -/
theorem insert_idle (hkey : h.isVisible key = true) (hinsert : g.insert key c = .ok g') :
    (∀ size size' asked asked', g.preferredSize h = .ok ⟨size, asked⟩ →
      g'.preferredSize h = .ok ⟨size', asked'⟩ →
      (c.x.span = 0 → size'.x = size.x) ∧
        (c.y.span = 0 → h.NoBaselines ∨ c.x.span = 0 → size'.y = size.y)) ∧
    ∀ (rect : Rect) placed placed' asked asked', g.arrange h rect = .ok ⟨placed, asked⟩ →
      g'.arrange h rect = .ok ⟨placed', asked'⟩ →
      ∃ others bounds, placed' = others ++ [(key, bounds)] ∧
        (c.x.span = 0 → g.Steady h rect .x c.x.start →
          (others.map fun p => (p.1, p.2.x)) = placed.map fun p => (p.1, p.2.x)) ∧
        (c.y.span = 0 → g.Steady h rect .y c.y.start →
          h.NoBaselines ∨ c.x.span = 0 ∧ g.Steady h rect .x c.x.start →
          (others.map fun p => (p.1, p.2.y)) = placed.map fun p => (p.1, p.2.y)) ∧
        (c.x.span = 0 → c.y.span = 0 → g.Steady h rect .x c.x.start →
          g.Steady h rect .y c.y.start → others = placed) := by
  refine ⟨?_, ?_⟩
  · intro size size' asked asked' hsize hsize'
    exact preferredSize_insert_idle hkey hinsert hsize hsize'
  · intro rect placed placed' asked asked' hplaced hplaced'
    obtain ⟨others, bounds, hlast, hx, hy⟩ := arrange_insert_idle hkey hinsert hplaced hplaced'
    refine ⟨others, bounds, hlast, hx, hy, ?_⟩
    intro hcolumn hrow steady steady'
    exact eq_of_axes (hx hcolumn steady) (hy hrow steady' (.inr ⟨hcolumn, steady⟩))

end Grid

namespace Form

/-- The form with a marker (6), which has a size and a baseline. -/
def markedHost : Host Nat := ComponentTable.host
  [(1, ⟨⟨30, 10⟩, true, .fixed 8⟩), (2, ⟨⟨40, 20⟩, true, .fixed 15⟩), (3, ⟨⟨5, 5⟩, false, .none⟩),
    (4, ⟨⟨25, 16⟩, true, .fixed 12⟩), (5, ⟨⟨26, 14⟩, true, .proportional 2 0 2⟩),
    (6, ⟨⟨50, 70⟩, true, .fixed 9⟩)]

/-- The cell of the marker, which covers nothing and lies beyond all columns and rows. -/
def markerCell : Constraints := ((Constraints.single 5 7).withSpan 0 0).withGaps (.uniform 3)

/-- The marker changes nothing for the other components of the form. -/
theorem marker_idle : ∃ g' size size' placed placed' asked asked',
    Grid.insert grid 6 markerCell = .ok g' ∧
    grid.preferredSize markedHost = .ok ⟨size, asked⟩ ∧
    g'.preferredSize markedHost = .ok ⟨size', asked⟩ ∧ size'.x = size.x ∧ size'.y = size.y ∧
    grid.arrange markedHost rect = .ok ⟨placed, asked'⟩ ∧
    g'.arrange markedHost rect = .ok ⟨placed', asked'⟩ ∧
    ∃ bounds, placed' = placed ++ [(6, bounds)] := by
  obtain ⟨g', hinsert, size, asked, hsize, size', hsize', placed, asked', hplaced, placed',
      hplaced'⟩ : ∃ g', Grid.insert grid 6 markerCell = .ok g' ∧
      ∃ size asked, grid.preferredSize markedHost = .ok ⟨size, asked⟩ ∧
      ∃ size', g'.preferredSize markedHost = .ok ⟨size', asked⟩ ∧
      ∃ placed asked', grid.arrange markedHost rect = .ok ⟨placed, asked'⟩ ∧
      ∃ placed', g'.arrange markedHost rect = .ok ⟨placed', asked'⟩ :=
    ⟨_, rfl, _, _, rfl, _, rfl, _, _, rfl, _, rfl⟩
  have steady : grid.Steady markedHost rect .x markerCell.x.start := by
    refine .inr (.inl ?_)
    show ∀ track ∈ [1], track < 5 → track < Grid.trackCount markedHost grid .x
    decide
  have steady' : grid.Steady markedHost rect .y markerCell.y.start := by
    refine .inr (.inl ?_)
    show ∀ track ∈ [1], track < 7 → track < Grid.trackCount markedHost grid .y
    decide
  obtain ⟨hpreferred, harranged⟩ := @Grid.insert_idle _ markedHost grid g' 6 markerCell rfl hinsert
  obtain ⟨hwidth, hheight⟩ := hpreferred size size' asked asked hsize hsize'
  obtain ⟨others, bounds, hlast, -, -, hsame⟩ :=
    harranged rect placed placed' asked' asked' hplaced hplaced'
  obtain rfl := hsame rfl rfl steady steady'
  exact ⟨g', size, size', others, placed', asked, asked', hinsert, hsize, hsize', hwidth rfl,
    hheight rfl (.inr rfl), hplaced, hplaced', bounds, hlast⟩

/-- A component (1) alone in a column with a resizable column beside it, and a marker (2). -/
def stretchedHost : Host Nat :=
  ComponentTable.host [(1, ⟨⟨10, 10⟩, true, .none⟩), (2, ⟨⟨0, 0⟩, true, .none⟩)]

def stretched : Grid Nat :=
  ⟨⟨⟨.ofList [0, 1], []⟩, .plain⟩, .component (Constraints.single 0 0).filling 1 .nil⟩

/-- A cell that covers nothing is felt where it makes an axis reach further. It brings a second
resizable column onto an axis that is longer than preferred, and the component there loses half of what
its column had to itself. -/
theorem zero_span_felt :
    ∃ g', Grid.insert stretched 2 ((Constraints.single 2 0).withSpan 0 0) = .ok g' ∧
      stretchedHost.isVisible 2 = true ∧
      stretched.arrange stretchedHost ⟨⟨0, 20⟩, ⟨0, 10⟩⟩ =
        .ok ⟨[(1, ⟨⟨0, 20⟩, ⟨0, 10⟩⟩)], []⟩ ∧
      g'.arrange stretchedHost ⟨⟨0, 20⟩, ⟨0, 10⟩⟩ =
        .ok ⟨[(1, ⟨⟨0, 15⟩, ⟨0, 10⟩⟩), (2, ⟨⟨20, 0⟩, ⟨0, 0⟩⟩)], []⟩ :=
  ⟨_, rfl, rfl, rfl, rfl⟩

end Form

end FormGrid
