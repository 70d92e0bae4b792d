import FormGrid.Arrangement
import FormGrid.Proofs.Demands
import FormGrid.Proofs.Nesting

/-!
# How the cells of nested grids are placed on their tracks

A nested grid gets all the room of its cell, whatever the cell's alignment. So the alignments of
these cells play no part in a layout at all, and their paddings play one only in what the cells
demand of their tracks, where the two paddings of an axis count together.

Two trees are compared that are the same apart from the constraints of the cells of nested grids.
From a layout of the first one comes a layout of the second by putting the other constraints into
its cells; all natural sizes, rooms and edges stay.

## Main definitions

* `Placement.SameTracks`, `Placement.SameDemand`: placements with the same tracks and gaps, and
  with the same paddings together
* `Cells.Restyled`: cells that differ in the constraints of the cells of nested grids
* `LayoutCell.restyle`: a cell of a layout with other constraints

## Main results

* `Cells.Laid.restyle`: the layout of restyled cells
* `Cells.Restyled.place_eq`: where the components in them lie
* `Grid.restyled_ok_iff`: preferred sizes and arrangements
-/

namespace FormGrid

variable {F C K : Type}

/-! ## Placements with the same demand -/

/-- The placements have the same tracks and gaps; they may differ in alignment and paddings. -/
structure Placement.SameTracks (p q : Placement) : Prop where
  start_eq : q.start = p.start
  span_eq : q.span = p.span
  gap_eq : q.gap = p.gap

/-- The placements have the same tracks and gaps, and their paddings are the same together; they may
differ in alignment and in how the paddings are divided. -/
structure Placement.SameDemand (p q : Placement) : Prop extends p.SameTracks q where
  padding_eq : q.padding.exactTotal = p.padding.exactTotal

def Constraints.SameTracks (c d : Constraints) : Prop := c.x.SameTracks d.x ∧ c.y.SameTracks d.y

def Constraints.SameDemand (c d : Constraints) : Prop := c.x.SameDemand d.x ∧ c.y.SameDemand d.y

theorem Placement.SameTracks.stop_eq {p q : Placement} (same : p.SameTracks q) :
    q.stop = p.stop := by
  rw [stop, stop, same.start_eq, same.span_eq]

theorem Placement.SameDemand.symm {p q : Placement} (same : p.SameDemand q) : q.SameDemand p :=
  ⟨⟨same.start_eq.symm, same.span_eq.symm, same.gap_eq.symm⟩, same.padding_eq.symm⟩

theorem Constraints.SameDemand.symm {c d : Constraints} (same : c.SameDemand d) : d.SameDemand c :=
  ⟨same.1.symm, same.2.symm⟩

theorem Margin.total_congr {m m' : Margin} (h : m'.exactTotal = m.exactTotal) :
    m'.total = m.total :=
  congrArg (Pixel.check .addition) h

theorem Tracks.gapAround_congr (t : Tracks) {p q : Placement} (same : p.SameTracks q) :
    t.gapAround q = t.gapAround p := by
  rw [gapAround, gapAround, same.start_eq, same.stop_eq]

namespace Item

/-- The same axis of a cell with another placement. -/
def withPlacement (i : Item) (p : Placement) : Item := { i with placement := p }

variable {i : Item} {p : Placement}

theorem gap_withPlacement (same : i.placement.SameTracks p) : (i.withPlacement p).gap = i.gap := by
  simp only [gap, withPlacement, same.gap_eq]

theorem request_withPlacement (same : i.placement.SameDemand p) :
    (i.withPlacement p).request = i.request := by
  simp only [request, demand, gap_withPlacement same.toSameTracks]
  simp only [withPlacement, same.start_eq, same.span_eq, Margin.total_congr same.padding_eq]

theorem room_withPlacement (same : i.placement.SameTracks p) (edges : List Int) :
    (i.withPlacement p).room edges = i.room edges := by
  simp only [room, gap_withPlacement same]
  simp only [withPlacement, same.start_eq, same.stop_eq]

theorem lead_withPlacement (same : i.placement.SameTracks p) (edges : List Int) (origin : Int) :
    (i.withPlacement p).lead edges origin = i.lead edges origin := by
  simp only [lead, withPlacement, same.start_eq, same.gap_eq]

end Item

/-! ## Cells that differ in constraints -/

namespace Cells

/-- The cells are the same, at all depths, apart from the data of the cells that hold grids, which
are related. -/
inductive Restyled (same : C → C → Prop) : Cells F C K → Cells F C K → Prop where
  | nil : Restyled same nil nil
  | component {info key rest rest'} (others : Restyled same rest rest') :
      Restyled same (component info key rest) (component info key rest')
  | grid {info info' frame inner inner' rest rest'} (cell : same info info')
      (inside : Restyled same inner inner') (others : Restyled same rest rest') :
      Restyled same (grid info frame inner rest) (grid info' frame inner' rest')

namespace Restyled

variable {same same' : C → C → Prop} {cells cells' : Cells F C K}

theorem symm (restyled : cells.Restyled same cells') (hsymm : ∀ c c', same c c' → same' c' c) :
    cells'.Restyled same' cells := by
  induction restyled with
  | nil => exact .nil
  | component _ ih => exact .component ih
  | grid cell _ _ ihInside ihOthers => exact .grid (hsymm _ _ cell) ihInside ihOthers

/-- The same components are visible. -/
theorem isVisible_eq (restyled : cells.Restyled same cells') (h : Host K) :
    cells'.isVisible h = cells.isVisible h := by
  unfold isVisible
  induction restyled with
  | nil => rfl
  | component _ ih => rw [anyKey, anyKey, ih]
  | grid _ _ _ ihInside ihOthers => rw [anyKey, anyKey, ihInside, ihOthers]

theorem visible (restyled : cells.Restyled same cells') (h : Host K) :
    (cells.visible h).Restyled same (cells'.visible h) := by
  induction restyled with
  | nil => exact .nil
  | component _ ih =>
    unfold Cells.visible
    split
    · exact .component ih
    · exact ih
  | grid cell inside _ ihInside ihOthers =>
    unfold Cells.visible
    rw [inside.isVisible_eq h]
    split
    · exact .grid cell ihInside ihOthers
    · exact ihOthers

end Restyled

end Cells

/-! ## Layouts with other constraints -/

namespace LayoutCell

/-- The cell of a nested grid with other constraints. -/
def restyle (l : LayoutCell) (c : Constraints) : LayoutCell :=
  ⟨⟨l.x.item.withPlacement c.x, l.x.room⟩, ⟨⟨l.y.item.toItem.withPlacement c.y, none⟩, l.y.room⟩⟩

/-- Two cells of nested grids that differ in their constraints, but make the same demand. -/
structure Restyles (l l' : LayoutCell) : Prop where
  same : l.constraints.SameDemand l'.constraints
  bare : l.y.item.baseline = none
  eq_restyle : l' = l.restyle l'.constraints

/-- The cell stands for a cell with other constraints if these are put into it. -/
theorem Fits.restyle {tracks : PerAxis Tracks} {edges : PerAxis (List Int)} {c c' : Constraints}
    {natural : Size} {l : LayoutCell} (fits : l.Fits tracks edges c natural)
    (same : c.SameDemand c') : (l.restyle c').Fits tracks edges c' natural where
  column := by
    show l.x.item.withPlacement c'.x = tracks.x.item c'.x natural.x
    rw [fits.column, Tracks.item, Tracks.item, tracks.x.gapAround_congr same.1.toSameTracks]
    rfl
  row := by
    show l.y.item.toItem.withPlacement c'.y = tracks.y.item c'.y natural.y
    rw [fits.row, Tracks.item, Tracks.item, tracks.y.gapAround_congr same.2.toSameTracks]
    rfl
  column_stop := same.1.stop_eq ▸ fits.column_stop
  row_stop := same.2.stop_eq ▸ fits.row_stop
  column_room := by
    have hplacement : l.x.item.placement = c.x := congrArg Item.placement fits.column
    exact (Item.room_withPlacement (hplacement ▸ same.1.toSameTracks) edges.x).trans
      fits.column_room
  row_room := by
    have hplacement : l.y.item.placement = c.y := congrArg Item.placement fits.row
    exact (Item.room_withPlacement (hplacement ▸ same.2.toSameTracks) edges.y).trans fits.row_room

theorem Fits.restyles {tracks : PerAxis Tracks} {edges : PerAxis (List Int)} {c c' : Constraints}
    {natural : Size} {l : LayoutCell} (fits : l.Fits tracks edges c natural)
    (same : c.SameDemand c') (bare : l.y.item.baseline = none) : l.Restyles (l.restyle c') where
  same := fits.constraints_eq ▸ same
  bare := bare
  eq_restyle := rfl

end LayoutCell

namespace Cells.Restyled

variable {out out' : Cells (PerAxis Resolved) LayoutCell K}

theorem members_eq (restyled : out.Restyled LayoutCell.Restyles out') (row : Nat) (align : Align) :
    SharedLine.members (layoutRows out') row align =
      SharedLine.members (layoutRows out) row align := by
  induction restyled with
  | nil => rfl
  | component _ ih =>
    simp only [layoutRows, infos, List.map_cons, SharedLine.members_cons] at ih ⊢
    rw [ih]
  | @grid l l' _ _ _ _ _ cell _ _ _ ih =>
    have hbare : l'.y.item.baseline = none := by rw [cell.eq_restyle, LayoutCell.restyle]
    simp only [layoutRows, infos, List.map_cons, SharedLine.members_cons, cell.bare, hbare,
      ite_self, Option.toList_none, List.nil_append] at ih ⊢
    exact ih

/-- The cells with baselines share the same lines. -/
theorem shared?_eq (restyled : out.Restyled LayoutCell.Restyles out') (c : RowItem) :
    c.shared? (layoutRows out') = c.shared? (layoutRows out) := by
  simp only [RowItem.shared?, SharedLine.find?, restyled.members_eq]

theorem columns_eq (restyled : out.Restyled LayoutCell.Restyles out') :
    (columnItems out').mapM Item.request = (columnItems out).mapM Item.request := by
  induction restyled with
  | nil => rfl
  | component _ ih =>
    simp only [columnItems, infos, List.map_cons, List.mapM_cons] at ih ⊢
    rw [ih]
  | @grid l l' _ _ _ _ _ cell _ _ _ ih =>
    have hrequest : l'.x.item.request = l.x.item.request := by
      rw [cell.eq_restyle]
      exact Item.request_withPlacement cell.same.1
    simp only [columnItems, infos, List.map_cons, List.mapM_cons, hrequest] at ih ⊢
    rw [ih]

/-- The demands on the rows are the same, among cells that share the same lines. -/
theorem rows_eq (restyled : out.Restyled LayoutCell.Restyles out') {rows rows' : List RowItem}
    (hlines : ∀ c : RowItem, c.shared? rows' = c.shared? rows) :
    (layoutRows out').mapM (·.request rows') = (layoutRows out).mapM (·.request rows) := by
  induction restyled with
  | nil => rfl
  | component _ ih =>
    simp only [layoutRows, infos, List.map_cons, List.mapM_cons] at ih ⊢
    rw [ih, RowItem.request, RowItem.request, hlines]
  | @grid l l' _ _ _ _ _ cell _ _ _ ih =>
    have hrequest : l'.y.item.request rows' = l.y.item.request rows := by
      rw [cell.eq_restyle]
      simp only [RowItem.request, RowItem.shared?, cell.bare, LayoutCell.restyle]
      exact Item.request_withPlacement cell.same.2
    simp only [layoutRows, infos, List.map_cons, List.mapM_cons, hrequest] at ih ⊢
    rw [ih]

/-- The axes that follow from the cells are the same. -/
theorem sizedBy (restyled : out.Restyled LayoutCell.Restyles out') {tracks : PerAxis Tracks}
    {size : Size} {frame : PerAxis Resolved} (sized : SizedBy tracks out size frame) :
    SizedBy tracks out' size frame where
  columns := by
    rw [Gathered.ofColumnItems, restyled.columns_eq]
    exact sized.columns
  rows := by
    rw [Gathered.ofRowItems, restyled.rows_eq restyled.shared?_eq]
    exact sized.rows
  column_edges := sized.column_edges
  row_edges := sized.row_edges

end Cells.Restyled

/-- Cells with other constraints are laid out as before, with these constraints in their cells. -/
theorem Cells.Laid.restyle {h : Host K} {tracks : PerAxis Tracks} {edges : PerAxis (List Int)}
    {cells cells' : Cells (PerAxis Tracks) Constraints K}
    {out : Cells (PerAxis Resolved) LayoutCell K} {asked : List (Query K)}
    (laid : Laid h tracks edges cells out asked)
    (restyled : cells.Restyled Constraints.SameDemand cells') :
    ∃ out', Laid h tracks edges cells' out' asked ∧ out.Restyled LayoutCell.Restyles out' := by
  induction laid generalizing cells' with
  | nil =>
    cases restyled
    exact ⟨.nil, .nil, .nil⟩
  | component visible fits measured _ ih =>
    cases restyled with
    | component others =>
      obtain ⟨out', laid', restyled'⟩ := ih others
      exact ⟨_, .component visible fits measured laid', .component restyled'⟩
  | grid visible fits bare sized _ _ ihInner ihRest =>
    cases restyled with
    | grid cell inside others =>
      obtain ⟨inside', laidInside, restyledInside⟩ := ihInner inside
      obtain ⟨out', laid', restyled'⟩ := ihRest others
      exact ⟨_, .grid ((inside.isVisible_eq h).trans visible) (fits.restyle cell) rfl
          (restyledInside.sizedBy sized) laidInside laid',
        .grid (fits.restyles cell bare) restyledInside restyled'⟩

/-! ## Places -/

namespace Site

variable {s : Site} {rows : List RowItem}

/-- Of the other cells of its grid, only the lines matter for the bounds of a component. -/
theorem componentBounds_congr (hlines : ∀ c : RowItem, c.shared? rows = c.shared? s.cells)
    (l : LayoutCell) :
    Site.componentBounds { s with cells := rows } l = s.componentBounds l := by
  simp only [componentBounds, rowSegment, hlines]

/-- A nested grid gets all the room of its cell, which does not depend on how it is styled. -/
theorem gridBounds_restyle {l l' : LayoutCell} (restyles : l.Restyles l') :
    Site.gridBounds { s with cells := rows } l' = s.gridBounds l := by
  rw [restyles.eq_restyle]
  simp only [gridBounds, LayoutCell.restyle]
  rw [Item.lead_withPlacement restyles.same.1.toSameTracks,
    Item.lead_withPlacement restyles.same.2.toSameTracks]

end Site

/-- The components in the cells lie where they did, among cells that share the same lines. -/
theorem Cells.Restyled.place_eq {out out' : Cells (PerAxis Resolved) LayoutCell K}
    (restyled : out.Restyled LayoutCell.Restyles out') {s : Site} {rows : List RowItem}
    (hlines : ∀ c : RowItem, c.shared? rows = c.shared? s.cells) :
    out'.place { s with cells := rows } = out.place s := by
  induction restyled generalizing s rows with
  | nil => rfl
  | component _ ih => simp only [place, Site.componentBounds_congr hlines, ih hlines]
  | @grid l l' frame inner inner' _ _ cell inside _ ihInside ihOthers =>
    have hinner : ∀ origin, inner'.place (Site.ofGrid frame inner' origin) =
        inner.place (Site.ofGrid frame inner origin) := fun origin =>
      @ihInside (Site.ofGrid frame inner origin) (layoutRows inner') inside.shared?_eq
    simp only [place, Site.gridBounds_restyle cell, hinner, ihOthers hlines]

/-! ## Grids -/

namespace Grid

variable {h : Host K} {g g' : Grid K}

theorem layout_restyle (hframe : g'.frame = g.frame)
    (hcells : g.cells.Restyled Constraints.SameDemand g'.cells) {width height : Option Int}
    {layout : Layout K} {asked : List (Query K)}
    (hlayout : g.layout h width height = .ok ⟨layout, asked⟩) :
    ∃ out', g'.layout h width height = .ok ⟨⟨layout.frame, out'⟩, asked⟩ ∧
      layout.cells.Restyled LayoutCell.Restyles out' := by
  obtain ⟨laid, sized⟩ := layout_eq_ok_iff.mp hlayout
  obtain ⟨out', laid', restyled⟩ := laid.restyle (hcells.visible h)
  rw [← hframe] at laid' sized
  exact ⟨out', layout_eq_ok_iff.mpr ⟨laid', restyled.sizedBy sized⟩, restyled⟩

theorem preferredSize_restyle (hframe : g'.frame = g.frame)
    (hcells : g.cells.Restyled Constraints.SameDemand g'.cells) {size : Measured K Size}
    (hsize : g.preferredSize h = .ok size) : g'.preferredSize h = .ok size := by
  simp only [preferredSize, Checked.bind_eq_ok_iff, Checked.pure_eq_ok_iff] at hsize ⊢
  obtain ⟨⟨layout, asked⟩, hlayout, rfl⟩ := hsize
  obtain ⟨out', hlayout', -⟩ := layout_restyle hframe hcells hlayout
  exact ⟨_, hlayout', rfl⟩

theorem arrange_restyle (hframe : g'.frame = g.frame)
    (hcells : g.cells.Restyled Constraints.SameDemand g'.cells) {rect : Rect}
    {arranged : Measured K (List (K × Rect))} (harranged : g.arrange h rect = .ok arranged) :
    g'.arrange h rect = .ok arranged := by
  simp only [arrange, layoutIn, Checked.bind_eq_ok_iff, Checked.pure_eq_ok_iff] at harranged ⊢
  obtain ⟨⟨layout, asked⟩, hlayout, placed, hplaced, rfl⟩ := harranged
  obtain ⟨out', hlayout', restyled⟩ := layout_restyle hframe hcells hlayout
  refine ⟨_, hlayout', placed, ?_, rfl⟩
  exact (restyled.place_eq (s := .ofGrid layout.frame layout.cells rect.origin)
    restyled.shared?_eq).trans hplaced

/-- Let two trees differ in nothing but the alignments and paddings of the cells of nested grids, at
any depth, and let the two paddings of a cell be together the same on each axis. They have the same
preferred size and the same arrangements, and ask the same questions for them. -/
theorem restyled_ok_iff (hframe : g'.frame = g.frame)
    (hcells : g.cells.Restyled Constraints.SameDemand g'.cells) :
    (∀ size, g'.preferredSize h = .ok size ↔ g.preferredSize h = .ok size) ∧
      ∀ rect arranged, g'.arrange h rect = .ok arranged ↔ g.arrange h rect = .ok arranged := by
  have hcells' : g'.cells.Restyled Constraints.SameDemand g.cells :=
    hcells.symm fun _ _ same => same.symm
  refine ⟨fun size => ?_, fun rect arranged => ?_⟩
  · exact ⟨preferredSize_restyle hframe.symm hcells', preferredSize_restyle hframe hcells⟩
  · exact ⟨arrange_restyle hframe.symm hcells', arrange_restyle hframe hcells⟩

end Grid

namespace Form

/-- A picture (1) of 20 times 10 pixels. -/
def pictureHost : Host Nat := ComponentTable.host [(1, ⟨⟨20, 10⟩, true, .none⟩)]

/-- The picture alone in a nested grid, whose only column and row may be resized. -/
def framed (c : Constraints) : Grid Nat :=
  ⟨⟨.plain, .plain⟩, .grid c ⟨⟨.ofList [0], []⟩, ⟨.ofList [0], []⟩⟩
    (.component (Constraints.single 0 0).filling 1 .nil) .nil⟩

/-- Paddings that the grid's cell gets are taken from the picture: the grid prefers less than the
picture does, and in a rectangle of the picture's size the picture is shown smaller. -/
theorem framed_felt :
    (framed (.single 0 0)).cells.Restyled Constraints.SameTracks
      (framed ((Constraints.single 0 0).withPaddings ⟨⟨2, 4⟩, ⟨1, 3⟩⟩)).cells ∧
    (framed (.single 0 0)).preferredSize pictureHost = .ok ⟨⟨20, 10⟩, []⟩ ∧
    (framed ((Constraints.single 0 0).withPaddings ⟨⟨2, 4⟩, ⟨1, 3⟩⟩)).preferredSize pictureHost =
      .ok ⟨⟨14, 6⟩, []⟩ ∧
    (framed (.single 0 0)).arrange pictureHost ⟨⟨0, 20⟩, ⟨0, 10⟩⟩ =
      .ok ⟨[(1, ⟨⟨0, 20⟩, ⟨0, 10⟩⟩)], []⟩ ∧
    (framed ((Constraints.single 0 0).withPaddings ⟨⟨2, 4⟩, ⟨1, 3⟩⟩)).arrange pictureHost
        ⟨⟨0, 20⟩, ⟨0, 10⟩⟩ =
      .ok ⟨[(1, ⟨⟨0, 14⟩, ⟨0, 6⟩⟩)], []⟩ :=
  ⟨.grid ⟨⟨rfl, rfl, rfl⟩, rfl, rfl, rfl⟩ (.component .nil) .nil, rfl, rfl, rfl, rfl⟩

/-- A label, a field and the buttons, in a grid that is nested twice in cells with these
constraints. -/
def stack (outer inner : Constraints) : Grid Nat :=
  ⟨grid.frame, .component (.single 0 0) 1 <| .grid outer ⟨.plain, .plain⟩
    (.component (.single 0 0) 2 <| .grid inner buttons.frame buttons.cells .nil) .nil⟩

def stacked : Grid Nat :=
  stack ((Constraints.single 1 0).withPaddings ⟨⟨1, 3⟩, ⟨2, 2⟩⟩) (.single 0 1)

/-- The stack with other alignments on both levels, and with paddings that are divided otherwise. -/
def restacked : Grid Nat :=
  stack (((Constraints.single 1 0).withAlign .fill .trailing).withPaddings ⟨⟨4, 0⟩, ⟨0, 4⟩⟩)
    (((Constraints.single 0 1).withAlign .trailing .fill).withPaddings ⟨⟨2, -2⟩, ⟨-1, 1⟩⟩)

theorem restacked_unfelt : ∃ size arranged,
    stacked.preferredSize host = .ok size ∧ restacked.preferredSize host = .ok size ∧
      stacked.arrange host rect = .ok arranged ∧ restacked.arrange host rect = .ok arranged := by
  have hcells : stacked.cells.Restyled Constraints.SameDemand restacked.cells :=
    .component (.grid ⟨⟨⟨rfl, rfl, rfl⟩, rfl⟩, ⟨rfl, rfl, rfl⟩, rfl⟩
      (.component (.grid ⟨⟨⟨rfl, rfl, rfl⟩, rfl⟩, ⟨rfl, rfl, rfl⟩, rfl⟩
        (.component (.component .nil)) .nil)) .nil)
  obtain ⟨hsize, harranged⟩ := @Grid.restyled_ok_iff _ host stacked restacked rfl hcells
  exact ⟨_, _, rfl, (hsize _).mpr rfl, rfl, (harranged _ _).mpr rfl⟩

end Form

end FormGrid
