import FormGrid.Proofs.Determined
import FormGrid.Proofs.Nesting
import FormGrid.Proofs.Placed

/-!
# The two axes are alike

Columns are gathered and resolved first, and rows afterwards, when the widths are known. Only
baselines need this order. Where no component has one, a grid whose axes are exchanged has the
layout of the grid itself with the axes exchanged, at all depths: each cell asks of the columns
what it asked of the rows, so the axes have each other's preferred lengths and edges.

## Main definitions

* `Host.transpose`, `Grid.transpose`: the axes of a problem exchanged
* `Snapshot.transpose`: the axes of a result exchanged
* `LayoutCell.Mirrors`: a cell asks of each axis what another one asks of the other axis

## Main results

* `SizedBy.gathered_mirror`, `SizedBy.frame_mirror`: the axes of one grid
* `Cells.Laid.mirrors`, `Cells.Laid.eq_transpose`: the cells of a layout
* `Grid.transpose_mirrored`: preferred sizes, arrangements and snapshots
-/

namespace FormGrid

variable {K : Type}

/-! ## Problems and results with their axes exchanged -/

/-- Every component prefers its width as its height and its height as its width. -/
def Host.transpose (h : Host K) : Host K where
  preferredSize key := (h.preferredSize key).swap
  isVisible := h.isVisible
  baseline key size := h.baseline key size.swap

theorem Host.NoBaselines.transpose {h : Host K} (bare : h.NoBaselines) :
    h.transpose.NoBaselines := fun key size => bare key size.swap

/-- The grid with its columns as rows and its rows as columns, and so are the grids in it. -/
def Grid.transpose (g : Grid K) : Grid K := ⟨g.frame.swap, g.cells.map Axes.swap Axes.swap⟩

namespace Snapshot

/-- What is shown of a grid, with the axes exchanged. -/
def Pane.transpose (p : Pane) : Pane := ⟨p.bounds.swap, p.preferred.swap, p.rows, p.columns⟩

/-- What is shown of a cell, with the axes exchanged. -/
def Entry.transpose (e : Entry) : Entry :=
  ⟨e.constraints.swap, e.slot.swap, e.bounds.swap, e.baseline⟩

/-- The snapshot with the axes exchanged in every grid and every cell. -/
def transpose (s : Snapshot K) : Snapshot K :=
  ⟨s.frame.transpose, s.cells.map Pane.transpose Entry.transpose⟩

theorem placed_map_transpose (entries : List (K × Entry)) :
    placed (entries.map fun e => (e.1, e.2.transpose)) =
      (placed entries).map fun p => (p.1, p.2.swap) := by
  simp only [placed, List.map_map, Function.comp_def, Entry.transpose]

end Snapshot

/-- A cell without a baseline, with the axes exchanged. -/
def LayoutCell.transpose (l : LayoutCell) : LayoutCell :=
  ⟨⟨l.y.item.toItem, l.y.room⟩, ⟨⟨l.x.item, none⟩, l.x.room⟩⟩

/-! ## What the cells ask of the axes -/

/-- The second cell asks of each axis what the first one asks of the other axis. -/
structure LayoutCell.Mirrors (l l' : LayoutCell) : Prop where
  column : l'.x.item = l.y.item.toItem
  row : l'.y.item.toItem = l.x.item

/-- Two layouts of one shape of which the second asks of each axis what the first one asks of the
other axis. -/
def Cells.Mirror (out out' : Cells (PerAxis Resolved) LayoutCell K) : Prop :=
  out.Alike (fun _ _ => True) LayoutCell.Mirrors out'

theorem RowItem.shared?_of_bare {c : RowItem} (bare : c.baseline = none) (cells : List RowItem) :
    c.shared? cells = none := by
  simp [shared?, bare]

/-- Without baselines, rows are gathered as columns are. -/
theorem Gathered.ofRowItems_of_bare {cells : List RowItem} (bare : ∀ c ∈ cells, c.baseline = none)
    (tracks : Tracks) :
    ofRowItems cells tracks = ofColumnItems (cells.map RowItem.toItem) tracks := by
  have hrequests : ∀ all : List RowItem,
      cells.mapM (·.request all) = (cells.map RowItem.toItem).mapM Item.request := by
    intro all
    induction cells with
    | nil => rfl
    | cons c cells ih =>
      obtain ⟨hc, hcells⟩ := List.forall_mem_cons.mp bare
      have hrequest : c.request all = c.toItem.request := by
        rw [RowItem.request, RowItem.shared?_of_bare hc]
      rw [List.map_cons, List.mapM_cons, List.mapM_cons, hrequest, ih hcells]
  rw [ofRowItems, ofColumnItems, hrequests]

namespace Cells.Mirror

variable {out out' : Cells (PerAxis Resolved) LayoutCell K}

theorem columnItems_eq (mirror : Mirror out out') :
    columnItems out' = (layoutRows out).map RowItem.toItem := by
  rw [layoutRows, List.map_map]
  exact Alike.map_infos_eq (mirror.imp (fun _ _ => id) fun _ _ hm => hm.column.symm)

theorem layoutRows_eq (mirror : Mirror out out') :
    (layoutRows out').map RowItem.toItem = columnItems out := by
  rw [layoutRows, List.map_map]
  exact Alike.map_infos_eq (mirror.imp (fun _ _ => id) fun _ _ hm => hm.row.symm)

end Cells.Mirror

namespace SizedBy

variable {tracks : PerAxis Tracks} {out out' : Cells (PerAxis Resolved) LayoutCell K}
  {size size' : Size} {frame frame' : PerAxis Resolved}

/-- Each axis of a grid has the demands and the preferred length of the other axis of its mirror
image. -/
theorem gathered_mirror (sized : SizedBy tracks out size frame)
    (sized' : SizedBy tracks.swap out' size' frame') (mirror : Cells.Mirror out out')
    (bare : ∀ l ∈ out.infos, l.y.item.baseline = none)
    (bare' : ∀ l ∈ out'.infos, l.y.item.baseline = none) :
    frame'.x.toGathered = frame.y.toGathered ∧ frame'.y.toGathered = frame.x.toGathered := by
  have hbare : ∀ c ∈ layoutRows out, c.baseline = none := List.forall_mem_map.mpr bare
  have hbare' : ∀ c ∈ layoutRows out', c.baseline = none := List.forall_mem_map.mpr bare'
  have hcolumns := sized'.columns
  have hrows := sized'.rows
  rw [mirror.columnItems_eq, ← Gathered.ofRowItems_of_bare hbare] at hcolumns
  rw [Gathered.ofRowItems_of_bare hbare', mirror.layoutRows_eq] at hrows
  exact ⟨Except.ok.inj (hcolumns.symm.trans sized.rows),
    Except.ok.inj (hrows.symm.trans sized.columns)⟩

/-- In the exchanged size, a grid has the edges of its mirror image. -/
theorem frame_mirror (sized : SizedBy tracks out size frame)
    (sized' : SizedBy tracks.swap out' size.swap frame') (mirror : Cells.Mirror out out')
    (bare : ∀ l ∈ out.infos, l.y.item.baseline = none)
    (bare' : ∀ l ∈ out'.infos, l.y.item.baseline = none) : frame' = frame.swap := by
  obtain ⟨hx, hy⟩ := sized.gathered_mirror sized' mirror bare bare'
  have hcolumns := sized'.column_edges
  have hrows := sized'.row_edges
  rw [hx] at hcolumns
  rw [hy] at hrows
  calc frame' = ⟨frame'.x, frame'.y⟩ := rfl
    _ = ⟨frame.y, frame.x⟩ := by
      rw [Except.ok.inj (hcolumns.symm.trans sized.row_edges),
        Except.ok.inj (hrows.symm.trans sized.column_edges)]

end SizedBy

namespace Cells

variable {h : Host K} {tracks : PerAxis Tracks} {edges edges' : PerAxis (List Int)}
  {cells : Cells (PerAxis Tracks) Constraints K}
  {out out' : Cells (PerAxis Resolved) LayoutCell K} {asked asked' : List (Query K)}

/-- What the cells ask of one axis, their mirror images ask of the other. -/
theorem Laid.mirrors (bare : h.NoBaselines) (laid : Laid h tracks edges cells out asked)
    (laid' : Laid h.transpose tracks.swap edges' (cells.map Axes.swap Axes.swap) out' asked') :
    Mirror out out' := by
  induction laid generalizing edges' out' asked' with
  | nil =>
    cases laid'
    exact .nil
  | component _ fits _ _ ih =>
    cases laid' with
    | component _ fits' _ others' =>
      exact .component ⟨fits'.column.trans fits.row.symm, fits'.row.trans fits.column.symm⟩
        (ih others')
  | grid _ fits _ sized nested _ ihInner ihRest =>
    cases laid' with
    | grid _ fits' _ sized' nested' others' =>
      have inside := ihInner nested'
      obtain ⟨hx, hy⟩ := sized.gathered_mirror sized' inside (nested.bare bare)
        (nested'.bare bare.transpose)
      refine .grid ⟨?_, ?_⟩ trivial inside (ihRest others')
      · rw [fits'.column, fits.row]
        exact congrArg (Tracks.item _ _) (congrArg Gathered.preferred hx)
      · rw [fits'.row, fits.column]
        exact congrArg (Tracks.item _ _) (congrArg Gathered.preferred hy)

end Cells

/-! ## Where the cells lie -/

/-- A cell between exchanged edges that asks of each axis what another one asks of the other axis
is that cell with the axes exchanged. -/
theorem LayoutCell.Mirrors.eq_transpose {l l' : LayoutCell} (mirrors : l.Mirrors l')
    (bare' : l'.y.item.baseline = none) {tracks tracks' : PerAxis Tracks}
    {edges : PerAxis (List Int)} {c c' : Constraints} {natural natural' : Size}
    (fits : l.Fits tracks edges c natural) (fits' : l'.Fits tracks' edges.swap c' natural') :
    l' = l.transpose := by
  have hcolumn : l'.x.room = l.y.room := by
    rw [Item.room_eq_ok fits'.column_room, Item.room_eq_ok fits.row_room, mirrors.column]
    rfl
  have hrow : l'.y.room = l.x.room := by
    rw [Item.room_eq_ok fits'.row_room, Item.room_eq_ok fits.column_room, mirrors.row]
    rfl
  calc l' = ⟨⟨l'.x.item, l'.x.room⟩, ⟨⟨l'.y.item.toItem, l'.y.item.baseline⟩, l'.y.room⟩⟩ := rfl
    _ = l.transpose := by rw [mirrors.column, mirrors.row, bare', hcolumn, hrow, transpose]

/-- Between exchanged edges, the cells of a grid have the layout of their mirror images. -/
theorem Cells.Laid.eq_transpose {h : Host K} (bare : h.NoBaselines) {tracks : PerAxis Tracks}
    {edges : PerAxis (List Int)} {cells : Cells (PerAxis Tracks) Constraints K}
    {out out' : Cells (PerAxis Resolved) LayoutCell K} {asked asked' : List (Query K)}
    (laid : Laid h tracks edges cells out asked)
    (laid' : Laid h.transpose tracks.swap edges.swap (cells.map Axes.swap Axes.swap) out' asked')
    (mirror : Mirror out out') : out' = out.map Axes.swap LayoutCell.transpose := by
  induction laid generalizing out' asked' with
  | nil =>
    cases laid'
    rfl
  | component _ fits _ _ ih =>
    cases laid' with
    | component _ fits' measured' others' =>
      cases mirror with
      | component hcell hothers =>
        have hbare := RowItem.baseline_of_measure bare.transpose measured'
        rw [map, hcell.eq_transpose hbare fits fits', ih others' hothers]
  | grid _ fits _ sized nested _ ihInner ihRest =>
    cases laid' with
    | grid _ fits' bare' sized' nested' others' =>
      cases mirror with
      | grid hcell _ hinside hothers =>
        obtain rfl := hcell.eq_transpose bare' fits fits'
        obtain rfl := sized.frame_mirror sized' hinside (nested.bare bare)
          (nested'.bare bare.transpose)
        rw [map, ihInner nested' hinside, ihRest others' hothers]

/-- The cells of one grid are placed between the exchanged edges, from the exchanged corner. -/
structure Site.Mirrors (s s' : Site) : Prop where
  columns : s'.columns = s.rows
  rows : s'.rows = s.columns
  origin : s'.origin = s.origin.swap

namespace Site.Mirrors

variable {s s' : Site}

theorem component_bounds (mirrors : s.Mirrors s') {l : LayoutCell}
    (bare : l.y.item.baseline = none) :
    s'.exactBounds l.transpose = (s.exactBounds l).swap := by
  have hsegment : s.exactRowSegment l.y =
      l.y.item.toItem.exactSegment l.y.room s.rows s.origin.y := by
    rw [exactRowSegment, RowItem.shared?_of_bare bare]
  have hsegment' : s'.exactRowSegment l.transpose.y =
      l.x.item.exactSegment l.x.room s'.rows s'.origin.y := by
    rw [exactRowSegment, RowItem.shared?_of_bare rfl]
    rfl
  rw [exactBounds, exactBounds, exactContent, exactContent, hsegment, hsegment', mirrors.columns,
    mirrors.rows, mirrors.origin]
  rfl

theorem grid_bounds (mirrors : s.Mirrors s') (l : LayoutCell) :
    s'.exactGridBounds l.transpose = (s.exactGridBounds l).swap := by
  rw [exactGridBounds, mirrors.columns, mirrors.rows, mirrors.origin]
  rfl

theorem entry (mirrors : s.Mirrors s') {l : LayoutCell} (bare : l.y.item.baseline = none)
    (bounds : Rect) :
    s'.exactEntry l.transpose bounds.swap = (s.exactEntry l bounds).transpose := by
  rw [exactEntry, exactEntry, bare, exactSlot, mirrors.columns, mirrors.rows, mirrors.origin]
  rfl

end Site.Mirrors

theorem Site.mirrors_ofGrid (frame : PerAxis Resolved)
    (cells cells' : Cells (PerAxis Resolved) LayoutCell K) (origin : PerAxis Int) :
    (Site.ofGrid frame cells origin).Mirrors (Site.ofGrid frame.swap cells' origin.swap) :=
  ⟨rfl, rfl, rfl⟩

/-- The mirror images of cells lie in the exchanged places. -/
theorem Cells.Laid.exactSnapshot_transpose {h : Host K} (bare : h.NoBaselines)
    {tracks : PerAxis Tracks} {edges : PerAxis (List Int)}
    {cells : Cells (PerAxis Tracks) Constraints K} {out : Cells (PerAxis Resolved) LayoutCell K}
    {asked : List (Query K)} (laid : Laid h tracks edges cells out asked) {s s' : Site}
    (mirrors : s.Mirrors s') :
    (out.map Axes.swap LayoutCell.transpose).exactSnapshot s' =
      (out.exactSnapshot s).map Snapshot.Pane.transpose Snapshot.Entry.transpose := by
  induction laid generalizing s s' with
  | nil => rfl
  | component _ _ measured _ ih =>
    have hbare := RowItem.baseline_of_measure bare measured
    simp only [map, exactSnapshot]
    rw [mirrors.component_bounds hbare, mirrors.entry hbare, ih mirrors]
  | grid _ _ hbare _ _ _ ihInner ihRest =>
    simp only [map, exactSnapshot]
    rw [mirrors.grid_bounds, mirrors.entry hbare, ihRest mirrors]
    congr 1
    exact ihInner (Site.mirrors_ofGrid _ _ _ _)

/-! ## Grids -/

namespace Grid

variable {h : Host K} {g : Grid K} {layout layout' : Layout K} {size size' : Size}
  {asked asked' : List (Query K)}

theorem laid_transpose {edges : PerAxis (List Int)} {out : Cells (PerAxis Resolved) LayoutCell K}
    (laid : Cells.Laid h.transpose g.transpose.frame edges
      (g.transpose.cells.visible h.transpose) out asked) :
    Cells.Laid h.transpose g.frame.swap edges ((g.cells.visible h).map Axes.swap Axes.swap) out
      asked := by
  have hvisible : g.transpose.cells.visible h.transpose =
      (g.cells.visible h).map Axes.swap Axes.swap := by
    calc g.transpose.cells.visible h.transpose
        = (g.cells.map Axes.swap Axes.swap).visible h := Cells.visible_congr h h.transpose rfl _
      _ = (g.cells.visible h).map Axes.swap Axes.swap := Cells.visible_map h _ _ _
  rw [← hvisible]
  exact laid

/-- In the exchanged size, the transposed grid has the layout with the axes exchanged. -/
theorem layout_mirror (bare : h.NoBaselines)
    (laid : Cells.Laid h g.frame (edgesOf layout.frame) (g.cells.visible h) layout.cells asked)
    (laid' : Cells.Laid h.transpose g.transpose.frame (edgesOf layout'.frame)
      (g.transpose.cells.visible h.transpose) layout'.cells asked')
    (sized : SizedBy g.frame layout.cells size layout.frame)
    (sized' : SizedBy g.transpose.frame layout'.cells size.swap layout'.frame) :
    layout'.frame = layout.frame.swap ∧
      ∀ origin : PerAxis Int, Layout.exactSnapshot layout' origin.swap =
        (Layout.exactSnapshot layout origin).map Snapshot.Pane.transpose
          Snapshot.Entry.transpose := by
  have laid' := laid_transpose laid'
  have mirror := laid.mirrors bare laid'
  have hframe := sized.frame_mirror sized' mirror (laid.bare bare) (laid'.bare bare.transpose)
  rw [hframe] at laid'
  refine ⟨hframe, fun origin => ?_⟩
  rw [Layout.exactSnapshot, laid.eq_transpose bare laid' mirror, hframe]
  exact laid.exactSnapshot_transpose bare (Site.mirrors_ofGrid _ _ _ _)

/-- Without baselines, a grid with its axes exchanged has the results of the grid itself, with the
axes exchanged. -/
theorem transpose_mirrored (bare : h.NoBaselines) (g : Grid K) :
    (∀ size size' asked asked', g.preferredSize h = .ok ⟨size, asked⟩ →
      g.transpose.preferredSize h.transpose = .ok ⟨size', asked'⟩ → size' = size.swap) ∧
    ∀ rect : Rect,
      (∀ placed placed' asked asked', g.arrange h rect = .ok ⟨placed, asked⟩ →
        g.transpose.arrange h.transpose rect.swap = .ok ⟨placed', asked'⟩ →
        placed' = placed.map fun p => (p.1, p.2.swap)) ∧
      ∀ shown shown' asked asked', g.snapshot h rect = .ok ⟨shown, asked⟩ →
        g.transpose.snapshot h.transpose rect.swap = .ok ⟨shown', asked'⟩ →
        shown' = Snapshot.transpose shown := by
  refine ⟨?_, fun rect => ⟨?_, ?_⟩⟩
  · intro size size' asked asked' hsize hsize'
    obtain ⟨layout, laid, sized, rfl⟩ := layout_of_preferredSize hsize
    obtain ⟨layout', laid', sized', rfl⟩ := layout_of_preferredSize hsize'
    have laid' := laid_transpose laid'
    obtain ⟨hx, hy⟩ := sized.gathered_mirror sized' (laid.mirrors bare laid') (laid.bare bare)
      (laid'.bare bare.transpose)
    rw [preferredOf, preferredOf, hx, hy]
    rfl
  · intro placed placed' asked asked' hplaced hplaced'
    obtain ⟨layout, laid, sized, rfl⟩ := layout_of_arrange hplaced
    obtain ⟨layout', laid', sized', rfl⟩ := layout_of_arrange hplaced'
    obtain ⟨-, hsnapshot⟩ := layout_mirror bare laid laid' sized sized'
    have hcells := hsnapshot rect.origin
    rw [← Snapshot.placed_map_transpose, ← Cells.entries_map, ← hcells]
    rfl
  · intro shown shown' asked asked' hshown hshown'
    obtain ⟨layout, laid, sized, rfl⟩ := layout_of_snapshot hshown
    obtain ⟨layout', laid', sized', rfl⟩ := layout_of_snapshot hshown'
    obtain ⟨hframe, hsnapshot⟩ := layout_mirror bare laid laid' sized sized'
    have hcells := hsnapshot rect.origin
    rw [Snapshot.transpose, ← hcells, hframe]
    rfl

end Grid

namespace Form

/-- A heading (1) over both columns, a picture (2) over two rows, and the buttons (4, 5) beside it. -/
def sheet : Grid Nat :=
  ⟨⟨⟨.ofList [1], [⟨0, 3⟩]⟩, ⟨.ofList [0, 2], [⟨1, 0⟩, ⟨0, 2⟩]⟩⟩,
    .component ((((Constraints.single 0 0).withSpan 2 1).withAlign .trailing .fill).withGaps
        ⟨⟨1, 2⟩, ⟨3, 4⟩⟩) 1 <|
      .component (((Constraints.single 1 1).withSpan 1 2).withPaddings ⟨⟨1, 0⟩, ⟨0, 2⟩⟩) 2 <|
        .grid (((Constraints.single 0 1).withSpan 1 2).withGaps (.uniform 2)) buttons.frame
          buttons.cells .nil⟩

/-- The results for the sheet, with a host that has no baselines, and for the transposed sheet. -/
theorem sheet_mirrored :
    (∃ size size' asked asked',
      sheet.preferredSize host.withoutBaselines = .ok ⟨size, asked⟩ ∧
      (Grid.transpose sheet).preferredSize host.withoutBaselines.transpose =
        .ok ⟨size', asked'⟩ ∧ size' = size.swap) ∧
    (∃ placed placed' asked asked',
      sheet.arrange host.withoutBaselines rect = .ok ⟨placed, asked⟩ ∧
      (Grid.transpose sheet).arrange host.withoutBaselines.transpose rect.swap =
        .ok ⟨placed', asked'⟩ ∧ placed' = placed.map fun p => (p.1, p.2.swap)) ∧
    ∃ shown shown' asked asked',
      sheet.snapshot host.withoutBaselines rect = .ok ⟨shown, asked⟩ ∧
      (Grid.transpose sheet).snapshot host.withoutBaselines.transpose rect.swap =
        .ok ⟨shown', asked'⟩ ∧ shown' = Snapshot.transpose shown := by
  obtain ⟨hsize, hresults⟩ := Grid.transpose_mirrored host.noBaselines_withoutBaselines sheet
  obtain ⟨hplaced, hshown⟩ := hresults rect
  exact ⟨⟨_, _, _, _, rfl, rfl, hsize _ _ _ _ rfl rfl⟩,
    ⟨_, _, _, _, rfl, rfl, hplaced _ _ _ _ rfl rfl⟩,
    ⟨_, _, _, _, rfl, rfl, hshown _ _ _ _ rfl rfl⟩⟩

end Form

end FormGrid
