import FormGrid.Layout
import FormGrid.Proofs.Cells
import FormGrid.Proofs.Exact

/-!
# Layouts cell by cell

A layout is computed in four passes over the whole tree: columns are gathered, then resolved, then
rows are gathered and resolved. This module says the same without passes. `Cells.Laid` relates the
visible cells of a grid to the cells of its layout one by one: each cell is given its room between
the edges of its grid, and a grid in a cell is laid out with the room of that cell and with edges
that follow from its own cells. The two descriptions agree (`Grid.layout_eq_ok_iff`), so that a
statement about layouts is proved by an induction in which nothing is known of other grids.

## Main definitions

* `LayoutCell.Fits`: a cell of a layout stands for a cell of a grid
* `SizedBy`: the axes of a grid follow from the cells of its layout
* `Cells.Laid`: the cells of a layout, with the baseline questions asked for them

## Main results

* `Cells.laid_of_passes`, `Cells.passes_of_laid`: the four passes over the cells of one grid
* `Grid.layout_eq_ok_iff`: the layouts that are computed
* `Grid.layoutIn_of_layout`: nothing changes when the preferred lengths are given
-/

namespace FormGrid

variable {K : Type}

/-- The edges of the tracks on both axes. -/
def edgesOf (frame : PerAxis Resolved) : PerAxis (List Int) := ⟨frame.x.edges, frame.y.edges⟩

/-- A cell of a layout stands for a cell with these constraints and this natural size: on both
axes it is asked for what the tracks and the constraints say, and it has the room between the
edges. -/
structure LayoutCell.Fits (tracks : PerAxis Tracks) (edges : PerAxis (List Int)) (c : Constraints)
    (natural : Size) (l : LayoutCell) : Prop where
  column : l.x.item = tracks.x.item c.x natural.x
  row : l.y.item.toItem = tracks.y.item c.y natural.y
  column_stop : c.x.stop < Index.limit
  row_stop : c.y.stop < Index.limit
  column_room : l.x.item.room edges.x = .ok l.x.room
  row_room : l.y.item.toItem.room edges.y = .ok l.y.room

/-- The column sides of the cells of one grid. -/
def columnItems (cells : Cells (PerAxis Resolved) LayoutCell K) : List Item :=
  cells.infos.map (·.x.item)

/-- The row sides of the cells of one grid. -/
def layoutRows (cells : Cells (PerAxis Resolved) LayoutCell K) : List RowItem :=
  cells.infos.map (·.y.item)

/-- The columns of a grid with these cells. -/
def Gathered.ofColumnItems (cells : List Item) (tracks : Tracks) : Checked Gathered := do
  Gathered.ofDemands (← cells.mapM Item.request) tracks

/-- The axes of a grid follow from the cells of its layout and from its size. -/
structure SizedBy (tracks : PerAxis Tracks) (cells : Cells (PerAxis Resolved) LayoutCell K)
    (size : Size) (frame : PerAxis Resolved) : Prop where
  columns : Gathered.ofColumnItems (columnItems cells) tracks.x = .ok frame.x.toGathered
  rows : Gathered.ofRowItems (layoutRows cells) tracks.y = .ok frame.y.toGathered
  column_edges : frame.x.toGathered.resolve size.x = .ok frame.x
  row_edges : frame.y.toGathered.resolve size.y = .ok frame.y

/-- The cells of a grid with these tracks and edges are laid out as these cells, and these
baseline questions are asked for it. -/
inductive Cells.Laid (h : Host K) : PerAxis Tracks → PerAxis (List Int) →
    Cells (PerAxis Tracks) Constraints K → Cells (PerAxis Resolved) LayoutCell K →
    List (Query K) → Prop where
  | nil {tracks edges} : Laid h tracks edges nil nil []
  | component {tracks edges c l key rest out asked later} (visible : h.isVisible key = true)
      (fits : l.Fits tracks edges c (h.preferredSize key))
      (measured : RowItem.measure h key l.x (tracks.y.item c.y (h.preferredSize key).y) =
        .ok ⟨l.y.item, asked⟩)
      (others : Laid h tracks edges rest out later) :
      Laid h tracks edges (component c key rest) (component l key out) (asked ++ later)
  | grid {tracks edges c l inner rest inside out asked later} {frame : PerAxis Tracks}
      {axes : PerAxis Resolved} (visible : inner.isVisible h = true)
      (fits : l.Fits tracks edges c (preferredOf axes))
      (bare : l.y.item.baseline = none)
      (sized : SizedBy frame inside ⟨l.x.room, l.y.room⟩ axes)
      (nested : Laid h frame (edgesOf axes) inner inside asked)
      (others : Laid h tracks edges rest out later) :
      Laid h tracks edges (grid c frame inner rest) (grid l axes inside out) (asked ++ later)

/-! ## From passes to cells -/

theorem Gathered.preferred_eq {demands : List Demand} {tracks : Tracks} {g : Gathered}
    (h : Gathered.ofDemands demands tracks = .ok g) :
    g.sizing = ⟨demands⟩ ∧ g.resizable = tracks.resizable ∧ g.sizing.preferred = .ok g.preferred := by
  simp only [ofDemands, Checked.bind_eq_ok_iff, Checked.pure_eq_ok_iff] at h
  obtain ⟨preferred, hpreferred, rfl⟩ := h
  exact ⟨rfl, rfl, hpreferred⟩

theorem Gathered.toGathered_of_resolve {g : Gathered} {length : Int} {r : Resolved}
    (h : g.resolve length = .ok r) : r.toGathered = g := by
  simp only [resolve, Checked.bind_eq_ok_iff, Checked.pure_eq_ok_iff] at h
  obtain ⟨edges, -, rfl⟩ := h
  rfl

/-- The constraints of a cell of a layout are those of the cell that it stands for. -/
theorem LayoutCell.Fits.constraints_eq {tracks : PerAxis Tracks} {edges : PerAxis (List Int)}
    {c : Constraints} {natural : Size} {l : LayoutCell} (fits : l.Fits tracks edges c natural) :
    l.constraints = c := by
  rw [LayoutCell.constraints, fits.column, fits.row]
  rfl

namespace Cells

/-- All cells that are laid out are visible. -/
theorem Laid.visible_eq {h : Host K} {tracks : PerAxis Tracks} {edges : PerAxis (List Int)}
    {cells : Cells (PerAxis Tracks) Constraints K} {out} {asked : List (Query K)}
    (laid : Laid h tracks edges cells out asked) : cells.visible h = cells := by
  induction laid with
  | nil => rfl
  | component hkey _ _ _ ih => rw [visible, if_pos hkey, ih]
  | grid hinner _ _ _ _ _ ihInner ihRest => rw [visible, if_pos hinner, ihInner, ihRest]

/-- The cells of a layout have the constraints of the cells they stand for. -/
theorem Laid.map_constraints {h : Host K} {tracks : PerAxis Tracks} {edges : PerAxis (List Int)}
    {cells : Cells (PerAxis Tracks) Constraints K} {out} {asked : List (Query K)}
    (laid : Laid h tracks edges cells out asked) :
    out.infos.map LayoutCell.constraints = cells.infos := by
  induction laid with
  | nil => rfl
  | component _ fits _ _ ih => simp only [infos, List.map_cons, fits.constraints_eq, ih]
  | grid _ fits _ _ _ _ _ ih => simp only [infos, List.map_cons, fits.constraints_eq, ih]

theorem Laid.exists_info {h : Host K} {tracks : PerAxis Tracks} {edges : PerAxis (List Int)}
    {cells : Cells (PerAxis Tracks) Constraints K} {out} {asked : List (Query K)}
    (laid : Laid h tracks edges cells out asked) {c : Constraints} (hc : c ∈ cells.infos) :
    ∃ l ∈ out.infos, l.constraints = c := by
  rw [← laid.map_constraints] at hc
  exact List.mem_map.mp hc

/-- Cells followed by further cells are laid out with the further cells behind them. -/
theorem Laid.of_append {h : Host K} {tracks : PerAxis Tracks} {edges : PerAxis (List Int)}
    {cells more : Cells (PerAxis Tracks) Constraints K}
    {out : Cells (PerAxis Resolved) LayoutCell K} {asked : List (Query K)}
    (laid : Laid h tracks edges (cells ++ more) out asked) :
    ∃ before behind first later, out = before ++ behind ∧
      Laid h tracks edges cells before first ∧ Laid h tracks edges more behind later := by
  induction cells generalizing out asked with
  | nil => exact ⟨.nil, out, [], asked, rfl, .nil, laid⟩
  | component c key rest ih =>
    rw [component_append] at laid
    cases laid with
    | component visible fits measured others =>
      obtain ⟨before, behind, first, later, rfl, hbefore, hbehind⟩ := ih others
      exact ⟨.component _ key before, behind, _, later, rfl,
        .component visible fits measured hbefore, hbehind⟩
  | grid c frame inner rest _ ih =>
    rw [grid_append] at laid
    cases laid with
    | grid visible fits bare sized nested others =>
      obtain ⟨before, behind, first, later, rfl, hbefore, hbehind⟩ := ih others
      exact ⟨.grid _ _ _ before, behind, _, later, rfl,
        .grid visible fits bare sized nested hbefore, hbehind⟩

/-- What the four passes compute for the cells of one grid is laid out cell by cell. -/
theorem laid_of_passes {h : Host K} {tracks : PerAxis Tracks} {edges : PerAxis (List Int)}
    {cells : Cells (PerAxis Tracks) Constraints K} {gathered resolved measured out}
    {demands : List Demand} {asked : List (Query K)}
    (hgather : cells.gatherColumns h tracks = .ok (gathered, demands))
    (hcolumns : gathered.resolve columnView edges.x = .ok resolved)
    (hmeasure : resolved.gatherRows h = .ok ⟨measured, asked⟩)
    (hrows : measured.resolve rowView edges.y = .ok out) :
    Laid h tracks edges (cells.visible h) out asked ∧
      (columnItems out).mapM Item.request = .ok demands ∧ layoutRows out = measured.rowItems := by
  -- each pass goes on with the rest after the first cell, so one induction follows all four
  induction cells generalizing tracks edges gathered resolved measured out demands asked with
  | nil =>
    cases hgather
    cases hcolumns
    cases hmeasure
    cases hrows
    exact ⟨.nil, rfl, rfl⟩
  | component c key rest ih =>
    by_cases hkey : h.isVisible key
    case neg =>
      simp only [gatherColumns, if_neg hkey] at hgather
      simpa only [visible, if_neg hkey] using ih hgather hcolumns hmeasure hrows
    simp only [gatherColumns, if_pos hkey, Checked.bind_eq_ok_iff, Checked.pure_eq_ok_iff]
      at hgather
    obtain ⟨stop, hstop, demand, hdemand, ⟨gathered, demands⟩, hrest, heq⟩ := hgather
    cases heq
    simp only [resolve, Checked.bind_eq_ok_iff, Checked.pure_eq_ok_iff] at hcolumns
    obtain ⟨columnRoom, hcolumnRoom, resolved, hresolved, rfl⟩ := hcolumns
    simp only [gatherRows, Checked.bind_eq_ok_iff, Checked.pure_eq_ok_iff] at hmeasure
    obtain ⟨rowStop, hrowStop, ⟨row, asked⟩, hrow, ⟨measured, later⟩, hlater, heq⟩ := hmeasure
    cases heq
    simp only [resolve, Checked.bind_eq_ok_iff, Checked.pure_eq_ok_iff] at hrows
    obtain ⟨rowRoom, hrowRoom, out, hout, rfl⟩ := hrows
    obtain ⟨hlaid, hdemands, hitems⟩ := ih hrest hresolved hlater hout
    have hkept : row.toItem = tracks.y.item c.y (h.preferredSize key).y :=
      RowItem.toItem_of_measure hrow
    refine ⟨?_, ?_, ?_⟩
    · simp only [visible, if_pos hkey]
      exact .component hkey
        ⟨rfl, hkept, (Placement.stopIndex_eq_ok_iff.mp hstop).2,
          (Placement.stopIndex_eq_ok_iff.mp hrowStop).2, hcolumnRoom, hrowRoom⟩ hrow hlaid
    · simp only [columnItems, infos, List.map_cons, List.mapM_cons, Checked.bind_eq_ok_iff,
        Checked.pure_eq_ok_iff]
      exact ⟨demand, hdemand, demands, hdemands, rfl⟩
    · exact congrArg (row :: ·) hitems
  | grid c frame inner rest ihInner ihRest =>
    by_cases hinner : inner.isVisible h
    case neg =>
      simp only [gatherColumns, if_neg hinner] at hgather
      simpa only [visible, if_neg hinner] using ihRest hgather hcolumns hmeasure hrows
    simp only [gatherColumns, if_pos hinner, Checked.bind_eq_ok_iff, Checked.pure_eq_ok_iff]
      at hgather
    obtain ⟨stop, hstop, ⟨inside, nested⟩, hinside, columns, hcols, demand, hdemand,
      ⟨gathered, demands⟩, hrest, heq⟩ := hgather
    cases heq
    simp only [resolve, Checked.bind_eq_ok_iff, Checked.pure_eq_ok_iff] at hcolumns
    obtain ⟨columnRoom, hcolumnRoom, axis, haxis, insideResolved, hinsideResolved, resolved,
      hresolved, rfl⟩ := hcolumns
    simp only [gatherRows, Checked.bind_eq_ok_iff, Checked.pure_eq_ok_iff] at hmeasure
    obtain ⟨rowStop, hrowStop, ⟨insideMeasured, asked⟩, hasked, rows, hrowsGathered,
      ⟨measured, later⟩, hlater, heq⟩ := hmeasure
    cases heq
    simp only [resolve, Checked.bind_eq_ok_iff, Checked.pure_eq_ok_iff] at hrows
    obtain ⟨rowRoom, hrowRoom, rowAxis, hrowAxis, insideOut, hinsideOut, out, hout, rfl⟩ := hrows
    obtain rfl : axis.toGathered = columns := Gathered.toGathered_of_resolve haxis
    obtain rfl : rowAxis.toGathered = rows := Gathered.toGathered_of_resolve hrowAxis
    obtain ⟨hlaidInside, hnested, hitemsInside⟩ :=
      @ihInner frame (edgesOf ⟨axis, rowAxis⟩) _ _ _ _ _ _ hinside hinsideResolved hasked hinsideOut
    obtain ⟨hlaid, hdemands, hitems⟩ := ihRest hrest hresolved hlater hout
    refine ⟨?_, ?_, ?_⟩
    · simp only [visible, if_pos hinner]
      refine .grid (by rw [isVisible_visible, hinner]) ⟨rfl, rfl,
        (Placement.stopIndex_eq_ok_iff.mp hstop).2, (Placement.stopIndex_eq_ok_iff.mp hrowStop).2,
        hcolumnRoom, hrowRoom⟩ rfl ⟨?_, ?_, haxis, hrowAxis⟩ hlaidInside hlaid
      · exact Checked.bind_eq_ok_iff.mpr ⟨nested, hnested, hcols⟩
      · rw [hitemsInside]
        exact hrowsGathered
    · simp only [columnItems, infos, List.map_cons, List.mapM_cons, Checked.bind_eq_ok_iff,
        Checked.pure_eq_ok_iff]
      exact ⟨demand, hdemand, demands, hdemands, rfl⟩
    · exact congrArg (_ :: ·) hitems

/-- What is laid out cell by cell is what the four passes compute. -/
theorem passes_of_laid {h : Host K} {tracks : PerAxis Tracks} {edges : PerAxis (List Int)}
    {cells : Cells (PerAxis Tracks) Constraints K} {out} {demands : List Demand}
    {asked : List (Query K)} (laid : Laid h tracks edges (cells.visible h) out asked)
    (hdemands : (columnItems out).mapM Item.request = .ok demands) :
    ∃ gathered resolved measured, cells.gatherColumns h tracks = .ok (gathered, demands) ∧
      gathered.resolve columnView edges.x = .ok resolved ∧
      resolved.gatherRows h = .ok ⟨measured, asked⟩ ∧
      measured.resolve rowView edges.y = .ok out ∧ measured.rowItems = layoutRows out := by
  induction cells generalizing tracks edges out demands asked with
  | nil =>
    cases laid
    cases hdemands
    exact ⟨nil, nil, nil, rfl, rfl, rfl, rfl, rfl⟩
  | component c key rest ih =>
    by_cases hkey : h.isVisible key
    case neg =>
      simp only [visible, if_neg hkey] at laid
      simpa only [gatherColumns, if_neg hkey] using ih laid hdemands
    simp only [visible, if_pos hkey] at laid
    cases laid with
    | @component _ _ _ l _ _ out asked later _ fits measured others =>
      simp only [columnItems, infos, List.map_cons, List.mapM_cons, Checked.bind_eq_ok_iff,
        Checked.pure_eq_ok_iff] at hdemands
      obtain ⟨demand, hdemand, demands, hrest, rfl⟩ := hdemands
      obtain ⟨gathered, resolved, rows, hgather, hcolumns, hmeasure, hrows, hitems⟩ := ih others hrest
      refine ⟨component ⟨tracks.x.item c.x (h.preferredSize key).x,
          tracks.y.item c.y (h.preferredSize key).y⟩ key gathered,
        component ⟨l.x, tracks.y.item c.y (h.preferredSize key).y⟩ key resolved,
        component ⟨l.x, l.y.item⟩ key rows, ?_, ?_, ?_, ?_, congrArg (_ :: ·) hitems⟩
      · simp only [gatherColumns, if_pos hkey, Checked.bind_eq_ok_iff, Checked.pure_eq_ok_iff]
        exact ⟨_, Placement.stopIndex_of_lt fits.column_stop, demand, fits.column ▸ hdemand, _,
          hgather, rfl⟩
      · simp only [resolve, Checked.bind_eq_ok_iff, Checked.pure_eq_ok_iff]
        exact ⟨l.x.room, fits.column ▸ fits.column_room, resolved, hcolumns,
          by simp only [columnView, ← fits.column]⟩
      · simp only [gatherRows, Checked.bind_eq_ok_iff, Checked.pure_eq_ok_iff]
        exact ⟨_, Placement.stopIndex_of_lt fits.row_stop, _, measured, _, hmeasure, rfl⟩
      · simp only [resolve, Checked.bind_eq_ok_iff, Checked.pure_eq_ok_iff]
        exact ⟨l.y.room, fits.row_room, out, hrows, rfl⟩
  | grid c frame inner rest ihInner ihRest =>
    by_cases hinner : inner.isVisible h
    case neg =>
      simp only [visible, if_neg hinner] at laid
      simpa only [gatherColumns, if_neg hinner] using ihRest laid hdemands
    simp only [visible, if_pos hinner] at laid
    cases laid with
    | @grid _ _ _ l _ _ inside out asked later _ axes _ fits bare sized nested others =>
      simp only [columnItems, infos, List.map_cons, List.mapM_cons, Checked.bind_eq_ok_iff,
        Checked.pure_eq_ok_iff] at hdemands
      obtain ⟨demand, hdemand, demands, hrest, rfl⟩ := hdemands
      obtain ⟨insideDemands, hinsideDemands, hcols⟩ := Checked.bind_eq_ok_iff.mp sized.columns
      obtain ⟨inside₁, inside₂, inside₃, hinside₁, hinside₂, hinside₃, hinside₄, hitemsInside⟩ :=
        ihInner nested hinsideDemands
      obtain ⟨gathered, resolved, rows, hgather, hcolumns, hmeasure, hrows, hitems⟩ :=
        ihRest others hrest
      have hcolumn : l.x.item = tracks.x.item c.x axes.x.preferred := fits.column
      have hkept : l.y.item.toItem = tracks.y.item c.y axes.y.preferred := fits.row
      have hrow : l.y.item = ⟨tracks.y.item c.y axes.y.preferred, none⟩ := by
        rw [← hkept, ← bare]
      refine ⟨grid ⟨tracks.x.item c.x axes.x.preferred, tracks.y.item c.y 0⟩
          ⟨axes.x.toGathered, frame.y⟩ inside₁ gathered,
        grid ⟨l.x, tracks.y.item c.y 0⟩ ⟨axes.x, frame.y⟩ inside₂ resolved,
        grid ⟨l.x, l.y.item⟩ ⟨axes.x, axes.y.toGathered⟩ inside₃ rows,
        ?_, ?_, ?_, ?_, congrArg (_ :: ·) hitems⟩
      · simp only [gatherColumns, if_pos hinner, Checked.bind_eq_ok_iff, Checked.pure_eq_ok_iff]
        exact ⟨_, Placement.stopIndex_of_lt fits.column_stop, _, hinside₁, _, hcols, demand,
          hcolumn ▸ hdemand, _, hgather, rfl⟩
      · simp only [resolve, Checked.bind_eq_ok_iff, Checked.pure_eq_ok_iff]
        exact ⟨l.x.room, hcolumn ▸ fits.column_room, axes.x, sized.column_edges, inside₂,
          hinside₂, resolved, hcolumns, by simp only [columnView, ← hcolumn]⟩
      · simp only [gatherRows, Checked.bind_eq_ok_iff, Checked.pure_eq_ok_iff]
        exact ⟨_, Placement.stopIndex_of_lt fits.row_stop, _, hinside₃, axes.y.toGathered,
          hitemsInside ▸ sized.rows, _, hmeasure, by rw [hrow]; rfl⟩
      · simp only [resolve, Checked.bind_eq_ok_iff, Checked.pure_eq_ok_iff]
        exact ⟨l.y.room, fits.row_room, axes.y, sized.row_edges, inside, hinside₄, out, hrows, rfl⟩

end Cells

/-! ## Layouts -/

namespace Grid

/-- A layout is computed exactly when its cells are laid out one by one and its axes follow from
them, with the given lengths or with the preferred ones. -/
theorem layout_eq_ok_iff {h : Host K} {g : Grid K} {width height : Option Int} {layout : Layout K}
    {asked : List (Query K)} :
    g.layout h width height = .ok ⟨layout, asked⟩ ↔
      Cells.Laid h g.frame (edgesOf layout.frame) (g.cells.visible h) layout.cells asked ∧
        SizedBy g.frame layout.cells
          ⟨width.getD layout.frame.x.preferred, height.getD layout.frame.y.preferred⟩
          layout.frame := by
  simp only [Grid.layout, Grid.gatherColumns, Tree.resolve, Tree.gatherRows,
    Checked.bind_eq_ok_iff, Checked.pure_eq_ok_iff]
  constructor
  · rintro ⟨columns, ⟨⟨gathered, demands⟩, hgather, columnAxis, hcolumnAxis, rfl⟩, resolved,
      ⟨axis, haxis, resolvedCells, hresolved, rfl⟩, rows, ⟨⟨measured, asked'⟩, hmeasure, rowAxis,
      hrowAxis, rfl⟩, out, ⟨axis', haxis', outCells, hout, rfl⟩, heq⟩
    cases heq
    obtain rfl : axis.toGathered = columnAxis := Gathered.toGathered_of_resolve haxis
    obtain rfl : axis'.toGathered = rowAxis := Gathered.toGathered_of_resolve haxis'
    obtain ⟨hlaid, hdemands, hitems⟩ :=
      @Cells.laid_of_passes _ _ _ (edgesOf ⟨axis, axis'⟩) _ _ _ _ _ _ _ hgather hresolved hmeasure
        hout
    refine ⟨hlaid, ⟨Checked.bind_eq_ok_iff.mpr ⟨demands, hdemands, hcolumnAxis⟩, ?_, haxis, haxis'⟩⟩
    show Gathered.ofRowItems (layoutRows outCells) g.frame.y = .ok axis'.toGathered
    rw [hitems]
    exact hrowAxis
  · rintro ⟨hlaid, sized⟩
    obtain ⟨demands, hdemands, hcolumns⟩ := Checked.bind_eq_ok_iff.mp sized.columns
    obtain ⟨gathered, resolved, rows, hgather, hresolved, hmeasure, hout, hitems⟩ :=
      Cells.passes_of_laid hlaid hdemands
    exact ⟨_, ⟨_, hgather, _, hcolumns, rfl⟩, _, ⟨_, sized.column_edges, _, hresolved, rfl⟩, _,
      ⟨_, hmeasure, _, hitems ▸ sized.rows, rfl⟩, _, ⟨_, sized.row_edges, _, hout, rfl⟩, rfl⟩

/-- A grid is measured by a layout without given lengths. -/
theorem preferredSize_eq_ok_iff {h : Host K} {g : Grid K} {size : Size} {asked : List (Query K)} :
    g.preferredSize h = .ok ⟨size, asked⟩ ↔
      ∃ layout, g.layout h none none = .ok ⟨layout, asked⟩ ∧ preferredOf layout.frame = size := by
  simp only [preferredSize, Checked.bind_eq_ok_iff, Checked.pure_eq_ok_iff]
  constructor
  · rintro ⟨⟨layout, queries⟩, hlayout, heq⟩
    cases heq
    exact ⟨layout, hlayout, rfl⟩
  · rintro ⟨layout, hlayout, rfl⟩
    exact ⟨_, hlayout, rfl⟩

/-- A layout without given lengths is the layout in a rectangle of the preferred size, wherever the
rectangle is. -/
theorem layoutIn_of_layout {h : Host K} {g : Grid K} {layout : Layout K} {asked : List (Query K)}
    (hlayout : g.layout h none none = .ok ⟨layout, asked⟩) {rect : Rect}
    (hsize : preferredOf layout.frame = rect.size) : g.layoutIn h rect = .ok ⟨layout, asked⟩ := by
  obtain ⟨laid, sized⟩ := layout_eq_ok_iff.mp hlayout
  refine layout_eq_ok_iff.mpr ⟨laid, ?_⟩
  show SizedBy _ _ rect.size _
  rw [← hsize]
  exact sized

end Grid

end FormGrid
