import FormGrid.Proofs.Demands

/-!
# What a layout is determined by

Two layouts of the same cells are compared, one axis at a time. What the cells ask of the columns
does not depend on any length at all. What they ask of the rows depends on the widths, since a
baseline may depend on the width of its component, and on nothing else; where no component has a
baseline, it does not depend on these either. Where the cells ask the same of an axis and have
their ends in the same places on it, they are the same on that axis, down to the nested grids.

The columns are determined by what lies on their own axis, so there the cells need not be the same:
it is enough that their columns and preferred widths are.

## Main definitions

* `Host.NoBaselines`: a host whose components have no baseline
* `Host.SameWidths`, `Cells.SameAlong`: two hosts agree on widths, and two trees on an axis
* `Cells.SameDemands`, `Cells.SameSides`: two layouts agree on an axis

## Main results

* `Cells.Laid.columns_alike_of`, `Cells.Laid.rows_alike_of`: what the cells ask of an axis
* `Cells.Laid.sides_alike_of`: what they are given on it
* `Cells.Laid.unique`: cells between the same edges are laid out in one way
-/

namespace FormGrid

variable {K : Type}

/-! ## One axis at a time -/

namespace LayoutCell

def itemAt (l : LayoutCell) : Axis → Item
  | .x => l.x.item
  | .y => l.y.item.toItem

def roomAt (l : LayoutCell) : Axis → Int
  | .x => l.x.room
  | .y => l.y.room

theorem placement_along (l : LayoutCell) (a : Axis) :
    (l.itemAt a).placement = l.constraints.along a := by
  cases a <;> rfl

/-- Two cells ask the same of an axis, and have the same baseline if it is the y axis. -/
def SameItem (a : Axis) (l l' : LayoutCell) : Prop :=
  match a with
  | .x => l.x.item = l'.x.item
  | .y => l.y.item = l'.y.item

theorem SameItem.itemAt_eq {a : Axis} {l l' : LayoutCell} (h : SameItem a l l') :
    l'.itemAt a = l.itemAt a := by
  cases a with
  | x => exact (show l.x.item = l'.x.item from h).symm
  | y => exact congrArg RowItem.toItem (show l.y.item = l'.y.item from h).symm

theorem Fits.roomAt_eq {tracks : PerAxis Tracks} {edges : PerAxis (List Int)} {c : Constraints}
    {natural : Size} {l : LayoutCell} (fits : l.Fits tracks edges c natural) (a : Axis) :
    l.roomAt a = (l.itemAt a).exactRoom (edges.along a) := by
  cases a with
  | x => exact Item.room_eq_ok fits.column_room
  | y => exact Item.room_eq_ok fits.row_room

theorem Fits.natural_along {tracks : PerAxis Tracks} {edges : PerAxis (List Int)}
    {c : Constraints} {natural : Size} {l : LayoutCell} (fits : l.Fits tracks edges c natural)
    (a : Axis) : (l.itemAt a).natural = natural.along a := by
  cases a with
  | x => exact congrArg Item.natural fits.column
  | y => exact congrArg Item.natural fits.row

theorem Fits.roomAt_nonneg {tracks : PerAxis Tracks} {edges : PerAxis (List Int)}
    {c : Constraints} {natural : Size} {l : LayoutCell} (fits : l.Fits tracks edges c natural)
    (a : Axis) : 0 ≤ l.roomAt a := by
  cases a with
  | x => exact Item.room_nonneg fits.column_room
  | y => exact Item.room_nonneg fits.row_room

end LayoutCell

/-- On both axes, a component has the length of its content with paddings. -/
theorem Site.length_exactBounds_along (s : Site) (l : LayoutCell) (a : Axis) :
    ((s.exactBounds l).along a).length = (l.itemAt a).exactDrawnLength (l.roomAt a) := by
  cases a with
  | x => rfl
  | y =>
    show (s.exactRowSegment l.y).length + _ = _
    rw [length_exactRowSegment]
    rfl

theorem Site.exactGridBounds_along (s : Site) (l : LayoutCell) (a : Axis) :
    (s.exactGridBounds l).along a =
      ⟨(l.itemAt a).exactLead (s.edges.along a) (s.origin.along a), l.roomAt a⟩ := by
  cases a <;> rfl

theorem edgesOf_along (frame : PerAxis Resolved) (a : Axis) :
    (edgesOf frame).along a = (frame.along a).edges := by
  cases a <;> rfl

namespace SizedBy

variable {tracks : PerAxis Tracks} {cells : Cells (PerAxis Resolved) LayoutCell K} {size : Size}
  {frame : PerAxis Resolved}

theorem spans_along (sized : SizedBy tracks cells size frame) (a : Axis) :
    (frame.along a).Spans (size.along a) := by
  cases a with
  | x => exact sized.column
  | y => exact sized.row

theorem resizable_along (sized : SizedBy tracks cells size frame) (a : Axis) :
    (frame.along a).resizable = (tracks.along a).resizable := by
  cases a with
  | x => exact sized.column_resizable
  | y => exact sized.row_resizable

/-- The demands on an axis end where the cells do. -/
theorem demands_stops (sized : SizedBy tracks cells size frame) (a : Axis) :
    (frame.along a).sizing.demands.map Demand.stop =
      cells.infos.map fun l => (l.itemAt a).placement.stop := by
  cases a with
  | x =>
    show frame.x.sizing.demands.map Demand.stop = _
    rw [sized.column_demands, columnItems, List.map_map, List.map_map]
    rfl
  | y =>
    show frame.y.sizing.demands.map Demand.stop = _
    rw [sized.row_demands, layoutRows, List.map_map, List.map_map]
    rfl

theorem stop_le (sized : SizedBy tracks cells size frame) (a : Axis) {l : LayoutCell}
    (hl : l ∈ cells.infos) : (l.itemAt a).placement.stop ≤ (frame.along a).sizing.count := by
  cases a with
  | x => exact sized.column_stop_le hl
  | y => exact sized.row_stop_le hl

/-- There is an edge at the end of every cell. -/
theorem stop_lt (sized : SizedBy tracks cells size frame) (a : Axis) {l : LayoutCell}
    (hl : l ∈ cells.infos) :
    (l.itemAt a).placement.stop < ((edgesOf frame).along a).length := by
  cases a with
  | x => exact sized.column_stop_lt hl
  | y => exact sized.row_stop_lt hl

end SizedBy

/-! ## Hosts without baselines -/

/-- No component has a baseline, whatever its size. -/
def Host.NoBaselines (h : Host K) : Prop :=
  ∀ key size offset, h.baseline key size = some offset → offset < 0

theorem Host.noBaselines_withoutBaselines (h : Host K) : h.withoutBaselines.NoBaselines :=
  fun _ _ _ hanswer => nomatch hanswer

theorem RowItem.baseline_of_measure {h : Host K} (bare : h.NoBaselines) {key : K}
    {column : Fitted Item} {row : Item} {m : Measured K RowItem}
    (hm : RowItem.measure h key column row = .ok m) : m.value.baseline = none := by
  rw [measure_eq_ok hm, exactMeasure]
  split
  · rw [Option.map_eq_none_iff, Option.filter_eq_none_iff]
    intro offset hanswer
    have hneg := bare _ _ _ hanswer
    simpa using hneg
  · rfl

/-- Of such a host, no cell at any depth has a baseline. -/
theorem Cells.Laid.bare {h : Host K} (bare : h.NoBaselines) {tracks : PerAxis Tracks}
    {edges : PerAxis (List Int)} {cells : Cells (PerAxis Tracks) Constraints K}
    {out : Cells (PerAxis Resolved) LayoutCell K} {asked : List (Query K)}
    (laid : Laid h tracks edges cells out asked) : ∀ l ∈ out.infos, l.y.item.baseline = none := by
  induction laid with
  | nil => exact fun _ hl => nomatch hl
  | component _ _ measured _ ih =>
    exact List.forall_mem_cons.mpr ⟨RowItem.baseline_of_measure bare measured, ih⟩
  | grid _ _ hbare _ _ _ _ ih => exact List.forall_mem_cons.mpr ⟨hbare, ih⟩

/-! ## What the cells ask of an axis -/

/-- An axis with the same demands has the same edges in the same length. -/
theorem Resolved.eq_of_resolve {r r' : Resolved} {length length' : Int}
    (h : r.toGathered.resolve length = .ok r) (h' : r'.toGathered.resolve length' = .ok r')
    (hgathered : r.toGathered = r'.toGathered) (hlength : length' = length) : r' = r := by
  rw [← hgathered, hlength, h] at h'
  exact (Except.ok.inj h').symm

namespace SizedBy

variable {tracks tracks' : PerAxis Tracks} {cells cells' : Cells (PerAxis Resolved) LayoutCell K}
  {size size' : Size} {frame frame' : PerAxis Resolved}

theorem gathered_columns_eq (sized : SizedBy tracks cells size frame)
    (sized' : SizedBy tracks' cells' size' frame') (htracks : tracks'.x = tracks.x)
    (h : columnItems cells' = columnItems cells) : frame.x.toGathered = frame'.x.toGathered := by
  have hcolumns := sized'.columns
  rw [h, htracks, sized.columns] at hcolumns
  exact Except.ok.inj hcolumns

theorem gathered_rows_eq (sized : SizedBy tracks cells size frame)
    (sized' : SizedBy tracks' cells' size' frame') (htracks : tracks'.y = tracks.y)
    (h : layoutRows cells' = layoutRows cells) : frame.y.toGathered = frame'.y.toGathered := by
  have hrows := sized'.rows
  rw [h, htracks, sized.rows] at hrows
  exact Except.ok.inj hrows

/-- Cells that ask the same of the columns get the same columns in the same width. -/
theorem frame_columns_eq (sized : SizedBy tracks cells size frame)
    (sized' : SizedBy tracks cells' size' frame') (h : columnItems cells' = columnItems cells)
    (hwidth : size'.x = size.x) : frame'.x = frame.x :=
  Resolved.eq_of_resolve sized.column_edges sized'.column_edges
    (sized.gathered_columns_eq sized' rfl h) hwidth

end SizedBy

namespace LayoutCell.Fits

variable {tracks tracks' : PerAxis Tracks} {edges edges' : PerAxis (List Int)} {c c' : Constraints}
  {natural natural' : Size} {l l' : LayoutCell}

theorem column_item_eq (fits : l.Fits tracks edges c natural)
    (fits' : l'.Fits tracks' edges' c' natural') (htracks : tracks'.x = tracks.x) (hc : c.x = c'.x)
    (h : natural.x = natural'.x) : l.x.item = l'.x.item := by
  rw [fits.column, fits'.column, htracks, hc, h]

theorem row_item_eq (fits : l.Fits tracks edges c natural)
    (fits' : l'.Fits tracks edges' c natural') (h : natural.y = natural'.y)
    (bare : l.y.item.baseline = none) (bare' : l'.y.item.baseline = none) :
    l.y.item = l'.y.item := by
  have hitem : l.y.item.toItem = l'.y.item.toItem := by rw [fits.row, fits'.row, h]
  calc l.y.item = ⟨l.y.item.toItem, l.y.item.baseline⟩ := rfl
    _ = ⟨l'.y.item.toItem, l'.y.item.baseline⟩ := by rw [hitem, bare, bare']
    _ = l'.y.item := rfl

end LayoutCell.Fits

/-- Two layouts of one shape whose cells ask the same of an axis at all depths. -/
def Cells.SameDemands (a : Axis) (out out' : Cells (PerAxis Resolved) LayoutCell K) : Prop :=
  out.Alike (fun _ _ => True) (LayoutCell.SameItem a) out'

namespace Cells

variable {h : Host K} {tracks : PerAxis Tracks} {edges edges' : PerAxis (List Int)}
  {cells : Cells (PerAxis Tracks) Constraints K}
  {out out' : Cells (PerAxis Resolved) LayoutCell K} {asked asked' : List (Query K)}

theorem SameDemands.columnItems_eq (same : SameDemands .x out out') :
    columnItems out' = columnItems out := same.map_infos_eq

theorem SameDemands.layoutRows_eq (same : SameDemands .y out out') :
    layoutRows out' = layoutRows out := same.map_infos_eq

end Cells

/-- The widths that the components prefer, and which of them are visible, are the same. -/
structure Host.SameWidths (h h' : Host K) : Prop where
  visible : h'.isVisible = h.isVisible
  width : ∀ key, (h.preferredSize key).x = (h'.preferredSize key).x

/-- Two lists of cells of one shape whose tracks and placements are the same on an axis at all
depths. -/
def Cells.SameAlong (a : Axis) (cells cells' : Cells (PerAxis Tracks) Constraints K) : Prop :=
  cells.Alike (fun f f' => f.along a = f'.along a) (fun c c' => c.along a = c'.along a) cells'

theorem Cells.SameAlong.refl (a : Axis) (cells : Cells (PerAxis Tracks) Constraints K) :
    cells.SameAlong a cells := by
  refine Alike.refl ?_ ?_ cells
  all_goals exact fun _ => rfl

namespace Cells

variable {h h' : Host K} {tracks tracks' : PerAxis Tracks} {edges edges' : PerAxis (List Int)}
  {cells cells' : Cells (PerAxis Tracks) Constraints K}
  {out out' : Cells (PerAxis Resolved) LayoutCell K} {asked asked' : List (Query K)}

/-- What the cells ask of the columns depends on nothing but columns and widths. -/
theorem Laid.columns_alike_of (laid : Laid h tracks edges cells out asked)
    (laid' : Laid h' tracks' edges' cells' out' asked') (hosts : h.SameWidths h')
    (htracks : tracks'.x = tracks.x) (same : cells.SameAlong .x cells') :
    SameDemands .x out out' := by
  induction laid generalizing tracks' edges' cells' out' asked' with
  | nil =>
    cases same
    cases laid'
    exact .nil
  | component _ fits _ _ ih =>
    cases same with
    | component cell alike =>
      cases laid' with
      | component _ fits' _ others' =>
        exact .component (fits.column_item_eq fits' htracks cell (hosts.width _))
          (ih others' htracks alike)
  | grid _ fits _ sized _ _ ihInner ihRest =>
    cases same with
    | grid cell axes within alike =>
      cases laid' with
      | grid _ fits' _ sized' nested' others' =>
        have inside := ihInner nested' axes.symm within
        have hgathered := sized.gathered_columns_eq sized' axes.symm inside.columnItems_eq
        exact .grid (fits.column_item_eq fits' htracks cell (congrArg Gathered.preferred hgathered))
          trivial inside (ihRest others' htracks alike)

/-- What the cells ask of the columns does not depend on any edges. -/
theorem Laid.columns_alike (laid : Laid h tracks edges cells out asked)
    (laid' : Laid h tracks edges' cells out' asked') : SameDemands .x out out' :=
  laid.columns_alike_of laid' ⟨rfl, fun _ => rfl⟩ rfl (.refl .x cells)

end Cells

/-! ## What the cells are given on an axis -/

/-- The two ends of a placement lie in the same places. -/
def Placement.SameEnds (edges edges' : List Int) (p : Placement) : Prop :=
  edgeAt edges' p.start = edgeAt edges p.start ∧ edgeAt edges' p.stop = edgeAt edges p.stop

namespace Placement.SameEnds

variable {edges edges' : List Int} {p : Placement}

theorem refl (edges : List Int) (p : Placement) : p.SameEnds edges edges := ⟨rfl, rfl⟩

theorem extent_eq (h : p.SameEnds edges edges') : p.extent edges' = p.extent edges := by
  rw [extent, extent, h.1, h.2]

end Placement.SameEnds

theorem Item.exactRoom_congr {i : Item} {edges edges' : List Int}
    (hends : i.placement.SameEnds edges edges') : i.exactRoom edges' = i.exactRoom edges := by
  rw [exactRoom, exactRoom, hends.extent_eq]

namespace LayoutCell

/-- Two cells ask the same of an axis and have the same room on it. -/
def SameSide (a : Axis) (l l' : LayoutCell) : Prop :=
  match a with
  | .x => l.x = l'.x
  | .y => l.y = l'.y

theorem SameSide.itemAt_eq {a : Axis} {l l' : LayoutCell} (h : SameSide a l l') :
    l'.itemAt a = l.itemAt a := by
  cases a with
  | x => exact congrArg Fitted.item (show l.x = l'.x from h).symm
  | y => exact congrArg (·.item.toItem) (show l.y = l'.y from h).symm

theorem SameSide.roomAt_eq {a : Axis} {l l' : LayoutCell} (h : SameSide a l l') :
    l'.roomAt a = l.roomAt a := by
  cases a with
  | x => exact congrArg Fitted.room (show l.x = l'.x from h).symm
  | y => exact congrArg Fitted.room (show l.y = l'.y from h).symm

theorem SameItem.sameSide {a : Axis} {l l' : LayoutCell} (hitem : SameItem a l l')
    (hroom : l'.roomAt a = l.roomAt a) : SameSide a l l' := by
  cases a with
  | x =>
    calc l.x = ⟨l.x.item, l.x.room⟩ := rfl
      _ = ⟨l'.x.item, l'.x.room⟩ := congrArg₂ Fitted.mk hitem hroom.symm
  | y =>
    calc l.y = ⟨l.y.item, l.y.room⟩ := rfl
      _ = ⟨l'.y.item, l'.y.room⟩ := congrArg₂ Fitted.mk hitem hroom.symm

/-- A cell that asks the same and has its ends in the same places is the same. -/
theorem Fits.sameSide {a : Axis} {tracks tracks' : PerAxis Tracks}
    {edges edges' : PerAxis (List Int)} {c c' : Constraints} {natural natural' : Size}
    {l l' : LayoutCell} (fits : l.Fits tracks edges c natural)
    (fits' : l'.Fits tracks' edges' c' natural')
    (hitem : SameItem a l l') (hends : (c.along a).SameEnds (edges.along a) (edges'.along a)) :
    SameSide a l l' := by
  apply hitem.sameSide
  rw [fits.roomAt_eq, fits'.roomAt_eq, hitem.itemAt_eq]
  apply Item.exactRoom_congr
  rw [placement_along, fits.constraints_eq]
  exact hends

end LayoutCell

/-- Cells that ask the same of an axis get the same axis in the same length. -/
theorem SizedBy.frame_along_eq {a : Axis} {tracks tracks' : PerAxis Tracks}
    {cells cells' : Cells (PerAxis Resolved) LayoutCell K} {size size' : Size}
    {frame frame' : PerAxis Resolved} (sized : SizedBy tracks cells size frame)
    (sized' : SizedBy tracks' cells' size' frame') (htracks : tracks'.along a = tracks.along a)
    (same : Cells.SameDemands a cells cells') (hsize : size'.along a = size.along a) :
    frame'.along a = frame.along a := by
  cases a with
  | x =>
    exact Resolved.eq_of_resolve sized.column_edges sized'.column_edges
      (sized.gathered_columns_eq sized' htracks same.columnItems_eq) hsize
  | y =>
    exact Resolved.eq_of_resolve sized.row_edges sized'.row_edges
      (sized.gathered_rows_eq sized' htracks same.layoutRows_eq) hsize

/-- Cells that ask the same of both axes make their grid prefer the same size. -/
theorem SizedBy.preferred_eq {tracks : PerAxis Tracks}
    {cells cells' : Cells (PerAxis Resolved) LayoutCell K} {size size' : Size}
    {frame frame' : PerAxis Resolved} (sized : SizedBy tracks cells size frame)
    (sized' : SizedBy tracks cells' size' frame') (hx : Cells.SameDemands .x cells cells')
    (hy : Cells.SameDemands .y cells cells') : preferredOf frame = preferredOf frame' :=
  congrArg₂ Axes.mk
    (congrArg Gathered.preferred (sized.gathered_columns_eq sized' rfl hx.columnItems_eq))
    (congrArg Gathered.preferred (sized.gathered_rows_eq sized' rfl hy.layoutRows_eq))

/-- Two layouts of one shape that are the same on an axis at all depths. -/
def Cells.SameSides (a : Axis) (out out' : Cells (PerAxis Resolved) LayoutCell K) : Prop :=
  out.Alike (fun f f' => f.along a = f'.along a) (LayoutCell.SameSide a) out'

namespace Cells

variable {h h' : Host K} {tracks tracks' : PerAxis Tracks} {edges edges' : PerAxis (List Int)}
  {cells cells' : Cells (PerAxis Tracks) Constraints K}
  {out out' : Cells (PerAxis Resolved) LayoutCell K} {asked asked' : List (Query K)}

theorem SameSides.layoutRows_eq (same : SameSides .y out out') :
    layoutRows out' = layoutRows out :=
  Alike.map_infos_eq (same.imp (fun _ _ _ => trivial) fun _ _ hside => congrArg Fitted.item hside)

/-- Cells that ask the same of an axis, and whose ends lie in the same places on it, are the same
on that axis, whatever else there is on the other one. -/
theorem Laid.sides_alike_of {a : Axis} (laid : Laid h tracks edges cells out asked)
    (laid' : Laid h' tracks' edges' cells' out' asked') (alike : cells.SameAlong a cells')
    (same : SameDemands a out out')
    (hends : ∀ c ∈ cells.infos, (c.along a).SameEnds (edges.along a) (edges'.along a)) :
    SameSides a out out' := by
  induction laid generalizing tracks' edges' cells' out' asked' with
  | nil =>
    cases same
    exact .nil
  | component _ fits _ _ ih =>
    cases alike with
    | component cell alike =>
      cases laid' with
      | component _ fits' _ others' =>
        cases same with
        | component hitem hothers =>
          obtain ⟨hend, hends⟩ := List.forall_mem_cons.mp hends
          exact .component (fits.sameSide fits' hitem hend) (ih others' alike hothers hends)
  | grid _ fits _ sized _ _ ihInner ihRest =>
    cases alike with
    | grid cell axes within alike =>
      cases laid' with
      | grid _ fits' _ sized' nested' others' =>
        cases same with
        | grid hitem _ hinside hothers =>
          obtain ⟨hend, hends⟩ := List.forall_mem_cons.mp hends
          have hside := fits.sameSide fits' hitem hend
          have haxis := sized.frame_along_eq sized' axes.symm hinside (by
            cases a <;> exact hside.roomAt_eq)
          refine .grid hside haxis.symm (ihInner nested' within hinside ?_)
            (ihRest others' alike hothers hends)
          intro c _
          rw [edgesOf_along, edgesOf_along, haxis]
          exact .refl _ _

/-- Cells that ask the same of an axis, and whose ends lie in the same places on it, are the same
on that axis. -/
theorem Laid.sides_alike {a : Axis} (laid : Laid h tracks edges cells out asked)
    (laid' : Laid h tracks edges' cells out' asked') (same : SameDemands a out out')
    (hends : ∀ c ∈ cells.infos, (c.along a).SameEnds (edges.along a) (edges'.along a)) :
    SameSides a out out' :=
  laid.sides_alike_of laid' (.refl a cells) same hends

/-- What the cells ask of the rows depends only on the widths of the components, and without
baselines not even on these. -/
theorem Laid.rows_alike_of (laid : Laid h tracks edges cells out asked)
    (laid' : Laid h tracks edges' cells out' asked')
    (hwidths : h.NoBaselines ∨ SameSides .x out out') : SameDemands .y out out' := by
  induction laid generalizing edges' out' asked' with
  | nil =>
    cases laid'
    exact .nil
  | component _ fits measured _ ih =>
    cases laid' with
    | component _ fits' measured' others' =>
      refine .component ?_ (ih others' (hwidths.imp_right fun | .component _ hothers => hothers))
      rcases hwidths with bare | hcolumns
      · exact fits.row_item_eq fits' rfl (RowItem.baseline_of_measure bare measured)
          (RowItem.baseline_of_measure bare measured')
      · cases hcolumns with
        | component hcolumn _ =>
          rw [← show _ = _ from hcolumn, measured] at measured'
          exact congrArg Measured.value (Except.ok.inj measured')
  | grid _ fits bare sized _ _ ihInner ihRest =>
    cases laid' with
    | grid _ fits' bare' sized' nested' others' =>
      have inside := ihInner nested' (hwidths.imp_right fun | .grid _ _ hinside _ => hinside)
      have hothers := ihRest others' (hwidths.imp_right fun | .grid _ _ _ hothers => hothers)
      have hrows := sized.gathered_rows_eq sized' rfl inside.layoutRows_eq
      exact .grid (fits.row_item_eq fits' (congrArg Gathered.preferred hrows) bare bare') trivial
        inside hothers

/-- What the cells ask of the rows depends only on the edges of the columns. -/
theorem Laid.rows_alike (laid : Laid h tracks edges cells out asked)
    (laid' : Laid h tracks edges' cells out' asked') (hcolumns : edges'.x = edges.x) :
    SameDemands .y out out' := by
  refine laid.rows_alike_of laid' (.inr (laid.sides_alike laid' (laid.columns_alike laid') ?_))
  intro c _
  show c.x.SameEnds edges.x edges'.x
  rw [hcolumns]
  exact .refl _ _

/-- Two layouts that are the same on both axes are the same. -/
theorem SameSides.eq (hx : SameSides .x out out') (hy : SameSides .y out out') : out = out' := by
  induction hx with
  | nil => rfl
  | @component l l' _ _ _ cell _ ih =>
    cases hy with
    | component cell' others' =>
      have hcell : l = l' := congrArg₂ Axes.mk cell cell'
      rw [hcell, ih others']
  | @grid l l' frame frame' _ _ _ _ cell axes _ _ ihInside ihOthers =>
    cases hy with
    | grid cell' axes' inside' others' =>
      have hcell : l = l' := congrArg₂ Axes.mk cell cell'
      have hframe : frame = frame' := congrArg₂ Axes.mk axes axes'
      rw [hcell, hframe, ihInside inside', ihOthers others']

/-- Between the same edges, cells are laid out in one way only. -/
theorem Laid.unique (laid : Laid h tracks edges cells out asked)
    (laid' : Laid h tracks edges cells out' asked') : out = out' := by
  have hcolumns := laid.sides_alike laid' (laid.columns_alike laid') fun _ _ => .refl _ _
  have hrows := laid.sides_alike laid' (laid.rows_alike laid' rfl) fun _ _ => .refl _ _
  exact hcolumns.eq hrows

end Cells

end FormGrid
