import FormGrid.Proofs.Laid
import FormGrid.Proofs.Sizing.Edges

/-!
# What cells demand and what they are given

The tracks of a grid have room for every cell on them, if the grid has at least its preferred
length. A cell that shares a line does not ask for its own height but for that of the line, and
this is no less than what it needs above and below the line.

## Main definitions

* `RowItem.HasBaseline`: a cell has a baseline that was measured
* `Resolved.Spans`: the edges of an axis follow from its demands and its length

## Main results

* `RowItem.le_shared`: a shared line leaves every cell on it the space it needs
* `RowItem.exactDemand_le_size_exactRequest`: a line demands what each of its cells would
* `SizedBy.column_extent`, `SizedBy.row_extent`: demands are met
-/

namespace FormGrid

variable {K : Type}

/-! ## Shared lines -/

/-- The cell has this baseline, which was measured for it: the cell may share a line, and what it
needs above and below follows from the distance of the baseline. -/
structure RowItem.HasBaseline (c : RowItem) (b : Baseline) : Prop where
  single : c.placement.span = 1
  not_fill : c.placement.align ≠ .fill
  eq_exactBaseline : b = c.exactBaseline b.offset

/-- A baseline that a host is asked for is measured. -/
theorem RowItem.hasBaseline_of_measure {h : Host K} {key : K} {column : Fitted Item} {row : Item}
    {c : RowItem} {asked : List (Query K)} {b : Baseline}
    (hm : RowItem.measure h key column row = .ok ⟨c, asked⟩) (hb : c.baseline = some b) :
    c.HasBaseline b := by
  obtain rfl : c = (exactMeasure h key column row).value := congrArg Measured.value (measure_eq_ok hm)
  unfold exactMeasure at hb ⊢
  split at hb
  case isTrue hshares =>
    simp only [if_pos hshares]
    obtain ⟨offset, -, rfl⟩ := Option.map_eq_some_iff.mp hb
    have hplacement : row.placement.span = 1 ∧ row.placement.align ≠ .fill := by
      simpa [Placement.sharesBaseline] using hshares
    exact ⟨hplacement.1, hplacement.2, rfl⟩
  case isFalse hshares => cases hb

namespace SharedLine

/-- The largest ascent and the largest descent are found independently. -/
theorem foldl_join (bs : List Baseline) (l : SharedLine) :
    bs.foldl join l =
      ⟨(bs.map Baseline.ascent).foldl max l.above, (bs.map Baseline.descent).foldl max l.below⟩ := by
  induction bs generalizing l with
  | nil => rfl
  | cons b bs ih => exact ih (l.join b)

/-- A shared line leaves each of its members the space that it needs. -/
theorem le_foldl_join {bs : List Baseline} {b : Baseline} (hb : b ∈ bs) (l : SharedLine) :
    b.ascent ≤ (bs.foldl join l).above ∧ b.descent ≤ (bs.foldl join l).below := by
  rw [foldl_join]
  exact ⟨Sizing.le_foldl_max_int.2 _ (List.mem_map_of_mem hb),
    Sizing.le_foldl_max_int.2 _ (List.mem_map_of_mem hb)⟩

/-- The first cell of several is a member if it has a baseline in this row and alignment. -/
theorem members_cons (c : RowItem) (cells : List RowItem) (row : Nat) (align : Align) :
    members (c :: cells) row align =
      (if c.placement.start = row ∧ c.placement.align = align then c.baseline else none).toList ++
        members cells row align := by
  unfold members
  rw [List.filter_cons]
  by_cases hc : c.placement.start = row ∧ c.placement.align = align
  · cases hbaseline : c.baseline <;> simp [hc, hbaseline]
  · simp [hc]

/-- A line in a row that is high enough for it keeps its distance from both ends. -/
theorem exactOffset_bounds (l : SharedLine) (align : Align) {height : Int}
    (h : l.exactHeight ≤ height) :
    l.above ≤ l.exactOffset align height ∧ l.exactOffset align height ≤ height - l.below := by
  have hhalf := half_bounds (Int.sub_nonneg_of_le h)
  unfold exactHeight at h hhalf
  unfold exactOffset exactHeight
  split <;> omega

/-- There is a line where some cell has a baseline. -/
theorem find?_eq_ite (cells : List RowItem) (row : Nat) (align : Align) :
    find? cells row align =
      if members cells row align = [] then none
      else some ((members cells row align).foldl join ⟨0, 0⟩) := by
  unfold find?
  split
  case h_1 hnil => rw [if_pos hnil]
  case h_2 hcons => rw [if_neg (hcons ▸ List.cons_ne_nil _ _), hcons]

variable {cells : List RowItem} {row : Nat} {align : Align} {line : SharedLine}

theorem members_eq_nil_of_find? (h : find? cells row align = none) :
    members cells row align = [] := by
  rw [find?_eq_ite] at h
  split at h
  case isTrue hnil => exact hnil
  case isFalse => cases h

theorem eq_foldl_of_find? (h : find? cells row align = some line) :
    line = (members cells row align).foldl join ⟨0, 0⟩ := by
  rw [find?_eq_ite] at h
  split at h
  case isTrue => cases h
  case isFalse => exact (Option.some.inj h).symm

end SharedLine

namespace RowItem

variable {cells : List RowItem} {c : RowItem} {b : Baseline} {line : SharedLine}

theorem shared?_eq_some_iff : c.shared? cells = some (b, line) ↔
    c.baseline = some b ∧
      SharedLine.find? cells c.placement.start c.placement.align = some line := by
  simp only [shared?, Option.bind_eq_bind, Option.bind_eq_some_iff, Option.pure_def, Option.some.injEq,
    Prod.mk.injEq]
  constructor
  · rintro ⟨_, hb, _, hline, rfl, rfl⟩
    exact ⟨hb, hline⟩
  · rintro ⟨hb, hline⟩
    exact ⟨b, hb, line, hline, rfl, rfl⟩

/-- A shared line leaves every cell on it the space that the cell needs above and below. -/
theorem le_shared (hc : c ∈ cells) (hshared : c.shared? cells = some (b, line)) :
    b.ascent ≤ line.above ∧ b.descent ≤ line.below := by
  obtain ⟨hb, hline⟩ := shared?_eq_some_iff.mp hshared
  have hmember : b ∈ SharedLine.members cells c.placement.start c.placement.align := by
    refine List.mem_filterMap.mpr ⟨c, ?_, hb⟩
    simpa using hc
  rw [SharedLine.eq_foldl_of_find? hline]
  exact SharedLine.le_foldl_join hmember _

/-- The height that a cell demands of its rows is enough for the cell by itself. -/
theorem exactDemand_le_size_exactRequest (hc : c ∈ cells)
    (hmeasured : ∀ b, c.baseline = some b → c.HasBaseline b) :
    c.exactDemand ≤ (c.exactRequest cells).size := by
  unfold exactRequest
  cases hshared : c.shared? cells with
  | none => exact le_rfl
  | some pair =>
    obtain ⟨b, line⟩ := pair
    have hb := (hmeasured b (shared?_eq_some_iff.mp hshared).1).eq_exactBaseline
    have hline := le_shared hc hshared
    rw [hb] at hline
    simp only [Item.exactBaseline] at hline
    simp only [Item.exactDemand, Item.exactGap, Margin.exactTotal, SharedLine.exactHeight]
    omega

end RowItem

/-! ## Axes with edges -/

/-- The preferred length of an axis and its edges, on an axis of this length, follow from the
demands on it. -/
structure Resolved.Spans (r : Resolved) (length : Int) : Prop where
  preferred_eq : r.sizing.preferred = .ok r.preferred
  edges_eq : r.sizing.edges length r.resizable = .ok r.edges

theorem Resolved.spans_of_resolve {demands : List Demand} {tracks : Tracks} {length : Int}
    {r : Resolved} (hgathered : Gathered.ofDemands demands tracks = .ok r.toGathered)
    (hresolved : r.toGathered.resolve length = .ok r) :
    r.Spans length ∧ r.sizing.demands = demands := by
  obtain ⟨hsizing, -, hpreferred⟩ := Gathered.preferred_eq hgathered
  simp only [Gathered.resolve, Checked.bind_eq_ok_iff, Checked.pure_eq_ok_iff] at hresolved
  obtain ⟨edges, hedges, heq⟩ := hresolved
  refine ⟨⟨hpreferred, ?_⟩, by rw [hsizing]⟩
  rw [hedges, ← heq]

namespace Resolved.Spans

variable {r : Resolved} {length : Int}

/-- There is an edge at the end of every track. -/
theorem lt_length_edges (spans : r.Spans length) {track : Nat} (h : track ≤ r.sizing.count) :
    track < r.edges.length := by
  rw [Sizing.length_edges spans.edges_eq]
  omega

theorem edges_mono (spans : r.Spans length) {i j : Nat} (hij : i ≤ j) (hj : j < r.edges.length) :
    edgeAt r.edges i ≤ edgeAt r.edges j := by
  rw [Sizing.length_edges spans.edges_eq] at hj
  apply Sizing.edges_mono spans.edges_eq hij
  omega

/-- An axis with the same demands that is longer has edges that have grown. -/
theorem edges_grow {r' : Resolved} {length' : Int} (spans : r.Spans length)
    (spans' : r'.Spans length') (hgathered : r.toGathered = r'.toGathered)
    (hle : length ≤ length') : EdgesGrow (length' - length) r.edges r'.edges := by
  have hedges' := spans'.edges_eq
  rw [← hgathered] at hedges'
  exact Sizing.edges_grow spans.edges_eq hedges' hle

end Resolved.Spans

namespace SizedBy

variable {tracks : PerAxis Tracks} {cells : Cells (PerAxis Resolved) LayoutCell K} {size : Size}
  {frame : PerAxis Resolved}

theorem column (sized : SizedBy tracks cells size frame) : frame.x.Spans size.x := by
  obtain ⟨demands, -, hgathered⟩ := Checked.bind_eq_ok_iff.mp sized.columns
  exact (Resolved.spans_of_resolve hgathered sized.column_edges).1

theorem row (sized : SizedBy tracks cells size frame) : frame.y.Spans size.y := by
  obtain ⟨demands, -, hgathered⟩ := Checked.bind_eq_ok_iff.mp sized.rows
  exact (Resolved.spans_of_resolve hgathered sized.row_edges).1

theorem column_demands (sized : SizedBy tracks cells size frame) :
    frame.x.sizing.demands = (columnItems cells).map Item.exactRequest := by
  obtain ⟨demands, hdemands, hgathered⟩ := Checked.bind_eq_ok_iff.mp sized.columns
  rw [(Resolved.spans_of_resolve hgathered sized.column_edges).2,
    Checked.eq_map_of_mapM_eq_ok (fun i _ _ => Item.request_eq_ok) hdemands]

theorem row_demands (sized : SizedBy tracks cells size frame) :
    frame.y.sizing.demands = (layoutRows cells).map (·.exactRequest (layoutRows cells)) := by
  obtain ⟨demands, hdemands, hgathered⟩ := Checked.bind_eq_ok_iff.mp sized.rows
  rw [(Resolved.spans_of_resolve hgathered sized.row_edges).2,
    Checked.eq_map_of_mapM_eq_ok (fun c _ _ => RowItem.request_eq_ok) hdemands]

theorem column_resizable (sized : SizedBy tracks cells size frame) :
    frame.x.resizable = tracks.x.resizable := by
  obtain ⟨demands, -, hgathered⟩ := Checked.bind_eq_ok_iff.mp sized.columns
  exact (Gathered.preferred_eq hgathered).2.1

theorem row_resizable (sized : SizedBy tracks cells size frame) :
    frame.y.resizable = tracks.y.resizable := by
  obtain ⟨demands, -, hgathered⟩ := Checked.bind_eq_ok_iff.mp sized.rows
  exact (Gathered.preferred_eq hgathered).2.1

variable {l : LayoutCell}

/-- Every cell makes its demand on the columns. -/
theorem mem_column_demands (sized : SizedBy tracks cells size frame) (hl : l ∈ cells.infos) :
    l.x.item.exactRequest ∈ frame.x.sizing.demands := by
  rw [sized.column_demands]
  exact List.mem_map_of_mem (List.mem_map_of_mem hl)

/-- Every cell makes its own demand on the rows, or that of the line it shares. -/
theorem mem_row_demands (sized : SizedBy tracks cells size frame) (hl : l ∈ cells.infos) :
    l.y.item.exactRequest (layoutRows cells) ∈ frame.y.sizing.demands := by
  rw [sized.row_demands]
  exact List.mem_map_of_mem (List.mem_map_of_mem hl)

theorem column_stop_le (sized : SizedBy tracks cells size frame) (hl : l ∈ cells.infos) :
    l.x.item.placement.stop ≤ frame.x.sizing.count :=
  Sizing.stop_le_count (sized.mem_column_demands hl)

theorem row_stop_le (sized : SizedBy tracks cells size frame) (hl : l ∈ cells.infos) :
    l.y.item.placement.stop ≤ frame.y.sizing.count :=
  Sizing.stop_le_count (sized.mem_row_demands hl)

theorem column_stop_lt (sized : SizedBy tracks cells size frame) (hl : l ∈ cells.infos) :
    l.x.item.placement.stop < frame.x.edges.length :=
  sized.column.lt_length_edges (sized.column_stop_le hl)

theorem row_stop_lt (sized : SizedBy tracks cells size frame) (hl : l ∈ cells.infos) :
    l.y.item.placement.stop < frame.y.edges.length :=
  sized.row.lt_length_edges (sized.row_stop_le hl)

/-- In a grid that is wide enough, the columns of a cell have the length that it demands. -/
theorem column_extent (sized : SizedBy tracks cells size frame) (hl : l ∈ cells.infos)
    (hle : frame.x.preferred ≤ size.x) (hspan : 1 ≤ l.x.item.placement.span) :
    l.x.item.exactDemand ≤ l.x.item.placement.extent frame.x.edges :=
  Sizing.edges_meet sized.column.edges_eq sized.column.preferred_eq hle
    (sized.mem_column_demands hl) hspan

/-- In a grid that is high enough, the rows of a cell have the length that it demands. -/
theorem row_extent (sized : SizedBy tracks cells size frame) (hl : l ∈ cells.infos)
    (hle : frame.y.preferred ≤ size.y) (hspan : 1 ≤ l.y.item.placement.span) :
    (l.y.item.exactRequest (layoutRows cells)).size ≤ l.y.item.placement.extent frame.y.edges :=
  Sizing.edges_meet sized.row.edges_eq sized.row.preferred_eq hle (sized.mem_row_demands hl) hspan

end SizedBy

end FormGrid
