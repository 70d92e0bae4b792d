import FormGrid.Proofs.Demands
import FormGrid.Proofs.Nesting
import FormGrid.Proofs.Registry
import Mathlib.Data.Set.BooleanAlgebra
import Mathlib.Order.CompletePartialOrder

/-!
# Components stay in their cells

A grid that has at least its preferred size keeps the components in it apart: the content of each,
that is its bounds without the paddings that it paints itself, lies in the tracks of its cell, and
so it shares no point with the content of another component. A shared line does not push content
out of its row, because the row is as high as the line demands. A nested grid has all the room of
its cell, which is at least what it prefers, so the same is true inside.

## Main definitions

* `Segment.points`, `Rect.points`: half-open sets of points
* `Snapshot.Entry.content`: the bounds without paddings
* `Grid.Regular`: a grid with cells that cover tracks and with gaps that are not negative
* `Site.Holds`: the tracks of a grid suffice for a cell
* `Snapshot.Tidy`: components that stay in their cells

## Main results

* `Cells.Laid.tidy`: the cells of one grid, and the grids in them
* `Grid.snapshot_contained`: whole forms
-/

namespace FormGrid

variable {K : Type}

/-! ## Points -/

/-- The points of a segment, its end not counted. -/
def Segment.points (s : Segment) : Set Int := {n | s.start ≤ n ∧ n < s.start + s.length}

/-- The points of a rectangle, its right and its lower edge not counted. -/
def Rect.points (r : Rect) : Set (PerAxis Int) := {p | p.x ∈ r.x.points ∧ p.y ∈ r.y.points}

theorem Rect.points_subset {r r' : Rect} (hx : r.x.points ⊆ r'.x.points)
    (hy : r.y.points ⊆ r'.y.points) : r.points ⊆ r'.points :=
  fun _ hp => ⟨hx hp.1, hy hp.2⟩

/-- The bounds without the paddings that the component paints itself. -/
def Snapshot.Entry.content (e : Snapshot.Entry) : Rect :=
  ⟨e.bounds.x.shrink e.constraints.x.padding, e.bounds.y.shrink e.constraints.y.padding⟩

/-! ## Regular grids -/

/-- No side of the margin is negative. -/
def Margin.Nonneg (m : Margin) : Prop := 0 ≤ m.before ∧ 0 ≤ m.after

instance (m : Margin) : Decidable m.Nonneg := inferInstanceAs (Decidable (_ ∧ _))

/-- No track has a negative gap. -/
def Tracks.Regular (t : Tracks) : Prop := ∀ m ∈ t.gaps, m.Nonneg

instance (t : Tracks) : Decidable t.Regular := inferInstanceAs (Decidable (∀ m ∈ t.gaps, m.Nonneg))

/-- A track is covered, and no gap is negative. -/
structure Placement.Regular (p : Placement) : Prop where
  span_pos : 1 ≤ p.span
  gap_nonneg : p.gap.Nonneg

/-- Both placements are regular. -/
structure Constraints.Regular (c : Constraints) : Prop where
  column : c.x.Regular
  row : c.y.Regular

/-- A regular cell without paddings. -/
structure Constraints.Bare (c : Constraints) : Prop extends c.Regular where
  column_padding : c.x.padding = .none
  row_padding : c.y.padding = .none

/-- All cells in the grid are regular, at all depths and with all tracks, and the cells with grids
have no paddings. -/
def Grid.Regular (g : Grid K) : Prop :=
  (g.frame.x.Regular ∧ g.frame.y.Regular) ∧
    g.cells.Each (fun f => f.x.Regular ∧ f.y.Regular) Constraints.Regular Constraints.Bare

theorem Tracks.Regular.gapAround {t : Tracks} (h : t.Regular) (p : Placement) :
    (t.gapAround p).Nonneg := by
  have hgap : ∀ track, (t.gapOf track).Nonneg := by
    intro track
    unfold gapOf
    rw [List.getD_eq_getElem?_getD]
    cases hget : t.gaps[track]? with
    | none => exact ⟨le_rfl, le_rfl⟩
    | some m => exact h m (List.mem_of_getElem? hget)
  exact ⟨(hgap _).1, (hgap _).2⟩

/-! ## One cell -/

namespace Item

variable {i : Item} {edges : List Int} {origin : Int}

/-- The room of a cell lies on its tracks. -/
theorem room_points_subset (hgap : i.placement.gap.Nonneg) (htrack : i.trackGap.Nonneg) :
    (⟨i.exactLead edges origin, i.exactRoom edges⟩ : Segment).points ⊆
      (⟨origin + edgeAt edges i.placement.start, i.placement.extent edges⟩ : Segment).points := by
  rintro n ⟨hstart, hstop⟩
  obtain ⟨hbefore, hafter⟩ := hgap
  obtain ⟨hbefore', hafter'⟩ := htrack
  simp only [exactLead, exactRoom, exactGap, Margin.exactTotal] at hstart hstop
  constructor <;> dsimp only <;> omega

/-- Without paddings, tracks that are as long as demanded leave room for the natural extent. -/
theorem natural_le_room (hpadding : i.placement.padding = .none)
    (h : i.exactDemand ≤ i.placement.extent edges) : i.natural ≤ i.exactRoom edges := by
  simp only [exactDemand, hpadding, Margin.none, Margin.exactTotal] at h
  unfold exactRoom
  omega

/-- The content of a cell lies in its room. -/
theorem segment_points_subset (i : Item) (room : Int) :
    (i.exactSegment room edges origin).points ⊆
      (⟨i.exactLead edges origin, room⟩ : Segment).points := by
  rintro n ⟨hstart, hstop⟩
  have hslack := i.exactSlack_nonneg room
  have hfits := i.exactSlack_add_exactLength_le room
  simp only [exactSegment] at hstart hstop
  constructor <;> dsimp only <;> omega

end Item

theorem LayoutCell.Fits.trackGap_nonneg {tracks : PerAxis Tracks} {edges : PerAxis (List Int)}
    {c : Constraints} {natural : Size} {l : LayoutCell} (fits : l.Fits tracks edges c natural)
    (htracks : tracks.x.Regular ∧ tracks.y.Regular) :
    l.x.item.trackGap.Nonneg ∧ l.y.item.trackGap.Nonneg := by
  rw [fits.column, fits.row]
  exact ⟨htracks.1.gapAround _, htracks.2.gapAround _⟩

/-! ## The cells of one grid -/

/-- The edges of a site are in order. -/
structure Site.Ordered (s : Site) : Prop where
  columns : ∀ {i j : Nat}, i ≤ j → j < s.columns.length → edgeAt s.columns i ≤ edgeAt s.columns j
  rows : ∀ {i j : Nat}, i ≤ j → j < s.rows.length → edgeAt s.rows i ≤ edgeAt s.rows j

/-- A cell covers tracks of the site, and these have the length that it demands. -/
structure Site.Holds (s : Site) (l : LayoutCell) : Prop where
  member : l.y.item ∈ s.cells
  column_stop : l.constraints.x.stop < s.columns.length
  row_stop : l.constraints.y.stop < s.rows.length
  width : l.x.item.exactDemand ≤ l.x.item.placement.extent s.columns
  height : (l.y.item.exactRequest s.cells).size ≤ l.y.item.placement.extent s.rows

namespace Site

variable {s : Site} {l : LayoutCell}

theorem Shows.content_eq {e : Snapshot.Entry} (shows : s.Shows s.componentBounds l e) :
    e.content = s.exactContent l := by
  unfold Snapshot.Entry.content
  rw [shows.constraints_eq, shows.component_bounds]
  simp only [exactBounds, Segment.shrink_grow]

/-- The content of a component lies in the rows of its cell, also if it shares a line. -/
theorem row_points_subset (holds : s.Holds l) (hroom : l.y.room = l.y.item.exactRoom s.rows)
    (hgap : l.y.item.placement.gap.Nonneg) (htrack : l.y.item.trackGap.Nonneg)
    (hbaseline : ∀ b, l.y.item.baseline = some b → l.y.item.HasBaseline b) :
    (s.exactRowSegment l.y).points ⊆ (s.exactSlot l.constraints).y.points := by
  unfold exactRowSegment
  cases hshared : l.y.item.shared? s.cells with
  | none =>
    rw [hroom]
    exact (Item.segment_points_subset _ _).trans (Item.room_points_subset hgap htrack)
  | some pair =>
    obtain ⟨b, line⟩ := pair
    have hb := hbaseline b (RowItem.shared?_eq_some_iff.mp hshared).1
    have hneeded := RowItem.le_shared holds.member hshared
    rw [hb.eq_exactBaseline] at hneeded
    have hheight := holds.height
    simp only [RowItem.exactRequest, hshared] at hheight
    obtain ⟨habove, hbelow⟩ := line.exactOffset_bounds l.y.item.placement.align hheight
    have hlength : l.y.item.exactLength l.y.room ≤
        l.y.item.natural - l.y.item.placement.padding.exactTotal := by
      unfold Item.exactLength
      split
      · exact absurd ‹_› hb.not_fill
      · exact min_le_right _ _
    rintro n ⟨hstart, hstop⟩
    obtain ⟨hbefore, hafter⟩ := hgap
    obtain ⟨hbefore', hafter'⟩ := htrack
    simp only [Item.exactBaseline] at hneeded
    simp only [Margin.exactTotal] at hlength
    dsimp only at hstart hstop
    show s.origin.y + edgeAt s.rows l.y.item.placement.start ≤ n ∧
      n < s.origin.y + edgeAt s.rows l.y.item.placement.start +
        l.y.item.placement.extent s.rows
    constructor <;> omega

variable {tracks : PerAxis Tracks} {c : Constraints} {natural : Size}

/-- The content of a component lies in the tracks of its cell. -/
theorem content_points_subset (holds : s.Holds l) (fits : l.Fits tracks s.edges c natural)
    (htracks : tracks.x.Regular ∧ tracks.y.Regular) (hc : c.Regular)
    (hbaseline : ∀ b, l.y.item.baseline = some b → l.y.item.HasBaseline b) :
    (s.exactContent l).points ⊆ (s.exactSlot c).points := by
  obtain ⟨hcolumnGap, hrowGap⟩ := fits.trackGap_nonneg htracks
  rw [← fits.constraints_eq] at hc ⊢
  apply Rect.points_subset
  · show (l.x.item.exactSegment l.x.room s.columns s.origin.x).points ⊆ _
    rw [Item.room_eq_ok fits.column_room]
    exact (Item.segment_points_subset _ _).trans
      (Item.room_points_subset hc.column.gap_nonneg hcolumnGap)
  · exact row_points_subset holds (Item.room_eq_ok fits.row_room) hc.row.gap_nonneg hrowGap
      hbaseline

/-- The bounds of a nested grid lie in the tracks of its cell. -/
theorem grid_points_subset (fits : l.Fits tracks s.edges c natural)
    (htracks : tracks.x.Regular ∧ tracks.y.Regular) (hc : c.Regular) :
    (s.exactGridBounds l).points ⊆ (s.exactSlot c).points := by
  obtain ⟨hcolumnGap, hrowGap⟩ := fits.trackGap_nonneg htracks
  rw [← fits.constraints_eq] at hc ⊢
  apply Rect.points_subset
  · show (⟨l.x.item.exactLead s.columns s.origin.x, l.x.room⟩ : Segment).points ⊆ _
    rw [Item.room_eq_ok fits.column_room]
    exact Item.room_points_subset hc.column.gap_nonneg hcolumnGap
  · show (⟨l.y.item.exactLead s.rows s.origin.y, l.y.room⟩ : Segment).points ⊆ _
    rw [Item.room_eq_ok fits.row_room]
    exact Item.room_points_subset hc.row.gap_nonneg hrowGap

/-- The room of a cell is enough for what the nested grid in it prefers. -/
theorem natural_le_room (holds : s.Holds l) (fits : l.Fits tracks s.edges c natural)
    (hc : c.Bare) (hbare : l.y.item.baseline = none) :
    natural.x ≤ l.x.room ∧ natural.y ≤ l.y.room := by
  rw [← fits.constraints_eq] at hc
  have hcolumn : l.x.item.natural = natural.x := by rw [fits.column]; rfl
  have hrow : l.y.item.natural = natural.y := by rw [fits.row]; rfl
  rw [← hcolumn, ← hrow, Item.room_eq_ok fits.column_room, Item.room_eq_ok fits.row_room]
  refine ⟨Item.natural_le_room hc.column_padding holds.width,
    Item.natural_le_room hc.row_padding ?_⟩
  have hdemand := RowItem.exactDemand_le_size_exactRequest holds.member
    fun b hb => nomatch hbare.symm.trans hb
  exact hdemand.trans holds.height

/-- Cells that lie apart share no point. -/
theorem disjoint_slots (ordered : s.Ordered) {c d : Constraints} (hapart : c.Apart d)
    (hc : c.x.stop < s.columns.length ∧ c.y.stop < s.rows.length)
    (hd : d.x.stop < s.columns.length ∧ d.y.stop < s.rows.length) :
    Disjoint (s.exactSlot c).points (s.exactSlot d).points := by
  have hstart : ∀ p : Placement, p.start ≤ p.stop := fun p => Nat.le_add_right _ _
  rw [Set.disjoint_left]
  rintro p ⟨⟨hxc, hxc'⟩, ⟨hyc, hyc'⟩⟩ ⟨⟨hxd, hxd'⟩, ⟨hyd, hyd'⟩⟩
  simp only [exactSlot, Placement.extent] at hxc hxc' hyc hyc' hxd hxd' hyd hyd'
  rcases hapart with (hlt | hlt) | (hlt | hlt)
  · have := ordered.columns hlt ((hstart d.x).trans_lt hd.1)
    omega
  · have := ordered.columns hlt ((hstart c.x).trans_lt hc.1)
    omega
  · have := ordered.rows hlt ((hstart d.y).trans_lt hd.2)
    omega
  · have := ordered.rows hlt ((hstart c.y).trans_lt hc.2)
    omega

end Site

/-! ## A grid of its preferred size -/

/-- The tracks of an axis of its preferred length, or a longer one, lie on it. -/
theorem Resolved.Spans.slot_points_subset {r : Resolved} {length : Int} (spans : r.Spans length)
    (hle : r.preferred ≤ length) {p : Placement} (hstop : p.stop ≤ r.sizing.count)
    (origin : Int) :
    (⟨origin + edgeAt r.edges p.start, p.extent r.edges⟩ : Segment).points ⊆
      (⟨origin, length⟩ : Segment).points := by
  have hstart : p.start ≤ p.stop := Nat.le_add_right _ _
  have hfirst := Sizing.edges_mono spans.edges_eq (Nat.zero_le _) (hstart.trans hstop)
  rw [Sizing.edgeAt_zero spans.edges_eq] at hfirst
  have hlast := Sizing.edgeAt_le_total spans.edges_eq spans.preferred_eq hle hstop
  rintro n ⟨hn, hn'⟩
  simp only [Placement.extent] at hn hn'
  constructor <;> dsimp only <;> omega

namespace SizedBy

variable {tracks : PerAxis Tracks} {cells : Cells (PerAxis Resolved) LayoutCell K} {rect : Rect}
  {frame : PerAxis Resolved} {l : LayoutCell}

theorem ordered (sized : SizedBy tracks cells rect.size frame) :
    (Site.ofGrid frame cells rect.origin).Ordered :=
  ⟨sized.column.edges_mono, sized.row.edges_mono⟩

/-- In a grid of its preferred size, or a larger one, the tracks hold every regular cell. -/
theorem holds (sized : SizedBy tracks cells rect.size frame)
    (hwidth : frame.x.preferred ≤ rect.x.length) (hheight : frame.y.preferred ≤ rect.y.length)
    (hl : l ∈ cells.infos) (hregular : l.constraints.Regular) :
    (Site.ofGrid frame cells rect.origin).Holds l where
  member := List.mem_map_of_mem hl
  column_stop := sized.column_stop_lt hl
  row_stop := sized.row_stop_lt hl
  width := sized.column_extent hl hwidth hregular.column.span_pos
  height := sized.row_extent hl hheight hregular.row.span_pos

/-- In a grid of its preferred size, or a larger one, the cells lie in its bounds. -/
theorem slot_points_subset (sized : SizedBy tracks cells rect.size frame)
    (hwidth : frame.x.preferred ≤ rect.x.length) (hheight : frame.y.preferred ≤ rect.y.length)
    (hl : l ∈ cells.infos) :
    ((Site.ofGrid frame cells rect.origin).exactSlot l.constraints).points ⊆ rect.points :=
  Rect.points_subset
    (sized.column.slot_points_subset hwidth (sized.column_stop_le hl) rect.x.start)
    (sized.row.slot_points_subset hheight (sized.row_stop_le hl) rect.y.start)

end SizedBy

/-! ## All components -/

/-- The content of each component lies in the tracks of its own cell, and also in those of the cell
of the site in which it is nested. No two components share a point of content. -/
structure Snapshot.Tidy (s : Site) (cells : List Constraints)
    (entries : List (K × Snapshot.Entry)) : Prop where
  inside : ∀ e ∈ entries, ∃ c ∈ cells, e.2.content.points ⊆ (s.exactSlot c).points
  own : ∀ e ∈ entries, e.2.content.points ⊆ e.2.slot.points
  disjoint : entries.Pairwise fun e e' => Disjoint e.2.content.points e'.2.content.points

/-- Components in one cell, and components in cells that lie apart from it. -/
theorem Snapshot.Tidy.append {s : Site} {c : Constraints} {cells : List Constraints}
    {first others : List (K × Snapshot.Entry)} (hfirst : Tidy s [c] first)
    (hothers : Tidy s cells others)
    (hdisjoint : ∀ d ∈ cells, Disjoint (s.exactSlot c).points (s.exactSlot d).points) :
    Tidy s (c :: cells) (first ++ others) := by
  have hwithin : ∀ e ∈ first, e.2.content.points ⊆ (s.exactSlot c).points := by
    intro e he
    obtain ⟨c', hc', hsubset⟩ := hfirst.inside e he
    rwa [List.mem_singleton.mp hc'] at hsubset
  refine ⟨?_, ?_, ?_⟩
  · intro e he
    rcases List.mem_append.mp he with he | he
    · exact ⟨c, List.mem_cons_self, hwithin e he⟩
    · obtain ⟨d, hd, hsubset⟩ := hothers.inside e he
      exact ⟨d, List.mem_cons_of_mem _ hd, hsubset⟩
  · intro e he
    rcases List.mem_append.mp he with he | he
    · exact hfirst.own e he
    · exact hothers.own e he
  · refine List.pairwise_append.mpr ⟨hfirst.disjoint, hothers.disjoint, ?_⟩
    intro e he e' he'
    obtain ⟨d, hd, hsubset⟩ := hothers.inside e' he'
    exact (hdisjoint d hd).mono (hwithin e he) hsubset

namespace Cells

variable {h : Host K} {tracks : PerAxis Tracks} {edges : PerAxis (List Int)}
  {cells : Cells (PerAxis Tracks) Constraints K} {out : Cells (PerAxis Resolved) LayoutCell K}
  {asked : List (Query K)}

/-- A cell shares no point with the cells that lie apart from it. -/
theorem Laid.disjoint_slots (laid : Laid h tracks edges cells out asked) {s : Site}
    (ordered : s.Ordered) {l : LayoutCell} (held : s.Holds l) (holds : ∀ l ∈ out.infos, s.Holds l)
    (hapart : ∀ d ∈ cells.infos, l.constraints.Apart d) :
    ∀ d ∈ cells.infos,
      Disjoint (s.exactSlot l.constraints).points (s.exactSlot d).points := by
  intro d hd
  obtain ⟨l', hl', rfl⟩ := laid.exists_info hd
  exact Site.disjoint_slots ordered (hapart _ hd) ⟨held.column_stop, held.row_stop⟩
    ⟨(holds l' hl').column_stop, (holds l' hl').row_stop⟩

/-- All cells in a regular grid are regular. -/
theorem Laid.regular_of_mem (laid : Laid h tracks edges cells out asked)
    (hcells : cells.Each (fun f => f.x.Regular ∧ f.y.Regular) Constraints.Regular Constraints.Bare)
    {l : LayoutCell} (hl : l ∈ out.infos) : l.constraints.Regular := by
  have hmem : l.constraints ∈ cells.infos := laid.map_constraints ▸ List.mem_map_of_mem hl
  rcases hcells.infos _ hmem with hregular | hbare
  · exact hregular
  · exact hbare.toRegular

/-- Where the tracks hold all cells, the components in them are tidy. -/
theorem Laid.tidy (laid : Laid h tracks edges cells out asked) {s : Site} (hedges : s.edges = edges)
    (htracks : tracks.x.Regular ∧ tracks.y.Regular)
    (hcells : cells.Each (fun f => f.x.Regular ∧ f.y.Regular) Constraints.Regular Constraints.Bare)
    (hapart : cells.Apart) (ordered : s.Ordered) (holds : ∀ l ∈ out.infos, s.Holds l)
    {shown : Cells Snapshot.Pane Snapshot.Entry K} (hshown : out.snapshot s = .ok shown) :
    Snapshot.Tidy s cells.infos shown.entries := by
  induction laid generalizing s shown with
  | nil =>
    cases hshown
    exact ⟨fun _ he => (nomatch he), fun _ he => (nomatch he), .nil⟩
  | @component _ _ c l key _ _ _ _ _ fits measured others ih =>
    obtain ⟨e, more, shows, hmore, rfl⟩ := snapshot_component_eq_ok_iff.mp hshown
    subst hedges
    obtain ⟨hc, hrest⟩ := hcells
    obtain ⟨hcell, hapart⟩ := hapart
    obtain ⟨held, holds⟩ := List.forall_mem_cons.mp holds
    have hcontent : e.content.points ⊆ (s.exactSlot c).points := by
      rw [shows.content_eq]
      exact Site.content_points_subset held fits htracks hc fun b hb =>
        RowItem.hasBaseline_of_measure measured hb
    have hslot : e.slot = s.exactSlot c := by rw [shows.slot_eq, fits.constraints_eq]
    have hfirst : Snapshot.Tidy s [c] [(key, e)] := by
      refine ⟨?_, ?_, List.pairwise_singleton _ _⟩
      · simpa using hcontent
      · simpa [hslot] using hcontent
    apply hfirst.append (ih rfl htracks hrest hapart ordered holds hmore)
    rw [← fits.constraints_eq] at hcell ⊢
    exact others.disjoint_slots ordered held holds hcell
  | @grid _ _ c l inner _ inside _ _ _ frame axes _ fits bare sized nested others ihInner ihRest =>
    obtain ⟨e, shownInside, more, shows, hinside, hmore, rfl⟩ :=
      snapshot_grid_eq_ok_iff.mp hshown
    subst hedges
    obtain ⟨hc, hframe, hinner, hrest⟩ := hcells
    obtain ⟨hcell, hapartInner, hapart⟩ := hapart
    obtain ⟨held, holds⟩ := List.forall_mem_cons.mp holds
    have hbounds : e.bounds.points ⊆ (s.exactSlot c).points := by
      rw [shows.grid_bounds]
      exact Site.grid_points_subset fits htracks hc.toRegular
    have hsize : (⟨l.x.room, l.y.room⟩ : Size) = e.bounds.size := by
      rw [shows.grid_bounds]
      rfl
    rw [hsize] at sized
    obtain ⟨hwidth, hheight⟩ : axes.x.preferred ≤ e.bounds.x.length ∧
        axes.y.preferred ≤ e.bounds.y.length := by
      rw [shows.grid_bounds]
      exact Site.natural_le_room held fits hc bare
    have htidy := ihInner rfl hframe hinner hapartInner sized.ordered
      (fun l hl => sized.holds hwidth hheight hl (nested.regular_of_mem hinner hl)) hinside
    have hfirst : Snapshot.Tidy s [c] shownInside.entries := by
      refine ⟨?_, htidy.own, htidy.disjoint⟩
      intro e' he'
      obtain ⟨d, hd, hsubset⟩ := htidy.inside e' he'
      obtain ⟨l', hl', rfl⟩ := nested.exists_info hd
      have hslot := sized.slot_points_subset hwidth hheight hl'
      exact ⟨c, List.mem_singleton_self c, hsubset.trans (hslot.trans hbounds)⟩
    apply hfirst.append (ihRest rfl htracks hrest hapart ordered holds hmore)
    rw [← fits.constraints_eq] at hcell ⊢
    exact others.disjoint_slots ordered held holds hcell

end Cells

/-- In a rectangle that is at least as large as a form prefers, the content of every component lies
in the rectangle and in the tracks of its cell, and no two components share a point of content. -/
theorem Grid.snapshot_contained [DecidableEq K] {h : Host K} {g : Grid K} (built : g.Built)
    (regular : g.Regular) {rect : Rect} {shown : Snapshot K} {asked : List (Query K)}
    (hshown : g.snapshot h rect = .ok ⟨shown, asked⟩)
    (hwidth : shown.frame.preferred.x ≤ rect.x.length)
    (hheight : shown.frame.preferred.y ≤ rect.y.length) :
    (∀ e ∈ shown.cells.entries, e.2.content.points ⊆ rect.points ∧
        e.2.content.points ⊆ e.2.slot.points) ∧
      shown.cells.entries.Pairwise
        (fun e e' => Disjoint e.2.content.points e'.2.content.points) ∧
      shown.cells.entries.map (fun e => (e.1, e.2.constraints)) =
        g.cells.entries.filter fun e => h.isVisible e.1 := by
  obtain ⟨layout, laid, sized, hcells, hframe⟩ := snapshot_eq_ok_iff.mp hshown
  rw [hframe] at hwidth hheight
  have hregular := regular.2.visible h
  have htidy := laid.tidy rfl regular.1 hregular (built.apart.visible h) sized.ordered
    (fun l hl => sized.holds hwidth hheight hl (laid.regular_of_mem hregular hl)) hcells
  refine ⟨?_, htidy.disjoint, entries_of_snapshot hshown⟩
  intro e he
  obtain ⟨c, hc, hsubset⟩ := htidy.inside e he
  obtain ⟨l, hl, rfl⟩ := laid.exists_info hc
  exact ⟨hsubset.trans (sized.slot_points_subset hwidth hheight hl), htidy.own e he⟩

namespace Form

theorem buttons_built : buttons.Built := by
  have first := Grid.Built.empty.insert (rfl : Grid.empty.insert 4 (.single 0 0) = .ok _)
  have second := first.insert
    (rfl : Grid.insert _ 5 ((Constraints.single 1 0).withAlign .fill .center) = .ok _)
  exact second.settings buttons.frame

theorem grid_built : grid.Built := by
  have label := Grid.Built.empty.insert (rfl : Grid.empty.insert 1 (.single 0 0) = .ok _)
  have field := label.insert
    (rfl : Grid.insert _ 2 ((Constraints.single 1 0).withPaddings (.uniform 1)) = .ok _)
  have note := field.insert (rfl : Grid.insert _ 3 (.single 0 1) = .ok _)
  have filled := note.insertSubGrid buttons_built
    (rfl : Grid.insertSubGrid _ ((Constraints.single 1 1).withGaps (.uniform 2))
      (fun _ => ((), buttons)) = .ok ((), _))
  exact filled.settings grid.frame

theorem grid_regular : grid.Regular := by
  have regular : ∀ c : Constraints, 1 ≤ c.x.span ∧ c.x.gap.Nonneg → 1 ≤ c.y.span ∧ c.y.gap.Nonneg →
      c.Regular := fun c hx hy => ⟨⟨hx.1, hx.2⟩, ⟨hy.1, hy.2⟩⟩
  have hbuttons : Cells.Each (fun f : PerAxis Tracks => f.x.Regular ∧ f.y.Regular)
      Constraints.Regular Constraints.Bare buttons.cells :=
    ⟨regular _ (by decide) (by decide), regular _ (by decide) (by decide), trivial⟩
  exact ⟨⟨by decide, by decide⟩, regular _ (by decide) (by decide),
    regular _ (by decide) (by decide), regular _ (by decide) (by decide),
    ⟨regular _ (by decide) (by decide), rfl, rfl⟩, ⟨by decide, by decide⟩, hbuttons, trivial⟩

/-- The four visible components of the form keep apart in a rectangle with space for it. -/
theorem grid_contained : ∃ shown asked, grid.snapshot host rect = .ok ⟨shown, asked⟩ ∧
    shown.cells.entries.map Prod.fst = [1, 2, 4, 5] ∧
    (∀ e ∈ shown.cells.entries, e.2.content.points ⊆ rect.points ∧
      e.2.content.points ⊆ e.2.slot.points) ∧
    shown.cells.entries.Pairwise
      (fun e e' => Disjoint e.2.content.points e'.2.content.points) := by
  obtain ⟨shown, asked, hshown, hkeys, hwidth, hheight⟩ : ∃ shown asked,
      grid.snapshot host rect = .ok ⟨shown, asked⟩ ∧
      shown.cells.entries.map Prod.fst = [1, 2, 4, 5] ∧
      shown.frame.preferred.x ≤ rect.x.length ∧ shown.frame.preferred.y ≤ rect.y.length :=
    ⟨_, _, rfl, rfl, by decide, by decide⟩
  obtain ⟨hinside, hdisjoint, -⟩ :=
    Grid.snapshot_contained grid_built grid_regular hshown hwidth hheight
  exact ⟨shown, asked, hshown, hkeys, hinside, hdisjoint⟩

end Form

end FormGrid
