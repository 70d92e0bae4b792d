import FormGrid.Arrangement
import FormGrid.Proofs.Laid
import FormGrid.Snapshot

/-!
# Snapshots cell by cell

A snapshot shows every cell of a layout in its place. What it shows of the components is what an
arrangement lists, and from the bounds that it shows one can read off the baseline questions that
were asked: the components that may share a baseline are asked for it in the order of the snapshot,
at their final width and their preferred height.

## Main definitions

* `Site.Shows`: an entry shows a cell with given bounds
* `Snapshot.placed`, `Snapshot.asked`: what an arrangement lists, and the questions asked for it

## Main results

* `Grid.snapshot_eq_ok_iff`: the snapshots that are computed
* `Cells.Laid.place_eq_map_snapshot`, `Grid.arrange_eq_map_snapshot`: an arrangement and a snapshot
  agree, down to the overflow that ends both
* `Grid.asked_of_snapshot`: the questions are those of the components shown
* `Grid.entries_of_snapshot`: the components shown are the visible ones
-/

namespace FormGrid

variable {K : Type}

/-- The entry shows the cell `c`, whose bounds are computed by `bounds`. -/
structure Site.Shows (s : Site) (bounds : LayoutCell → Checked Rect) (c : LayoutCell)
    (e : Snapshot.Entry) : Prop where
  bounds_eq : bounds c = .ok e.bounds
  entry_eq : s.entry c e.bounds = .ok e

theorem Site.bounds_of_entry {s : Site} {c : LayoutCell} {bounds : Rect} {e : Snapshot.Entry}
    (h : s.entry c bounds = .ok e) : e.bounds = bounds := by
  simp only [entry, Checked.bind_eq_ok_iff, Checked.pure_eq_ok_iff] at h
  obtain ⟨slot, -, rfl⟩ := h
  rfl

namespace Site.Shows

variable {s : Site} {bounds : LayoutCell → Checked Rect} {c : LayoutCell} {e : Snapshot.Entry}

theorem eq_entry (h : s.Shows bounds c e) :
    e = ⟨c.constraints, s.exactSlot c.constraints, e.bounds,
      c.y.item.baseline.map Baseline.offset⟩ := by
  have hentry := h.entry_eq
  simp only [Site.entry, Checked.bind_eq_ok_iff, Checked.pure_eq_ok_iff] at hentry
  obtain ⟨slot, hslot, heq⟩ := hentry
  rw [← Site.slot_eq_ok hslot, heq]

theorem constraints_eq (h : s.Shows bounds c e) : e.constraints = c.constraints := by
  rw [h.eq_entry]

theorem slot_eq (h : s.Shows bounds c e) : e.slot = s.exactSlot c.constraints := by
  rw [h.eq_entry]

theorem component_bounds (h : s.Shows s.componentBounds c e) : e.bounds = s.exactBounds c :=
  Site.componentBounds_eq_ok h.bounds_eq

theorem grid_bounds (h : s.Shows s.gridBounds c e) : e.bounds = s.exactGridBounds c :=
  Site.gridBounds_eq_ok h.bounds_eq

end Site.Shows

/-- Components with the bounds that are shown of them. -/
def Snapshot.placed (entries : List (K × Snapshot.Entry)) : List (K × Rect) :=
  entries.map fun e => (e.1, e.2.bounds)

/-- The baseline questions for components: each one that may share a baseline is asked for it at
its final width and its preferred height. -/
def Snapshot.asked (h : Host K) (entries : List (K × Snapshot.Entry)) : List (Query K) :=
  (entries.filter fun e => e.2.constraints.y.sharesBaseline).map fun e =>
    ⟨e.1, ⟨e.2.bounds.x.length, (h.preferredSize e.1).y⟩⟩

namespace Snapshot

theorem placed_append (entries more : List (K × Snapshot.Entry)) :
    placed (entries ++ more) = placed entries ++ placed more := List.map_append

theorem asked_append (h : Host K) (entries more : List (K × Snapshot.Entry)) :
    asked h (entries ++ more) = asked h entries ++ asked h more := by
  simp only [asked, List.filter_append, List.map_append]

end Snapshot

namespace Cells

variable {s : Site} {shown : Cells Snapshot.Pane Snapshot.Entry K}

/-! ## One cell of a snapshot -/

theorem snapshot_component_eq_ok_iff {c : LayoutCell} {key : K}
    {rest : Cells (PerAxis Resolved) LayoutCell K} :
    (component c key rest).snapshot s = .ok shown ↔
      ∃ e more, s.Shows s.componentBounds c e ∧ rest.snapshot s = .ok more ∧
        shown = component e key more := by
  simp only [snapshot, Checked.bind_eq_ok_iff, Checked.pure_eq_ok_iff]
  constructor
  · rintro ⟨bounds, hbounds, e, hentry, more, hmore, rfl⟩
    obtain rfl : e.bounds = bounds := Site.bounds_of_entry hentry
    exact ⟨e, more, ⟨hbounds, hentry⟩, hmore, rfl⟩
  · rintro ⟨e, more, shows, hmore, rfl⟩
    exact ⟨_, shows.bounds_eq, e, shows.entry_eq, more, hmore, rfl⟩

theorem snapshot_grid_eq_ok_iff {c : LayoutCell} {frame : PerAxis Resolved}
    {inner rest : Cells (PerAxis Resolved) LayoutCell K} :
    (grid c frame inner rest).snapshot s = .ok shown ↔
      ∃ e inside more, s.Shows s.gridBounds c e ∧
        inner.snapshot (Site.ofGrid frame inner e.bounds.origin) = .ok inside ∧
        rest.snapshot s = .ok more ∧ shown = grid e (.ofFrame frame e.bounds) inside more := by
  simp only [snapshot, Checked.bind_eq_ok_iff, Checked.pure_eq_ok_iff]
  constructor
  · rintro ⟨bounds, hbounds, inside, hinside, e, hentry, more, hmore, rfl⟩
    obtain rfl : e.bounds = bounds := Site.bounds_of_entry hentry
    exact ⟨e, inside, more, ⟨hbounds, hentry⟩, hinside, hmore, rfl⟩
  · rintro ⟨e, inside, more, shows, hinside, hmore, rfl⟩
    exact ⟨_, shows.bounds_eq, inside, hinside, e, shows.entry_eq, more, hmore, rfl⟩

/-! ## Components and questions -/

variable {h : Host K} {tracks : PerAxis Tracks} {edges : PerAxis (List Int)}
  {cells : Cells (PerAxis Tracks) Constraints K} {out : Cells (PerAxis Resolved) LayoutCell K}
  {asked : List (Query K)}

/-- A component in a snapshot stands for a cell of the layout, and of the grid. -/
theorem Laid.exists_of_mem_toList {e : Snapshot.Entry} {key : K}
    (laid : Laid h tracks edges cells out asked) (hshown : out.snapshot s = .ok shown)
    (hmem : Cell.component e key ∈ shown.toList) :
    ∃ c l query, l ∈ out.infos ∧ l.Fits tracks edges c (h.preferredSize key) ∧
      RowItem.measure h key l.x (tracks.y.item c.y (h.preferredSize key).y) =
        .ok ⟨l.y.item, query⟩ ∧
      s.Shows s.componentBounds l e := by
  induction laid generalizing shown with
  | nil =>
    cases hshown
    cases hmem
  | @component _ _ c l _ _ _ query _ _ fits measured _ ih =>
    obtain ⟨e', more, shows, hmore, rfl⟩ := snapshot_component_eq_ok_iff.mp hshown
    rcases List.mem_cons.mp hmem with heq | hmem
    · cases heq
      exact ⟨c, l, query, List.mem_cons_self, fits, measured, shows⟩
    · obtain ⟨c, l, query, hl, hrest⟩ := ih hmore hmem
      exact ⟨c, l, query, List.mem_cons_of_mem _ hl, hrest⟩
  | grid _ _ _ _ _ _ _ ih =>
    obtain ⟨e', inside, more, shows, hinside, hmore, rfl⟩ := snapshot_grid_eq_ok_iff.mp hshown
    rcases List.mem_cons.mp hmem with heq | hmem
    · cases heq
    · obtain ⟨c, l, query, hl, hrest⟩ := ih hmore hmem
      exact ⟨c, l, query, List.mem_cons_of_mem _ hl, hrest⟩

/-- The components shown are those laid out, with their constraints. -/
theorem Laid.entries_shown (laid : Laid h tracks edges cells out asked)
    (hshown : out.snapshot s = .ok shown) :
    shown.entries.map (fun e => (e.1, e.2.constraints)) = cells.entries := by
  induction laid generalizing s shown with
  | nil =>
    cases hshown
    rfl
  | component _ fits _ _ ih =>
    obtain ⟨e, more, shows, hmore, rfl⟩ := snapshot_component_eq_ok_iff.mp hshown
    simp only [entries, List.map_cons, ih hmore, shows.constraints_eq, fits.constraints_eq]
  | grid _ _ _ _ _ _ ihInner ihRest =>
    obtain ⟨e, inside, more, shows, hinside, hmore, rfl⟩ := snapshot_grid_eq_ok_iff.mp hshown
    simp only [entries, List.map_append, ihInner hinside, ihRest hmore]

/-- The baseline questions are those of the components shown. -/
theorem Laid.asked_eq (laid : Laid h tracks edges cells out asked)
    (hshown : out.snapshot s = .ok shown) : asked = Snapshot.asked h shown.entries := by
  induction laid generalizing s shown with
  | nil =>
    cases hshown
    rfl
  | @component _ _ c l key _ _ asked later _ fits measured _ ih =>
    obtain ⟨e, more, shows, hmore, rfl⟩ := snapshot_component_eq_ok_iff.mp hshown
    have hconstraints : e.constraints = c := shows.constraints_eq.trans fits.constraints_eq
    have hwidth : e.bounds.x.length = l.x.item.exactDrawnLength l.x.room := by
      rw [shows.component_bounds]
      rfl
    have hasked : asked = Snapshot.asked h [(key, e)] := by
      have hqueries := congrArg Measured.queries (RowItem.measure_eq_ok measured)
      unfold RowItem.exactMeasure at hqueries
      unfold Snapshot.asked
      cases hshares : c.y.sharesBaseline with
      | true => simpa [hconstraints, hwidth, Tracks.item, hshares] using hqueries
      | false => simpa [hconstraints, Tracks.item, hshares] using hqueries
    rw [hasked, ih hmore, ← Snapshot.asked_append]
    rfl
  | grid _ _ _ _ _ _ ihInner ihRest =>
    obtain ⟨e, inside, more, shows, hinside, hmore, rfl⟩ := snapshot_grid_eq_ok_iff.mp hshown
    rw [ihInner hinside, ihRest hmore, ← Snapshot.asked_append]
    rfl

end Cells

/-! ## Slots are computed where bounds are

A slot is computed in addition to the bounds of a cell. Its corner is the first step on the way to
the bounds, and its extent the first step on the way to the room, so it adds no overflow. -/

namespace Item

variable {i : Item} {edges : List Int} {origin : Int}

theorem start_of_lead {n : Int} (h : i.lead edges origin = .ok n) :
    ∃ start, Pixel.add origin (edgeAt edges i.placement.start) = .ok start := by
  obtain ⟨start, hstart, -⟩ := Checked.bind_eq_ok_iff.mp h
  exact ⟨start, hstart⟩

theorem start_of_segment {room : Int} {segment : Segment}
    (h : i.segment room edges origin = .ok segment) :
    ∃ start, Pixel.add origin (edgeAt edges i.placement.start) = .ok start := by
  simp only [Item.segment, Checked.bind_eq_ok_iff] at h
  obtain ⟨length, -, lead, hlead, -⟩ := h
  exact start_of_lead hlead

theorem extent_of_room {room : Int} (h : i.room edges = .ok room) :
    ∃ extent, Pixel.sub (edgeAt edges i.placement.stop) (edgeAt edges i.placement.start) =
      .ok extent := by
  obtain ⟨extent, hextent, -⟩ := Checked.bind_eq_ok_iff.mp h
  exact ⟨extent, hextent⟩

end Item

namespace Site

variable {s : Site} {l : LayoutCell}

theorem start_of_rowSegment {row : Fitted RowItem} {segment : Segment}
    (h : s.rowSegment row = .ok segment) :
    ∃ start, Pixel.add s.origin.y (edgeAt s.rows row.item.placement.start) = .ok start := by
  unfold rowSegment at h
  cases hshared : row.item.shared? s.cells with
  | none => exact Item.start_of_segment (by simpa only [hshared] using h)
  | some pair =>
    simp only [hshared, Checked.bind_eq_ok_iff] at h
    obtain ⟨height, -, top, htop, -⟩ := h
    exact ⟨top, htop⟩

/-- A cell with bounds is shown, if its corner lies on the screen. -/
theorem exists_shows {tracks : PerAxis Tracks} {c : Constraints} {natural : Size}
    (fits : l.Fits tracks s.edges c natural) {bounds : LayoutCell → Checked Rect} {r : Rect}
    (hbounds : bounds l = .ok r)
    (hleft : ∃ left, Pixel.add s.origin.x (edgeAt s.columns l.constraints.x.start) = .ok left)
    (hupper : ∃ upper, Pixel.add s.origin.y (edgeAt s.rows l.constraints.y.start) = .ok upper) :
    ∃ e, s.Shows bounds l e ∧ e.bounds = r := by
  obtain ⟨left, hleft⟩ := hleft
  obtain ⟨upper, hupper⟩ := hupper
  obtain ⟨width, hwidth⟩ := Item.extent_of_room fits.column_room
  obtain ⟨height, hheight⟩ := Item.extent_of_room fits.row_room
  have hslot : s.slot l.constraints = .ok ⟨⟨left, width⟩, ⟨upper, height⟩⟩ := by
    simp only [slot, Checked.bind_eq_ok_iff, Checked.pure_eq_ok_iff]
    exact ⟨left, hleft, upper, hupper, width, hwidth, height, hheight, rfl⟩
  obtain ⟨e, hentry⟩ : ∃ e, s.entry l r = .ok e := by
    simp only [entry, Checked.bind_eq_ok_iff, Checked.pure_eq_ok_iff]
    exact ⟨_, _, hslot, rfl⟩
  obtain rfl : e.bounds = r := bounds_of_entry hentry
  exact ⟨e, ⟨hbounds, hentry⟩, rfl⟩

theorem exists_shows_component {tracks : PerAxis Tracks} {c : Constraints} {natural : Size}
    (fits : l.Fits tracks s.edges c natural) {r : Rect} (hbounds : s.componentBounds l = .ok r) :
    ∃ e, s.Shows s.componentBounds l e ∧ e.bounds = r := by
  have hsteps := hbounds
  simp only [componentBounds, Checked.bind_eq_ok_iff] at hsteps
  obtain ⟨column, hcolumn, row, hrow, -⟩ := hsteps
  exact exists_shows fits hbounds (Item.start_of_segment hcolumn) (start_of_rowSegment hrow)

theorem exists_shows_grid {tracks : PerAxis Tracks} {c : Constraints} {natural : Size}
    (fits : l.Fits tracks s.edges c natural) {r : Rect} (hbounds : s.gridBounds l = .ok r) :
    ∃ e, s.Shows s.gridBounds l e ∧ e.bounds = r := by
  have hsteps := hbounds
  simp only [gridBounds, Checked.bind_eq_ok_iff] at hsteps
  obtain ⟨left, hleft, upper, hupper, -⟩ := hsteps
  exact exists_shows fits hbounds (Item.start_of_lead hleft) (Item.start_of_lead hupper)

end Site

/-- The components of cells are placed as a snapshot shows them, and where there is no snapshot, there
is the same overflow. -/
theorem Cells.Laid.place_eq_map_snapshot {h : Host K} {tracks : PerAxis Tracks}
    {edges : PerAxis (List Int)} {cells : Cells (PerAxis Tracks) Constraints K}
    {out : Cells (PerAxis Resolved) LayoutCell K} {asked : List (Query K)}
    (laid : Laid h tracks edges cells out asked) {s : Site} (hedges : s.edges = edges) :
    out.place s = (out.snapshot s).map fun shown => Snapshot.placed shown.entries := by
  -- both take the same steps, apart from the slots, and these succeed once there are bounds
  induction laid generalizing s with
  | nil => rfl
  | component _ fits _ _ ih =>
    subst hedges
    rw [place, snapshot, ih rfl, Checked.map_bind]
    refine Checked.bind_congr fun bounds hbounds => ?_
    obtain ⟨e, shows, rfl⟩ := Site.exists_shows_component fits hbounds
    rw [shows.entry_eq, Checked.ok_bind, Checked.map_bind, Checked.bind_map]
    rfl
  | grid _ fits _ _ _ _ ihInner ihRest =>
    subst hedges
    rw [place, snapshot, ihRest rfl, Checked.map_bind]
    refine Checked.bind_congr fun bounds hbounds => ?_
    obtain ⟨e, shows, rfl⟩ := Site.exists_shows_grid fits hbounds
    rw [ihInner rfl, Checked.map_bind, Checked.bind_map]
    refine Checked.bind_congr fun inside _ => ?_
    rw [shows.entry_eq, Checked.ok_bind, Checked.map_bind, Checked.bind_map]
    refine Checked.bind_congr fun others _ => ?_
    rw [← Snapshot.placed_append]
    rfl

/-! ## Grids -/

namespace Grid

variable {h : Host K} {g : Grid K} {rect : Rect} {shown : Snapshot K} {asked : List (Query K)}

/-- A snapshot is computed exactly when it shows the cells of a layout that has the size of the
rectangle. -/
theorem snapshot_eq_ok_iff :
    g.snapshot h rect = .ok ⟨shown, asked⟩ ↔ ∃ layout : Layout K,
      Cells.Laid h g.frame (edgesOf layout.frame) (g.cells.visible h) layout.cells asked ∧
        SizedBy g.frame layout.cells rect.size layout.frame ∧
        layout.cells.snapshot (Site.ofGrid layout.frame layout.cells rect.origin) =
          .ok shown.cells ∧
        shown.frame = .ofFrame layout.frame rect := by
  simp only [Grid.snapshot, Layout.snapshot, layoutIn, Checked.bind_eq_ok_iff,
    Checked.pure_eq_ok_iff]
  constructor
  · rintro ⟨⟨layout, queries⟩, hlayout, _, ⟨cells, hcells, rfl⟩, heq⟩
    cases heq
    obtain ⟨laid, sized⟩ := layout_eq_ok_iff.mp hlayout
    exact ⟨layout, laid, sized, hcells, rfl⟩
  · rintro ⟨layout, laid, sized, hcells, hframe⟩
    refine ⟨⟨layout, asked⟩, layout_eq_ok_iff.mpr ⟨laid, sized⟩, shown, ⟨_, hcells, ?_⟩, rfl⟩
    rw [← hframe]

/-- An arrangement lists what a snapshot shows of the components, after the same questions, and where
there is no snapshot, there is the same overflow. -/
theorem arrange_eq_map_snapshot (h : Host K) (g : Grid K) (rect : Rect) :
    g.arrange h rect = (g.snapshot h rect).map fun m =>
      ⟨Snapshot.placed m.value.cells.entries, m.queries⟩ := by
  rw [arrange, Grid.snapshot, Checked.map_bind]
  refine Checked.bind_congr fun layout hlayout => ?_
  obtain ⟨laid, -⟩ := layout_eq_ok_iff.mp hlayout
  rw [Layout.place, Layout.snapshot, laid.place_eq_map_snapshot rfl]
  cases layout.value.cells.snapshot
    (Site.ofGrid layout.value.frame layout.value.cells rect.origin) <;> rfl

/-- Where there is a snapshot, the arrangement lists the components it shows. -/
theorem arrange_of_snapshot (hshown : g.snapshot h rect = .ok ⟨shown, asked⟩) :
    g.arrange h rect = .ok ⟨Snapshot.placed shown.cells.entries, asked⟩ := by
  rw [arrange_eq_map_snapshot, hshown]
  rfl

/-- Where there is an arrangement, there is a snapshot that shows what it lists. -/
theorem snapshot_of_arrange {placed : List (K × Rect)}
    (hplaced : g.arrange h rect = .ok ⟨placed, asked⟩) :
    ∃ shown, g.snapshot h rect = .ok ⟨shown, asked⟩ ∧
      placed = Snapshot.placed shown.cells.entries := by
  rw [arrange_eq_map_snapshot] at hplaced
  cases hshown : g.snapshot h rect with
  | error o =>
    rw [hshown] at hplaced
    cases hplaced
  | ok m =>
    rw [hshown] at hplaced
    cases hplaced
    exact ⟨m.value, rfl, rfl⟩

/-- The questions asked for a snapshot are those of the components it shows. -/
theorem asked_of_snapshot (hshown : g.snapshot h rect = .ok ⟨shown, asked⟩) :
    asked = Snapshot.asked h shown.cells.entries := by
  obtain ⟨layout, laid, -, hcells, -⟩ := snapshot_eq_ok_iff.mp hshown
  exact laid.asked_eq hcells

/-- The components shown are the visible ones, in registration order. -/
theorem entries_of_snapshot (hshown : g.snapshot h rect = .ok ⟨shown, asked⟩) :
    shown.cells.entries.map (fun e => (e.1, e.2.constraints)) =
      g.cells.entries.filter fun e => h.isVisible e.1 := by
  obtain ⟨layout, laid, -, hcells, -⟩ := snapshot_eq_ok_iff.mp hshown
  rw [laid.entries_shown hcells, Cells.entries_visible]

end Grid

end FormGrid
