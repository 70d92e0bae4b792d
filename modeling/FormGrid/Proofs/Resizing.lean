import FormGrid.Proofs.Nesting
import FormGrid.Proofs.Placed

/-!
# Making a form wider or higher

When the rectangle of a form grows on one axis, everything in the form moves and grows on that axis
by no more than the rectangle does, and nothing moves back or shrinks. This holds in all grids at
all depths, for lengths of any sign, and for components on a shared line as well.

The two axes differ only in what the cells ask of them, and this is the same before and after the
rectangle grows: on the x axis always, and on the y axis where the widths are the same.

## Main definitions

* `Site.Stretched`: the cells of one grid are placed on an axis that has grown

## Main results

* `Cells.Laid.shown_grows`: the cells of one grid, and the grids in them
* `Grid.snapshot_grows`: whole forms
-/

namespace FormGrid

variable {K : Type}

/-! ## Growing segments -/

/-- Half of what grows grows, and by no more. -/
theorem half_grows {n n' : Int} (h : n ≤ n') : Grows (n' - n) (n.tdiv 2) (n'.tdiv 2) := by
  refine ⟨Int.tdiv_le_tdiv (by decide) h, ?_⟩
  rcases h.eq_or_lt with rfl | hlt
  · omega
  · -- rounding loses less than one on each side, and the halves are whole numbers
    have hn := Int.mul_tdiv_add_tmod n 2
    have hn' := Int.mul_tdiv_add_tmod n' 2
    have hrest := Int.tmod_lt_of_pos n (b := 2) (by decide)
    have hrest' := Int.lt_tmod_of_pos n' (b := 2) (by decide)
    omega

namespace EdgesGrow

variable {δ : Int} {edges edges' : List Int}

theorem edge (h : EdgesGrow δ edges edges') {i : Nat} (hi : i < edges.length) :
    Grows δ (edgeAt edges i) (edgeAt edges' i) := by
  have hfirst := h.first
  obtain ⟨hle, hge⟩ := h.widen (Nat.zero_le i) hi
  constructor <;> omega

/-- The tracks of a placement move and grow together by no more than `δ`. -/
theorem placement (h : EdgesGrow δ edges edges') {p : Placement} (hstop : p.stop < edges.length) :
    edgeAt edges p.start ≤ edgeAt edges' p.start ∧ p.extent edges ≤ p.extent edges' ∧
      edgeAt edges' p.start + p.extent edges' ≤ edgeAt edges p.start + p.extent edges + δ := by
  have hstart : p.start ≤ p.stop := Nat.le_add_right p.start p.span
  obtain ⟨hmoved, -⟩ := h.edge (hstart.trans_lt hstop)
  obtain ⟨hgrown, -⟩ := h.widen hstart hstop
  obtain ⟨-, hend⟩ := h.edge hstop
  unfold Placement.extent
  refine ⟨hmoved, hgrown, ?_⟩
  omega

theorem forall₂ (h : EdgesGrow δ edges edges') {Δ : Int} (hle : δ ≤ Δ) :
    List.Forall₂ (Grows Δ) edges edges' := by
  refine List.forall₂_iff_get.mpr ⟨h.length_eq.symm, fun i hi hi' => ?_⟩
  have hedge : edgeAt edges i = edges.get ⟨i, hi⟩ := by simp [edgeAt, hi]
  have hedge' : edgeAt edges' i = edges'.get ⟨i, hi'⟩ := by simp [edgeAt, hi']
  obtain ⟨hmoved, hend⟩ := h.edge hi
  rw [hedge, hedge'] at hmoved hend
  exact ⟨hmoved, by omega⟩

end EdgesGrow

/-- The start and the length of a segment grow. -/
structure Segment.Grows (Δ : Int) (s s' : Segment) : Prop where
  start : FormGrid.Grows Δ s.start s'.start
  length : FormGrid.Grows Δ s.length s'.length

/-- A segment moves and grows, and its end moves by no more than `Δ`. -/
structure Segment.Stretches (Δ : Int) (s s' : Segment) : Prop where
  start_le : s.start ≤ s'.start
  length_le : s.length ≤ s'.length
  stop_le : s'.start + s'.length ≤ s.start + s.length + Δ

theorem Segment.Stretches.grows {Δ : Int} {s s' : Segment} (h : s.Stretches Δ s') :
    s.Grows Δ s' := by
  obtain ⟨hstart, hlength, hstop⟩ := h
  constructor <;> constructor <;> omega

theorem Segment.Grows.grow {Δ : Int} {s s' : Segment} (h : s.Grows Δ s') (m : Margin) :
    (s.grow m).Grows Δ (s'.grow m) := by
  obtain ⟨⟨hstart, hstart'⟩, ⟨hlength, hlength'⟩⟩ := h
  unfold Segment.grow
  constructor <;> constructor <;> dsimp only <;> omega

namespace Item

variable {i : Item} {δ Δ origin origin' : Int} {edges edges' : List Int}

/-- The room of a cell moves and grows, and its end moves by no more than the end of the tracks. -/
theorem room_grows (hedges : EdgesGrow δ edges edges') (hstop : i.placement.stop < edges.length)
    (horigin : origin ≤ origin') (hreach : origin' + δ ≤ origin + Δ) :
    i.exactRoom edges ≤ i.exactRoom edges' ∧
      i.exactLead edges origin ≤ i.exactLead edges' origin' ∧
      i.exactLead edges' origin' + (i.exactRoom edges' - i.exactRoom edges) ≤
        i.exactLead edges origin + Δ := by
  obtain ⟨hmoved, hgrown, hend⟩ := hedges.placement hstop
  unfold exactRoom exactLead
  refine ⟨?_, ?_, ?_⟩ <;> omega

/-- In more room, the content grows, and so does the space left before it. -/
theorem content_grows (i : Item) {room room' : Int} (h : room ≤ room') :
    Grows (room' - room) (i.exactLength room) (i.exactLength room') ∧
      Grows (room' - room) (i.exactSlack room) (i.exactSlack room') := by
  have hlength : Grows (room' - room) (i.exactLength room) (i.exactLength room') := by
    unfold exactLength
    split <;> constructor <;> omega
  refine ⟨hlength, ?_⟩
  have hrest : room - i.exactLength room ≤ room' - i.exactLength room' := by
    unfold exactLength
    split <;> omega
  obtain ⟨hle, hge⟩ := hlength
  obtain ⟨hhalf, hhalf'⟩ := half_grows hrest
  unfold exactSlack
  split <;> constructor <;> omega

/-- The content moves and grows with its room. -/
theorem segment_grows (hedges : EdgesGrow δ edges edges') (hstop : i.placement.stop < edges.length)
    (horigin : origin ≤ origin') (hreach : origin' + δ ≤ origin + Δ) :
    (i.exactSegment (i.exactRoom edges) edges origin).Grows Δ
      (i.exactSegment (i.exactRoom edges') edges' origin') := by
  obtain ⟨hroom, hlead, hend⟩ := room_grows hedges hstop horigin hreach
  obtain ⟨⟨hlength, hlength'⟩, ⟨hslack, hslack'⟩⟩ := i.content_grows hroom
  unfold exactSegment
  constructor <;> constructor <;> dsimp only <;> omega

end Item

/-- A shared line moves down with the end of its row, and by no more. -/
theorem SharedLine.offset_grows (l : SharedLine) (align : Align) {height height' : Int}
    (h : height ≤ height') :
    Grows (height' - height) (l.exactOffset align height) (l.exactOffset align height') := by
  obtain ⟨hhalf, hhalf'⟩ := half_grows (Int.sub_le_sub_right h l.exactHeight)
  unfold exactOffset
  split <;> constructor <;> omega

/-! ## The cells of one grid -/

/-- The cells of one grid are placed on an axis that has grown by no more than `δ`, and its end has
moved by no more than `Δ`. -/
structure Site.Stretched (a : Axis) (δ Δ : Int) (s s' : Site) : Prop where
  edges : EdgesGrow δ (s.edges.along a) (s'.edges.along a)
  origin_le : s.origin.along a ≤ s'.origin.along a
  reach : s'.origin.along a + δ ≤ s.origin.along a + Δ
  lines : a = .y → s'.cells = s.cells

namespace Site.Stretched

variable {a : Axis} {δ Δ : Int} {s s' : Site} {l l' : LayoutCell}

theorem component (h : s.Stretched a δ Δ s') (hsame : l.SameItem a l')
    (hroom : l.roomAt a = (l.itemAt a).exactRoom (s.edges.along a))
    (hroom' : l'.roomAt a = (l'.itemAt a).exactRoom (s'.edges.along a))
    (hstop : (l.itemAt a).placement.stop < (s.edges.along a).length) :
    ((s.exactBounds l).along a).Grows Δ ((s'.exactBounds l').along a) := by
  have hsegment := Item.segment_grows h.edges hstop h.origin_le h.reach
  rw [hsame.itemAt_eq] at hroom'
  rw [← hroom, ← hroom'] at hsegment
  cases a with
  | x =>
    have hitem : l'.x.item = l.x.item := hsame.itemAt_eq
    show ((l.x.item.exactSegment l.x.room s.columns s.origin.x).grow l.x.item.placement.padding).Grows Δ
      ((l'.x.item.exactSegment l'.x.room s'.columns s'.origin.x).grow l'.x.item.placement.padding)
    rw [hitem]
    exact hsegment.grow _
  | y =>
    have hitem : l'.y.item = l.y.item := Eq.symm hsame
    show ((s.exactRowSegment l.y).grow l.y.item.placement.padding).Grows Δ
      ((s'.exactRowSegment l'.y).grow l'.y.item.placement.padding)
    rw [hitem]
    apply Segment.Grows.grow
    unfold exactRowSegment
    rw [hitem, h.lines rfl]
    cases hshared : l.y.item.shared? s.cells with
    | none => exact hsegment
    | some pair =>
      obtain ⟨baseline, line⟩ := pair
      refine ⟨?_, hsegment.length⟩
      have horigin : s.origin.y ≤ s'.origin.y := h.origin_le
      have hreach : s'.origin.y + δ ≤ s.origin.y + Δ := h.reach
      let p := l.y.item.placement
      obtain ⟨hmoved, hgrown, hend⟩ : edgeAt s.rows p.start ≤ edgeAt s'.rows p.start ∧
          p.extent s.rows ≤ p.extent s'.rows ∧
          edgeAt s'.rows p.start + p.extent s'.rows ≤
            edgeAt s.rows p.start + p.extent s.rows + δ := h.edges.placement hstop
      obtain ⟨hline, hline'⟩ := line.offset_grows p.align hgrown
      show FormGrid.Grows Δ
        (s.origin.y + edgeAt s.rows p.start + line.exactOffset p.align (p.extent s.rows) -
          baseline.offset + p.padding.before)
        (s'.origin.y + edgeAt s'.rows p.start + line.exactOffset p.align (p.extent s'.rows) -
          baseline.offset + p.padding.before)
      constructor <;> omega

/-- A nested grid moves and grows, and its end moves by no more than the end of its cell. -/
theorem grid (h : s.Stretched a δ Δ s') (hsame : l.SameItem a l')
    (hroom : l.roomAt a = (l.itemAt a).exactRoom (s.edges.along a))
    (hroom' : l'.roomAt a = (l'.itemAt a).exactRoom (s'.edges.along a))
    (hstop : (l.itemAt a).placement.stop < (s.edges.along a).length) :
    ((s.exactGridBounds l).along a).Stretches Δ ((s'.exactGridBounds l').along a) := by
  rw [exactGridBounds_along, exactGridBounds_along, hroom, hroom', hsame.itemAt_eq]
  obtain ⟨hgrown, hlead, hend⟩ := Item.room_grows h.edges hstop h.origin_le h.reach
  refine ⟨hlead, hgrown, ?_⟩
  dsimp only
  omega

end Site.Stretched

/-! ## Snapshots -/

/-- The edges shown of a grid grow on an axis, by no more than `Δ`. -/
def Snapshot.Pane.Grows (a : Axis) (Δ : Int) (p p' : Snapshot.Pane) : Prop :=
  List.Forall₂ (FormGrid.Grows Δ) (p.edges a) (p'.edges a)

/-- The bounds shown of a cell move and grow on an axis, by no more than `Δ`. -/
structure Snapshot.Entry.Grows (a : Axis) (Δ : Int) (e e' : Snapshot.Entry) : Prop where
  constraints : e.constraints = e'.constraints
  bounds : (e.bounds.along a).Grows Δ (e'.bounds.along a)

/-- When a grid gets bounds that move and grow on an axis, and its cells ask the same of it, its
edges on that axis grow. -/
theorem Site.stretched_ofGrid {a : Axis} {Δ : Int} {tracks : PerAxis Tracks}
    {cells cells' : Cells (PerAxis Resolved) LayoutCell K} {frame frame' : PerAxis Resolved}
    {rect rect' : Rect} (same : Cells.SameDemands a cells cells')
    (sized : SizedBy tracks cells rect.size frame)
    (sized' : SizedBy tracks cells' rect'.size frame')
    (hrect : (rect.along a).Stretches Δ (rect'.along a)) :
    (Site.ofGrid frame cells rect.origin).Stretched a
      ((rect'.along a).length - (rect.along a).length) Δ
      (Site.ofGrid frame' cells' rect'.origin) := by
  obtain ⟨hstart, hlength, hstop⟩ := hrect
  have hreach : (rect'.along a).start + ((rect'.along a).length - (rect.along a).length) ≤
      (rect.along a).start + Δ := by omega
  cases a with
  | x =>
    have hgathered := sized.gathered_columns_eq sized' rfl same.columnItems_eq
    exact ⟨sized.column.edges_grow sized'.column hgathered hlength, hstart, hreach,
      fun h => nomatch h⟩
  | y =>
    have hgathered := sized.gathered_rows_eq sized' rfl same.layoutRows_eq
    exact ⟨sized.row.edges_grow sized'.row hgathered hlength, hstart, hreach,
      fun _ => same.layoutRows_eq⟩

/-- The edges shown of a grid grow when its bounds do. -/
theorem Site.Stretched.pane {a : Axis} {δ Δ : Int} {frame frame' : PerAxis Resolved}
    {cells cells' : Cells (PerAxis Resolved) LayoutCell K} {bounds bounds' : Rect}
    (h : (Site.ofGrid frame cells bounds.origin).Stretched a δ Δ
      (Site.ofGrid frame' cells' bounds'.origin)) :
    (Snapshot.Pane.ofFrame frame bounds).Grows a Δ (.ofFrame frame' bounds') := by
  have hle : δ ≤ Δ := by
    have horigin := h.origin_le
    have hreach := h.reach
    omega
  have hedges := h.edges.forall₂ hle
  cases a with
  | x => exact hedges
  | y => exact hedges

namespace Cells

/-- On an axis that has grown, everything in the cells moves and grows, at all depths. -/
theorem Laid.shown_grows {h : Host K} {a : Axis} {Δ : Int} {tracks : PerAxis Tracks}
    {edges edges' : PerAxis (List Int)} {cells : Cells (PerAxis Tracks) Constraints K}
    {out out' : Cells (PerAxis Resolved) LayoutCell K} {asked asked' : List (Query K)}
    (laid : Laid h tracks edges cells out asked) (laid' : Laid h tracks edges' cells out' asked')
    (same : SameDemands a out out') {δ : Int} {s s' : Site} (hedges : s.edges = edges)
    (hedges' : s'.edges = edges') (stretched : s.Stretched a δ Δ s')
    (hstops : ∀ l ∈ out.infos, (l.itemAt a).placement.stop < (edges.along a).length)
    {shown shown' : Cells Snapshot.Pane Snapshot.Entry K} (hshown : out.snapshot s = .ok shown)
    (hshown' : out'.snapshot s' = .ok shown') :
    shown.Alike (Snapshot.Pane.Grows a Δ) (Snapshot.Entry.Grows a Δ) shown' := by
  induction laid generalizing edges' out' asked' δ s s' shown shown' with
  | nil =>
    cases laid'
    cases hshown
    cases hshown'
    exact .nil
  | component _ fits _ _ ih =>
    cases laid' with
    | component _ fits' _ others' =>
      cases same with
      | component hitem hothers =>
        obtain ⟨e, more, shows, hmore, rfl⟩ := snapshot_component_eq_ok_iff.mp hshown
        obtain ⟨e', more', shows', hmore', rfl⟩ := snapshot_component_eq_ok_iff.mp hshown'
        subst hedges hedges'
        obtain ⟨hstop, hstops⟩ := List.forall_mem_cons.mp hstops
        refine .component ⟨?_, ?_⟩ (ih others' hothers rfl rfl stretched hstops hmore hmore')
        · rw [shows.constraints_eq, shows'.constraints_eq, fits.constraints_eq,
            fits'.constraints_eq]
        · rw [shows.component_bounds, shows'.component_bounds]
          exact stretched.component hitem (fits.roomAt_eq a) (fits'.roomAt_eq a) hstop
  | @grid _ _ _ l _ _ inside _ _ _ _ axes _ fits _ sized _ _ ihInner ihRest =>
    cases laid' with
    | @grid _ _ _ l' _ _ inside' _ _ _ _ axes' _ fits' _ sized' nested' others' =>
      cases same with
      | grid hitem _ hinside hothers =>
        obtain ⟨e, shownInside, more, shows, hshownInside, hmore, rfl⟩ :=
          snapshot_grid_eq_ok_iff.mp hshown
        obtain ⟨e', shownInside', more', shows', hshownInside', hmore', rfl⟩ :=
          snapshot_grid_eq_ok_iff.mp hshown'
        subst hedges hedges'
        obtain ⟨hstop, hstops⟩ := List.forall_mem_cons.mp hstops
        have hbounds : (e.bounds.along a).Stretches Δ (e'.bounds.along a) := by
          rw [shows.grid_bounds, shows'.grid_bounds]
          exact stretched.grid hitem (fits.roomAt_eq a) (fits'.roomAt_eq a) hstop
        have hsize : (⟨l.x.room, l.y.room⟩ : Size) = e.bounds.size := by
          rw [shows.grid_bounds]
          rfl
        have hsize' : (⟨l'.x.room, l'.y.room⟩ : Size) = e'.bounds.size := by
          rw [shows'.grid_bounds]
          rfl
        have hnested := Site.stretched_ofGrid hinside (hsize ▸ sized) (hsize' ▸ sized') hbounds
        refine .grid ⟨?_, hbounds.grows⟩ hnested.pane ?_
          (ihRest others' hothers rfl rfl stretched hstops hmore hmore')
        · rw [shows.constraints_eq, shows'.constraints_eq, fits.constraints_eq,
            fits'.constraints_eq]
        · apply ihInner nested' hinside rfl rfl hnested ?_ hshownInside hshownInside'
          intro l hl
          exact sized.stop_lt a hl

end Cells

/-- When the rectangle of a form grows on an axis, everything in the form moves and grows on that
axis, and by no more than the rectangle does. -/
theorem Grid.snapshot_grows {h : Host K} {g : Grid K} {rect rect' : Rect} {shown shown' : Snapshot K}
    {asked asked' : List (Query K)} (a : Axis) (horigin : rect'.origin = rect.origin)
    (hother : rect'.size.along a.other = rect.size.along a.other)
    (hle : rect.size.along a ≤ rect'.size.along a)
    (hshown : g.snapshot h rect = .ok ⟨shown, asked⟩)
    (hshown' : g.snapshot h rect' = .ok ⟨shown', asked'⟩) :
    shown.frame.Grows a (rect'.size.along a - rect.size.along a) shown'.frame ∧
      shown.cells.Alike (Snapshot.Pane.Grows a (rect'.size.along a - rect.size.along a))
        (Snapshot.Entry.Grows a (rect'.size.along a - rect.size.along a)) shown'.cells := by
  obtain ⟨layout, laid, sized, hcells, hframe⟩ := snapshot_eq_ok_iff.mp hshown
  obtain ⟨layout', laid', sized', hcells', hframe'⟩ := snapshot_eq_ok_iff.mp hshown'
  have hcolumns := laid.columns_alike laid'
  have same : Cells.SameDemands a layout.cells layout'.cells := by
    cases a with
    | x => exact hcolumns
    | y =>
      apply laid.rows_alike laid'
      exact congrArg Resolved.edges (sized.frame_columns_eq sized' hcolumns.columnItems_eq hother)
  have hrect : (rect.along a).Stretches (rect'.size.along a - rect.size.along a)
      (rect'.along a) := by
    have hstart : (rect'.along a).start = (rect.along a).start := by
      cases a with
      | x => exact congrArg Axes.x horigin
      | y => exact congrArg Axes.y horigin
    have hlength : ∀ r : Rect, r.size.along a = (r.along a).length := fun r => by cases a <;> rfl
    rw [hlength, hlength] at hle ⊢
    exact ⟨hstart.ge, hle, by omega⟩
  have hstretched := Site.stretched_ofGrid same sized sized' hrect
  rw [hframe, hframe']
  refine ⟨hstretched.pane, ?_⟩
  apply laid.shown_grows laid' same rfl rfl hstretched ?_ hcells hcells'
  intro l hl
  exact sized.stop_lt a hl

namespace Form

/-- A rectangle of negative width and with too little height for the form. -/
def tinyRect : Rect := ⟨⟨10, -5⟩, ⟨20, 30⟩⟩

/-- The form in a rectangle that is too small for it, in a wider one and in a higher one. -/
theorem grid_grows : ∃ tiny wide high asked asked' asked'',
    grid.snapshot host tinyRect = .ok ⟨tiny, asked⟩ ∧
    grid.snapshot host ⟨⟨10, 121⟩, ⟨20, 30⟩⟩ = .ok ⟨wide, asked'⟩ ∧
    grid.snapshot host ⟨⟨10, -5⟩, ⟨20, 61⟩⟩ = .ok ⟨high, asked''⟩ ∧
    tiny.cells.Alike (Snapshot.Pane.Grows .x 126) (Snapshot.Entry.Grows .x 126) wide.cells ∧
    tiny.cells.Alike (Snapshot.Pane.Grows .y 31) (Snapshot.Entry.Grows .y 31) high.cells := by
  obtain ⟨tiny, asked, htiny⟩ : ∃ tiny asked,
      grid.snapshot host tinyRect = .ok ⟨tiny, asked⟩ := ⟨_, _, rfl⟩
  obtain ⟨wide, asked', hwide⟩ : ∃ wide asked',
      grid.snapshot host ⟨⟨10, 121⟩, ⟨20, 30⟩⟩ = .ok ⟨wide, asked'⟩ := ⟨_, _, rfl⟩
  obtain ⟨high, asked'', hhigh⟩ : ∃ high asked'',
      grid.snapshot host ⟨⟨10, -5⟩, ⟨20, 61⟩⟩ = .ok ⟨high, asked''⟩ := ⟨_, _, rfl⟩
  have hwider := @Grid.snapshot_grows _ host grid tinyRect ⟨⟨10, 121⟩, ⟨20, 30⟩⟩ _ _ _ _ .x rfl rfl
    (by decide) htiny hwide
  have hhigher := @Grid.snapshot_grows _ host grid tinyRect ⟨⟨10, -5⟩, ⟨20, 61⟩⟩ _ _ _ _ .y rfl rfl
    (by decide) htiny hhigh
  exact ⟨tiny, wide, high, asked, asked', asked'', htiny, hwide, hhigh, hwider.2, hhigher.2⟩

end Form

end FormGrid
