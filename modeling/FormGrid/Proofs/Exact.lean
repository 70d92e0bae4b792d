import FormGrid.Layout.Site
import Mathlib.Algebra.Ring.Int.Defs
import Mathlib.Data.List.Forall2

/-!
# Exact extents

Where no step of a computation overflows, its result is the one that plain integers give. This
module writes that result down for everything that is computed of a cell on one axis, and for the
bounds that follow from it, so that a proof about a successful layout is a proof about integers.

## Main definitions

* `Segment.grow`, `Segment.shrink`: a segment with a margin added or taken away
* `Item.exactDemand`, `Item.exactRoom`, `Item.exactSegment`: one axis of a cell
* `SharedLine.exactHeight`, `SharedLine.exactOffset`: a line shared by baselines
* `Site.exactBounds`, `Site.exactGridBounds`, `Site.exactSlot`: the rectangles of a cell

## Main results

* `Site.componentBounds_eq_ok`, `Site.gridBounds_eq_ok`, `Site.slot_eq_ok`: rectangles that are
  computed are the exact ones
* `Item.exactSlack_add_exactLength_le`: the content of a cell stays in its room
-/

namespace FormGrid

namespace Checked

variable {α β γ : Type}

theorem pure_eq_ok_iff {a b : α} : (pure a : Checked α) = .ok b ↔ a = b := by
  simp [pure, Except.pure]

theorem ok_bind (a : α) (next : α → Checked β) : (Except.ok a >>= next) = next a := rfl

/-- A sequence of two steps fails exactly when the first one does, or the second one after it. -/
theorem bind_eq_error_iff {step : Checked α} {next : α → Checked β} {o : Overflow} :
    (step >>= next) = .error o ↔ step = .error o ∨ ∃ a, step = .ok a ∧ next a = .error o := by
  cases step with
  | error o' => simp [bind, Except.bind]
  | ok a => simp [bind, Except.bind]

/-- Two sequences that begin with the same step are equal if they go on alike where it succeeds. -/
theorem bind_congr {step : Checked α} {next next' : α → Checked β}
    (h : ∀ a, step = .ok a → next a = next' a) : step >>= next = step >>= next' := by
  cases step with
  | error o => rfl
  | ok a => exact h a rfl

theorem map_bind (step : Checked α) (next : α → Checked β) (f : β → γ) :
    (step >>= next).map f = step >>= fun a => (next a).map f := by
  cases step <;> rfl

theorem bind_map (step : Checked α) (f : α → β) (next : β → Checked γ) :
    (step.map f >>= next) = step >>= fun a => next (f a) := by
  cases step <;> rfl

/-- A computation for every member of a list succeeds exactly when all of them do. -/
theorem mapM_eq_ok_iff {f : α → Checked β} {as : List α} {bs : List β} :
    as.mapM f = .ok bs ↔ List.Forall₂ (fun a b => f a = .ok b) as bs := by
  induction as generalizing bs with
  | nil => rw [List.mapM_nil, pure_eq_ok_iff, List.forall₂_nil_left_iff, eq_comm]
  | cons a as ih =>
    simp only [List.mapM_cons, bind_eq_ok_iff, pure_eq_ok_iff, List.forall₂_cons_left_iff, ih]
    constructor
    · rintro ⟨b, hb, bs, hbs, rfl⟩
      exact ⟨b, bs, hb, hbs, rfl⟩
    · rintro ⟨b, bs, hb, hbs, rfl⟩
      exact ⟨b, hb, bs, hbs, rfl⟩

/-- Results that are known for every member are known for the list. -/
theorem eq_map_of_mapM_eq_ok {f : α → Checked β} {g : α → β} {as : List α} {bs : List β}
    (hg : ∀ a ∈ as, ∀ b, f a = .ok b → b = g a) (h : as.mapM f = .ok bs) : bs = as.map g := by
  have hall := mapM_eq_ok_iff.mp h
  clear h
  induction hall with
  | nil => rfl
  | cons hb _ ih =>
    obtain ⟨hfirst, hrest⟩ := List.forall_mem_cons.mp hg
    rw [List.map_cons, hfirst _ hb, ih hrest]

/-- A computation for every member of a list whose results are known. -/
theorem mapM_eq_ok_map {f : α → Checked β} {g : α → β} {as : List α}
    (h : ∀ a ∈ as, f a = .ok (g a)) : as.mapM f = .ok (as.map g) := by
  rw [mapM_eq_ok_iff, List.forall₂_map_right_iff, List.forall₂_same]
  exact h

/-- A sequence of steps fails at the first step that does. -/
theorem foldlM_eq_error_iff {f : β → α → Checked β} {as : List α} {b : β} {o : Overflow} :
    as.foldlM f b = .error o ↔
      ∃ done a left b', as = done ++ a :: left ∧ done.foldlM f b = .ok b' ∧ f b' a = .error o := by
  induction as generalizing b with
  | nil => simp [pure, Except.pure]
  | cons a as ih =>
    rw [List.foldlM_cons, bind_eq_error_iff]
    constructor
    · rintro (hfails | ⟨next, hnext, hrest⟩)
      · exact ⟨[], a, as, b, rfl, rfl, hfails⟩
      · obtain ⟨done, a', left, b', rfl, hdone, hfails⟩ := ih.mp hrest
        refine ⟨a :: done, a', left, b', rfl, ?_, hfails⟩
        rw [List.foldlM_cons, hnext, ok_bind, hdone]
    · rintro ⟨done, a', left, b', heq, hdone, hfails⟩
      cases done with
      | nil =>
        cases heq
        cases hdone
        exact .inl hfails
      | cons _ done =>
        cases heq
        rw [List.foldlM_cons] at hdone
        obtain ⟨next, hnext, hdone⟩ := bind_eq_ok_iff.mp hdone
        exact .inr ⟨next, hnext, ih.mpr ⟨done, a', left, b', rfl, hdone, hfails⟩⟩

end Checked

namespace Pixel

/-- A sum that succeeds is the exact sum. -/
theorem eq_sum_of_foldlM_add {ns : List Int} {start n : Int} (h : ns.foldlM add start = .ok n) :
    n = start + ns.sum := by
  induction ns generalizing start with
  | nil => simpa [pure, Except.pure, eq_comm] using h
  | cons m ns ih =>
    rw [List.foldlM_cons] at h
    obtain ⟨next, hadd, hrest⟩ := Checked.bind_eq_ok_iff.mp h
    rw [ih hrest, (add_eq_ok_iff.mp hadd).1, List.sum_cons]
    omega

theorem eq_sum_of_sum_eq_ok {ns : List Int} {n : Int} (h : sum ns = .ok n) : n = ns.sum := by
  simpa using eq_sum_of_foldlM_add h

end Pixel

/-- Both sides of a margin together. -/
def Margin.exactTotal (m : Margin) : Int := m.before + m.after

theorem Margin.total_eq_ok {m : Margin} {n : Int} (h : m.total = .ok n) : n = m.exactTotal :=
  (Pixel.add_eq_ok_iff.mp h).1

namespace Segment

/-- The segment with a margin added at both ends. -/
def grow (s : Segment) (m : Margin) : Segment := ⟨s.start - m.before, s.length + m.exactTotal⟩

/-- The segment with a margin taken away at both ends. -/
def shrink (s : Segment) (m : Margin) : Segment := ⟨s.start + m.before, s.length - m.exactTotal⟩

@[simp] theorem shrink_grow (s : Segment) (m : Margin) : (s.grow m).shrink m = s := by
  cases s
  simp [grow, shrink]

end Segment

/-- The half of a length, rounded toward zero, lies between nothing and the length. -/
theorem half_bounds {n : Int} (h : 0 ≤ n) : 0 ≤ n.tdiv 2 ∧ n.tdiv 2 ≤ n := by
  rw [Int.tdiv_eq_ediv_of_nonneg h]
  omega

/-! ## One axis of a cell -/

/-- The length of the tracks of a placement. -/
def Placement.extent (p : Placement) (edges : List Int) : Int :=
  edgeAt edges p.stop - edgeAt edges p.start

namespace Item

/-- All that is kept free before and after the content. -/
def exactGap (i : Item) : Int := i.placement.gap.exactTotal + i.trackGap.exactTotal

/-- The length that the tracks should have. -/
def exactDemand (i : Item) : Int := i.natural + i.exactGap - i.placement.padding.exactTotal

/-- The demand on the tracks of the placement. -/
def exactRequest (i : Item) : Demand := ⟨i.placement.start, i.placement.span, i.exactDemand⟩

/-- The length of the tracks without gaps. -/
def exactRoom (i : Item) (edges : List Int) : Int := max 0 (i.placement.extent edges - i.exactGap)

/-- The length of the content. -/
def exactLength (i : Item) (room : Int) : Int :=
  match i.placement.align with
  | .fill => room
  | _ => min room (i.natural - i.placement.padding.exactTotal)

/-- The length of the content with its paddings. -/
def exactDrawnLength (i : Item) (room : Int) : Int :=
  i.exactLength room + i.placement.padding.exactTotal

/-- Where the room starts. -/
def exactLead (i : Item) (edges : List Int) (origin : Int) : Int :=
  origin + edgeAt edges i.placement.start + i.trackGap.before + i.placement.gap.before

/-- The room that the alignment leaves before the content. -/
def exactSlack (i : Item) (room : Int) : Int :=
  match i.placement.align with
  | .leading | .fill => 0
  | .center => (room - i.exactLength room).tdiv 2
  | .trailing => room - i.exactLength room

/-- The segment of the content. -/
def exactSegment (i : Item) (room : Int) (edges : List Int) (origin : Int) : Segment :=
  ⟨i.exactLead edges origin + i.exactSlack room, i.exactLength room⟩

theorem gap_eq_ok {i : Item} {n : Int} (h : i.gap = .ok n) : n = i.exactGap := by
  simp only [gap, Checked.bind_eq_ok_iff] at h
  obtain ⟨own, hown, track, htrack, hsum⟩ := h
  rw [Margin.total_eq_ok hown, Margin.total_eq_ok htrack] at hsum
  exact (Pixel.add_eq_ok_iff.mp hsum).1

theorem demand_eq_ok {i : Item} {n : Int} (h : i.demand = .ok n) : n = i.exactDemand := by
  simp only [demand, Checked.bind_eq_ok_iff] at h
  obtain ⟨gap, hgap, whole, hwhole, padding, hpadding, hrest⟩ := h
  rw [gap_eq_ok hgap] at hwhole
  rw [Margin.total_eq_ok hpadding, (Pixel.add_eq_ok_iff.mp hwhole).1] at hrest
  exact (Pixel.sub_eq_ok_iff.mp hrest).1

theorem request_eq_ok {i : Item} {d : Demand} (h : i.request = .ok d) : d = i.exactRequest := by
  simp only [request, Checked.bind_eq_ok_iff, Checked.pure_eq_ok_iff] at h
  obtain ⟨size, hsize, rfl⟩ := h
  rw [demand_eq_ok hsize, exactRequest]

theorem room_eq_ok {i : Item} {edges : List Int} {n : Int} (h : i.room edges = .ok n) :
    n = i.exactRoom edges := by
  simp only [room, Checked.bind_eq_ok_iff, Checked.pure_eq_ok_iff] at h
  obtain ⟨extent, hextent, gap, hgap, rest, hrest, rfl⟩ := h
  rw [gap_eq_ok hgap, (Pixel.sub_eq_ok_iff.mp hextent).1] at hrest
  rw [(Pixel.sub_eq_ok_iff.mp hrest).1]
  rfl

/-- The natural extent without paddings, where it is computed. -/
theorem min_natural_eq_ok {i : Item} {room n : Int}
    (h : (do
      let padding ← i.placement.padding.total
      let bare ← Pixel.sub i.natural padding
      return min room bare : Checked Int) = .ok n) :
    n = min room (i.natural - i.placement.padding.exactTotal) := by
  simp only [Checked.bind_eq_ok_iff, Checked.pure_eq_ok_iff] at h
  obtain ⟨padding, hpadding, bare, hbare, rfl⟩ := h
  rw [(Pixel.sub_eq_ok_iff.mp hbare).1, Margin.total_eq_ok hpadding]

theorem length_eq_ok {i : Item} {room n : Int} (h : i.length room = .ok n) :
    n = i.exactLength room := by
  unfold length at h
  unfold exactLength
  cases halign : i.placement.align <;> simp only [halign] at h ⊢
  case fill => exact (Checked.pure_eq_ok_iff.mp h).symm
  all_goals exact min_natural_eq_ok h

theorem drawnLength_eq_ok {i : Item} {room n : Int} (h : i.drawnLength room = .ok n) :
    n = i.exactDrawnLength room := by
  simp only [drawnLength, Checked.bind_eq_ok_iff] at h
  obtain ⟨length, hlength, padding, hpadding, hsum⟩ := h
  rw [length_eq_ok hlength, Margin.total_eq_ok hpadding] at hsum
  exact (Pixel.add_eq_ok_iff.mp hsum).1

theorem lead_eq_ok {i : Item} {edges : List Int} {origin n : Int}
    (h : i.lead edges origin = .ok n) : n = i.exactLead edges origin := by
  simp only [lead, Checked.bind_eq_ok_iff] at h
  obtain ⟨start, hstart, track, htrack, hsum⟩ := h
  rw [(Pixel.add_eq_ok_iff.mp hstart).1] at htrack
  rw [(Pixel.add_eq_ok_iff.mp htrack).1] at hsum
  exact (Pixel.add_eq_ok_iff.mp hsum).1

theorem slack_eq_ok {i : Item} {room n : Int} (h : i.slack room (i.exactLength room) = .ok n) :
    n = i.exactSlack room := by
  unfold slack at h
  unfold exactSlack
  cases halign : i.placement.align <;>
    simp only [halign, Checked.bind_eq_ok_iff, Checked.pure_eq_ok_iff] at h ⊢
  case leading | fill => exact h.symm
  case center =>
    obtain ⟨rest, hrest, rfl⟩ := h
    rw [(Pixel.sub_eq_ok_iff.mp hrest).1]
  case trailing => exact (Pixel.sub_eq_ok_iff.mp h).1

theorem segment_eq_ok {i : Item} {room : Int} {edges : List Int} {origin : Int} {s : Segment}
    (h : i.segment room edges origin = .ok s) : s = i.exactSegment room edges origin := by
  simp only [segment, Checked.bind_eq_ok_iff, Checked.pure_eq_ok_iff] at h
  obtain ⟨length, hlength, lead, hlead, slack, hslack, start, hstart, rfl⟩ := h
  rw [length_eq_ok hlength] at hslack ⊢
  rw [(Pixel.add_eq_ok_iff.mp hstart).1, lead_eq_ok hlead, slack_eq_ok hslack]
  rfl

theorem exactLength_le (i : Item) (room : Int) : i.exactLength room ≤ room := by
  unfold exactLength
  split <;> omega

theorem exactSlack_nonneg (i : Item) (room : Int) : 0 ≤ i.exactSlack room := by
  have hle := i.exactLength_le room
  have hhalf := half_bounds (Int.sub_nonneg_of_le hle)
  unfold exactSlack
  split <;> omega

/-- The content stays in the room. -/
theorem exactSlack_add_exactLength_le (i : Item) (room : Int) :
    i.exactSlack room + i.exactLength room ≤ room := by
  have hle := i.exactLength_le room
  have hhalf := half_bounds (Int.sub_nonneg_of_le hle)
  unfold exactSlack
  split <;> omega

end Item

/-! ## Baselines -/

/-- The baseline at a distance from the upper edge of a component of natural height. -/
def Item.exactBaseline (i : Item) (offset : Int) : Baseline where
  offset := offset
  ascent := offset + i.placement.gap.before + i.trackGap.before - i.placement.padding.before
  descent := i.natural - offset + i.placement.gap.after + i.trackGap.after -
    i.placement.padding.after

theorem Item.baselineAt_eq_ok {i : Item} {offset : Int} {b : Baseline}
    (h : i.baselineAt offset = .ok b) : b = i.exactBaseline offset := by
  simp only [baselineAt, Checked.bind_eq_ok_iff, Checked.pure_eq_ok_iff, Pixel.add_eq_ok_iff,
    Pixel.sub_eq_ok_iff] at h
  obtain ⟨_, ⟨rfl, -⟩, _, ⟨rfl, -⟩, _, ⟨rfl, -⟩, _, ⟨rfl, -⟩, _, ⟨rfl, -⟩, _, ⟨rfl, -⟩, _,
    ⟨rfl, -⟩, rfl⟩ := h
  rfl

/-- The baseline of a component that is asked for one: what the host answers, unless it is
negative. -/
def RowItem.exactMeasure {K : Type} (h : Host K) (key : K) (column : Fitted Item) (row : Item) :
    Measured K RowItem :=
  if row.placement.sharesBaseline then
    let size : Size := ⟨column.item.exactDrawnLength column.room, row.natural⟩
    ⟨⟨row, ((h.baseline key size).filter (0 ≤ ·)).map row.exactBaseline⟩, [⟨key, size⟩]⟩
  else ⟨⟨row, none⟩, []⟩

theorem RowItem.measure_eq_ok {K : Type} {h : Host K} {key : K} {column : Fitted Item} {row : Item}
    {m : Measured K RowItem} (hm : RowItem.measure h key column row = .ok m) :
    m = RowItem.exactMeasure h key column row := by
  unfold measure at hm
  unfold exactMeasure
  split at hm
  case isTrue hshares =>
    rw [if_pos hshares]
    obtain ⟨width, hwidth, hm⟩ := Checked.bind_eq_ok_iff.mp hm
    rw [Item.drawnLength_eq_ok hwidth] at hm
    dsimp only at hm ⊢
    split at hm
    case h_1 offset hanswer =>
      simp only [Checked.bind_eq_ok_iff, Checked.pure_eq_ok_iff] at hm
      obtain ⟨baseline, hbaseline, rfl⟩ := hm
      rw [hanswer, Item.baselineAt_eq_ok hbaseline]
      rfl
    case h_2 hanswer =>
      rw [hanswer, ← Checked.pure_eq_ok_iff.mp hm]
      rfl
  case isFalse hshares => rw [if_neg hshares, ← Checked.pure_eq_ok_iff.mp hm]

/-- Asking for a baseline changes nothing else. -/
theorem RowItem.toItem_of_measure {K : Type} {h : Host K} {key : K} {column : Fitted Item}
    {row : Item} {m : Measured K RowItem} (hm : RowItem.measure h key column row = .ok m) :
    m.value.toItem = row := by
  rw [measure_eq_ok hm, exactMeasure]
  split <;> rfl

namespace SharedLine

/-- The height that the cells of the line demand of their row. -/
def exactHeight (l : SharedLine) : Int := l.above + l.below

/-- The distance of the line from the top of a row. -/
def exactOffset (l : SharedLine) (align : Align) (rowHeight : Int) : Int :=
  match align with
  | .leading | .fill => l.above
  | .center => (rowHeight - l.exactHeight).tdiv 2 + l.above
  | .trailing => rowHeight - l.below

theorem height_eq_ok {l : SharedLine} {n : Int} (h : l.height = .ok n) : n = l.exactHeight :=
  (Pixel.add_eq_ok_iff.mp h).1

theorem offset_eq_ok {l : SharedLine} {align : Align} {rowHeight n : Int}
    (h : l.offset align rowHeight = .ok n) : n = l.exactOffset align rowHeight := by
  unfold offset at h
  unfold exactOffset
  cases align <;> simp only [Checked.bind_eq_ok_iff, Checked.pure_eq_ok_iff] at h ⊢
  case leading | fill => exact h.symm
  case center =>
    obtain ⟨height, hheight, rest, hrest, hsum⟩ := h
    rw [height_eq_ok hheight] at hrest
    rw [(Pixel.sub_eq_ok_iff.mp hrest).1] at hsum
    exact (Pixel.add_eq_ok_iff.mp hsum).1
  case trailing => exact (Pixel.sub_eq_ok_iff.mp h).1

end SharedLine

/-- What a cell demands of its rows. -/
def RowItem.exactRequest (c : RowItem) (cells : List RowItem) : Demand where
  start := c.placement.start
  span := c.placement.span
  size :=
    match c.shared? cells with
    | some (_, line) => line.exactHeight
    | none => c.toItem.exactDemand

theorem RowItem.request_eq_ok {c : RowItem} {cells : List RowItem} {d : Demand}
    (h : c.request cells = .ok d) : d = c.exactRequest cells := by
  unfold request at h
  unfold exactRequest
  cases hshared : c.shared? cells with
  | none =>
    rw [hshared] at h
    exact Item.request_eq_ok h
  | some pair =>
    simp only [hshared, Checked.bind_eq_ok_iff, Checked.pure_eq_ok_iff] at h
    obtain ⟨height, hheight, rfl⟩ := h
    rw [SharedLine.height_eq_ok hheight]

/-! ## Rectangles -/

theorem Rect.outset_eq_ok {r r' : Rect} {g : Gaps} (h : r.outset g = .ok r') :
    r' = ⟨r.x.grow g.x, r.y.grow g.y⟩ := by
  simp only [outset, Checked.bind_eq_ok_iff, Checked.pure_eq_ok_iff] at h
  obtain ⟨left, hleft, upper, hupper, horizontal, hhorizontal, width, hwidth, vertical, hvertical,
    height, hheight, rfl⟩ := h
  rw [(Pixel.sub_eq_ok_iff.mp hleft).1, (Pixel.sub_eq_ok_iff.mp hupper).1,
    (Pixel.add_eq_ok_iff.mp hwidth).1, (Pixel.add_eq_ok_iff.mp hheight).1,
    Margin.total_eq_ok hhorizontal, Margin.total_eq_ok hvertical]
  rfl

theorem Rect.inset_eq_ok {r r' : Rect} {g : Gaps} (h : r.inset g = .ok r') :
    r' = ⟨r.x.shrink g.x, r.y.shrink g.y⟩ := by
  simp only [inset, Checked.bind_eq_ok_iff, Checked.pure_eq_ok_iff] at h
  obtain ⟨left, hleft, upper, hupper, horizontal, hhorizontal, width, hwidth, vertical, hvertical,
    height, hheight, rfl⟩ := h
  rw [(Pixel.add_eq_ok_iff.mp hleft).1, (Pixel.add_eq_ok_iff.mp hupper).1,
    (Pixel.sub_eq_ok_iff.mp hwidth).1, (Pixel.sub_eq_ok_iff.mp hheight).1,
    Margin.total_eq_ok hhorizontal, Margin.total_eq_ok hvertical]
  rfl

theorem Size.outset_eq_ok {s s' : Size} {g : Gaps} (h : s.outset g = .ok s') :
    s' = ⟨s.x + g.x.exactTotal, s.y + g.y.exactTotal⟩ := by
  simp only [outset, Checked.bind_eq_ok_iff, Checked.pure_eq_ok_iff] at h
  obtain ⟨horizontal, hhorizontal, width, hwidth, vertical, hvertical, height, hheight, rfl⟩ := h
  rw [(Pixel.add_eq_ok_iff.mp hwidth).1, (Pixel.add_eq_ok_iff.mp hheight).1,
    Margin.total_eq_ok hhorizontal, Margin.total_eq_ok hvertical]

namespace Site

/-- The edges on both axes. -/
def edges (s : Site) : PerAxis (List Int) := ⟨s.columns, s.rows⟩

/-- The segment of a component on the y axis. -/
def exactRowSegment (s : Site) (row : Fitted RowItem) : Segment :=
  let item := row.item.toItem
  let placement := item.placement
  match row.item.shared? s.cells with
  | none => item.exactSegment row.room s.rows s.origin.y
  | some (baseline, shared) =>
    ⟨s.origin.y + edgeAt s.rows placement.start +
        shared.exactOffset placement.align (placement.extent s.rows) - baseline.offset +
        placement.padding.before,
      item.exactLength row.room⟩

/-- The rectangle of a component without its paddings. -/
def exactContent (s : Site) (c : LayoutCell) : Rect :=
  ⟨c.x.item.exactSegment c.x.room s.columns s.origin.x, s.exactRowSegment c.y⟩

/-- The bounds of a component. -/
def exactBounds (s : Site) (c : LayoutCell) : Rect :=
  ⟨(s.exactContent c).x.grow c.constraints.x.padding,
    (s.exactContent c).y.grow c.constraints.y.padding⟩

/-- The bounds of a nested grid. -/
def exactGridBounds (s : Site) (c : LayoutCell) : Rect :=
  ⟨⟨c.x.item.exactLead s.columns s.origin.x, c.x.room⟩,
    ⟨c.y.item.exactLead s.rows s.origin.y, c.y.room⟩⟩

/-- The whole area of the tracks of a cell. -/
def exactSlot (s : Site) (c : Constraints) : Rect :=
  ⟨⟨s.origin.x + edgeAt s.columns c.x.start, c.x.extent s.columns⟩,
    ⟨s.origin.y + edgeAt s.rows c.y.start, c.y.extent s.rows⟩⟩

theorem rowSegment_eq_ok {s : Site} {row : Fitted RowItem} {segment : Segment}
    (h : s.rowSegment row = .ok segment) : segment = s.exactRowSegment row := by
  unfold rowSegment at h
  unfold exactRowSegment
  cases hshared : row.item.shared? s.cells with
  | none => exact Item.segment_eq_ok (by simpa only [hshared] using h)
  | some pair =>
    obtain ⟨baseline, shared⟩ := pair
    simp only [hshared, Checked.bind_eq_ok_iff, Checked.pure_eq_ok_iff] at h ⊢
    obtain ⟨height, hheight, top, htop, rowHeight, hrow, offset, hoffset, line, hline, upper, hupper,
      start, hstart, rfl⟩ := h
    rw [(Pixel.sub_eq_ok_iff.mp hrow).1] at hoffset
    rw [(Pixel.add_eq_ok_iff.mp hstart).1, (Pixel.sub_eq_ok_iff.mp hupper).1,
      (Pixel.add_eq_ok_iff.mp hline).1, (Pixel.add_eq_ok_iff.mp htop).1,
      SharedLine.offset_eq_ok hoffset, Item.length_eq_ok hheight]
    rfl

/-- The height of a component does not depend on whether it shares a line. -/
theorem length_exactRowSegment (s : Site) (row : Fitted RowItem) :
    (s.exactRowSegment row).length = row.item.exactLength row.room := by
  unfold exactRowSegment
  split <;> rfl

/-- The bounds of a component, where they are computed, are the exact ones. -/
theorem componentBounds_eq_ok {s : Site} {c : LayoutCell} {r : Rect}
    (h : s.componentBounds c = .ok r) : r = s.exactBounds c := by
  simp only [componentBounds, Checked.bind_eq_ok_iff] at h
  obtain ⟨column, hcolumn, row, hrow, hr⟩ := h
  rw [Item.segment_eq_ok hcolumn, rowSegment_eq_ok hrow] at hr
  exact Rect.outset_eq_ok hr

/-- The bounds of a nested grid, where they are computed, are the exact ones. -/
theorem gridBounds_eq_ok {s : Site} {c : LayoutCell} {r : Rect} (h : s.gridBounds c = .ok r) :
    r = s.exactGridBounds c := by
  simp only [gridBounds, Checked.bind_eq_ok_iff, Checked.pure_eq_ok_iff] at h
  obtain ⟨left, hleft, upper, hupper, rfl⟩ := h
  rw [Item.lead_eq_ok hleft, Item.lead_eq_ok hupper]
  rfl

/-- The slot of a cell, where it is computed, is the exact one. -/
theorem slot_eq_ok {s : Site} {c : Constraints} {r : Rect} (h : s.slot c = .ok r) :
    r = s.exactSlot c := by
  simp only [slot, Checked.bind_eq_ok_iff, Checked.pure_eq_ok_iff] at h
  obtain ⟨left, hleft, upper, hupper, width, hwidth, height, hheight, rfl⟩ := h
  rw [(Pixel.add_eq_ok_iff.mp hleft).1, (Pixel.add_eq_ok_iff.mp hupper).1,
    (Pixel.sub_eq_ok_iff.mp hwidth).1, (Pixel.sub_eq_ok_iff.mp hheight).1]
  rfl

end Site

end FormGrid
