import FormGrid.Plan.Passes
import FormGrid.Proofs.Determined
import FormGrid.Proofs.Plan.Lookups

/-!
# Stages of a plan

A layout is computed in four stages, and a plan in four passes. After each pass, the plan follows the
layout as it stands after the stage: an entry belongs to each cell, in the same order, and a plan to
each grid; the number of an entry is that of a visible cell of the grid, which has the constraints of
the cell in the layout and holds a component or a grid as that one does; and what is kept in the entry
and on the sheet agrees with what the stage has found (`Plan.Follows`). What has been found is different
after each stage, so a `Plan.Stage` says it, while the shape is said once.

The columns are resolved from what has been gathered as the rows are. Therefore `Plan.Stage.Leads` says
what two stages have to be like for one to be reached from the other when an axis is resolved.

## Main definitions

* `Plan.Stage`, `Plan.Entries.Follow`, `Plan.Follows`: what a plan has in common with a stage
* `Plan.Stage.columnsGathered` and the stages after it
* `Plan.Stage.Leads`: from an axis that has been gathered to one that has been resolved

## Main results

* `Plan.Stage.columns_lead`, `Plan.Stage.rows_lead`: both axes are resolved in this way
-/

namespace FormGrid

variable {K : Type}

/-! ## Plans that follow a layout -/

namespace Plan

/-- What a stage has found of a grid and is kept on its sheet, and what it has found of a cell and is
kept in its entry. A cell is considered with the constraints that it has in the grid, and between the
edges that are on the sheet. -/
structure Stage (K F C : Type) where
  sheet : Grid K → Sheet → Tree F C K → Prop
  entry : Grid K → PerAxis (List Int) → Entry → Constraints → C → Prop

variable {F C F' C' : Type}

/-- The entries follow the cells of a stage, with plans where these cells hold grids. -/
inductive Entries.Follow (h : Host K) (s : Stage K F C) :
    Grid K → PerAxis (List Int) → Entries → Cells F C K → Prop where
  | nil {g edges} : Follow h s g edges .nil .nil
  | component {g edges e c key info entries cells}
      (found : g.cells.toList[e.index]? = some (.component c key)) (entry : s.entry g edges e c info)
      (others : Follow h s g edges entries cells) :
      Follow h s g edges (.component e () entries) (.component info key cells)
  | grid {g edges e c nested info sheet frame insideEntries inside entries cells}
      (found : g.cells.toList[e.index]? = some (.grid c nested)) (entry : s.entry g edges e c info)
      (indices : Entries.indices insideEntries = nested.cells.toList.findIdxs (·.isVisible h))
      (sheet_eq : s.sheet nested sheet ⟨frame, inside⟩)
      (inner : Follow h s nested sheet.edges insideEntries inside)
      (others : Follow h s g edges entries cells) :
      Follow h s g edges (.grid e sheet insideEntries entries) (.grid info frame inside cells)

/-- The plan of a grid follows a stage: its entries are those of the visible cells. -/
structure Follows (h : Host K) (s : Stage K F C) (g : Grid K) (plan : Plan) (t : Tree F C K) :
    Prop where
  indices : Entries.indices plan.cells = g.cells.toList.findIdxs (·.isVisible h)
  sheet : s.sheet g plan.frame t
  entries : Entries.Follow h s g plan.frame.edges plan.cells t.cells

/-! ## What is kept -/

/-- An axis that has been gathered. -/
structure Sheet.Gathers (g : Grid K) (a : Axis) (axis : Gathered) (s : Sheet) : Prop where
  sizing_eq : s.sizing.along a = axis.sizing
  preferred_eq : s.preferred.along a = axis.preferred
  resizable_eq : (g.frame.along a).resizable = axis.resizable

/-- An axis that has been resolved, with one edge more than it has tracks. -/
structure Sheet.Resolves (g : Grid K) (a : Axis) (axis : Resolved) (s : Sheet) : Prop extends
    s.Gathers g a axis.toGathered where
  edges_eq : s.edges.along a = axis.edges
  length_edges : axis.edges.length = axis.sizing.count + 1

/-- The lines on the sheet are those that the cells share. -/
def Sheet.HasLines (rows : List RowItem) (s : Sheet) : Prop :=
  ∀ p, s.lines.get? p = SharedLine.find? rows p.start p.align

/-- The cell of an entry asks this of an axis, and it ends at edges that give it this room. -/
structure Entry.Fits (a : Axis) (c : Constraints) (edges : List Int) (item : Item) (room : Int)
    (e : Entry) : Prop where
  item_eq : e.item a c = item
  ends : (c.along a).EndsAt edges
  room_eq : item.room edges = .ok room

/-- The cell of an entry asks this of the rows, with the baseline that has been found. -/
structure Entry.HasRow (c : Constraints) (row : RowItem) (e : Entry) : Prop where
  item_eq : e.item .y c = row.toItem
  stop_lt : c.y.stop < Index.limit
  baseline_eq : e.baseline = row.baseline.map Baseline.offset

/-- The column or row side of a cell finds the room it was given. -/
theorem Entry.Fits.guardedRoom_eq {a : Axis} {c : Constraints} {edges : List Int} {item : Item}
    {room : Int} {e : Entry} (fits : e.Fits a c edges item room) :
    (e.item a c).guardedRoom edges = .ok room := by
  rw [Item.guardedRoom_eq fits.ends, fits.item_eq, fits.room_eq]
  rfl

theorem Entry.Fits.guardedSegment_eq {a : Axis} {c : Constraints} {edges : List Int} {item : Item}
    {room : Int} {e : Entry} (fits : e.Fits a c edges item room) (origin : Int) :
    (e.item a c).guardedSegment edges origin =
      Guarded.ofChecked (item.segment room edges origin) := by
  have hends : (e.item a c).placement.EndsAt edges := fits.ends
  rw [fits.item_eq] at hends ⊢
  exact Item.guardedSegment_eq hends fits.room_eq origin

theorem Entry.Fits.guardedLead_eq {a : Axis} {c : Constraints} {edges : List Int} {item : Item}
    {room : Int} {e : Entry} (fits : e.Fits a c edges item room) (origin : Int) :
    (e.item a c).guardedLead edges origin = Guarded.ofChecked (item.lead edges origin) := by
  rw [Item.guardedLead_eq fits.ends, fits.item_eq]

/-- The cell is where its row side is. -/
theorem Entry.HasRow.placement_eq {c : Constraints} {row : RowItem} {e : Entry}
    (hrow : e.HasRow c row) : row.placement = c.y :=
  congrArg Item.placement hrow.item_eq.symm

/-! ## The four stages -/

namespace Stage

/-- The columns have been gathered. -/
def columnsGathered (K : Type) : Stage K (Axes Gathered Tracks) (PerAxis Item) where
  sheet g s t := s.Gathers g .x t.frame.x ∧ t.frame.y = g.frame.y
  entry g _ e c info := e.item .x c = info.x ∧ info.y = g.frame.y.item c.y e.natural.y

/-- The columns have been resolved. -/
def columnsResolved (K : Type) : Stage K (Axes Resolved Tracks) (Axes (Fitted Item) Item) where
  sheet g s t := s.Resolves g .x t.frame.x ∧ t.frame.y = g.frame.y
  entry g edges e c info :=
    e.Fits .x c edges.x info.x.item info.x.room ∧ info.y = g.frame.y.item c.y e.natural.y

/-- The rows have been gathered. -/
def rowsGathered (K : Type) : Stage K (Axes Resolved Gathered) (Axes (Fitted Item) RowItem) where
  sheet g s t :=
    s.Resolves g .x t.frame.x ∧ s.Gathers g .y t.frame.y ∧ s.HasLines t.cells.rowItems
  entry _ edges e c info := e.Fits .x c edges.x info.x.item info.x.room ∧ e.HasRow c info.y

/-- The rows have been resolved. -/
def rowsResolved (K : Type) : Stage K (PerAxis Resolved) LayoutCell where
  sheet g s t := (∀ a, s.Resolves g a (t.frame.along a)) ∧ s.HasLines (layoutRows t.cells)
  entry _ edges e c l :=
    (∀ a, e.Fits a c (edges.along a) (l.itemAt a) (l.roomAt a)) ∧ e.HasRow c l.y.item

end Stage

/-- The row sides of the cells are kept in the entries. -/
theorem Entries.Follow.forall₂_rows {h : Host K} {g : Grid K} {edges : PerAxis (List Int)}
    {entries : Entries} {cells} (follow : Follow h (.rowsGathered K) g edges entries cells) :
    List.Forall₂ (fun e row => ∃ cell, g.cells.toList[e.index]? = some cell ∧ e.HasRow cell.info row)
      entries.infos cells.rowItems := by
  induction follow with
  | nil => exact .nil
  | component found entry _ ih => exact .cons ⟨_, found, entry.2⟩ ih
  | grid found entry _ _ _ _ _ ih => exact .cons ⟨_, found, entry.2⟩ ih

end Plan

/-! ## From gathering to resolving -/

/-- Resolved rows are those of the cells that have been gathered. -/
theorem Cells.layoutRows_of_resolve {cells : Cells (Axes Resolved Gathered) (Axes (Fitted Item) RowItem) K}
    {edges : List Int} {out} (h : cells.resolve rowView edges = .ok out) :
    layoutRows out = cells.rowItems := by
  induction cells generalizing out with
  | nil =>
    cases h
    rfl
  | component info key rest ih =>
    simp only [resolve, Checked.bind_eq_ok_iff, Checked.pure_eq_ok_iff] at h
    obtain ⟨room, -, others, hothers, rfl⟩ := h
    exact congrArg (info.y :: ·) (ih hothers)
  | grid info frame inner rest _ ih =>
    simp only [resolve, Checked.bind_eq_ok_iff, Checked.pure_eq_ok_iff] at h
    obtain ⟨room, -, axis, -, inside, -, others, hothers, rfl⟩ := h
    exact congrArg (info.y :: ·) (ih hothers)

namespace Plan

variable {F C F' C' : Type} {a : Axis}

/-- The sheet of an axis that has been gathered, when the edges are added to it. -/
theorem Sheet.Gathers.resolves {g : Grid K} {axis : Resolved} {s : Sheet}
    (gathers : s.Gathers g a axis.toGathered) (hlength : axis.edges.length = axis.sizing.count + 1) :
    (s.withEdges a axis.edges).Resolves g a axis := by
  refine ⟨⟨gathers.sizing_eq, gathers.preferred_eq, gathers.resizable_eq⟩, ?_, hlength⟩
  cases a <;> rfl

/-- Edges of the rows leave the columns as they are. -/
theorem Sheet.Resolves.withEdges {g : Grid K} {axis : Resolved} {s : Sheet}
    (resolves : s.Resolves g .x axis) (edges : List Int) :
    (s.withEdges .y edges).Resolves g .x axis :=
  ⟨⟨resolves.sizing_eq, resolves.preferred_eq, resolves.resizable_eq⟩, resolves.edges_eq,
    resolves.length_edges⟩

/-- The sheet of a grid whose columns have been resolved, when the rows are added to it, with the lines
after the baselines of all cells have been registered. -/
theorem Sheet.Resolves.withRows {g : Grid K} {s : Sheet} {columns : Resolved}
    (resolves : s.Resolves g .x columns) (cells : Cells (Axes Resolved Gathered) _ K)
    (demands : List Demand) (height : Int) :
    (Stage.rowsGathered K).sheet g
      (s.withRows ⟨demands⟩ height (cells.rowItems.foldl LineTable.note .empty))
      ⟨⟨columns, ⟨⟨demands⟩, g.frame.y.resizable, height⟩⟩, cells⟩ := by
  refine ⟨⟨⟨?_, ?_, resolves.resizable_eq⟩, ?_, resolves.length_edges⟩, ⟨rfl, rfl, rfl⟩, ?_⟩
  · exact resolves.sizing_eq
  · exact resolves.preferred_eq
  · exact resolves.edges_eq
  · exact LineTable.get?_foldl_note_empty cells.rowItems

/-- A stage that has gathered an axis leads to one that has resolved it. -/
structure Stage.Leads (s : Stage K F C) (a : Axis) (v : AxisView F C F' C') (s' : Stage K F' C') :
    Prop where
  gathers : ∀ {g sheet t}, s.sheet g sheet t → sheet.Gathers g a (v.gathered t.frame)
  item_eq : ∀ {g edges e c info}, s.entry g edges e c info → e.item a c = v.item info
  entry : ∀ {g edges e c info tracks room}, s.entry g edges e c info →
    e.Fits a c tracks (v.item info) room → s'.entry g (edges.replace a tracks) e c (v.fit info room)
  sheet : ∀ {g sheet t axis cells}, s.sheet g sheet t →
    (sheet.withEdges a axis.edges).Resolves g a axis → t.cells.resolve v axis.edges = .ok cells →
    s'.sheet g (sheet.withEdges a axis.edges) ⟨v.settle t.frame axis, cells⟩

/-- What a cell is given by the stage fits its entry. -/
theorem Stage.Leads.fits {s : Stage K F C} {v : AxisView F C F' C'} {s' : Stage K F' C'}
    (leads : s.Leads a v s') {g : Grid K} {before : PerAxis (List Int)} {edges : List Int}
    {count : Nat} {e : Entry} {c : Constraints} {info : C} (entry : s.entry g before e c info)
    (hlength : edges.length = count + 1) (hstop : (v.item info).placement.stop ≤ count) :
    (e.item a c).guardedRoom edges = Guarded.ofChecked ((v.item info).room edges) ∧
      ∀ room, (v.item info).room edges = .ok room → e.Fits a c edges (v.item info) room := by
  have hitem := leads.item_eq entry
  have hends : (e.item a c).placement.EndsAt edges := by
    rw [hitem]
    exact Placement.endsAt_of_le hlength hstop
  refine ⟨?_, fun room hroom => ⟨hitem, hends, hroom⟩⟩
  rw [Item.guardedRoom_eq hends, hitem]

/-- The columns are resolved from what has been gathered. -/
theorem Stage.columns_lead : (columnsGathered K).Leads .x columnView (columnsResolved K) where
  gathers h := h.1
  item_eq h := h.1
  entry h fits := ⟨fits, h.2⟩
  sheet h resolves _ := ⟨resolves, h.2⟩

/-- The rows are resolved from what has been gathered. -/
theorem Stage.rows_lead : (rowsGathered K).Leads .y rowView (rowsResolved K) where
  gathers h := h.2.1
  item_eq h := h.2.item_eq
  entry h fits := by
    refine ⟨?_, h.2⟩
    rintro (_ | _)
    · exact h.1
    · exact fits
  sheet h resolves hcells := by
    refine ⟨?_, ?_⟩
    · rintro (_ | _)
      · exact h.1.withEdges _
      · exact resolves
    · rw [Cells.layoutRows_of_resolve hcells]
      exact h.2.2

end Plan

end FormGrid
