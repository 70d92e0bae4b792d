import FormGrid.Host.Table
import FormGrid.Proofs.Nesting
import FormGrid.Proofs.Plan.Places

/-!
# Everything in a plan is there

A plan holds numbers, and it is read together with the grid that it was made for. This module says what
a reader can rely on (`Plan.Represents`). The numbers in a plan are those of the visible cells of the
grid, in ascending order. A plan belongs to an entry exactly where the cell with its number holds a
grid, and that plan represents that grid, so that what is said here holds at every depth. There is one
edge more than there are tracks, and both ends of every visible cell are at edges, also where a cell
covers no track at all. Where a baseline is kept, its line is in the table.

Therefore an overflow is the only thing that can go wrong: a plan is computed where the layout is, it
follows the layout, and it is placed and shown as the layout is.

## Main definitions

* `Plan.Sheet.Reflects`: an entry and the cell with its number
* `Plan.Represents`: what a plan says of its grid

## Main results

* `Plan.represents_of_follows`: a plan that follows a layout represents the grid
* `Grid.plan_in_range`: every plan represents its grid, and no look-up fails
-/

namespace FormGrid

variable {K : Type}

namespace Plan

/-- An entry on a sheet and a cell of the grid: a plan belongs to the entry exactly if the cell holds a
grid, both ends of the cell are at edges, and there is a line for the baseline that is kept. -/
structure Sheet.Reflects (s : Sheet) (e : Cell Sheet Entry Unit)
    (c : Cell (PerAxis Tracks) Constraints K) : Prop where
  subGrid : e.subGrid?.isSome = c.subGrid?.isSome
  ends : ∀ a : Axis,
    (c.info.along a).start + (c.info.along a).span < (s.edges.along a).length
  line : ∀ offset, e.info.baseline = some offset → ∃ line, s.lines.get? c.info.y = some line

/-- What a plan says of its grid, and the plans that belong to its entries of the grids in it. -/
inductive Represents (h : Host K) : Grid K → Plan → Prop where
  | intro {g : Grid K} {plan : Plan}
      (ascending : (Entries.indices plan.cells).Pairwise (· < ·))
      (visible : ∀ i, i ∈ Entries.indices plan.cells ↔
        ∃ c, g.cells.toList[i]? = some c ∧ c.isVisible h = true)
      (length_edges : ∀ a : Axis,
        (plan.frame.edges.along a).length = (plan.frame.sizing.along a).count + 1)
      (entries : ∀ e ∈ plan.cells.toList,
        ∃ c, g.cells.toList[e.info.index]? = some c ∧ plan.frame.Reflects e c)
      (nested : ∀ e ∈ plan.cells.toList, ∀ c inside sub,
        g.cells.toList[e.info.index]? = some c → e.subGrid? = some inside → c.subGrid? = some sub →
        Represents h sub inside) :
      Represents h g plan

/-- The cell that an entry stands for, in the grid and in the stage that the plan follows. -/
theorem Entries.Follow.exists_cell {F C : Type} {h : Host K} {s : Stage K F C} {g : Grid K}
    {edges : PerAxis (List Int)} {entries : Entries} {cells : Cells F C K}
    (follow : Follow h s g edges entries cells) {e : Cell Sheet Entry Unit}
    (he : e ∈ entries.toList) :
    ∃ c, g.cells.toList[e.info.index]? = some c ∧ e.subGrid?.isSome = c.subGrid?.isSome ∧
      ∃ info ∈ cells.infos, s.entry g edges e.info c.info info := by
  induction follow with
  | nil => cases he
  | component found entry others ih =>
    rcases List.mem_cons.mp he with rfl | he
    · exact ⟨_, found, rfl, _, List.mem_cons_self, entry⟩
    · obtain ⟨c, hc, hsub, info, hinfo, hentry⟩ := ih he
      exact ⟨c, hc, hsub, info, List.mem_cons_of_mem _ hinfo, hentry⟩
  | grid found entry indices sheet_eq inner others _ ih =>
    rcases List.mem_cons.mp he with rfl | he
    · exact ⟨_, found, rfl, _, List.mem_cons_self, entry⟩
    · obtain ⟨c, hc, hsub, info, hinfo, hentry⟩ := ih he
      exact ⟨c, hc, hsub, info, List.mem_cons_of_mem _ hinfo, hentry⟩

/-- A cell with a baseline has a line in its grid. -/
theorem exists_line {cells : List RowItem} {c : RowItem} {b : Baseline} (hc : c ∈ cells)
    (hb : c.baseline = some b) :
    ∃ line, SharedLine.find? cells c.placement.start c.placement.align = some line := by
  have hmember : b ∈ SharedLine.members cells c.placement.start c.placement.align := by
    refine List.mem_filterMap.mpr ⟨c, ?_, hb⟩
    simpa using hc
  rw [SharedLine.find?_eq_ite, if_neg (List.ne_nil_of_mem hmember)]
  exact ⟨_, rfl⟩

variable {h : Host K} {g : Grid K}

/-- An entry reflects its cell in a plan that follows a layout. -/
theorem Entries.Follow.reflects {s : Sheet} {entries : Entries} {frame : PerAxis Resolved}
    {cells : Cells (PerAxis Resolved) LayoutCell K}
    (follow : Follow h (.rowsResolved K) g s.edges entries cells)
    (hsheet : (Stage.rowsResolved K).sheet g s ⟨frame, cells⟩) {e : Cell Sheet Entry Unit}
    (he : e ∈ entries.toList) :
    ∃ c, g.cells.toList[e.info.index]? = some c ∧ s.Reflects e c := by
  obtain ⟨c, hc, hsub, l, hl, fits, hrow⟩ := follow.exists_cell he
  refine ⟨c, hc, hsub, fun a => (fits a).ends, ?_⟩
  intro offset hoffset
  obtain ⟨baseline, hbaseline, -⟩ := Option.map_eq_some_iff.mp (hrow.baseline_eq.symm.trans hoffset)
  rw [hsheet.2, ← hrow.placement_eq]
  exact exists_line (List.mem_map_of_mem hl) hbaseline

/-- A plan that follows a layout represents the grid if the plans in it represent the nested grids. -/
theorem represents_of_nested {plan : Plan} {layout : Layout K}
    (follows : plan.Follows h (.rowsResolved K) g layout)
    (hnested : ∀ e ∈ plan.cells.toList, ∀ c inside sub, g.cells.toList[e.info.index]? = some c →
      e.subGrid? = some inside → c.subGrid? = some sub → Represents h sub inside) :
    plan.Represents h g := by
  obtain ⟨hindices, hsheet, hfollow⟩ := follows
  refine .intro ?_ ?_ ?_ (fun e he => hfollow.reflects hsheet he) hnested
  · rw [hindices]
    exact List.pairwise_findIdxs
  · intro i
    rw [hindices, List.mem_findIdxs_iff_exists_getElem_pos]
    constructor
    · rintro ⟨hi, hvisible⟩
      exact ⟨_, List.getElem?_eq_getElem hi, hvisible⟩
    · rintro ⟨c, hc, hvisible⟩
      obtain ⟨hi, rfl⟩ := List.getElem?_eq_some_iff.mp hc
      exact ⟨hi, hvisible⟩
  · intro a
    rw [(hsheet.1 a).edges_eq, (hsheet.1 a).sizing_eq]
    exact (hsheet.1 a).length_edges

/-- The plans that belong to the entries represent the grids in the cells. -/
theorem Entries.Follow.represents {edges : PerAxis (List Int)} {entries : Entries}
    {cells : Cells (PerAxis Resolved) LayoutCell K}
    (follow : Follow h (.rowsResolved K) g edges entries cells) :
    ∀ e ∈ entries.toList, ∀ c inside sub, g.cells.toList[e.info.index]? = some c →
      e.subGrid? = some inside → c.subGrid? = some sub → Represents h sub inside := by
  induction follow with
  | nil =>
    intro e he
    cases he
  | component found entry others ih =>
    intro e he c inside sub hc hinside hsub
    rcases List.mem_cons.mp he with rfl | he
    · cases hinside
    · exact ih e he c inside sub hc hinside hsub
  | grid found entry indices sheet_eq inner others ihInner ihOthers =>
    intro e he c inside sub hc hinside hsub
    rcases List.mem_cons.mp he with rfl | he
    · cases hc.symm.trans found
      cases hinside
      cases hsub
      exact represents_of_nested ⟨indices, sheet_eq, inner⟩ ihInner
    · exact ihOthers e he c inside sub hc hinside hsub

/-- A plan that follows a layout represents the grid, and so do the plans in it, at all depths. -/
theorem represents_of_follows {plan : Plan} {layout : Layout K}
    (follows : plan.Follows h (.rowsResolved K) g layout) : plan.Represents h g :=
  represents_of_nested follows follows.entries.represents

end Plan

/-- A plan that is computed represents its grid, at all depths: its numbers are those of the visible
cells, plans belong to its entries where these hold grids, both ends of each cell are at an edge, and
each baseline has its line. Hence all look-ups find something. The plan of a grid is computed exactly
where the layout is, follows it and asks the same questions, and otherwise ends with its overflow; and
a grid that is planned and placed has the arrangement and the snapshot of the grid. -/
theorem Grid.plan_in_range (h : Host K) (g : Grid K) :
    (∀ width height plan, g.plan h width height = .ok plan → plan.value.Represents h g) ∧
    (∀ width height, g.plan h width height ≠ .error .outOfRange ∧
      Guarded.Simulates (fun plan layout => plan.queries = layout.queries ∧
          plan.value.Follows h (.rowsResolved K) g layout.value)
        (g.plan h width height) (g.layout h width height)) ∧
    (∀ rect, g.planArrange h rect = Guarded.ofChecked (g.arrange h rect)) ∧
    ∀ rect, g.planSnapshot h rect = Guarded.ofChecked (g.snapshot h rect) := by
  refine ⟨?_, ?_, g.planArrange_eq h, g.planSnapshot_eq h⟩
  · intro width height plan hplan
    obtain ⟨layout, -, -, follows⟩ := (g.plan_simulates h width height).exists_of_ok hplan
    exact Plan.represents_of_follows follows
  · intro width height
    refine ⟨?_, g.plan_simulates h width height⟩
    intro hfault
    have hplan := g.plan_simulates h width height
    rw [hfault] at hplan
    cases hplan

namespace Form

/-- The form with a label that covers nothing, beyond all other cells. -/
def outlined : Grid Nat :=
  ⟨grid.frame, grid.cells ++ .component ((Constraints.single 3 5).withSpan 0 0) 1 .nil⟩

/-- The plan has no entry for the note, which is not shown. The label has its edges, at the end of the
columns and of the rows, and there is a line for the first row. -/
theorem outlined_in_range : ∃ plan asked placed,
    outlined.plan host (some 120) (some 60) = .ok ⟨plan, asked⟩ ∧
    Plan.Entries.indices plan.cells = [0, 1, 3, 4] ∧
    plan.frame.edges.x.length = 4 ∧ plan.frame.edges.y.length = 6 ∧
    plan.frame.lines.get? (Constraints.single 0 0).y = some ⟨14, 4⟩ ∧
    plan.Represents host outlined ∧ outlined.planArrange host rect = .ok ⟨placed, asked⟩ := by
  obtain ⟨plan, asked, placed, hplan, hindices, hcolumns, hrows, hline, hplaced⟩ :
      ∃ plan asked placed, outlined.plan host (some 120) (some 60) = .ok ⟨plan, asked⟩ ∧
      Plan.Entries.indices plan.cells = [0, 1, 3, 4] ∧ plan.frame.edges.x.length = 4 ∧
      plan.frame.edges.y.length = 6 ∧
      plan.frame.lines.get? (Constraints.single 0 0).y = some ⟨14, 4⟩ ∧
      outlined.arrange host rect = .ok ⟨placed, asked⟩ :=
    ⟨_, _, _, rfl, rfl, rfl, rfl, rfl, rfl⟩
  obtain ⟨hrepresents, -, harrange, -⟩ := Grid.plan_in_range host outlined
  refine ⟨plan, asked, placed, hplan, hindices, hcolumns, hrows, hline, hrepresents _ _ _ hplan, ?_⟩
  rw [harrange, hplaced]
  rfl

end Form

end FormGrid
