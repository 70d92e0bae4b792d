import FormGrid.Proofs.Demands
import FormGrid.Proofs.Nesting

/-!
# The preferred size is enough

A grid that has at least its preferred length on an axis shows every component on it whole: the
component gets at least its own preferred length, and no more unless it fills its tracks. Gaps and
paddings, spans and baselines make no difference to this, and the other axis has no part in it.

## Main definitions

* `Align.Reaches`: a length that suffices for content with this alignment

## Main results

* `Grid.component_reaches`: the components in the cells of one grid
* `Grid.snapshot_reaches`: the components at all depths
-/

namespace FormGrid

variable {K : Type}

/-- The length is enough for the preferred one, and it is this one unless all the room is filled. -/
def Align.Reaches (align : Align) (length preferred : Int) : Prop :=
  preferred ≤ length ∧ (align ≠ .fill → length = preferred)

/-- Content reaches its natural extent where its room has space for that, paddings not counted. -/
theorem Item.reaches_of_le {i : Item} {room : Int}
    (h : i.natural - i.placement.padding.exactTotal ≤ room) :
    i.placement.align.Reaches (i.exactDrawnLength room) i.natural := by
  unfold exactDrawnLength exactLength
  cases halign : i.placement.align with
  | fill =>
    refine ⟨?_, fun hne => absurd rfl hne⟩
    show i.natural ≤ room + i.placement.padding.exactTotal
    omega
  | leading | center | trailing =>
    have hmin : min room (i.natural - i.placement.padding.exactTotal) +
        i.placement.padding.exactTotal = i.natural := by omega
    exact ⟨hmin.ge, fun _ => hmin⟩

/-- Content reaches its natural extent where its tracks are as long as it demands. -/
theorem Item.reaches_of_demand_le {i : Item} {room : Int} {edges : List Int}
    (hroom : i.room edges = .ok room) (h : i.exactDemand ≤ i.placement.extent edges) :
    i.placement.align.Reaches (i.exactDrawnLength room) i.natural := by
  apply reaches_of_le
  rw [room_eq_ok hroom, exactRoom]
  unfold exactDemand at h
  omega

namespace Grid

variable {h : Host K} {g : Grid K} {rect : Rect} {shown : Snapshot K} {asked : List (Query K)}

/-- In a grid that is large enough on an axis, every component in a cell reaches its preferred
length on that axis. -/
theorem component_reaches (hshown : g.snapshot h rect = .ok ⟨shown, asked⟩) {e : Snapshot.Entry}
    {key : K} (hmem : Cell.component e key ∈ shown.cells.toList) :
    (shown.frame.preferred.x ≤ rect.x.length → 1 ≤ e.constraints.x.span →
        e.constraints.x.align.Reaches e.bounds.x.length (h.preferredSize key).x) ∧
      (shown.frame.preferred.y ≤ rect.y.length → 1 ≤ e.constraints.y.span →
        e.constraints.y.align.Reaches e.bounds.y.length (h.preferredSize key).y) := by
  obtain ⟨layout, laid, sized, hcells, hframe⟩ := snapshot_eq_ok_iff.mp hshown
  obtain ⟨c, l, query, hl, fits, measured, shows⟩ := laid.exists_of_mem_toList hcells hmem
  have hx : (h.preferredSize key).x = l.x.item.natural := by rw [fits.column]; rfl
  have hy : (h.preferredSize key).y = l.y.item.natural := by rw [fits.row]; rfl
  rw [shows.constraints_eq, shows.component_bounds, hframe, hx, hy]
  constructor
  · intro hle hspan
    exact Item.reaches_of_demand_le fits.column_room (sized.column_extent hl hle hspan)
  · intro hle hspan
    have hbaseline : ∀ b, l.y.item.baseline = some b → l.y.item.HasBaseline b := fun b hb =>
      RowItem.hasBaseline_of_measure measured hb
    have hdemand := RowItem.exactDemand_le_size_exactRequest
      (List.mem_map_of_mem (f := fun l : LayoutCell => l.y.item) hl) hbaseline
    have hreaches := Item.reaches_of_demand_le fits.row_room
      (hdemand.trans (sized.row_extent hl hle hspan))
    show Align.Reaches _ ((Site.exactRowSegment _ l.y).length + _) _
    rw [Site.length_exactRowSegment]
    exact hreaches

/-- A layout without given lengths is the layout with the preferred size. -/
theorem preferred_of_layoutIn {queries : List (Query K)}
    (hpreferred : g.preferredSize h = .ok ⟨rect.size, queries⟩) {layout : Layout K}
    (hlayout : g.layoutIn h rect = .ok ⟨layout, asked⟩) : preferredOf layout.frame = rect.size := by
  obtain ⟨free, hfree, hsize⟩ := preferredSize_eq_ok_iff.mp hpreferred
  cases hlayout.symm.trans (layoutIn_of_layout hfree hsize)
  exact hsize

/-- Every grid in a snapshot, at whatever depth, that is large enough on an axis shows its visible
components whole on that axis; and the outermost grid is large enough if it has its preferred
size. -/
theorem snapshot_reaches (hshown : g.snapshot h rect = .ok ⟨shown, asked⟩) :
    (∀ node ∈ shown.nodes, ∀ e key, Cell.component e key ∈ node.cells.toList →
      (node.frame.preferred.x ≤ node.frame.bounds.x.length → 1 ≤ e.constraints.x.span →
          e.constraints.x.align.Reaches e.bounds.x.length (h.preferredSize key).x) ∧
        (node.frame.preferred.y ≤ node.frame.bounds.y.length → 1 ≤ e.constraints.y.span →
          e.constraints.y.align.Reaches e.bounds.y.length (h.preferredSize key).y)) ∧
      (shown.cells.entries.map (fun e => (e.1, e.2.constraints)) =
        g.cells.entries.filter fun e => h.isVisible e.1) ∧
      ∀ queries, g.preferredSize h = .ok ⟨rect.size, queries⟩ →
        shown.frame.preferred = shown.frame.bounds.size := by
  refine ⟨?_, entries_of_snapshot hshown, ?_⟩
  · -- a nested grid is shown as by itself, so only one grid has to be looked at
    intro node hnode e key hmem
    obtain ⟨g', inside, hself⟩ := snapshot_of_mem_nodes hshown hnode
    exact component_reaches hself hmem
  · intro queries hpreferred
    obtain ⟨layout, laid, sized, -, hframe⟩ := snapshot_eq_ok_iff.mp hshown
    rw [hframe]
    exact preferred_of_layoutIn hpreferred (layout_eq_ok_iff.mpr ⟨laid, sized⟩)

end Grid

namespace Form

/-- In a rectangle with space for the form, both buttons are shown whole, and one fills its column. -/
theorem grid_reaches : ∃ shown asked node e e', grid.snapshot host rect = .ok ⟨shown, asked⟩ ∧
    node ∈ shown.nodes ∧ node.cells.toList = [.component e 4, .component e' 5] ∧
    e.bounds.x.length = (host.preferredSize 4).x ∧
    (host.preferredSize 5).x < e'.bounds.x.length ∧
    e'.bounds.y.length = (host.preferredSize 5).y := by
  obtain ⟨shown, asked, form, node, e, e', hshown, hnodes, hcells, hwide, hhigh, hspan, hspan',
      halign, halign', hfills⟩ : ∃ shown asked form node e e',
      grid.snapshot host rect = .ok ⟨shown, asked⟩ ∧ shown.nodes = [form, node] ∧
      node.cells.toList = [.component e 4, .component e' 5] ∧
      node.frame.preferred.x ≤ node.frame.bounds.x.length ∧
      node.frame.preferred.y ≤ node.frame.bounds.y.length ∧
      1 ≤ e.constraints.x.span ∧ 1 ≤ e'.constraints.y.span ∧
      e.constraints.x.align ≠ .fill ∧ e'.constraints.y.align ≠ .fill ∧
      (host.preferredSize 5).x < e'.bounds.x.length :=
    ⟨_, _, _, _, _, _, rfl, rfl, rfl, by decide, by decide, by decide, by decide, by decide,
      by decide, by decide⟩
  have hnode : node ∈ shown.nodes := by simp [hnodes]
  have hreaches := (Grid.snapshot_reaches hshown).1 node hnode
  obtain ⟨-, hwidth⟩ := (hreaches e 4 (by simp [hcells])).1 hwide hspan
  obtain ⟨-, hheight⟩ := (hreaches e' 5 (by simp [hcells])).2 hhigh hspan'
  exact ⟨shown, asked, node, e, e', hshown, hnode, hcells, hwidth halign, hfills,
    hheight halign'⟩

end Form

end FormGrid
