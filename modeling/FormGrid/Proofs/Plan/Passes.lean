import FormGrid.Proofs.Plan.Stages

/-!
# The passes over a plan and the layout

Each pass takes a plan that follows one stage of the layout to a plan that follows the next, or both end
with the same overflow. No look-up fails on the way. Cells are found since the numbers are those of
visible cells. Edges are found since, when the demands on an axis have been gathered, no cell stops
beyond the number of tracks (`Cells.Within`), and an axis has one edge more than it has tracks.

## Main definitions

* `Cells.Within`: no cell stops beyond the last track of its grid

## Main results

* `Cells.planColumns_simulates`, `Plan.Entries.resolve_simulates`,
  `Plan.Entries.measureRows_simulates`: the passes over the cells of one grid
* `Grid.plan_simulates`: a plan follows the layout
-/

namespace FormGrid

variable {K : Type}

/-! ## Gathering columns -/

/-- A demand that is made for tracks that end at an index is accepted. -/
theorem Sizing.require_simulates {β β' : Type} {S : β → β' → Prop} {s : Sizing}
    {request : Checked Demand} {next : Sizing → Guarded β} {next' : Demand → Checked β'}
    (hstop : ∀ d, request = .ok d → d.stop < Index.limit)
    (hnext : ∀ d, Guarded.Simulates S (next ⟨s.demands ++ [d]⟩) (next' d)) :
    Guarded.Simulates S (do next (← s.require (← (request : Guarded Demand)))) (request >>= next') := by
  refine .bind_eq rfl fun d hd => ?_
  have hrequire : s.require d = .ok ⟨s.demands ++ [d]⟩ := require_eq_ok_iff.mpr ⟨hstop d hd, rfl⟩
  rw [hrequire]
  exact hnext d

/-- What a cell asks of an axis is asked for tracks that end at an index. -/
theorem Item.stop_lt_of_request {i : Item} {stop : Nat} (hstop : i.placement.stopIndex = .ok stop) :
    ∀ d, i.request = .ok d → d.stop < Index.limit := by
  intro d hd
  rw [request_eq_ok hd]
  exact (Placement.stopIndex_eq_ok_iff.mp hstop).2

/-- The preferred length of an axis is found from the demands on it. -/
theorem Sizing.guardedPreferred_simulates (s : Sizing) (tracks : Tracks) :
    Guarded.Simulates (fun length axis => axis = ⟨s, tracks.resizable, length⟩) s.guardedPreferred
      (Gathered.ofDemands s.demands tracks) := by
  refine (Guarded.Simulates.of_eq s.guardedPreferred_eq).bind_right ?_
  rintro length _ rfl
  exact .ok rfl

/-- The cells after the first one have numbers that are greater by one. -/
theorem getElem?_next {α : Type} {all rest : List α} {a : α} {index : Nat}
    (h : ∀ j, all[index + j]? = (a :: rest)[j]?) (j : Nat) : all[index + 1 + j]? = rest[j]? := by
  rw [Nat.add_assoc, Nat.add_comm 1 j]
  exact h (j + 1)

/-- Each visible cell gets an entry with its number, and its demand is made. -/
theorem Cells.planColumns_simulates (h : Host K) (edges : PerAxis (List Int)) {g : Grid K}
    {cells : Cells (PerAxis Tracks) Constraints K} {index : Nat} {columns : Sizing}
    (hcells : ∀ j, g.cells.toList[index + j]? = cells.toList[j]?) :
    Guarded.Simulates (fun plan gathered => plan.1 = ⟨columns.demands ++ gathered.2⟩ ∧
        Plan.Entries.indices plan.2 = cells.toList.findIdxs (·.isVisible h) index ∧
        Plan.Entries.Follow h (.columnsGathered K) g edges plan.2 gathered.1)
      (cells.planColumns h g.frame.x index columns) (cells.gatherColumns h g.frame) := by
  induction cells generalizing g edges index columns with
  | nil => exact .ok ⟨by simp, rfl, .nil⟩
  | component c key rest ih =>
    have hrest := getElem?_next hcells
    rw [planColumns, gatherColumns, toList, List.findIdxs_cons, Cell.isVisible]
    by_cases hkey : h.isVisible key
    case neg =>
      simp only [if_neg hkey]
      exact ih edges hrest
    simp only [if_pos hkey]
    refine .bind_eq rfl fun stop hstop => ?_
    refine Sizing.require_simulates (Item.stop_lt_of_request hstop) fun demand => ?_
    refine .bind (ih edges hrest) ?_
    rintro ⟨columns', entries⟩ ⟨gathered, demands⟩ ⟨rfl, hindices, hfollow⟩ -
    refine .ok ⟨?_, congrArg (index :: ·) hindices, .component (hcells 0) ⟨rfl, rfl⟩ hfollow⟩
    rw [List.append_assoc, List.singleton_append]
  | grid c frame inner rest ihInner ihRest =>
    have hrest := getElem?_next hcells
    rw [planColumns, gatherColumns, toList, List.findIdxs_cons, Cell.isVisible]
    by_cases hinner : inner.isVisible h
    case neg =>
      simp only [if_neg hinner]
      exact ihRest edges hrest
    simp only [if_pos hinner]
    refine .bind_eq rfl fun stop hstop => ?_
    -- the nested cells are numbered anew, and they are looked up in the nested grid
    refine .bind (@ihInner ⟨[], []⟩ ⟨frame, inner⟩ 0 .empty fun j => by rw [Nat.zero_add]) ?_
    rintro ⟨nested, insideEntries⟩ ⟨inside, nestedDemands⟩ ⟨hnested, hnestedIndices, hinside⟩ -
    obtain rfl : nested = ⟨nestedDemands⟩ := hnested
    refine .bind (Sizing.guardedPreferred_simulates _ frame.x) ?_
    rintro width axis rfl -
    refine Sizing.require_simulates (Item.stop_lt_of_request hstop) fun demand => ?_
    refine .bind (ihRest edges hrest) ?_
    rintro ⟨columns', entries⟩ ⟨gathered, demands⟩ ⟨rfl, hindices, hfollow⟩ -
    refine .ok ⟨?_, congrArg (index :: ·) hindices,
      .grid (hcells 0) ⟨rfl, rfl⟩ hnestedIndices ⟨⟨rfl, rfl, rfl⟩, rfl⟩ hinside hfollow⟩
    rw [List.append_assoc, List.singleton_append]

theorem Grid.planColumns_simulates (h : Host K) (g : Grid K) :
    Guarded.Simulates (fun plan t => plan.Follows h (.columnsGathered K) g t) (g.planColumns h)
      (g.gatherColumns h) := by
  refine .bind (@Cells.planColumns_simulates _ h ⟨[], []⟩ g g.cells 0 .empty fun j => by
    rw [Nat.zero_add]) ?_
  rintro ⟨columns, entries⟩ ⟨gathered, demands⟩ ⟨hcolumns, hindices, hfollow⟩ -
  obtain rfl : columns = ⟨demands⟩ := hcolumns
  refine .bind (Sizing.guardedPreferred_simulates _ g.frame.x) ?_
  rintro width axis rfl -
  exact .ok ⟨hindices, ⟨⟨rfl, rfl, rfl⟩, rfl⟩, hfollow⟩

/-! ## No cell stops beyond the last track -/

namespace Gathered

/-- No demand on an axis ends beyond its last track. -/
theorem stop_le_of_ofDemands {demands : List Demand} {tracks : Tracks} {g : Gathered}
    (hgathered : ofDemands demands tracks = .ok g) {d : Demand} (hd : d ∈ demands) :
    d.stop ≤ g.sizing.count := by
  apply Sizing.stop_le_count
  rw [(preferred_eq hgathered).1]
  exact hd

/-- Each cell makes a demand on its own rows. -/
theorem stop_le_of_ofRowItems {cells : List RowItem} {tracks : Tracks} {rows : Gathered}
    (hrows : ofRowItems cells tracks = .ok rows) {c : RowItem} (hc : c ∈ cells) :
    c.placement.stop ≤ rows.sizing.count := by
  obtain ⟨demands, hdemands, hgathered⟩ := Checked.bind_eq_ok_iff.mp hrows
  have hall := Checked.eq_map_of_mapM_eq_ok (fun c _ _ => RowItem.request_eq_ok) hdemands
  have hmem : c.exactRequest cells ∈ demands := by
    rw [hall]
    exact List.mem_map_of_mem hc
  exact stop_le_of_ofDemands hgathered hmem

/-- An axis has one edge more than it has tracks. -/
theorem length_edges_of_resolve {g : Gathered} {length : Int} {r : Resolved}
    (h : g.resolve length = .ok r) : r.edges.length = g.sizing.count + 1 := by
  simp only [resolve, Checked.bind_eq_ok_iff, Checked.pure_eq_ok_iff] at h
  obtain ⟨edges, hedges, rfl⟩ := h
  exact Sizing.length_edges hedges

end Gathered

namespace Cells

variable {F C F' C' : Type}

/-- No cell stops beyond this number of tracks, and no cell of a nested grid beyond the number of
tracks of that grid. -/
def Within (v : AxisView F C F' C') (count : Nat) : Cells F C K → Prop
  | nil => True
  | component info _ rest => (v.item info).placement.stop ≤ count ∧ rest.Within v count
  | grid info frame inner rest =>
    (v.item info).placement.stop ≤ count ∧ inner.Within v (v.gathered frame).sizing.count ∧
      rest.Within v count

/-- The demands on the columns are those of all visible cells, so they reach as far. -/
theorem within_of_gatherColumns {h : Host K} {tracks : PerAxis Tracks}
    {cells : Cells (PerAxis Tracks) Constraints K} {gathered} {demands : List Demand} {count : Nat}
    (hgather : cells.gatherColumns h tracks = .ok (gathered, demands))
    (hcount : ∀ d ∈ demands, d.stop ≤ count) : gathered.Within columnView count := by
  induction cells generalizing tracks gathered demands count with
  | nil =>
    cases hgather
    trivial
  | component c key rest ih =>
    by_cases hkey : h.isVisible key
    case neg =>
      simp only [gatherColumns, if_neg hkey] at hgather
      exact ih hgather hcount
    simp only [gatherColumns, if_pos hkey, Checked.bind_eq_ok_iff, Checked.pure_eq_ok_iff]
      at hgather
    obtain ⟨-, -, demand, hdemand, ⟨gathered, demands⟩, hrest, heq⟩ := hgather
    cases heq
    obtain ⟨hfirst, hothers⟩ := List.forall_mem_cons.mp hcount
    rw [Item.request_eq_ok hdemand] at hfirst
    exact ⟨hfirst, ih hrest hothers⟩
  | grid c frame inner rest ihInner ihRest =>
    by_cases hinner : inner.isVisible h
    case neg =>
      simp only [gatherColumns, if_neg hinner] at hgather
      exact ihRest hgather hcount
    simp only [gatherColumns, if_pos hinner, Checked.bind_eq_ok_iff, Checked.pure_eq_ok_iff]
      at hgather
    obtain ⟨-, -, ⟨inside, nested⟩, hinside, columns, hcolumns, demand, hdemand,
      ⟨gathered, demands⟩, hrest, heq⟩ := hgather
    cases heq
    obtain ⟨hfirst, hothers⟩ := List.forall_mem_cons.mp hcount
    rw [Item.request_eq_ok hdemand] at hfirst
    have hinner := ihInner hinside fun d hd => Gathered.stop_le_of_ofDemands hcolumns hd
    exact ⟨hfirst, hinner, ihRest hrest hothers⟩

end Cells

/-- The demands on the rows reach as far as the cells do. -/
theorem Cells.within_of_gatherRows {h : Host K}
    {cells : Cells (Axes Resolved Tracks) (Axes (Fitted Item) Item) K} {rows} {count : Nat}
    (hgather : cells.gatherRows h = .ok rows)
    (hcount : ∀ c ∈ rows.value.rowItems, c.placement.stop ≤ count) :
    rows.value.Within rowView count := by
  induction cells generalizing rows count with
  | nil =>
    cases hgather
    trivial
  | component c key rest ih =>
    simp only [gatherRows, Checked.bind_eq_ok_iff, Checked.pure_eq_ok_iff] at hgather
    obtain ⟨-, -, row, -, others, hrest, rfl⟩ := hgather
    obtain ⟨hfirst, hothers⟩ := List.forall_mem_cons.mp hcount
    exact ⟨hfirst, ih hrest hothers⟩
  | grid c frame inner rest ihInner ihRest =>
    simp only [gatherRows, Checked.bind_eq_ok_iff, Checked.pure_eq_ok_iff] at hgather
    obtain ⟨-, -, inside, hinside, axis, haxis, others, hrest, rfl⟩ := hgather
    obtain ⟨hfirst, hothers⟩ := List.forall_mem_cons.mp hcount
    have hinner := ihInner hinside fun c hc => Gathered.stop_le_of_ofRowItems haxis hc
    exact ⟨hfirst, hinner, ihRest hrest hothers⟩

/-! ## Resolving an axis -/

/-- The edges of an axis are found from the demands on it. -/
theorem Gathered.guardedEdges_simulates (g : Gathered) (length : Int) :
    Guarded.Simulates (fun edges axis => axis = { g with edges := edges })
      (g.sizing.guardedEdges length g.resizable) (g.resolve length) := by
  refine (Guarded.Simulates.of_eq (g.sizing.guardedEdges_eq length g.resizable)).bind_right ?_
  rintro edges _ rfl
  exact .ok rfl

namespace Plan

variable {F C F' C' : Type} {a : Axis}

/-- The entries find the rooms that the cells of the stage are given. -/
theorem Entries.resolve_simulates {h : Host K} {s : Stage K F C} {v : AxisView F C F' C'}
    {s' : Stage K F' C'} (leads : s.Leads a v s') {g : Grid K} {before : PerAxis (List Int)}
    {edges : List Int} {count : Nat} {entries : Entries} {cells : Cells F C K}
    (follow : Follow h s g before entries cells) (within : cells.Within v count)
    (hlength : edges.length = count + 1) :
    Guarded.Simulates (fun entries' cells' => Entries.indices entries' = Entries.indices entries ∧
        Follow h s' g (before.replace a edges) entries' cells')
      (Entries.resolve a g edges entries) (cells.resolve v edges) := by
  induction follow generalizing edges count with
  | nil => exact .ok ⟨rfl, .nil⟩
  | component found entry others ih =>
    obtain ⟨hstop, hothers⟩ := within
    obtain ⟨hroom, hfits⟩ := leads.fits entry hlength hstop
    rw [Entries.resolve, Cells.resolve, Grid.cellAt_eq found, Guarded.ok_bind]
    refine .bind_eq hroom fun room hroom => ?_
    refine .bind (ih hothers hlength) ?_
    rintro entries' cells' ⟨hindices, hfollow⟩ -
    have hentry := leads.entry entry (hfits room hroom)
    exact .ok ⟨congrArg (_ :: ·) hindices, .component found hentry hfollow⟩
  | @grid g before e c nested info sheet frame _ inside _ _ found entry indices sheet_eq inner others
      ihInner ihOthers =>
    obtain ⟨hstop, hinside, hothers⟩ := within
    obtain ⟨hroom, hfits⟩ := leads.fits entry hlength hstop
    have gathers := leads.gathers sheet_eq
    rw [Entries.resolve, Cells.resolve, Grid.cellAt_eq found, Guarded.ok_bind]
    refine .bind_eq hroom fun room hroom => ?_
    simp only [pure_bind]
    rw [gathers.sizing_eq, gathers.resizable_eq]
    refine .bind (Gathered.guardedEdges_simulates _ room) ?_
    rintro tracks axis rfl haxis
    have hcount := Gathered.length_edges_of_resolve haxis
    refine .bind (ihInner hinside hcount) ?_
    rintro inside' cells' ⟨hinsideIndices, hinsideFollow⟩ hcells
    refine .bind (ihOthers hothers hlength) ?_
    rintro entries' others' ⟨hindices, hfollow⟩ -
    have hentry := leads.entry entry (hfits room hroom)
    have hsheet := leads.sheet sheet_eq (gathers.resolves hcount) hcells
    exact .ok ⟨congrArg (e.index :: ·) hindices,
      .grid found hentry (hinsideIndices.trans indices) hsheet hinsideFollow hfollow⟩

/-- A plan is resolved with the same length as the stage that it follows. -/
theorem resolve_simulates {h : Host K} {s : Stage K F C} {v : AxisView F C F' C'}
    {s' : Stage K F' C'} (leads : s.Leads a v s') {g : Grid K} {plan : Plan} {t : Tree F C K}
    (length : Option Int) (follows : plan.Follows h s g t)
    (within : t.cells.Within v (v.gathered t.frame).sizing.count) :
    Guarded.Simulates (fun plan' t' => plan'.Follows h s' g t') (plan.resolve a g length)
      (t.resolve v length) := by
  have gathers := leads.gathers follows.sheet
  rw [Plan.resolve, Tree.resolve, gathers.sizing_eq, gathers.preferred_eq, gathers.resizable_eq]
  refine .bind (Gathered.guardedEdges_simulates _ _) ?_
  rintro edges axis rfl haxis
  have hlength := Gathered.length_edges_of_resolve haxis
  refine .bind (Entries.resolve_simulates leads follows.entries within hlength) ?_
  rintro entries cells ⟨hindices, hfollow⟩ hcells
  have hsheet := leads.sheet follows.sheet (gathers.resolves hlength) hcells
  exact .ok ⟨hindices.trans follows.indices, hsheet, hfollow⟩

end Plan

/-! ## Gathering rows -/

namespace Plan

/-- A component is asked the same question, and its baseline is registered. -/
theorem Entry.measure_simulates (h : Host K) (key : K) (lines : LineTable) {e : Entry}
    {c : Constraints} {columns : List Int} {column : Fitted Item} {row : Item}
    (fits : e.Fits .x c columns column.item column.room) (hrow : e.HasRow c ⟨row, none⟩) :
    Guarded.Simulates (fun answer m => answer.1 = lines.note m.value ∧
        answer.2.queries = m.queries ∧ answer.2.value.index = e.index ∧
        answer.2.value.Fits .x c columns column.item column.room ∧ answer.2.value.HasRow c m.value)
      (e.measure h key c columns lines) (RowItem.measure h key column row) := by
  obtain rfl : e.item .y c = row := hrow.item_eq
  have hplacement : (e.item .y c).placement = c.y := rfl
  have hnatural : (e.item .y c).natural = e.natural.y := rfl
  rw [Entry.measure, RowItem.measure, hplacement, hnatural]
  by_cases hshares : c.y.sharesBaseline
  case neg =>
    rw [if_neg hshares, if_neg hshares]
    exact .ok ⟨rfl, rfl, rfl, fits, hrow⟩
  rw [if_pos hshares, if_pos hshares]
  rw [fits.guardedRoom_eq, Guarded.ok_bind, fits.item_eq]
  refine .bind_eq rfl fun width _ => ?_
  dsimp only
  cases (h.baseline key ⟨width, e.natural.y⟩).filter (0 ≤ ·) with
  | none => exact .ok ⟨rfl, rfl, rfl, fits, hrow⟩
  | some offset =>
    refine .bind_eq rfl fun baseline hbaseline => ?_
    have hoffset : baseline.offset = offset := by
      rw [Item.baselineAt_eq_ok hbaseline]
      rfl
    exact .ok ⟨rfl, rfl, rfl, ⟨fits.item_eq, fits.ends, fits.room_eq⟩, rfl, hrow.stop_lt,
      congrArg some hoffset.symm⟩

/-- An entry makes the demand of its cell. -/
theorem Entry.rowDemand_eq {lines : LineTable} {rows : List RowItem} {e : Entry} {c : Constraints}
    {row : RowItem} (hrow : e.HasRow c row)
    (hlines : ∀ p, lines.get? p = SharedLine.find? rows p.start p.align) :
    e.rowDemand lines c = row.request rows := by
  rw [Entry.rowDemand, RowItem.request, RowItem.shared?, hrow.baseline_eq, hrow.item_eq,
    hrow.placement_eq]
  cases row.baseline with
  | none => rfl
  | some b =>
    rw [Option.map_some, Option.bind_some, hlines]
    cases SharedLine.find? rows c.y.start c.y.align <;> rfl

/-- The demands of the entries are those of their cells, and all of them are accepted. -/
theorem demandRows_simulates {g : Grid K} {lines : LineTable} {all : List RowItem}
    (hlines : ∀ p, lines.get? p = SharedLine.find? all p.start p.align) {entries : List Entry}
    {items : List RowItem} (hall : List.Forall₂ (fun e row => ∃ cell,
      g.cells.toList[e.index]? = some cell ∧ e.HasRow cell.info row) entries items) :
    Guarded.Simulates (fun rows demands => rows = ⟨demands⟩) (demandRows g lines entries)
      (items.mapM (·.request all)) := by
  unfold demandRows
  suffices hfold : ∀ rows : Sizing, Guarded.Simulates
      (fun rows' demands => rows' = ⟨rows.demands ++ demands⟩)
      (entries.foldlM (fun rows e => do
        let cell ← g.cellAt e.index
        rows.require (← e.rowDemand lines cell.info)) rows) (items.mapM (·.request all)) by
    exact hfold .empty
  intro rows
  induction hall generalizing rows with
  | nil => exact .ok (by simp)
  | @cons e row entries items hfirst _ ih =>
    obtain ⟨cell, hcell, hrow⟩ := hfirst
    rw [List.foldlM_cons, List.mapM_cons, Grid.cellAt_eq hcell, Guarded.ok_bind, bind_assoc]
    rw [Entry.rowDemand_eq hrow hlines]
    have hstop : ∀ d, row.request all = .ok d → d.stop < Index.limit := by
      intro d hd
      have hlt : row.placement.stop < Index.limit := hrow.placement_eq ▸ hrow.stop_lt
      rw [RowItem.request_eq_ok hd]
      exact hlt
    refine Sizing.require_simulates hstop fun demand => ?_
    refine (ih ⟨rows.demands ++ [demand]⟩).bind_right ?_
    rintro rows' demands rfl
    exact .ok (by rw [List.append_assoc, List.singleton_append])

/-- Once the baselines are registered, the rows of a grid are gathered from the entries as they are
from the cells. -/
theorem Entries.Follow.gatherRows_simulates {β β' : Type} {S : β → β' → Prop} {h : Host K}
    {g : Grid K} {edges : PerAxis (List Int)} {entries : Entries} {cells}
    (follow : Follow h (.rowsGathered K) g edges entries cells) (tracks : Tracks)
    {next : Sizing → Int → Guarded β} {next' : Gathered → Checked β'}
    (hnext : ∀ demands height, Guarded.Simulates S (next ⟨demands⟩ height)
      (next' ⟨⟨demands⟩, tracks.resizable, height⟩)) :
    Guarded.Simulates S
      (do
        let rows ← demandRows g (cells.rowItems.foldl LineTable.note .empty) entries.infos
        next rows (← rows.guardedPreferred))
      (Gathered.ofRowItems cells.rowItems tracks >>= next') := by
  have hlines := LineTable.get?_foldl_note_empty cells.rowItems
  rw [Gathered.ofRowItems, bind_assoc]
  refine .bind (demandRows_simulates hlines follow.forall₂_rows) ?_
  rintro rows demands rfl -
  refine .bind (Sizing.guardedPreferred_simulates ⟨demands⟩ tracks) ?_
  rintro height axis rfl -
  exact hnext demands height

/-- What the entries ask of the rows is what the cells of the layout do, and a table of lines ends
with the baselines that have been found. -/
theorem Entries.measureRows_simulates {h : Host K} {g : Grid K} {edges : PerAxis (List Int)}
    {entries : Entries} {cells} (lines : LineTable)
    (follow : Follow h (.columnsResolved K) g edges entries cells) :
    Guarded.Simulates (fun answer rows => answer.1 = rows.value.rowItems.foldl LineTable.note lines ∧
        answer.2.queries = rows.queries ∧
        Entries.indices answer.2.value = Entries.indices entries ∧
        Follow h (.rowsGathered K) g edges answer.2.value rows.value)
      (Entries.measureRows h g edges.x lines entries) (cells.gatherRows h) := by
  -- a nested grid starts with an empty table of its own, so the induction is for any table
  induction follow generalizing lines with
  | nil => exact .ok ⟨rfl, rfl, rfl, .nil⟩
  | @component g edges e c key info _ _ found entry others ih =>
    obtain ⟨fits, hrow⟩ := entry
    rw [Entries.measureRows, Cells.gatherRows, Grid.cellAt_eq found, Guarded.ok_bind]
    have hplacement : info.y.placement = c.y := congrArg Item.placement hrow
    rw [hplacement]
    refine .bind_eq rfl fun stop hstop => ?_
    have hbare : (e.startRow g.frame.y c).HasRow c ⟨info.y, none⟩ :=
      ⟨hrow.symm, (Placement.stopIndex_eq_ok_iff.mp hstop).2, rfl⟩
    have hcolumn : (e.startRow g.frame.y c).Fits .x c edges.x info.x.item info.x.room :=
      ⟨fits.item_eq, fits.ends, fits.room_eq⟩
    refine .bind (Entry.measure_simulates h key lines hcolumn hbare) ?_
    rintro ⟨noted, ⟨e', asked⟩⟩ ⟨row, asked'⟩ ⟨hnoted, hasked, hindex, hfits, hrow'⟩ -
    obtain rfl : noted = lines.note row := hnoted
    obtain rfl : asked = asked' := hasked
    obtain hindex : e'.index = e.index := hindex
    refine .bind (ih _) ?_
    rintro ⟨lines', ⟨entries', later⟩⟩ ⟨cells', later'⟩ ⟨hlines, hlater, hindices, hfollow⟩ -
    obtain rfl : later = later' := hlater
    refine .ok ⟨hlines, rfl, List.cons_eq_cons.mpr ⟨hindex, hindices⟩, ?_⟩
    exact .component (hindex ▸ found) ⟨hfits, hrow'⟩ hfollow
  | @grid g edges e c nested info sheet frame _ inside _ _ found entry indices sheet_eq inner others
      ihInner ihOthers =>
    obtain ⟨fits, hrow⟩ := entry
    obtain ⟨resolves, hrows⟩ := sheet_eq
    rw [Entries.measureRows, Cells.gatherRows, Grid.cellAt_eq found, Guarded.ok_bind]
    have hplacement : info.y.placement = c.y := congrArg Item.placement hrow
    rw [hplacement, hrows]
    refine .bind_eq rfl fun stop hstop => ?_
    refine .bind (ihInner .empty) ?_
    rintro ⟨insideLines, ⟨inside', asked⟩⟩ ⟨insideCells, asked'⟩
      ⟨hlines, hasked, hinsideIndices, hinsideFollow⟩ -
    obtain rfl : insideLines = insideCells.rowItems.foldl LineTable.note .empty := hlines
    obtain rfl : asked = asked' := hasked
    refine hinsideFollow.gatherRows_simulates nested.frame.y fun demands height => ?_
    rw [pure_bind]
    refine .bind (ihOthers lines) ?_
    rintro ⟨lines', ⟨entries', later⟩⟩ ⟨cells', later'⟩ ⟨hlines', hlater, hindices, hfollow⟩ -
    obtain rfl : later = later' := hlater
    have hsheet := resolves.withRows insideCells demands height
    have hitem : g.frame.y.item c.y height = { info.y with natural := height } := by
      rw [hrow]
      rfl
    refine .ok ⟨hlines', rfl, congrArg (e.index :: ·) hindices, ?_⟩
    exact .grid found ⟨⟨fits.item_eq, fits.ends, fits.room_eq⟩, hitem,
      (Placement.stopIndex_eq_ok_iff.mp hstop).2, rfl⟩ (hinsideIndices.trans indices) hsheet
      hinsideFollow hfollow

theorem measureRows_simulates {h : Host K} {g : Grid K} {plan : Plan} {t}
    (follows : plan.Follows h (.columnsResolved K) g t) :
    Guarded.Simulates (fun answer rows => answer.queries = rows.queries ∧
        answer.value.Follows h (.rowsGathered K) g rows.value)
      (plan.measureRows h g) (Tree.gatherRows h t) := by
  obtain ⟨hindices, ⟨resolves, hrows⟩, hfollow⟩ := follows
  rw [measureRows, Tree.gatherRows, hrows]
  refine .bind (Entries.measureRows_simulates .empty hfollow) ?_
  rintro ⟨lines, ⟨entries, asked⟩⟩ ⟨cells, asked'⟩ ⟨hlines, hasked, hindices', hfollow'⟩ -
  obtain rfl : lines = cells.rowItems.foldl LineTable.note .empty := hlines
  refine hfollow'.gatherRows_simulates g.frame.y fun demands height => ?_
  have hsheet := resolves.withRows cells demands height
  exact .ok ⟨hasked, hindices'.trans hindices, hsheet, hfollow'⟩

end Plan

/-! ## Planning a grid -/

namespace Grid

variable (h : Host K) (g : Grid K)

/-- Once the columns are gathered, no cell stops beyond the last one. -/
theorem within_of_gatherColumns {columns} (hcolumns : g.gatherColumns h = .ok columns) :
    columns.cells.Within columnView (columnView.gathered columns.frame).sizing.count := by
  simp only [gatherColumns, Checked.bind_eq_ok_iff, Checked.pure_eq_ok_iff] at hcolumns
  obtain ⟨⟨gathered, demands⟩, hgather, axis, haxis, rfl⟩ := hcolumns
  exact Cells.within_of_gatherColumns hgather fun d hd => Gathered.stop_le_of_ofDemands haxis hd

/-- Once the rows are gathered, no cell stops beyond the last one. -/
theorem within_of_gatherRows {resolved} {rows : Measured K _}
    (hrows : Tree.gatherRows h resolved = .ok rows) :
    rows.value.cells.Within rowView (rowView.gathered rows.value.frame).sizing.count := by
  simp only [Tree.gatherRows, Checked.bind_eq_ok_iff, Checked.pure_eq_ok_iff] at hrows
  obtain ⟨cells, hcells, axis, haxis, rfl⟩ := hrows
  exact Cells.within_of_gatherRows hcells fun c hc => Gathered.stop_le_of_ofRowItems haxis hc

/-- A plan follows the layout, with the same baseline questions. -/
theorem plan_simulates (width height : Option Int) :
    Guarded.Simulates (fun plan layout => plan.queries = layout.queries ∧
        plan.value.Follows h (.rowsResolved K) g layout.value)
      (g.plan h width height) (g.layout h width height) := by
  refine .bind (g.planColumns_simulates h) ?_
  intro plan columns follows hcolumns
  have hcolumnsWithin := g.within_of_gatherColumns h hcolumns
  refine .bind (Plan.resolve_simulates Plan.Stage.columns_lead width follows hcolumnsWithin) ?_
  intro plan resolved follows _
  refine .bind (Plan.measureRows_simulates follows) ?_
  rintro plan rows ⟨hasked, follows⟩ hrows
  have hrowsWithin := within_of_gatherRows h hrows
  refine .bind (Plan.resolve_simulates Plan.Stage.rows_lead height follows hrowsWithin) ?_
  intro plan layout follows _
  exact .ok ⟨hasked, follows⟩

end Grid

end FormGrid
