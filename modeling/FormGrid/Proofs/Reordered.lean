import FormGrid.Proofs.Calls
import FormGrid.Proofs.Cellwise
import FormGrid.Proofs.Restyled
import FormGrid.Proofs.Sizing.Reordered

/-!
# Cells in another order

The cells of a grid may be registered in another order, if on each axis those of one span from two
on keep theirs. They still lie apart, so none of them is refused for its place. Each cell is laid
out as before, because what it is laid out as follows from the cell and from the edges of its grid
alone; the edges follow from demands that are made in another order of the same kind, and the lines
that cells share are joined from the same baselines. So every cell is shown as before.

## Main definitions

* `Grid.registerAll`: a grid whose cells are registered one after the other
* `Grid.Reordered`: a grid with its cells in another order

## Main results

* `Grid.foldlM_insertCell`: cells that lie apart are registered
* `SizedBy.reorder`, `Cells.snapshot_congr`: axes and snapshots of reordered cells
* `Grid.Built.reordered`: the order of registration does not matter
-/

namespace FormGrid

variable {K : Type}

/-! ## Registering cells -/

/-- The call succeeds with `a`, or else it ends in an overflow and some of these cells has a stop
that is no index. -/
def EndsWith {α : Type} (result : Except InsertError α) (a : α) (cells : List Constraints) : Prop :=
  result = .ok a ∨ (∃ o, result = .error (.overflow o)) ∧ ∃ c ∈ cells, ¬ c.Indexed

namespace Grid

/-- The grid with one more cell, which holds a component or a grid with cells of its own. -/
def insertCell (g : Grid K) :
    Cell (PerAxis Tracks) Constraints K → Except InsertError (Grid K)
  | .component c key => g.insert key c
  | .grid c tree => (g.insertSubGrid c fun _ => ((), tree)).map Prod.snd

/-- The grid with these settings whose cells are registered one after the other. -/
def registerAll (frame : PerAxis Tracks)
    (cells : List (Cell (PerAxis Tracks) Constraints K)) : Except InsertError (Grid K) :=
  cells.foldlM insertCell ⟨frame, .nil⟩

variable {g : Grid K}

theorem insertCell_eq (g : Grid K) (c : Cell (PerAxis Tracks) Constraints K) :
    g.insertCell c = (g.checkFree c.info).map fun _ => ⟨g.frame, g.cells ++ c.single⟩ := by
  cases c with
  | component c key =>
    show g.insert key c = (g.checkFree c).map fun _ => ⟨g.frame, g.cells ++ .component c key .nil⟩
    unfold Grid.insert
    cases g.checkFree c <;> rfl
  | grid c tree =>
    show (g.insertSubGrid c fun _ => ((), tree)).map Prod.snd =
      (g.checkFree c).map fun _ => ⟨g.frame, g.cells ++ .grid c tree.frame tree.cells .nil⟩
    unfold Grid.insertSubGrid
    cases g.checkFree c <;> rfl

/-- A cell that lies apart from the others is not refused for its place. -/
theorem checkFree_of_apart {c : Constraints} (h : ∀ d ∈ g.cells.infos, d.Apart c) :
    EndsWith (g.checkFree c) () (c :: g.cells.infos) := by
  have hnone := Checked.anyM_ne_ok_true fun d hd => (h d hd).not_intersects
  unfold EndsWith checkFree
  rcases hany : g.cells.infos.anyM (·.intersects c) with o | (_ | _)
  · refine .inr ⟨⟨o, by rw [hany]⟩, ?_⟩
    by_contra! hindexed
    obtain ⟨hc, hcells⟩ := List.forall_mem_cons.mp hindexed
    obtain ⟨b, hb, -⟩ := Checked.Decides.anyM fun d hd => (hcells d hd).decides_intersects hc
    cases hany.symm.trans hb
  · exact .inl (by rw [hany])
  · exact absurd hany hnone

/-- Cells that lie apart from each other are registered one after the other. -/
theorem foldlM_insertCell {g' : Grid K} {cells : List (Cell (PerAxis Tracks) Constraints K)}
    (hframe : g'.frame = g.frame) (hcells : g'.cells.toList = g.cells.toList ++ cells)
    (hapart : g'.cells.infos.Pairwise Constraints.Apart) :
    EndsWith (cells.foldlM insertCell g) g' g'.cells.infos := by
  -- what is registered already and what is still to come are together the cells of the result
  induction cells generalizing g with
  | nil =>
    have heq : g'.cells = g.cells := Cells.toList_injective (by rw [hcells, List.append_nil])
    exact .inl (congrArg Except.ok (congrArg₂ Tree.mk hframe.symm heq.symm))
  | cons c cells ih =>
    have hinfos : g'.cells.infos = g.cells.infos ++ c.info :: cells.map Cell.info := by
      simp only [Cells.infos_eq_map_toList, hcells, List.map_append, List.map_cons]
    have hbefore : ∀ d ∈ g.cells.infos, d.Apart c.info := fun d hd =>
      (List.pairwise_append.mp (hinfos ▸ hapart)).2.2 d hd c.info List.mem_cons_self
    rw [List.foldlM_cons, insertCell_eq]
    rcases checkFree_of_apart hbefore with hfree | ⟨⟨o, hover⟩, d, hd, hindexed⟩
    · rw [hfree]
      exact ih (g := ⟨g.frame, g.cells ++ c.single⟩) hframe
        (by rw [hcells, Cells.toList_append, c.toList_single, List.append_cons])
    · refine .inr ⟨⟨o, by rw [hover]; rfl⟩, d, ?_, hindexed⟩
      rw [hinfos]
      rcases List.mem_cons.mp hd with rfl | hd
      · exact List.mem_append_right _ List.mem_cons_self
      · exact List.mem_append_left _ hd

end Grid

/-! ## Axes of reordered cells -/

/-- What is computed for each member of a list is computed as well in another order. -/
theorem Checked.mapM_perm {α β : Type} {f : α → Checked β} {g : α → β}
    (hg : ∀ a b, f a = .ok b → b = g a) {as as' : List α} {bs : List β} (h : as.mapM f = .ok bs)
    (perm : as.Perm as') : bs = as.map g ∧ as'.mapM f = .ok (as'.map g) := by
  obtain rfl := eq_map_of_mapM_eq_ok (fun a _ => hg a) h
  refine ⟨rfl, mapM_eq_ok_iff.mpr ?_⟩
  have hall := mapM_eq_ok_iff.mp h
  rw [List.forall₂_map_right_iff, List.forall₂_same] at hall ⊢
  exact fun a ha => hall a (perm.symm.subset ha)

/-- An axis whose demands are made by cells in another order has the same preferred length and the
same edges. -/
theorem Resolved.reorder {α : Type} {span : α → Nat} {as as' : List α} {f : α → Checked Demand}
    {g : α → Demand} {tracks : Tracks} {length : Int} {r : Resolved}
    (order : Reordered span as as') (hg : ∀ a d, f a = .ok d → d = g a)
    (hspan : ∀ a, (g a).span = span a)
    (hgathered : (do Gathered.ofDemands (← as.mapM f) tracks) = .ok r.toGathered)
    (hresolved : r.toGathered.resolve length = .ok r) :
    ∃ r' : Resolved, (do Gathered.ofDemands (← as'.mapM f) tracks) = .ok r'.toGathered ∧
      r'.toGathered.resolve length = .ok r' ∧ r'.edges = r.edges ∧ r'.preferred = r.preferred := by
  obtain ⟨demands, hdemands, hgathered⟩ := Checked.bind_eq_ok_iff.mp hgathered
  obtain ⟨rfl, hdemands'⟩ := Checked.mapM_perm hg hdemands order.perm
  have hmade : Reordered Demand.span (as.map g) (as'.map g) := order.map fun a _ => hspan a
  obtain ⟨hsizing, hresizable, hpreferred⟩ := Gathered.preferred_eq hgathered
  have hedges := (Resolved.spans_of_resolve hgathered hresolved).1.edges_eq
  rw [hsizing, ← hmade.preferred_eq] at hpreferred
  rw [hsizing, ← hmade.edges_eq] at hedges
  refine ⟨{ r with sizing := ⟨as'.map g⟩ }, ?_, ?_, rfl, rfl⟩
  · simp only [Gathered.ofDemands, Checked.bind_eq_ok_iff, Checked.pure_eq_ok_iff]
    exact ⟨_, hdemands', _, hpreferred, by rw [hresizable]⟩
  · simp only [Gathered.resolve, Checked.bind_eq_ok_iff, Checked.pure_eq_ok_iff]
    exact ⟨_, hedges, rfl⟩

namespace SharedLine

/-- A line is joined from the same baselines in any order. -/
theorem find?_perm {rows rows' : List RowItem} (perm : rows.Perm rows') (row : Nat)
    (align : Align) : find? rows' row align = find? rows row align := by
  have hmembers : (members rows row align).Perm (members rows' row align) :=
    (perm.filter _).filterMap _
  have hnil : members rows' row align = [] ↔ members rows row align = [] := by
    rw [← List.length_eq_zero_iff, ← List.length_eq_zero_iff, hmembers.length_eq]
  simp only [find?_eq_ite, hnil, foldl_join, (hmembers.map _).foldl_eq]

end SharedLine

theorem RowItem.shared?_perm {rows rows' : List RowItem} (perm : rows.Perm rows') (c : RowItem) :
    c.shared? rows' = c.shared? rows := by
  simp only [shared?, SharedLine.find?_perm perm]

/-- The axes of a grid have the same preferred lengths and the same edges if its cells are in
another order. -/
theorem SizedBy.reorder {tracks : PerAxis Tracks}
    {out out' : Cells (PerAxis Resolved) LayoutCell K} {size : Size} {frame : PerAxis Resolved}
    (sized : SizedBy tracks out size frame)
    (order : ∀ a, Reordered (fun l : LayoutCell => (l.constraints.along a).span) out.infos
      out'.infos) :
    ∃ frame', SizedBy tracks out' size frame' ∧ edgesOf frame' = edgesOf frame ∧
      preferredOf frame' = preferredOf frame := by
  have hcolumns : Reordered (·.placement.span) (columnItems out) (columnItems out') :=
    (order .x).map fun _ _ => rfl
  have hrows : Reordered (·.placement.span) (layoutRows out) (layoutRows out') :=
    (order .y).map fun _ _ => rfl
  have hrequest : ∀ c : RowItem, c.request (layoutRows out') = c.request (layoutRows out) :=
    fun c => by rw [RowItem.request, RowItem.request, RowItem.shared?_perm hrows.perm]
  obtain ⟨columns, hgathered, hresolved, hedges, hpreferred⟩ := Resolved.reorder hcolumns
    (fun _ _ => Item.request_eq_ok) (fun _ => rfl) sized.columns sized.column_edges
  obtain ⟨rows, hgathered', hresolved', hedges', hpreferred'⟩ := Resolved.reorder hrows
    (fun _ _ => RowItem.request_eq_ok) (fun _ => rfl) sized.rows sized.row_edges
  refine ⟨⟨columns, rows⟩, ⟨hgathered, ?_, hresolved, hresolved'⟩,
    congrArg₂ Axes.mk hedges hedges', congrArg₂ Axes.mk hpreferred hpreferred'⟩
  simpa only [Gathered.ofRowItems, hrequest] using hgathered'

/-! ## Snapshots of reordered cells -/

/-- The site of cells between the same edges differs only in the cells. -/
theorem Site.ofGrid_congr {frame frame' : PerAxis Resolved}
    (hedges : edgesOf frame' = edgesOf frame) (out out' : Cells (PerAxis Resolved) LayoutCell K)
    (origin : PerAxis Int) :
    Site.ofGrid frame' out' origin =
      { Site.ofGrid frame out origin with cells := layoutRows out' } := by
  have hcolumns : frame'.x.edges = frame.x.edges := congrArg Axes.x hedges
  have hrows : frame'.y.edges = frame.y.edges := congrArg Axes.y hedges
  rw [ofGrid, ofGrid, hcolumns, hrows]
  rfl

theorem Snapshot.Pane.ofFrame_congr {frame frame' : PerAxis Resolved}
    (hedges : edgesOf frame' = edgesOf frame) (hpreferred : preferredOf frame' = preferredOf frame)
    (bounds : Rect) : ofFrame frame' bounds = ofFrame frame bounds := by
  have hcolumns : frame'.x.edges = frame.x.edges := congrArg Axes.x hedges
  have hrows : frame'.y.edges = frame.y.edges := congrArg Axes.y hedges
  rw [ofFrame, ofFrame, hcolumns, hrows, hpreferred]

/-- Of the other cells of its grid, only the lines matter for what is shown of a cell. -/
theorem Cells.snapshot_congr {s : Site} {out : Cells (PerAxis Resolved) LayoutCell K}
    {rows : List RowItem} (hlines : ∀ c : RowItem, c.shared? rows = c.shared? s.cells) :
    out.snapshot { s with cells := rows } = out.snapshot s := by
  induction out with
  | nil => rfl
  | component l key rest ih =>
    simp only [snapshot, Site.componentBounds_congr hlines, ih]
    rfl
  | grid l frame inner rest _ ih =>
    simp only [snapshot, ih]
    rfl

/-! ## Grids -/

instance : Nonempty (Cell (PerAxis Resolved) LayoutCell K) :=
  let item := Tracks.plain.item (default : Constraints).x 0
  let axis : Resolved := ⟨⟨.empty, .empty, 0⟩, []⟩
  ⟨.grid ⟨⟨item, 0⟩, ⟨⟨item, none⟩, 0⟩⟩ ⟨⟨axis, axis⟩, .nil⟩⟩

instance : Nonempty (Cell Snapshot.Pane Snapshot.Entry K) :=
  let rect : Rect := ⟨⟨0, 0⟩, ⟨0, 0⟩⟩
  ⟨.grid ⟨default, rect, rect, none⟩ ⟨⟨rect, ⟨0, 0⟩, [], []⟩, .nil⟩⟩

namespace Grid

/-- The second grid has the settings and the cells of the first one. On each axis, its cells of one
span are in the same order, if the span is at least two. -/
structure Reordered (g g' : Grid K) : Prop where
  frame_eq : g'.frame = g.frame
  cells : ∀ a : Axis, FormGrid.Reordered (fun c : Cell (PerAxis Tracks) Constraints K =>
    (c.info.along a).span) g.cells.toList g'.cells.toList

namespace Reordered

variable {h : Host K} {g g' : Grid K}

theorem perm (order : g.Reordered g') : g.cells.toList.Perm g'.cells.toList := (order.cells .x).perm

theorem visible (order : g.Reordered g') (h : Host K) :
    Grid.Reordered (g.visible h) (g'.visible h) where
  frame_eq := order.frame_eq
  cells a := by
    show FormGrid.Reordered _ (g.cells.visible h).toList (g'.cells.visible h).toList
    rw [Cells.toList_visible, Cells.toList_visible]
    exact ((order.cells a).filter _).map fun c _ => by rw [c.info_visible]

/-- In grids with reordered cells, the axes have the same edges and the same preferred lengths, and
each cell has one layout. -/
theorem layout (order : g.Reordered g') {width height : Option Int} {layout : Layout K}
    {asked : List (Query K)} (hlayout : g.layout h width height = .ok ⟨layout, asked⟩) :
    ∃ layout' asked', g'.layout h width height = .ok ⟨layout', asked'⟩ ∧
      edgesOf layout'.frame = edgesOf layout.frame ∧
      preferredOf layout'.frame = preferredOf layout.frame ∧
      ∃ laid, layout.cells.toList = (g.cells.visible h).toList.map laid ∧
        layout'.cells.toList = (g'.cells.visible h).toList.map laid := by
  obtain ⟨hlaid, sized⟩ := layout_eq_ok_iff.mp hlayout
  obtain ⟨laid, hmap, hspec⟩ :=
    exists_map_of_forall₂ (Cell.LaidAs.rightUnique _ _ _) hlaid.forall₂
  let out' := Cells.ofList ((g'.cells.visible h).toList.map laid)
  obtain ⟨asked', hlaid'⟩ : ∃ asked', Cells.Laid h g.frame (edgesOf layout.frame)
      (g'.cells.visible h) out' asked' := by
    apply Cells.exists_laid
    rw [List.forall₂_map_right_iff, List.forall₂_same]
    exact fun c hc => hspec c ((order.visible h).perm.symm.subset hc)
  have hspans : ∀ a, FormGrid.Reordered (fun l : LayoutCell => (l.constraints.along a).span)
      layout.cells.infos out'.infos := by
    intro a
    rw [Cells.infos_eq_map_toList, Cells.infos_eq_map_toList, Cells.toList_ofList, hmap,
      List.map_map, List.map_map]
    exact ((order.visible h).cells a).map fun c hc => by
      rw [Function.comp_apply, (hspec c hc).constraints_eq]
  obtain ⟨frame', sized', hedges, hpreferred⟩ := sized.reorder hspans
  refine ⟨⟨frame', out'⟩, asked', layout_eq_ok_iff.mpr ⟨?_, ?_⟩, hedges, hpreferred, laid, hmap,
    Cells.toList_ofList _⟩
  · rw [order.frame_eq, hedges]
    exact hlaid'
  · rw [order.frame_eq, show frame'.x.preferred = _ from congrArg Axes.x hpreferred,
      show frame'.y.preferred = _ from congrArg Axes.y hpreferred]
    exact sized'

theorem preferredSize (order : g.Reordered g') {size : Size} {asked : List (Query K)}
    (hsize : g.preferredSize h = .ok ⟨size, asked⟩) :
    ∃ asked', g'.preferredSize h = .ok ⟨size, asked'⟩ := by
  obtain ⟨layout, hlayout, rfl⟩ := preferredSize_eq_ok_iff.mp hsize
  obtain ⟨layout', asked', hlayout', -, hpreferred, -⟩ := order.layout hlayout
  exact ⟨asked', preferredSize_eq_ok_iff.mpr ⟨layout', hlayout', hpreferred⟩⟩

/-- Grids with reordered cells are shown with the same axes, and each of their cells is shown in one
way. -/
theorem snapshot (order : g.Reordered g') {rect : Rect} {shown : Snapshot K}
    {asked : List (Query K)} (hshown : g.snapshot h rect = .ok ⟨shown, asked⟩) :
    ∃ shown' asked', g'.snapshot h rect = .ok ⟨shown', asked'⟩ ∧ shown'.frame = shown.frame ∧
      ∃ look, shown.cells.toList = (g.cells.visible h).toList.map look ∧
        shown'.cells.toList = (g'.cells.visible h).toList.map look := by
  simp only [Grid.snapshot, Layout.snapshot, layoutIn, Checked.bind_eq_ok_iff,
    Checked.pure_eq_ok_iff] at hshown ⊢
  obtain ⟨⟨layout, _⟩, hlayout, _, ⟨cells, hcells, rfl⟩, heq⟩ := hshown
  cases heq
  obtain ⟨layout', asked', hlayout', hedges, hpreferred, laid, hmap, hmap'⟩ := order.layout hlayout
  obtain ⟨look, hlook, hspec⟩ := exists_map_of_forall₂ (Cell.ShownAs.rightUnique _)
    (Cells.forall₂_of_snapshot hcells)
  have hlaid : layout.cells.toList.Perm layout'.cells.toList := by
    rw [hmap, hmap']
    exact (order.visible h).perm.map laid
  have hrows : (layoutRows layout.cells).Perm (layoutRows layout'.cells) := by
    rw [layoutRows, layoutRows, Cells.infos_eq_map_toList, Cells.infos_eq_map_toList]
    exact (hlaid.map _).map _
  have hcells' : layout'.cells.snapshot (Site.ofGrid layout'.frame layout'.cells rect.origin) =
      .ok (.ofList (layout'.cells.toList.map look)) := by
    rw [Site.ofGrid_congr hedges layout.cells, Cells.snapshot_congr (RowItem.shared?_perm hrows)]
    apply Cells.snapshot_of_forall₂
    rw [List.forall₂_map_right_iff, List.forall₂_same]
    exact fun l hl => hspec l (hlaid.symm.subset hl)
  refine ⟨⟨.ofFrame layout'.frame rect, .ofList (layout'.cells.toList.map look)⟩, asked',
    ⟨_, hlayout', _, ⟨_, hcells', rfl⟩, rfl⟩, Snapshot.Pane.ofFrame_congr hedges hpreferred rect,
    look ∘ laid, ?_, ?_⟩
  · rw [hlook, hmap, List.map_map]
  · rw [Cells.toList_ofList, hmap', List.map_map]

end Reordered

/-- Let the cells of a grid that was built be registered in an order in which, on each axis, those of
one span from two on come as before. No cell is refused, unless a comparison ends in an overflow
because some cell has a stop that is no index. The grid has the preferred size that it had, in every
rectangle its axes have the same edges, and each visible cell is shown as it was, down to the grids
in it. -/
theorem Built.reordered [DecidableEq K] {g g' : Grid K} (built : g.Built) (order : g.Reordered g') :
    EndsWith (registerAll g.frame g'.cells.toList) g' g.cells.infos ∧
      ∀ h : Host K,
        (∀ size asked, g.preferredSize h = .ok ⟨size, asked⟩ →
          ∃ asked', g'.preferredSize h = .ok ⟨size, asked'⟩) ∧
        ∀ rect shown asked, g.snapshot h rect = .ok ⟨shown, asked⟩ →
          ∃ shown' asked', g'.snapshot h rect = .ok ⟨shown', asked'⟩ ∧
            shown'.frame = shown.frame ∧
            ∃ look, shown.cells.toList = (g.cells.toList.filter (·.isVisible h)).map look ∧
              shown'.cells.toList = (g'.cells.toList.filter (·.isVisible h)).map look := by
  refine ⟨?_, fun h => ⟨fun size asked hsize => order.preferredSize hsize, ?_⟩⟩
  · -- lying apart does not depend on an order, so the cells may be registered in any
    have hinfos : g.cells.infos.Perm g'.cells.infos := by
      rw [Cells.infos_eq_map_toList, Cells.infos_eq_map_toList]
      exact order.perm.map _
    have hapart := hinfos.pairwise built.apart.pairwise Constraints.Apart.symm
    have hends := foldlM_insertCell (g := ⟨g.frame, .nil⟩) order.frame_eq rfl hapart
    exact hends.imp_right fun ⟨hover, c, hc, hindexed⟩ => ⟨hover, c, hinfos.symm.subset hc, hindexed⟩
  · intro rect shown asked hshown
    obtain ⟨shown', asked', hshown', hframe, look, hlook, hlook'⟩ := order.snapshot hshown
    rw [Cells.toList_visible, List.map_map] at hlook hlook'
    exact ⟨shown', asked', hshown', hframe, _, hlook, hlook'⟩

end Grid

namespace Form

/-- A label and a field in one row, a wide button and a wide note that is not shown in rows of their
own, and between them a nested grid with the other button. -/
def page : Grid Nat :=
  ⟨grid.frame, .component (.single 0 0) 1 <| .component (.single 1 0) 2 <|
    .component ((Constraints.single 0 1).withSpan 2 1) 5 <|
    .grid (.single 1 2) ⟨.plain, .plain⟩ (.component (.single 0 0) 4 .nil) <|
    .component ((Constraints.single 0 3).withSpan 2 1) 3 .nil⟩

/-- The page with the cells in another order. The wide ones come in the same order. -/
def shuffledPage : Grid Nat :=
  ⟨grid.frame, .grid (.single 1 2) ⟨.plain, .plain⟩ (.component (.single 0 0) 4 .nil) <|
    .component ((Constraints.single 0 1).withSpan 2 1) 5 <| .component (.single 1 0) 2 <|
    .component ((Constraints.single 0 3).withSpan 2 1) 3 <| .component (.single 0 0) 1 .nil⟩

theorem built_page : page.Built := by
  have hlabel := @Grid.Built.insert Nat _ _ _ 1 (.single 0 0) .empty rfl
  have hfield := @Grid.Built.insert Nat _ _ _ 2 (.single 1 0) hlabel rfl
  have hbutton := @Grid.Built.insert Nat _ _ _ 5 ((Constraints.single 0 1).withSpan 2 1) hfield rfl
  have hnested := @Grid.Built.insert Nat _ _ _ 4 (.single 0 0) .empty rfl
  have hinside := @Grid.Built.insertSubGrid Nat _ Unit _ _ (.single 1 2) (fun _ => ((), _)) ()
    hbutton hnested rfl
  have hnote := @Grid.Built.insert Nat _ _ _ 3 ((Constraints.single 0 3).withSpan 2 1) hinside rfl
  exact hnote.settings grid.frame

/-- The shuffled page is accepted. It has the size of the page and is shown with the same axes, and
its label, which now comes last, is shown as it was. -/
theorem page_reordered : Grid.registerAll page.frame shuffledPage.cells.toList = .ok shuffledPage ∧
    ∃ size asked shown asked' shown', page.preferredSize host = .ok ⟨size, asked⟩ ∧
      (∃ asked, shuffledPage.preferredSize host = .ok ⟨size, asked⟩) ∧
      page.snapshot host rect = .ok ⟨shown, asked'⟩ ∧
      (∃ asked, shuffledPage.snapshot host rect = .ok ⟨shown', asked⟩) ∧
      shown'.frame = shown.frame ∧ shown'.cells.toList.getLast? = shown.cells.toList.head? := by
  have order : page.Reordered shuffledPage := ⟨rfl, fun a => by cases a <;> decide⟩
  obtain ⟨hends, hsame⟩ := Grid.Built.reordered built_page order
  have hindexed : ∀ c ∈ page.cells.infos, c.x.stop < Index.limit ∧ c.y.stop < Index.limit := by
    decide
  refine ⟨hends.resolve_right ?_, ?_⟩
  · rintro ⟨-, c, hc, hnot⟩
    exact hnot ⟨(hindexed c hc).1, (hindexed c hc).2⟩
  obtain ⟨size, asked, hsize⟩ : ∃ size asked, page.preferredSize host = .ok ⟨size, asked⟩ :=
    ⟨_, _, rfl⟩
  obtain ⟨shown, asked', hshown⟩ : ∃ shown asked, page.snapshot host rect = .ok ⟨shown, asked⟩ :=
    ⟨_, _, rfl⟩
  obtain ⟨hpreferred, hsnapshot⟩ := hsame host
  obtain ⟨shown', asked'', hshown', hframe, look, hlook, hlook'⟩ :=
    hsnapshot rect shown asked' hshown
  refine ⟨size, asked, shown, asked', shown', hsize, hpreferred _ _ hsize, hshown,
    ⟨asked'', hshown'⟩, hframe, ?_⟩
  rw [hlook, hlook']
  rfl

end Form

end FormGrid
