import FormGrid.Proofs.Nesting

/-!
# What is not seen has no influence

The first pass of a layout drops the invisible components and the grids in which nothing is
visible, and no later pass hears of them. So a grid has the same preferred size, the same
arrangement and the same snapshot as the grid that is left when everything invisible is taken out
of it, down to the baseline questions and to the overflow that ends a computation. What a host
says about invisible components, and where these lie, makes no difference.

## Main definitions

* `Host.AgreesOnVisible`: two hosts that say the same of all that is visible
* `Grid.SameResults`: two grids, each with its host, that no measuring call tells apart

## Main results

* `Cells.gatherColumns_visible`: the first pass over the visible cells
* `Grid.layout_visible`, `Grid.layout_congr_host`: whole layouts
* `Grid.sameResults_visible`: sizes, arrangements and snapshots
-/

namespace FormGrid

variable {K : Type}

/-! ## Taking out what is invisible -/

/-- The first pass goes over the visible cells only. -/
theorem Cells.gatherColumns_visible (h : Host K) (tracks : PerAxis Tracks)
    (cells : Cells (PerAxis Tracks) Constraints K) :
    (cells.visible h).gatherColumns h tracks = cells.gatherColumns h tracks := by
  induction cells generalizing tracks with
  | nil => rfl
  | component c key rest ih =>
    by_cases hkey : h.isVisible key
    · simp only [visible, if_pos hkey, gatherColumns, ih]
    · simp only [visible, if_neg hkey, gatherColumns, ih]
  | grid c frame inner rest ihInner ihRest =>
    by_cases hinner : inner.isVisible h
    · have hleft : (inner.visible h).isVisible h = true := by rw [isVisible_visible, hinner]
      simp only [visible, if_pos hinner, gatherColumns, if_pos hleft, ihInner, ihRest]
    · simp only [visible, if_neg hinner, gatherColumns, ihRest]

/-- A grid without its invisible parts has the same layout. -/
theorem Grid.layout_visible (h : Host K) (g : Grid K) (width height : Option Int) :
    Grid.layout h (g.visible h) width height = g.layout h width height := by
  have hcolumns : Grid.gatherColumns h (g.visible h) = g.gatherColumns h := by
    simp only [Grid.gatherColumns, Tree.visible, Cells.gatherColumns_visible]
  rw [Grid.layout, Grid.layout, hcolumns]

/-! ## Hosts that agree on what is visible -/

/-- Two hosts call the same components visible, and of those they say the same. -/
structure Host.AgreesOnVisible (h h' : Host K) : Prop where
  isVisible_eq : h'.isVisible = h.isVisible
  size_eq : ∀ key, h.isVisible key = true → h'.preferredSize key = h.preferredSize key
  baseline_eq : ∀ key, h.isVisible key = true → h'.baseline key = h.baseline key

theorem Host.AgreesOnVisible.refl (h : Host K) : h.AgreesOnVisible h :=
  ⟨rfl, fun _ _ => rfl, fun _ _ => rfl⟩

/-- All components, at whatever depth, are visible. -/
def Cells.AllVisible {F C : Type} (h : Host K) (cells : Cells F C K) : Prop :=
  ∀ e ∈ cells.entries, h.isVisible e.1 = true

namespace Cells

variable {F C F' C' : Type} {h h' : Host K}

theorem allVisible_component {info : C} {key : K} {rest : Cells F C K} :
    (component info key rest).AllVisible h ↔ h.isVisible key = true ∧ rest.AllVisible h :=
  List.forall_mem_cons

theorem allVisible_grid {info : C} {frame : F} {inner rest : Cells F C K} :
    (grid info frame inner rest).AllVisible h ↔ inner.AllVisible h ∧ rest.AllVisible h :=
  List.forall_mem_append

/-- The components that the first pass keeps are visible. -/
theorem allVisible_of_gatherColumns {tracks : PerAxis Tracks}
    {cells : Cells (PerAxis Tracks) Constraints K} {gathered} {demands : List Demand}
    (hgather : cells.gatherColumns h tracks = .ok (gathered, demands)) : gathered.AllVisible h := by
  induction cells generalizing tracks gathered demands with
  | nil =>
    cases hgather
    exact fun _ he => nomatch he
  | component c key rest ih =>
    by_cases hkey : h.isVisible key
    · simp only [gatherColumns, if_pos hkey, Checked.bind_eq_ok_iff, Checked.pure_eq_ok_iff]
        at hgather
      obtain ⟨_, _, _, _, ⟨kept, more⟩, hrest, heq⟩ := hgather
      cases heq
      exact allVisible_component.mpr ⟨hkey, ih hrest⟩
    · simp only [gatherColumns, if_neg hkey] at hgather
      exact ih hgather
  | grid c frame inner rest ihInner ihRest =>
    by_cases hinner : inner.isVisible h
    · simp only [gatherColumns, if_pos hinner, Checked.bind_eq_ok_iff, Checked.pure_eq_ok_iff]
        at hgather
      obtain ⟨_, _, ⟨inside, nested⟩, hinside, _, _, _, _, ⟨kept, more⟩, hrest, heq⟩ := hgather
      cases heq
      exact allVisible_grid.mpr ⟨ihInner hinside, ihRest hrest⟩
    · simp only [gatherColumns, if_neg hinner] at hgather
      exact ihRest hgather

/-- Resolving an axis keeps the components. -/
theorem AllVisible.resolve {v : AxisView F C F' C'} {edges : List Int} {cells : Cells F C K}
    {out : Cells F' C' K} (hcells : cells.AllVisible h) (hout : cells.resolve v edges = .ok out) :
    out.AllVisible h := by
  induction cells generalizing edges out with
  | nil =>
    cases hout
    exact fun _ he => nomatch he
  | component info key rest ih =>
    obtain ⟨hkey, hrest⟩ := allVisible_component.mp hcells
    simp only [Cells.resolve, Checked.bind_eq_ok_iff, Checked.pure_eq_ok_iff] at hout
    obtain ⟨_, _, others, hothers, rfl⟩ := hout
    exact allVisible_component.mpr ⟨hkey, ih hrest hothers⟩
  | grid info frame inner rest ihInner ihRest =>
    obtain ⟨hinner, hrest⟩ := allVisible_grid.mp hcells
    simp only [Cells.resolve, Checked.bind_eq_ok_iff, Checked.pure_eq_ok_iff] at hout
    obtain ⟨_, _, _, _, inside, hinside, others, hothers, rfl⟩ := hout
    exact allVisible_grid.mpr ⟨ihInner hinner hinside, ihRest hrest hothers⟩

/-- The columns do not depend on what is said of invisible components. -/
theorem gatherColumns_congr_host (agree : h.AgreesOnVisible h') (tracks : PerAxis Tracks)
    (cells : Cells (PerAxis Tracks) Constraints K) :
    cells.gatherColumns h' tracks = cells.gatherColumns h tracks := by
  have hgrids : ∀ inner : Cells (PerAxis Tracks) Constraints K,
      inner.isVisible h' = inner.isVisible h := fun inner => by
    rw [isVisible, isVisible, agree.isVisible_eq]
  induction cells generalizing tracks with
  | nil => rfl
  | component c key rest ih =>
    by_cases hkey : h.isVisible key
    · simp only [gatherColumns, agree.isVisible_eq, if_pos hkey, agree.size_eq key hkey, ih]
    · simp only [gatherColumns, agree.isVisible_eq, if_neg hkey, ih]
  | grid c frame inner rest ihInner ihRest =>
    simp only [gatherColumns, hgrids, ihInner, ihRest]

/-- Nor do the rows, as only visible components are asked for a baseline. -/
theorem gatherRows_congr_host (agree : h.AgreesOnVisible h')
    {cells : Cells (Axes Resolved Tracks) (Axes (Fitted Item) Item) K}
    (hcells : cells.AllVisible h) : cells.gatherRows h' = cells.gatherRows h := by
  induction cells with
  | nil => rfl
  | component c key rest ih =>
    obtain ⟨hkey, hrest⟩ := allVisible_component.mp hcells
    simp only [gatherRows, RowItem.measure, agree.baseline_eq key hkey, ih hrest]
  | grid c frame inner rest ihInner ihRest =>
    obtain ⟨hinner, hrest⟩ := allVisible_grid.mp hcells
    simp only [gatherRows, ihInner hinner, ihRest hrest]

end Cells

/-- A layout does not depend on what is said of invisible components. -/
theorem Grid.layout_congr_host {h h' : Host K} (agree : h.AgreesOnVisible h') (g : Grid K)
    (width height : Option Int) : g.layout h' width height = g.layout h width height := by
  have hcolumns : g.gatherColumns h' = g.gatherColumns h := by
    simp only [Grid.gatherColumns, Cells.gatherColumns_congr_host agree]
  unfold Grid.layout
  rw [hcolumns]
  refine Checked.bind_congr fun columns hgather => Checked.bind_congr fun resolved hresolve => ?_
  -- the components that reach the third pass are those that the first one has kept
  simp only [Grid.gatherColumns, Checked.bind_eq_ok_iff, Checked.pure_eq_ok_iff] at hgather
  obtain ⟨⟨gathered, demands⟩, hcells, _, _, rfl⟩ := hgather
  simp only [Tree.resolve, Checked.bind_eq_ok_iff, Checked.pure_eq_ok_iff] at hresolve
  obtain ⟨axis, _, out, hout, rfl⟩ := hresolve
  have hvisible := (Cells.allVisible_of_gatherColumns hcells).resolve hout
  simp only [Tree.gatherRows, Cells.gatherRows_congr_host agree hvisible]

/-! ## Sizes, arrangements and snapshots -/

namespace Grid

/-- No measuring call tells the two grids apart, each with its host: the results are the same, the
baseline questions and their order, and the overflow where there is one. -/
structure SameResults (h : Host K) (g : Grid K) (h' : Host K) (g' : Grid K) : Prop where
  preferredSize_eq : g'.preferredSize h' = g.preferredSize h
  arrange_eq : ∀ rect, g'.arrange h' rect = g.arrange h rect
  snapshot_eq : ∀ rect, g'.snapshot h' rect = g.snapshot h rect

theorem sameResults_of_layout_eq {h h' : Host K} {g g' : Grid K}
    (hlayout : ∀ width height, g'.layout h' width height = g.layout h width height) :
    SameResults h g h' g' where
  preferredSize_eq := by simp only [Grid.preferredSize, hlayout]
  arrange_eq rect := by simp only [Grid.arrange, layoutIn, hlayout]
  snapshot_eq rect := by simp only [Grid.snapshot, layoutIn, hlayout]

/-- A grid and what is left of it without its invisible parts have the same results. So have any
two grids with the same visible parts, under hosts that agree on those. -/
theorem sameResults_visible (h : Host K) (g : Grid K) :
    SameResults h g h (g.visible h) ∧
      ∀ (h' : Host K) (g' : Grid K), h.AgreesOnVisible h' → g'.visible h = g.visible h →
        SameResults h g h' g' := by
  refine ⟨sameResults_of_layout_eq (layout_visible h g), fun h' g' agree hvisible => ?_⟩
  refine sameResults_of_layout_eq fun width height => ?_
  calc g'.layout h' width height
      = g'.layout h width height := layout_congr_host agree g' width height
    _ = Grid.layout h (g'.visible h) width height := (layout_visible h g' width height).symm
    _ = Grid.layout h (g.visible h) width height := by rw [hvisible]
    _ = g.layout h width height := layout_visible h g width height

end Grid

namespace Form

/-- The host of the form, except that the note (3) is large and has a baseline. -/
def loudHost : Host Nat where
  preferredSize key := if key = 3 then ⟨900, 700⟩ else host.preferredSize key
  isVisible := host.isVisible
  baseline key size := if key = 3 then some 300 else host.baseline key size

theorem host_agreesOnVisible : host.AgreesOnVisible loudHost := by
  have hnote : ∀ key, host.isVisible key = true → key ≠ 3 := by
    rintro key hkey rfl
    exact absurd hkey (by decide)
  refine ⟨rfl, fun key hkey => if_neg (hnote key hkey), fun key hkey => ?_⟩
  funext size
  exact if_neg (hnote key hkey)

/-- The form with the note far away from the other cells, and next to a grid that holds nothing but
the note. -/
def noisyGrid : Grid Nat :=
  ⟨grid.frame,
    .component (.single 0 0) 1 <|
      .component ((Constraints.single 1 0).withPaddings (.uniform 1)) 2 <|
        .grid ((Constraints.single 1 1).withGaps (.uniform 2)) buttons.frame buttons.cells <|
          .component ((Constraints.single 40 50).withSpan 3 0) 3 <|
            .grid (.single 7 0) grid.frame (.component (.single 0 0) 3 .nil) .nil⟩

/-- The note has no influence on the form. -/
theorem noisyGrid_sameResults :
    (loudHost.preferredSize 3 ≠ host.preferredSize 3 ∧ noisyGrid ≠ grid) ∧
      (∃ shown asked, grid.snapshot host rect = .ok ⟨shown, asked⟩) ∧
      Grid.SameResults host grid loudHost noisyGrid := by
  exact ⟨by decide, ⟨_, _, rfl⟩,
    (Grid.sameResults_visible host grid).2 loudHost noisyGrid host_agreesOnVisible rfl⟩

end Form

end FormGrid
