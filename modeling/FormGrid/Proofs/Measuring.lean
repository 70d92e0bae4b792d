import FormGrid.Container
import FormGrid.Proofs.Resizing

/-!
# Measuring a form and laying it out

The preferred size of a form is found by a layout without given lengths: every axis of the root grid
takes its preferred length. A form that is laid out into just this size goes the same way, with the
same questions asked for it and in the same order. Nothing is left to share out among the tracks, so
each of them has its least size, whichever of them may be resized.

A container adds its insets when it is measured and takes them away when it is laid out. Both
together leave the size as it is and move the corner, whatever the signs of the insets.

## Main results

* `Sizing.edges_of_preferred`: the edges of an axis of the preferred length
* `Grid.snapshot_of_preferredSize`: a grid in a rectangle of its preferred size
* `Container.snapshot_preferred`: a container in a rectangle of its preferred size
-/

namespace FormGrid

variable {K : Type}

/-! ## One axis -/

theorem boundaries_eq_scanl {start : Int} {sizes edges : List Int}
    (h : boundaries start sizes = .ok edges) : edges = sizes.scanl (· + ·) start := by
  induction sizes generalizing start edges with
  | nil =>
    cases h
    rfl
  | cons size sizes ih =>
    simp only [boundaries, Checked.bind_eq_ok_iff, Checked.pure_eq_ok_iff] at h
    obtain ⟨next, hnext, rest, hrest, rfl⟩ := h
    rw [List.scanl_cons, ih hrest, (Pixel.add_eq_ok_iff.mp hnext).1]

/-- The edges of an axis of the preferred length are the running sums of the least sizes. The last
one is the preferred length. -/
theorem Sizing.edges_of_preferred {s : Sizing} {p : Int} {resizable : IndexSet} {edges : List Int}
    (hedges : s.edges p resizable = .ok edges) (hp : s.preferred = .ok p) :
    ∃ sizes, s.minSizes = .ok sizes ∧ edges = sizes.scanl (· + ·) 0 ∧ edges.getLast? = some p := by
  obtain ⟨sizes, hsizes, hboundaries⟩ := edges_spec hedges
  have hsum := preferred_eq_ok hp hsizes
  rw [hsum, Int.sub_self, exactResize_zero (minSizes_nonneg hsizes)] at hboundaries
  have hscanl := boundaries_eq_scanl hboundaries
  refine ⟨sizes, hsizes, hscanl, ?_⟩
  rw [hscanl, List.getLast?_scanl, hsum, List.sum_eq_foldl]

/-! ## Grids -/

namespace Grid

variable {h : Host K} {g : Grid K} {rect : Rect} {shown : Snapshot K} {asked queries : List (Query K)}

/-- The layout by which a grid is measured is that of a rectangle of the preferred size, down to the
edges of its tracks and to the questions asked for it. -/
theorem snapshot_of_preferredSize (hsize : g.preferredSize h = .ok ⟨rect.size, queries⟩)
    (hshown : g.snapshot h rect = .ok ⟨shown, asked⟩) :
    asked = queries ∧ shown.frame.preferred = rect.size ∧
      ∃ layout, g.layout h none none = .ok ⟨layout, queries⟩ ∧
        g.layoutIn h rect = .ok ⟨layout, queries⟩ ∧
        ∀ a, ∃ sizes, (layout.frame.along a).sizing.minSizes = .ok sizes ∧
          shown.frame.edges a = sizes.scanl (· + ·) 0 ∧
          (shown.frame.edges a).getLast? = some (rect.size.along a) := by
  obtain ⟨layout, hlayout, hpreferred⟩ := preferredSize_eq_ok_iff.mp hsize
  have hfixed := layoutIn_of_layout hlayout hpreferred
  simp only [Grid.snapshot, hfixed, Layout.snapshot, Checked.bind_eq_ok_iff,
    Checked.pure_eq_ok_iff] at hshown
  obtain ⟨_, heq, _, ⟨cells, hcells, rfl⟩, hshown⟩ := hshown
  cases heq
  cases hshown
  refine ⟨rfl, hpreferred, layout, hlayout, hfixed, ?_⟩
  intro a
  obtain ⟨-, sized⟩ := layout_eq_ok_iff.mp hfixed
  have spans : (layout.frame.along a).Spans (rect.size.along a) := sized.spans_along a
  have hlength : (layout.frame.along a).preferred = rect.size.along a := by
    rw [← hpreferred]
    cases a <;> rfl
  have hpreferred := spans.preferred_eq
  rw [hlength] at hpreferred
  rw [Snapshot.Pane.edges_ofFrame]
  exact Sizing.edges_of_preferred spans.edges_eq hpreferred

end Grid

/-! ## Containers -/

namespace Container

variable {h : Host K} {b : Container K} {size : Size} {queries : List (Query K)}

/-- A container prefers what its root grid prefers, and the insets around it. -/
theorem preferredSize_eq_ok (hsize : b.preferredSize h = .ok ⟨size, queries⟩) :
    ∃ inner, b.root.preferredSize h = .ok ⟨inner, queries⟩ ∧
      size = ⟨inner.x + b.insets.x.exactTotal, inner.y + b.insets.y.exactTotal⟩ := by
  simp only [preferredSize, Checked.bind_eq_ok_iff, Checked.pure_eq_ok_iff] at hsize
  obtain ⟨⟨inner, asked⟩, hinner, outer, houter, heq⟩ := hsize
  cases heq
  exact ⟨inner, hinner, Size.outset_eq_ok houter⟩

/-- A container that is shown in a rectangle of its preferred size shows its root grid at the size
that the grid prefers, moved by the insets, with tracks of their least sizes. The questions asked
for it are those by which it was measured, in the same order. -/
theorem snapshot_preferred {x y : Int} {shown : Snapshot K} {asked : List (Query K)}
    (hsize : b.preferredSize h = .ok ⟨size, queries⟩)
    (hshown : b.snapshot h ⟨⟨x, size.x⟩, ⟨y, size.y⟩⟩ = .ok ⟨shown, asked⟩) :
    ∃ inner, b.root.preferredSize h = .ok ⟨inner, queries⟩ ∧ asked = queries ∧
      shown.frame.bounds =
        ⟨⟨x + b.insets.x.before, inner.x⟩, ⟨y + b.insets.y.before, inner.y⟩⟩ ∧
      shown.frame.preferred = inner ∧
      ∃ layout, b.root.layout h none none = .ok ⟨layout, queries⟩ ∧
        b.root.layoutIn h shown.frame.bounds = .ok ⟨layout, queries⟩ ∧
        ∀ a, ∃ sizes, (layout.frame.along a).sizing.minSizes = .ok sizes ∧
          shown.frame.edges a = sizes.scanl (· + ·) 0 ∧
          (shown.frame.edges a).getLast? = some (inner.along a) := by
  obtain ⟨inner, hinner, rfl⟩ := preferredSize_eq_ok hsize
  obtain ⟨rect, hinset, hshown⟩ := Checked.bind_eq_ok_iff.mp hshown
  have hrect : rect =
      ⟨⟨x + b.insets.x.before, inner.x⟩, ⟨y + b.insets.y.before, inner.y⟩⟩ := by
    rw [Rect.inset_eq_ok hinset, Segment.shrink, Segment.shrink, Int.add_sub_cancel,
      Int.add_sub_cancel]
  have hfits : rect.size = inner := by rw [hrect, Rect.size]
  have hmeasured : b.root.preferredSize h = .ok ⟨rect.size, queries⟩ := hfits ▸ hinner
  obtain ⟨hasked, hpreferred, layout, hlayout, hfixed, hedges⟩ :=
    Grid.snapshot_of_preferredSize hmeasured hshown
  have hbounds := Grid.bounds_of_snapshot hshown
  refine ⟨inner, hinner, hasked, hbounds.trans hrect, hpreferred.trans hfits, layout, hlayout,
    ?_, ?_⟩
  · rw [hbounds]
    exact hfixed
  · rw [← hfits]
    exact hedges

end Container

namespace Form

/-- The form with insets of either sign. -/
def boxed : Container Nat := ⟨grid, ⟨⟨5, -2⟩, ⟨-3, 7⟩⟩⟩

/-- The form is shown in the size that was measured for it, and the resizable column has its least
size. -/
theorem boxed_preferred : ∃ size queries shown asked inner,
    boxed.preferredSize host = .ok ⟨size, queries⟩ ∧
    boxed.snapshot host ⟨⟨100, size.x⟩, ⟨200, size.y⟩⟩ = .ok ⟨shown, asked⟩ ∧
    grid.preferredSize host = .ok ⟨inner, queries⟩ ∧ asked = queries ∧
    queries.map Query.key = [1, 2, 4, 5] ∧
    shown.frame.bounds = ⟨⟨105, inner.x⟩, ⟨197, inner.y⟩⟩ ∧ shown.frame.preferred = inner ∧
    ∀ a, (shown.frame.edges a).getLast? = some (inner.along a) := by
  obtain ⟨size, queries, shown, asked, hsize, hshown, hkeys⟩ : ∃ size queries shown asked,
      boxed.preferredSize host = .ok ⟨size, queries⟩ ∧
      boxed.snapshot host ⟨⟨100, size.x⟩, ⟨200, size.y⟩⟩ = .ok ⟨shown, asked⟩ ∧
      queries.map Query.key = [1, 2, 4, 5] :=
    ⟨_, _, _, _, rfl, rfl, rfl⟩
  obtain ⟨inner, hinner, hasked, hbounds, hpreferred, layout, -, -, hedges⟩ :=
    Container.snapshot_preferred hsize hshown
  refine ⟨size, queries, shown, asked, inner, hsize, hshown, hinner, hasked, hkeys, hbounds,
    hpreferred, ?_⟩
  intro a
  obtain ⟨sizes, -, -, hlast⟩ := hedges a
  exact hlast

end Form

end FormGrid
