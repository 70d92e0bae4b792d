import FormGrid.Proofs.Nesting
import FormGrid.Proofs.Placed

/-!
# The axes are laid out apart

Widths are solved before heights, and nothing that concerns heights comes back to the columns: two
forms whose columns, widths and horizontal constraints are the same are the same on the x axis, at
all depths, whatever their rows, heights and baselines are and whatever their hosts answer.

In the other direction the axes are not apart, since a baseline may depend on the width. But a
height that a form is given does not come back to what its rows ask for: one form in rectangles of
one width and of any heights asks the same questions, and all its grids prefer the same sizes.

## Main definitions

* `Grid.SameColumns`: two forms are the same on the x axis

## Main results

* `Grid.columns_of_snapshot`: what a snapshot shows on the x axis
* `Grid.measured_of_snapshot`: what does not depend on the height of the rectangle
* `Grid.axes_apart`: both of these
-/

namespace FormGrid

variable {K : Type}

namespace Cells

variable {h : Host K} {tracks : PerAxis Tracks} {edges edges' : PerAxis (List Int)}
  {cells : Cells (PerAxis Tracks) Constraints K}
  {out out' : Cells (PerAxis Resolved) LayoutCell K} {asked asked' : List (Query K)}

/-- Components of the same widths are asked the same questions. -/
theorem Laid.asked_eq_of (laid : Laid h tracks edges cells out asked)
    (laid' : Laid h tracks edges' cells out' asked') (hwidths : SameSides .x out out') :
    asked' = asked := by
  induction laid generalizing edges' out' asked' with
  | nil =>
    cases laid'
    rfl
  | component _ _ measured _ ih =>
    cases laid' with
    | component _ _ measured' others' =>
      cases hwidths with
      | component hcolumn hothers =>
        rw [← show _ = _ from hcolumn, measured] at measured'
        obtain ⟨-, rfl⟩ := Measured.mk.inj (Except.ok.inj measured')
        rw [ih others' hothers]
  | grid _ _ _ _ _ _ ihInner ihRest =>
    cases laid' with
    | grid _ _ _ _ nested' others' =>
      cases hwidths with
      | grid _ _ hinside hothers => rw [ihInner nested' hinside, ihRest others' hothers]

/-- The nested grids of cells that ask the same of both axes prefer the same sizes. -/
theorem Laid.preferred_alike (laid : Laid h tracks edges cells out asked)
    (laid' : Laid h tracks edges' cells out' asked') (hx : SameDemands .x out out')
    (hy : SameDemands .y out out') :
    out.Alike (fun f f' => preferredOf f = preferredOf f') (fun _ _ => True) out' := by
  induction laid generalizing edges' out' asked' with
  | nil =>
    cases laid'
    exact .nil
  | component _ _ _ _ ih =>
    cases laid' with
    | component _ _ _ others' =>
      cases hx with
      | component _ hx =>
        cases hy with
        | component _ hy => exact .component trivial (ih others' hx hy)
  | grid _ _ _ sized _ _ ihInner ihRest =>
    cases laid' with
    | grid _ _ _ sized' nested' others' =>
      cases hx with
      | grid _ _ hinsideX hx =>
        cases hy with
        | grid _ _ hinsideY hy =>
          exact .grid trivial (sized.preferred_eq sized' hinsideX hinsideY)
            (ihInner nested' hinsideX hinsideY) (ihRest others' hx hy)

/-- What is related of the grids of two layouts is related where they are shown. -/
theorem Alike.exactSnapshot {frames : PerAxis Resolved → PerAxis Resolved → Prop}
    {infos : LayoutCell → LayoutCell → Prop} {panes : Snapshot.Pane → Snapshot.Pane → Prop}
    (hpanes : ∀ f f' bounds bounds', frames f f' → panes (.ofFrame f bounds) (.ofFrame f' bounds'))
    (same : out.Alike frames infos out') (s s' : Site) :
    (out.exactSnapshot s).Alike panes (fun _ _ => True) (out'.exactSnapshot s') := by
  induction same generalizing s s' with
  | nil => exact .nil
  | component _ _ ih => exact .component trivial (ih s s')
  | grid _ axes _ _ ihInside ihOthers =>
    exact .grid trivial (hpanes _ _ _ _ axes) (ihInside _ _) (ihOthers s s')

end Cells

/-! ## Forms that are the same on the x axis -/

/-- Two grids of one shape, with the same keys, whose columns and horizontal constraints are the
same at all depths. -/
structure Grid.SameColumns (g g' : Grid K) : Prop where
  columns : g'.columns = g.columns
  cells : g.cells.SameAlong .x g'.cells

namespace Grid

/-- What a snapshot shows on the x axis depends on the columns, the widths that are visible and the
horizontal side of the rectangle. -/
theorem columns_of_snapshot {h h' : Host K} {g g' : Grid K} {rect rect' : Rect}
    {shown shown' : Snapshot K} {asked asked' : List (Query K)} (hosts : h.SameWidths h')
    (same : g.SameColumns g') (hrect : rect'.x = rect.x)
    (hshown : g.snapshot h rect = .ok ⟨shown, asked⟩)
    (hshown' : g'.snapshot h' rect' = .ok ⟨shown', asked'⟩) :
    shown.frame.SameSide .x shown'.frame ∧
      shown.cells.Alike (Snapshot.Pane.SameSide .x) (Snapshot.Entry.SameSide .x) shown'.cells := by
  obtain ⟨layout, laid, sized, rfl⟩ := layout_of_snapshot hshown
  obtain ⟨layout', laid', sized', rfl⟩ := layout_of_snapshot hshown'
  rw [Cells.visible_congr h h' hosts.visible] at laid'
  have alike : (g.cells.visible h).SameAlong .x (g'.cells.visible h) := same.cells.visible h
  have hdemands := laid.columns_alike_of laid' hosts same.columns alike
  have haxis : layout'.frame.along .x = layout.frame.along .x :=
    sized.frame_along_eq sized' same.columns hdemands (congrArg Segment.length hrect)
  have hends : ∀ p : Placement, p.SameEnds ((edgesOf layout.frame).along .x)
      ((edgesOf layout'.frame).along .x) := by
    intro p
    rw [edgesOf_along, edgesOf_along, haxis]
    exact .refl _ _
  have hsides := laid.sides_alike_of laid' alike hdemands fun c _ => hends (c.along .x)
  exact ⟨Snapshot.Pane.ofFrame_sameSide haxis.symm hrect,
    hsides.shown_along (congrArg Segment.start hrect) (fun l _ => hends _) fun hy => nomatch hy⟩

/-- What the cells of a grid ask of the rows, and the questions that are asked for it, do not depend
on the vertical side of the rectangle. -/
theorem measured_of_snapshot {h : Host K} {g : Grid K} {rect rect' : Rect}
    {shown shown' : Snapshot K} {asked asked' : List (Query K)} (hrect : rect'.x = rect.x)
    (hshown : g.snapshot h rect = .ok ⟨shown, asked⟩)
    (hshown' : g.snapshot h rect' = .ok ⟨shown', asked'⟩) :
    asked' = asked ∧ shown.frame.preferred = shown'.frame.preferred ∧
      shown.cells.Alike (fun p p' => p.preferred = p'.preferred) (fun _ _ => True)
        shown'.cells := by
  obtain ⟨layout, laid, sized, rfl⟩ := layout_of_snapshot hshown
  obtain ⟨layout', laid', sized', rfl⟩ := layout_of_snapshot hshown'
  have hx := laid.columns_alike laid'
  have haxis : layout'.frame.x = layout.frame.x :=
    sized.frame_columns_eq sized' hx.columnItems_eq (congrArg Segment.length hrect)
  have hedges : (edgesOf layout'.frame).x = (edgesOf layout.frame).x :=
    congrArg Resolved.edges haxis
  have hwidths : Cells.SameSides .x layout.cells layout'.cells := by
    refine laid.sides_alike laid' hx fun c _ => ?_
    show c.x.SameEnds (edgesOf layout.frame).x (edgesOf layout'.frame).x
    rw [hedges]
    exact .refl _ _
  have hy := laid.rows_alike_of laid' (.inr hwidths)
  exact ⟨laid.asked_eq_of laid' hwidths, sized.preferred_eq sized' hx hy,
    (laid.preferred_alike laid' hx hy).exactSnapshot (fun _ _ _ _ hsize => hsize) _ _⟩

/-- Two forms that have the same columns and widths are shown the same on the x axis. One form in
rectangles with the same horizontal side asks the same questions and prefers the same sizes, at all
depths. -/
theorem axes_apart :
    (∀ {h h' : Host K} {g g' : Grid K} {rect rect' : Rect} {shown shown' : Snapshot K}
      {asked asked' : List (Query K)}, h.SameWidths h' → g.SameColumns g' → rect'.x = rect.x →
      g.snapshot h rect = .ok ⟨shown, asked⟩ → g'.snapshot h' rect' = .ok ⟨shown', asked'⟩ →
      shown.frame.SameSide .x shown'.frame ∧
        shown.cells.Alike (Snapshot.Pane.SameSide .x) (Snapshot.Entry.SameSide .x)
          shown'.cells) ∧
    ∀ {h : Host K} {g : Grid K} {rect rect' : Rect} {shown shown' : Snapshot K}
      {asked asked' : List (Query K)}, rect'.x = rect.x →
      g.snapshot h rect = .ok ⟨shown, asked⟩ → g.snapshot h rect' = .ok ⟨shown', asked'⟩ →
      asked' = asked ∧ shown.frame.preferred = shown'.frame.preferred ∧
        shown.cells.Alike (fun p p' => p.preferred = p'.preferred) (fun _ _ => True)
          shown'.cells :=
  ⟨fun hosts same hrect hshown hshown' => columns_of_snapshot hosts same hrect hshown hshown',
    fun hrect hshown hshown' => measured_of_snapshot hrect hshown hshown'⟩

end Grid

namespace Form

/-- The form in other rows: the buttons in the middle of a high one, with all other cells over it. -/
def reflowed : Grid Nat :=
  ⟨⟨grid.frame.x, ⟨.ofList [0, 2], [⟨6, 0⟩]⟩⟩,
    .component (.single 0 2) 1 <|
      .component ⟨((Constraints.single 1 0).withPaddings (.uniform 1)).x, (Constraints.single 1 2).y⟩
        2 <|
        .component (.single 0 5) 3 <|
          .grid ⟨((Constraints.single 1 1).withGaps (.uniform 2)).x, ⟨4, 3, .fill, ⟨9, 0⟩, .none⟩⟩
            ⟨buttons.frame.x, ⟨.ofList [0], []⟩⟩ buttons.cells .nil⟩

/-- A host on which everything is higher, with baselines that depend on the width. -/
def highHost : Host Nat where
  preferredSize key := ⟨(host.preferredSize key).x, 2 * (host.preferredSize key).y + 5⟩
  isVisible := host.isVisible
  baseline _ size := some (size.x / 4)

/-- Above the screen, a rectangle as wide as that of the form. -/
def raisedRect : Rect := ⟨rect.x, ⟨-400, 300⟩⟩

/-- The form in other rows and on the other host has the same columns, and in the raised rectangle
the form is measured as in its own. -/
theorem reflowed_apart : ∃ shown asked shown' asked' raised askedRaised,
    grid.snapshot host rect = .ok ⟨shown, asked⟩ ∧
    reflowed.snapshot highHost raisedRect = .ok ⟨shown', asked'⟩ ∧
    grid.snapshot host raisedRect = .ok ⟨raised, askedRaised⟩ ∧
    shown.cells.Alike (Snapshot.Pane.SameSide .x) (Snapshot.Entry.SameSide .x) shown'.cells ∧
    askedRaised = asked ∧ asked' ≠ asked ∧
    shown.frame.preferred = raised.frame.preferred := by
  obtain ⟨shown, asked, shown', asked', raised, askedRaised, hshown, hshown', hraised, hasked⟩ :
      ∃ shown asked shown' asked' raised askedRaised,
        grid.snapshot host rect = .ok ⟨shown, asked⟩ ∧
        reflowed.snapshot highHost raisedRect = .ok ⟨shown', asked'⟩ ∧
        grid.snapshot host raisedRect = .ok ⟨raised, askedRaised⟩ ∧ asked' ≠ asked :=
    ⟨_, _, _, _, _, _, rfl, rfl, rfl, by decide⟩
  have same : Grid.SameColumns grid reflowed :=
    ⟨rfl, .component rfl <| .component rfl <| .component rfl <|
      .grid rfl rfl (.component rfl <| .component rfl .nil) .nil⟩
  have hosts : host.SameWidths highHost := ⟨rfl, fun _ => rfl⟩
  have hraise : raisedRect.x = rect.x := rfl
  have hcolumns := Grid.axes_apart.1 hosts same hraise hshown hshown'
  have hmeasured := Grid.axes_apart.2 hraise hshown hraised
  exact ⟨shown, asked, shown', asked', raised, askedRaised, hshown, hshown', hraised, hcolumns.2,
    hmeasured.1, hasked, hmeasured.2.1⟩

end Form

end FormGrid
