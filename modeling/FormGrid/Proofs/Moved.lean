import FormGrid.Proofs.Nesting
import FormGrid.Proofs.Placed

/-!
# A form moves as a whole

Where a rectangle lies plays no part in the layout for it, only how large it is. The corner comes in
when the cells are placed: it is added once to everything that is placed in the outermost grid, and
the bounds of a nested grid, which are among these, hand it on to what is placed in that grid. So if
the rectangle is moved, all slots and all bounds move with it by the same distance, at all depths,
and nothing else changes.

Close to the ends of the screen one of the two rectangles may have room for the form and the other
one not. Hence both results are assumed to be computed, and neither follows from the other.

## Main definitions

* `Segment.move`, `Rect.move`, `Snapshot.move`: what is moved keeps its size
* `Site.move`: a site with another corner

## Main results

* `Site.exactBounds_move`, `Site.exactGridBounds_move`: the cells of one grid
* `Cells.exactSnapshot_move`: the cells of a site at all depths
* `Grid.snapshot_moved`: arrangements and snapshots in a rectangle that is moved
-/

namespace FormGrid

variable {K : Type}

/-! ## What is moved -/

/-- The segment with its start moved by a distance. -/
def Segment.move (s : Segment) (d : Int) : Segment := ⟨s.start + d, s.length⟩

/-- The rectangle with its corner moved by a distance on each axis. -/
def Rect.move (r : Rect) (d : PerAxis Int) : Rect := ⟨r.x.move d.x, r.y.move d.y⟩

/-- The site with its corner moved. -/
def Site.move (s : Site) (d : PerAxis Int) : Site :=
  { s with origin := ⟨s.origin.x + d.x, s.origin.y + d.y⟩ }

namespace Snapshot

/-- What is shown of a grid, moved. -/
def Pane.move (d : PerAxis Int) (p : Pane) : Pane := { p with bounds := p.bounds.move d }

/-- What is shown of a cell, moved. -/
def Entry.move (d : PerAxis Int) (e : Entry) : Entry :=
  { e with slot := e.slot.move d, bounds := e.bounds.move d }

/-- The snapshot with every grid and every cell moved by one distance. -/
def move (d : PerAxis Int) (s : Snapshot K) : Snapshot K :=
  ⟨s.frame.move d, s.cells.map (Pane.move d) (Entry.move d)⟩

/-- Components that are shown in other places are placed there. -/
theorem placed_move (d : PerAxis Int) (entries : List (K × Entry)) :
    placed (entries.map fun e => (e.1, e.2.move d)) =
      (placed entries).map fun p => (p.1, p.2.move d) := by
  simp only [placed, List.map_map, Function.comp_def, Entry.move]

/-- Components are asked for their baselines at a size, wherever they are. -/
theorem asked_move (h : Host K) (d : PerAxis Int) (entries : List (K × Entry)) :
    asked h (entries.map fun e => (e.1, e.2.move d)) = asked h entries := by
  simp only [asked, List.filter_map, List.map_map, Function.comp_def, Entry.move, Rect.move,
    Segment.move]

end Snapshot

theorem Cells.grids_map {F C F' C' : Type} (frames : F → F') (infos : C → C') (cells : Cells F C K) :
    (cells.map frames infos).grids =
      cells.grids.map fun p => (infos p.1, ⟨frames p.2.frame, p.2.cells.map frames infos⟩) := by
  induction cells with
  | nil => rfl
  | component info key rest ih => simpa only [map, grids_component] using ih
  | grid info frame inner rest ihInner ihRest =>
    simp only [map, grids_grid, List.map_cons, List.map_append, ihInner, ihRest]

/-- The grids in a snapshot that is moved are those of the snapshot, each of them moved. -/
theorem Snapshot.nodes_move (d : PerAxis Int) (s : Snapshot K) :
    (s.move d).nodes = s.nodes.map (Snapshot.move d) := by
  unfold Tree.nodes
  rw [List.map_cons]
  congr 1
  show ((s.cells.map (Pane.move d) (Entry.move d)).grids).map Prod.snd = _
  rw [Cells.grids_map, List.map_map, List.map_map]
  rfl

/-! ## The cells of one grid -/

namespace Item

variable (i : Item) (edges : List Int) (origin d : Int)

theorem exactLead_move : i.exactLead edges (origin + d) = i.exactLead edges origin + d := by
  unfold exactLead
  omega

theorem exactSegment_move (room : Int) :
    i.exactSegment room edges (origin + d) = (i.exactSegment room edges origin).move d := by
  unfold exactSegment Segment.move
  rw [exactLead_move, Int.add_right_comm]

end Item

theorem Segment.grow_move (s : Segment) (m : Margin) (d : Int) :
    (s.move d).grow m = (s.grow m).move d := by
  unfold grow move
  congr 1
  dsimp only
  omega

namespace Site

variable (s : Site) (d : PerAxis Int)

/-- A component keeps its distance from the corner, with a baseline and without one. -/
theorem exactRowSegment_move (row : Fitted RowItem) :
    (s.move d).exactRowSegment row = (s.exactRowSegment row).move d.y := by
  have hcells : (s.move d).cells = s.cells := rfl
  unfold exactRowSegment
  rw [hcells]
  rcases row.item.shared? s.cells with _ | ⟨baseline, line⟩
  · exact Item.exactSegment_move _ _ _ _ _
  · simp only [Segment.move, Site.move, Segment.mk.injEq, and_true]
    omega

theorem exactBounds_move (c : LayoutCell) :
    (s.move d).exactBounds c = (s.exactBounds c).move d := by
  have hcolumn : ((s.move d).exactContent c).x = (s.exactContent c).x.move d.x :=
    Item.exactSegment_move _ _ _ _ _
  have hrow : ((s.move d).exactContent c).y = (s.exactContent c).y.move d.y :=
    s.exactRowSegment_move d c.y
  rw [exactBounds, hcolumn, hrow, Segment.grow_move, Segment.grow_move]
  rfl

theorem exactGridBounds_move (c : LayoutCell) :
    (s.move d).exactGridBounds c = (s.exactGridBounds c).move d := by
  simp only [exactGridBounds, Site.move, Item.exactLead_move, Rect.move, Segment.move]

theorem exactSlot_move (c : Constraints) : (s.move d).exactSlot c = (s.exactSlot c).move d := by
  simp only [exactSlot, Site.move, Rect.move, Segment.move, Int.add_right_comm]

theorem exactEntry_move (c : LayoutCell) (bounds : Rect) :
    (s.move d).exactEntry c (bounds.move d) = (s.exactEntry c bounds).move d := by
  rw [exactEntry, exactSlot_move]
  rfl

end Site

/-! ## The cells at all depths -/

/-- The cells of a site whose corner is moved lie where they did, moved with the corner. -/
theorem Cells.exactSnapshot_move (d : PerAxis Int) (s : Site)
    (cells : Cells (PerAxis Resolved) LayoutCell K) :
    cells.exactSnapshot (s.move d) =
      (cells.exactSnapshot s).map (Snapshot.Pane.move d) (Snapshot.Entry.move d) := by
  induction cells generalizing s with
  | nil => rfl
  | component c key rest ih =>
    rw [exactSnapshot, s.exactBounds_move, s.exactEntry_move, ih]
    rfl
  | grid c frame inner rest ihInner ihRest =>
    have hcorner : Site.ofGrid frame inner ((s.exactGridBounds c).move d).origin =
        (Site.ofGrid frame inner (s.exactGridBounds c).origin).move d := rfl
    rw [exactSnapshot, s.exactGridBounds_move, s.exactEntry_move, hcorner, ihInner, ihRest]
    rfl

namespace Grid

variable {h : Host K} {g : Grid K} {rect : Rect}

/-- Wherever a rectangle lies, it is shown with the layout for its size. -/
theorem layoutIn_of_snapshot {shown : Snapshot K} {asked : List (Query K)}
    (hshown : g.snapshot h rect = .ok ⟨shown, asked⟩) :
    ∃ layout : Layout K, g.layoutIn h rect = .ok ⟨layout, asked⟩ ∧
      shown = ⟨.ofFrame layout.frame rect, layout.exactSnapshot rect.origin⟩ := by
  obtain ⟨layout, laid, sized, hcells⟩ := layout_of_snapshot hshown
  exact ⟨layout, layout_eq_ok_iff.mpr ⟨laid, sized⟩, hcells⟩

/-- The snapshot in a rectangle that is moved is the snapshot moved, after the same questions. -/
theorem snapshot_eq_move {d : PerAxis Int} {shown shown' : Snapshot K} {asked asked' : List (Query K)}
    (hshown : g.snapshot h rect = .ok ⟨shown, asked⟩)
    (hshown' : g.snapshot h (rect.move d) = .ok ⟨shown', asked'⟩) :
    shown' = shown.move d ∧ asked' = asked := by
  obtain ⟨layout, hlayout, rfl⟩ := layoutIn_of_snapshot hshown
  obtain ⟨layout', hlayout', rfl⟩ := layoutIn_of_snapshot hshown'
  have hsame : g.layoutIn h (rect.move d) = g.layoutIn h rect := rfl
  cases hlayout'.symm.trans (hsame.trans hlayout)
  refine ⟨?_, rfl⟩
  show (⟨_, Cells.exactSnapshot _ _⟩ : Snapshot K) = _
  have hcells := layout.cells.exactSnapshot_move d (Site.ofGrid layout.frame layout.cells rect.origin)
  exact congrArg (Tree.mk _) hcells

/-- A rectangle that is moved, if both rectangles have room on the screen. The same components are
placed in it, in the same order, with their bounds moved by the distance of the rectangles. In the
snapshot all slots and all bounds are moved by it, at all depths, and everything else stays: preferred
sizes, edges and baselines, and the questions that are asked, for the whole form and for each of its
grids. -/
theorem snapshot_moved (h : Host K) (g : Grid K) (rect : Rect) (d : PerAxis Int) :
    (∀ placed placed' asked asked', g.arrange h rect = .ok ⟨placed, asked⟩ →
      g.arrange h (rect.move d) = .ok ⟨placed', asked'⟩ →
      placed' = placed.map (fun p => (p.1, p.2.move d)) ∧ asked' = asked) ∧
    ∀ shown shown' asked asked', g.snapshot h rect = .ok ⟨shown, asked⟩ →
      g.snapshot h (rect.move d) = .ok ⟨shown', asked'⟩ →
      shown' = shown.move d ∧ asked' = asked ∧
        List.Forall₂ (fun node node' : Snapshot K => node' = node.move d ∧
            Snapshot.asked h node'.cells.entries = Snapshot.asked h node.cells.entries)
          shown.nodes shown'.nodes := by
  constructor
  · intro placed placed' asked asked' hplaced hplaced'
    obtain ⟨shown, hshown, rfl⟩ := snapshot_of_arrange hplaced
    obtain ⟨shown', hshown', rfl⟩ := snapshot_of_arrange hplaced'
    obtain ⟨rfl, rfl⟩ := snapshot_eq_move hshown hshown'
    refine ⟨?_, rfl⟩
    rw [← Snapshot.placed_move, ← Cells.entries_map]
    rfl
  · intro shown shown' asked asked' hshown hshown'
    obtain ⟨rfl, rfl⟩ := snapshot_eq_move hshown hshown'
    refine ⟨rfl, rfl, ?_⟩
    rw [Snapshot.nodes_move, List.forall₂_map_right_iff, List.forall₂_same]
    intro node _
    refine ⟨rfl, ?_⟩
    rw [← Snapshot.asked_move h d node.cells.entries, ← Cells.entries_map]
    rfl

end Grid

namespace Form

/-- To the left and downwards. -/
def away : PerAxis Int := ⟨-300, 45⟩

/-- The form is moved, with its buttons. -/
theorem grid_moved : ∃ placed asked placed' shown shown' node node',
    grid.arrange host rect = .ok ⟨placed, asked⟩ ∧
    grid.arrange host (rect.move away) = .ok ⟨placed', asked⟩ ∧
    grid.snapshot host rect = .ok ⟨shown, asked⟩ ∧
    grid.snapshot host (rect.move away) = .ok ⟨shown', asked⟩ ∧
    shown.nodes = [shown, node] ∧ shown'.nodes = [shown', node'] ∧
    placed' = placed.map (fun p => (p.1, p.2.move away)) ∧ shown' = shown.move away ∧
    node' = node.move away ∧ asked.map Query.key = [1, 2, 4, 5] := by
  obtain ⟨placed, asked, placed', asked', shown, shown', node, node', hplaced, hplaced', hshown,
      hshown', hnodes, hnodes', hkeys⟩ : ∃ placed asked placed' asked' shown shown' node node',
      grid.arrange host rect = .ok ⟨placed, asked⟩ ∧
      grid.arrange host (rect.move away) = .ok ⟨placed', asked'⟩ ∧
      grid.snapshot host rect = .ok ⟨shown, asked⟩ ∧
      grid.snapshot host (rect.move away) = .ok ⟨shown', asked'⟩ ∧
      shown.nodes = [shown, node] ∧ shown'.nodes = [shown', node'] ∧
      asked.map Query.key = [1, 2, 4, 5] :=
    ⟨_, _, _, _, _, _, _, _, rfl, rfl, rfl, rfl, rfl, rfl, rfl⟩
  obtain ⟨harrange, hsnapshot⟩ := Grid.snapshot_moved host grid rect away
  obtain ⟨hmoved, rfl⟩ := harrange _ _ _ _ hplaced hplaced'
  obtain ⟨hshownMoved, -, hnested⟩ := hsnapshot _ _ _ _ hshown hshown'
  rw [hnodes, hnodes'] at hnested
  obtain ⟨-, hbuttons⟩ := List.forall₂_cons.mp hnested
  exact ⟨placed, _, placed', shown, shown', node, node', hplaced, hplaced', hshown, hshown',
    hnodes, hnodes', hmoved, hshownMoved, (List.forall₂_cons.mp hbuttons).1.1, hkeys⟩

end Form

end FormGrid
