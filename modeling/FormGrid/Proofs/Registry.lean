import FormGrid.Grid
import FormGrid.Proofs.Cells

/-!
# Cells that lie apart

Two cells of one grid lie apart if one of them ends on some axis before the other starts. A cell is
inserted only where it lies apart from the cells of the grid, a grid in a cell is filled in the same
way, and erasing a component brings no cells closer. So the cells of a grid that was built by these
calls lie apart at all depths, and they still do when the invisible ones go.

## Main definitions

* `Constraints.Apart`, `Cells.Apart`: cells that lie apart
* `Grid.Built`: the grids that the calls build

## Main results

* `Constraints.apart_of_intersects`: cells that do not intersect lie apart
* `Constraints.Apart.not_intersects`: cells that lie apart are not found to intersect
* `Grid.Built.apart`: the cells of a grid that was built lie apart
-/

namespace FormGrid

variable {F K : Type}

/-- One of two placements ends where the other one starts, or before. -/
def Placement.Apart (p q : Placement) : Prop := p.stop ≤ q.start ∨ q.stop ≤ p.start

/-- Two cells lie apart on one of the axes. -/
def Constraints.Apart (c d : Constraints) : Prop := c.x.Apart d.x ∨ c.y.Apart d.y

theorem Placement.Apart.symm {p q : Placement} (h : p.Apart q) : q.Apart p := Or.symm h

theorem Constraints.Apart.symm {c d : Constraints} (h : c.Apart d) : d.Apart c :=
  h.imp Placement.Apart.symm Placement.Apart.symm

namespace Checked

theorem and_eq_ok_false_iff {first second : Checked Bool} :
    Checked.and first second = .ok false ↔
      first = .ok false ∨ (first = .ok true ∧ second = .ok false) := by
  rcases first with o | (_ | _)
  · simp
  · simp
  · simp

theorem and_eq_ok_true_iff {first second : Checked Bool} :
    Checked.and first second = .ok true ↔ first = .ok true ∧ second = .ok true := by
  rcases first with o | (_ | _)
  · simp
  · simp
  · simp

theorem anyM_eq_ok_false_iff {α : Type} {f : α → Checked Bool} {as : List α} :
    as.anyM f = .ok false ↔ ∀ a ∈ as, f a = .ok false := by
  induction as with
  | nil => simp [pure, Except.pure]
  | cons a as ih =>
    rw [List.anyM_cons, bind_eq_ok_iff, List.forall_mem_cons, ← ih]
    constructor
    · rintro ⟨_ | _, hfirst, hrest⟩
      · exact ⟨hfirst, hrest⟩
      · cases hrest
    · rintro ⟨hfirst, hrest⟩
      exact ⟨false, hfirst, hrest⟩

theorem anyM_ne_ok_true {α : Type} {f : α → Checked Bool} {as : List α}
    (h : ∀ a ∈ as, f a ≠ .ok true) : as.anyM f ≠ .ok true := by
  induction as with
  | nil => simp [pure, Except.pure]
  | cons a as ih =>
    obtain ⟨hfirst, hothers⟩ := List.forall_mem_cons.mp h
    rw [List.anyM_cons, Ne, bind_eq_ok_iff]
    rintro ⟨_ | _, ha, hrest⟩
    · exact ih hothers hrest
    · exact hfirst ha

end Checked

/-- Each half of the question whether two placements intersect compares a start with a stop. -/
theorem Placement.starts_before {p q : Placement} {b : Bool}
    (h : (do return p.start < (← q.stopIndex) : Checked Bool) = .ok b) :
    b = decide (p.start < q.stop) := by
  obtain ⟨stop, hstop, hless⟩ := Checked.bind_eq_ok_iff.mp h
  obtain ⟨rfl, -⟩ := stopIndex_eq_ok_iff.mp hstop
  exact (Except.ok.inj hless).symm

theorem Placement.apart_of_intersects {p q : Placement} (h : p.intersects q = .ok false) :
    p.Apart q := by
  rcases Checked.and_eq_ok_false_iff.mp h with hfirst | ⟨-, hsecond⟩
  · exact .inr (by simpa using starts_before hfirst)
  · exact .inl (by simpa using starts_before hsecond)

/-- Cells that do not intersect lie apart. -/
theorem Constraints.apart_of_intersects {c d : Constraints} (h : c.intersects d = .ok false) :
    c.Apart d := by
  rcases Checked.and_eq_ok_false_iff.mp h with hx | ⟨-, hy⟩
  · exact .inl (Placement.apart_of_intersects hx)
  · exact .inr (Placement.apart_of_intersects hy)

theorem Placement.Apart.not_intersects {p q : Placement} (h : p.Apart q) :
    p.intersects q ≠ .ok true := by
  intro htrue
  obtain ⟨hfirst, hsecond⟩ := Checked.and_eq_ok_true_iff.mp htrue
  have hpq : p.start < q.stop := by simpa using starts_before hfirst
  have hqp : q.start < p.stop := by simpa using starts_before hsecond
  unfold Apart at h
  omega

/-- Cells that lie apart are never found to intersect. -/
theorem Constraints.Apart.not_intersects {c d : Constraints} (h : c.Apart d) :
    c.intersects d ≠ .ok true := by
  intro htrue
  obtain ⟨hx, hy⟩ := Checked.and_eq_ok_true_iff.mp htrue
  rcases h with h | h
  · exact h.not_intersects hx
  · exact h.not_intersects hy

namespace Cells

/-- In each grid, at all depths, any two cells lie apart. -/
def Apart : Cells F Constraints K → Prop
  | nil => True
  | component c _ rest => (∀ d ∈ rest.infos, c.Apart d) ∧ rest.Apart
  | grid c _ inner rest => (∀ d ∈ rest.infos, c.Apart d) ∧ inner.Apart ∧ rest.Apart

/-- A cell that lies apart from all others may be added. -/
theorem Apart.append_single {cells more : Cells F Constraints K} {c : Constraints}
    (h : cells.Apart) (hmore : more.Apart) (hinfos : more.infos = [c])
    (hfree : ∀ d ∈ cells.infos, d.Apart c) : (cells ++ more).Apart := by
  induction cells with
  | nil => exact hmore
  | component d key rest ih =>
    obtain ⟨hd, hrest⟩ := h
    obtain ⟨hdc, hfree⟩ := List.forall_mem_cons.mp hfree
    rw [component_append]
    refine ⟨?_, ih hrest hfree⟩
    rw [infos_append, hinfos]
    simpa [or_imp, forall_and] using ⟨hd, hdc⟩
  | grid d frame inner rest _ ih =>
    obtain ⟨hd, hinner, hrest⟩ := h
    obtain ⟨hdc, hfree⟩ := List.forall_mem_cons.mp hfree
    rw [grid_append]
    refine ⟨?_, hinner, ih hrest hfree⟩
    rw [infos_append, hinfos]
    simpa [or_imp, forall_and] using ⟨hd, hdc⟩

theorem Apart.pairwise {cells : Cells F Constraints K} (h : cells.Apart) :
    cells.infos.Pairwise Constraints.Apart := by
  induction cells with
  | nil => exact .nil
  | component c key rest ih => exact .cons h.1 (ih h.2)
  | grid c frame inner rest _ ih => exact .cons h.1 (ih h.2.2)

theorem Apart.of_mem_grids {cells : Cells F Constraints K} (h : cells.Apart) :
    ∀ p ∈ cells.grids, p.2.cells.Apart := by
  induction cells with
  | nil => exact fun _ hp => nomatch hp
  | component c key rest ih => simpa using ih h.2
  | grid c frame inner rest ihInner ihRest =>
    obtain ⟨-, hinner, hrest⟩ := h
    rw [grids_grid, List.forall_mem_cons, List.forall_mem_append]
    exact ⟨hinner, ihInner hinner, ihRest hrest⟩

section Erase

variable [DecidableEq K] {key : K}

/-- Erasing a component adds no cell to a grid. -/
theorem infos_subset_of_erase? {C : Type} {cells cells' : Cells F C K}
    (h : cells.erase? key = some cells') : cells'.infos ⊆ cells.infos := by
  induction cells generalizing cells' with
  | nil => cases h
  | component info k rest ih =>
    unfold erase? at h
    split at h
    case isTrue =>
      cases h
      exact List.subset_cons_self _ _
    case isFalse =>
      obtain ⟨erased, herased, rfl⟩ := Option.map_eq_some_iff.mp h
      exact List.cons_subset_cons _ (ih herased)
  | grid info frame inner rest _ ih =>
    unfold erase? at h
    split at h
    case h_1 => cases h; exact List.Subset.refl _
    case h_2 =>
      obtain ⟨erased, herased, rfl⟩ := Option.map_eq_some_iff.mp h
      exact List.cons_subset_cons _ (ih herased)

theorem Apart.erase? {cells cells' : Cells F Constraints K} (h : cells.Apart)
    (herase : cells.erase? key = some cells') : cells'.Apart := by
  induction cells generalizing cells' with
  | nil => cases herase
  | component c k rest ih =>
    obtain ⟨hc, hrest⟩ := h
    unfold Cells.erase? at herase
    split at herase
    case isTrue =>
      cases herase
      exact hrest
    case isFalse =>
      obtain ⟨erased, herased, rfl⟩ := Option.map_eq_some_iff.mp herase
      exact ⟨fun d hd => hc d (infos_subset_of_erase? herased hd), ih hrest herased⟩
  | grid c frame inner rest ihInner ihRest =>
    obtain ⟨hc, hinner, hrest⟩ := h
    unfold Cells.erase? at herase
    split at herase
    case h_1 erased herased =>
      cases herase
      exact ⟨hc, ihInner hinner herased, hrest⟩
    case h_2 =>
      obtain ⟨erased, herased, rfl⟩ := Option.map_eq_some_iff.mp herase
      exact ⟨fun d hd => hc d (infos_subset_of_erase? herased hd), hinner, ihRest hrest herased⟩

end Erase

theorem infos_visible_subset {C : Type} (h : Host K) (cells : Cells F C K) :
    (cells.visible h).infos ⊆ cells.infos := by
  induction cells with
  | nil => exact List.Subset.refl _
  | component info key rest ih =>
    unfold visible
    split
    · exact List.cons_subset_cons _ ih
    · exact List.Subset.trans ih (List.subset_cons_self _ _)
  | grid info frame inner rest _ ih =>
    unfold visible
    split
    · exact List.cons_subset_cons _ ih
    · exact List.Subset.trans ih (List.subset_cons_self _ _)

theorem Apart.visible {cells : Cells F Constraints K} (hapart : cells.Apart) (h : Host K) :
    (cells.visible h).Apart := by
  induction cells with
  | nil => trivial
  | component c key rest ih =>
    obtain ⟨hc, hrest⟩ := hapart
    unfold Cells.visible
    split
    · exact ⟨fun d hd => hc d (infos_visible_subset h rest hd), ih hrest⟩
    · exact ih hrest
  | grid c frame inner rest ihInner ihRest =>
    obtain ⟨hc, hinner, hrest⟩ := hapart
    unfold Cells.visible
    split
    · exact ⟨fun d hd => hc d (infos_visible_subset h rest hd), ihInner hinner, ihRest hrest⟩
    · exact ihRest hrest

/-- The grids in visible cells are grids in cells. -/
theorem visibleGrids_subset {C : Type} (h : Host K) (cells : Cells F C K) :
    cells.visibleGrids h ⊆ cells.grids := by
  induction cells with
  | nil => exact List.Subset.refl _
  | component info key rest ih => simpa [visibleGrids] using ih
  | grid info frame inner rest ihInner ihRest =>
    rw [grids_grid]
    unfold visibleGrids
    split
    · exact List.cons_subset_cons _ (List.append_subset.mpr
        ⟨List.subset_append_of_subset_left _ ihInner, List.subset_append_of_subset_right _ ihRest⟩)
    · exact List.subset_cons_of_subset _ (List.subset_append_of_subset_right _ ihRest)

end Cells

/-! ## Grids that are built -/

namespace Grid

/-- A grid that is made from the empty one by inserting and erasing cells and changing the settings
of tracks. A nested grid is made in the same way. -/
inductive Built [DecidableEq K] : Grid K → Prop where
  | empty : Built .empty
  | settings {g : Grid K} (built : Built g) (frame : PerAxis Tracks) : Built ⟨frame, g.cells⟩
  | insert {g g' : Grid K} {key : K} {c : Constraints} (built : Built g)
      (inserted : g.insert key c = .ok g') : Built g'
  | insertSubGrid {α : Type} {g g' : Grid K} {c : Constraints} {build : Grid K → α × Grid K}
      {result : α} (built : Built g) (filled : Built (build .empty).2)
      (inserted : g.insertSubGrid c build = .ok (result, g')) : Built g'
  | erase {g g' : Grid K} {key : K} (built : Built g) (erased : g.erase? key = some g') : Built g'

/-- A cell is inserted only where it lies apart from all cells. -/
theorem apart_of_checkFree {g : Grid K} {c : Constraints} (h : g.checkFree c = .ok ()) :
    ∀ d ∈ g.cells.infos, d.Apart c := by
  intro d hd
  have hall := Checked.anyM_eq_ok_false_iff.mp (checkFree_eq_ok_iff.mp h)
  exact Constraints.apart_of_intersects (hall d hd)

/-- A grid that is inserted becomes the last cell, and nothing else changes. -/
theorem eq_of_insertSubGrid {α : Type} {g g' : Grid K} {c : Constraints}
    {build : Grid K → α × Grid K} {result : α} (h : g.insertSubGrid c build = .ok (result, g')) :
    g.checkFree c = .ok () ∧
      g' = ⟨g.frame, g.cells ++ .grid c (build .empty).2.frame (build .empty).2.cells .nil⟩ := by
  unfold Grid.insertSubGrid at h
  cases hfree : g.checkFree c with
  | error e => simp [hfree, bind, Except.bind] at h
  | ok u =>
    simp only [hfree, bind, Except.bind, pure, Except.pure, Except.ok.injEq, Prod.mk.injEq] at h
    exact ⟨rfl, h.2.symm⟩

/-- The cells of a grid that was built lie apart. -/
theorem Built.apart [DecidableEq K] {g : Grid K} (built : g.Built) : g.cells.Apart := by
  induction built with
  | empty => trivial
  | settings _ _ ih => exact ih
  | insert _ inserted ih =>
    obtain ⟨hfree, rfl⟩ := insert_eq_ok_iff.mp inserted
    exact ih.append_single ⟨by simp [Cells.infos], trivial⟩ rfl (apart_of_checkFree hfree)
  | insertSubGrid _ _ inserted ih ihFilled =>
    obtain ⟨hfree, rfl⟩ := eq_of_insertSubGrid inserted
    exact ih.append_single ⟨by simp [Cells.infos], ihFilled, trivial⟩ rfl
      (apart_of_checkFree hfree)
  | erase _ erased ih =>
    obtain ⟨cells, hcells, rfl⟩ := Option.map_eq_some_iff.mp erased
    exact ih.erase? hcells

end Grid

end FormGrid
