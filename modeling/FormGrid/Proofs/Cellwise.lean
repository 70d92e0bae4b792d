import FormGrid.Proofs.Determined
import FormGrid.Proofs.Shown

/-!
# Layouts and snapshots, one cell at a time

Once the edges of a grid are known and the lines that its cells share, each of its cells is laid
out and shown by itself. So the layout of a list of cells is a layout of each of them, and what is
found out of a cell in one list holds of it in any other list between the same edges.

## Main definitions

* `Cell.single`, `Cells.ofList`: a cell alone, and cells from a list
* `Cell.LaidAs`, `Cell.ShownAs`: a cell of a layout and of a snapshot

## Main results

* `Cells.toList_visible`: the visible cells, each without what is invisible in it
* `Cells.Laid.forall₂`, `Cells.exists_laid`: cells are laid out if each one is
* `Cells.forall₂_of_snapshot`, `Cells.snapshot_of_forall₂`: cells are shown if each one is
* `exists_map_of_forall₂`: a function from each cell to what it is laid out or shown as
-/

namespace FormGrid

variable {F C K : Type}

/-! ## Single cells -/

namespace Cell

/-- The cell alone. -/
def single : Cell F C K → Cells F C K
  | component info key => .component info key .nil
  | grid info tree => .grid info tree.frame tree.cells .nil

theorem toList_single (c : Cell F C K) : c.single.toList = [c] := by
  cases c <;> rfl

theorem single_injective : Function.Injective (single : Cell F C K → Cells F C K) := by
  intro c c' heq
  have hlist := congrArg Cells.toList heq
  rwa [c.toList_single, c'.toList_single, List.singleton_inj] at hlist

theorem infos_single (c : Cell F C K) : c.single.infos = [c.info] := by
  cases c <;> rfl

end Cell

namespace Cells

/-- The cells of a list, as the cells of a grid. -/
def ofList : List (Cell F C K) → Cells F C K
  | [] => nil
  | c :: cs => c.single ++ ofList cs

@[simp] theorem toList_ofList (cs : List (Cell F C K)) : (ofList cs).toList = cs := by
  induction cs with
  | nil => rfl
  | cons c cs ih => rw [ofList, toList_append, c.toList_single, ih, List.singleton_append]

@[simp] theorem ofList_toList (cells : Cells F C K) : ofList cells.toList = cells := by
  induction cells with
  | nil => rfl
  | component info key rest ih => exact congrArg (component info key) ih
  | grid info frame inner rest _ ih => exact congrArg (grid info frame inner) ih

theorem infos_eq_map_toList (cells : Cells F C K) : cells.infos = cells.toList.map Cell.info := by
  induction cells with
  | nil => rfl
  | component info key rest ih => exact congrArg (info :: ·) ih
  | grid info frame inner rest _ ih => exact congrArg (info :: ·) ih

theorem toList_injective : Function.Injective (toList : Cells F C K → List (Cell F C K)) :=
  Function.LeftInverse.injective ofList_toList

end Cells

/-! ## Visible cells -/

/-- The cell without what is invisible in it. -/
def Cell.visible (h : Host K) : Cell F C K → Cell F C K
  | component info key => .component info key
  | grid info tree => .grid info (tree.visible h)

theorem Cell.info_visible (h : Host K) (c : Cell F C K) : (c.visible h).info = c.info := by
  cases c <;> rfl

/-- The cells that stay are those in which something is visible. -/
theorem Cells.toList_visible (h : Host K) (cells : Cells F C K) :
    (cells.visible h).toList = (cells.toList.filter (·.isVisible h)).map (Cell.visible h) := by
  induction cells with
  | nil => rfl
  | component info key rest ih =>
    by_cases hkey : h.isVisible key <;> simp [visible, toList, Cell.isVisible, Cell.visible, hkey, ih]
  | grid info frame inner rest _ ih =>
    by_cases hinner : inner.isVisible h <;>
      simp [visible, toList, Cell.isVisible, Cell.visible, Tree.visible, hinner, ih]

/-! ## Layouts -/

/-- What a relation determines is given by a function. -/
theorem exists_map_of_forall₂ {α β : Type} [Nonempty β] {R : α → β → Prop}
    (unique : Relator.RightUnique R) {as : List α} {bs : List β} (h : List.Forall₂ R as bs) :
    ∃ f : α → β, bs = as.map f ∧ ∀ a ∈ as, R a (f a) := by
  refine ⟨fun a => Classical.epsilon (R a), ?_⟩
  induction h with
  | nil => exact ⟨rfl, fun _ ha => nomatch ha⟩
  | @cons a b as bs hab _ ih =>
    obtain ⟨hmap, hall⟩ := ih
    have hspec := Classical.epsilon_spec ⟨b, hab⟩
    exact ⟨by rw [List.map_cons, ← hmap, unique hab hspec], List.forall_mem_cons.mpr ⟨hspec, hall⟩⟩

/-- A cell of a grid with these tracks and edges is laid out as this cell. -/
def Cell.LaidAs (h : Host K) (tracks : PerAxis Tracks) (edges : PerAxis (List Int))
    (c : Cell (PerAxis Tracks) Constraints K) (l : Cell (PerAxis Resolved) LayoutCell K) : Prop :=
  ∃ asked, Cells.Laid h tracks edges c.single l.single asked

namespace Cell.LaidAs

variable {h : Host K} {tracks : PerAxis Tracks} {edges : PerAxis (List Int)}
  {c : Cell (PerAxis Tracks) Constraints K} {l : Cell (PerAxis Resolved) LayoutCell K}

theorem rightUnique (h : Host K) (tracks : PerAxis Tracks) (edges : PerAxis (List Int)) :
    Relator.RightUnique (Cell.LaidAs h tracks edges) := by
  rintro c l l' ⟨asked, laid⟩ ⟨asked', laid'⟩
  exact single_injective (laid.unique laid')

theorem constraints_eq (laid : c.LaidAs h tracks edges l) : l.info.constraints = c.info := by
  obtain ⟨asked, laid⟩ := laid
  simpa [c.infos_single, l.infos_single] using laid.map_constraints

end Cell.LaidAs

namespace Cells

variable {h : Host K} {tracks : PerAxis Tracks} {edges : PerAxis (List Int)}
  {cells : Cells (PerAxis Tracks) Constraints K}

/-- Of cells that are laid out each one is. -/
theorem Laid.forall₂ {out : Cells (PerAxis Resolved) LayoutCell K} {asked : List (Query K)}
    (laid : Laid h tracks edges cells out asked) :
    List.Forall₂ (Cell.LaidAs h tracks edges) cells.toList out.toList := by
  induction laid with
  | nil => exact .nil
  | component visible fits measured _ ih =>
    exact .cons ⟨_, .component visible fits measured .nil⟩ ih
  | grid visible fits bare sized nested _ _ ih =>
    exact .cons ⟨_, .grid visible fits bare sized nested .nil⟩ ih

/-- Cells each of which is laid out are laid out together. -/
theorem exists_laid {ls : List (Cell (PerAxis Resolved) LayoutCell K)}
    (hall : List.Forall₂ (Cell.LaidAs h tracks edges) cells.toList ls) :
    ∃ asked, Laid h tracks edges cells (ofList ls) asked := by
  induction cells generalizing ls with
  | nil =>
    cases hall
    exact ⟨[], .nil⟩
  | component c key rest ih =>
    obtain ⟨l, ls, ⟨asked, laid⟩, hothers, rfl⟩ := List.forall₂_cons_left_iff.mp hall
    obtain ⟨later, others⟩ := ih hothers
    cases l with
    | component l key' =>
      cases laid with
      | component visible fits measured _ => exact ⟨_, .component visible fits measured others⟩
    | grid l tree => cases laid
  | grid c frame inner rest _ ih =>
    obtain ⟨l, ls, ⟨asked, laid⟩, hothers, rfl⟩ := List.forall₂_cons_left_iff.mp hall
    obtain ⟨later, others⟩ := ih hothers
    cases l with
    | component l key' => cases laid
    | grid l tree =>
      cases laid with
      | grid visible fits bare sized nested _ =>
        exact ⟨_, .grid visible fits bare sized nested others⟩

end Cells

/-! ## Snapshots -/

/-- The cell is shown as this entry. -/
def Cell.ShownAs (s : Site) (l : Cell (PerAxis Resolved) LayoutCell K)
    (e : Cell Snapshot.Pane Snapshot.Entry K) : Prop :=
  l.single.snapshot s = .ok e.single

theorem Cell.ShownAs.rightUnique (s : Site) :
    Relator.RightUnique (Cell.ShownAs s (K := K)) := by
  intro l e e' hl hl'
  exact single_injective (Except.ok.inj (hl.symm.trans hl'))

namespace Cells

variable {s : Site} {out : Cells (PerAxis Resolved) LayoutCell K}

/-- Of cells that are shown each one is. -/
theorem forall₂_of_snapshot {shown : Cells Snapshot.Pane Snapshot.Entry K}
    (hshown : out.snapshot s = .ok shown) :
    List.Forall₂ (Cell.ShownAs s) out.toList shown.toList := by
  induction out generalizing shown with
  | nil =>
    cases hshown
    exact .nil
  | component l key rest ih =>
    obtain ⟨e, more, shows, hmore, rfl⟩ := snapshot_component_eq_ok_iff.mp hshown
    exact .cons (snapshot_component_eq_ok_iff.mpr ⟨e, .nil, shows, rfl, rfl⟩) (ih hmore)
  | grid l axes inside rest _ ih =>
    obtain ⟨e, inner, more, shows, hinner, hmore, rfl⟩ := snapshot_grid_eq_ok_iff.mp hshown
    exact .cons (snapshot_grid_eq_ok_iff.mpr ⟨e, inner, .nil, shows, hinner, rfl, rfl⟩) (ih hmore)

/-- Cells each of which is shown are shown together. -/
theorem snapshot_of_forall₂ {es : List (Cell Snapshot.Pane Snapshot.Entry K)}
    (hall : List.Forall₂ (Cell.ShownAs s) out.toList es) : out.snapshot s = .ok (ofList es) := by
  induction out generalizing es with
  | nil =>
    cases hall
    rfl
  | component l key rest ih =>
    obtain ⟨e, es, hcell, hothers, rfl⟩ := List.forall₂_cons_left_iff.mp hall
    obtain ⟨_, more, shows, hnone, heq⟩ := snapshot_component_eq_ok_iff.mp hcell
    cases hnone
    rw [ofList, heq]
    exact snapshot_component_eq_ok_iff.mpr ⟨_, _, shows, ih hothers, rfl⟩
  | grid l axes inside rest _ ih =>
    obtain ⟨e, es, hcell, hothers, rfl⟩ := List.forall₂_cons_left_iff.mp hall
    obtain ⟨_, inner, more, shows, hinner, hnone, heq⟩ := snapshot_grid_eq_ok_iff.mp hcell
    cases hnone
    rw [ofList, heq]
    exact snapshot_grid_eq_ok_iff.mpr ⟨_, _, _, shows, hinner, ih hothers, rfl⟩

end Cells

end FormGrid
