import FormGrid.Host
import Mathlib.Data.List.Forall2

/-!
# Nesting of cells

A property of a grid tree speaks of all grids in it, of the cells of each of them, or of two trees
of one shape. This module names these ways of speaking. The grids nested in a grid are listed
outer ones first, each together with the components that the whole grid lists before it and after
it, so that a statement about a nested grid also says where its components stand.

## Main definitions

* `Nested`, `Cells.nested`: the grids in the cells, at all depths, and what surrounds them
* `Tree.nodes`: a grid with the grids nested in it
* `Cells.Each`: a property of all grids and all cells
* `Cells.Alike`: two trees of one shape with related data
* `Cells.map`: other data in every grid and every cell
* `Cells.visible`: the cells without what is invisible

## Main results

* `Cells.entries_of_mem_nested`: the components of a nested grid are a block of all components
* `Cells.map_visible_visibleGrids`: the grids in visible cells are those that stay
-/

namespace FormGrid

variable {F C F' C' K : Type}

/-! ## Nested grids -/

/-- A grid in a cell, with the components that are listed before those in the cell and after
them. -/
structure Nested (F C K : Type) where
  before : List (K × C)
  info : C
  tree : Tree F C K
  after : List (K × C)

/-- The same grid inside of more cells. -/
def Nested.within (n : Nested F C K) (before after : List (K × C)) : Nested F C K :=
  { n with before := before ++ n.before, after := n.after ++ after }

@[simp] theorem Nested.within_info (n : Nested F C K) (before after : List (K × C)) :
    (n.within before after).info = n.info := rfl

@[simp] theorem Nested.within_tree (n : Nested F C K) (before after : List (K × C)) :
    (n.within before after).tree = n.tree := rfl

namespace Cells

/-- The grids in the cells at all depths, an outer grid before the grids in it. -/
def nested : Cells F C K → List (Nested F C K)
  | nil => []
  | component info key rest => rest.nested.map (·.within [(key, info)] [])
  | grid info frame inner rest =>
    ⟨[], info, ⟨frame, inner⟩, rest.entries⟩ ::
      (inner.nested.map (·.within [] rest.entries) ++ rest.nested.map (·.within inner.entries []))

/-- The components of a nested grid are a block of all components. -/
theorem entries_of_mem_nested {cells : Cells F C K} {n : Nested F C K} (h : n ∈ cells.nested) :
    cells.entries = n.before ++ n.tree.cells.entries ++ n.after := by
  induction cells generalizing n with
  | nil => cases h
  | component info key rest ih =>
    obtain ⟨n, hn, rfl⟩ := List.mem_map.mp h
    simp [entries, Nested.within, ih hn]
  | grid info frame inner rest ihInner ihRest =>
    rcases List.mem_cons.mp h with rfl | h
    · simp [entries]
    rcases List.mem_append.mp h with h | h
    · obtain ⟨n, hn, rfl⟩ := List.mem_map.mp h
      simp [entries, Nested.within, ihInner hn]
    · obtain ⟨n, hn, rfl⟩ := List.mem_map.mp h
      simp [entries, Nested.within, ihRest hn]

/-- The nested grids with their cells, whatever surrounds them. -/
def grids (cells : Cells F C K) : List (C × Tree F C K) :=
  cells.nested.map fun n => (n.info, n.tree)

@[simp] theorem grids_component (info : C) (key : K) (rest : Cells F C K) :
    (component info key rest).grids = rest.grids := by
  simp [grids, nested, Function.comp_def]

@[simp] theorem grids_grid (info : C) (frame : F) (inner rest : Cells F C K) :
    (grid info frame inner rest).grids =
      (info, ⟨frame, inner⟩) :: (inner.grids ++ rest.grids) := by
  simp [grids, nested, Function.comp_def]

end Cells

/-- A grid, followed by the grids nested in it. -/
def Tree.nodes (t : Tree F C K) : List (Tree F C K) := t :: t.cells.grids.map Prod.snd

/-! ## Properties of all cells -/

/-- All nested grids, all cells with components and all cells with grids have a property. -/
def Cells.Each (frames : F → Prop) (components grids : C → Prop) : Cells F C K → Prop
  | nil => True
  | component info _ rest => components info ∧ rest.Each frames components grids
  | grid info frame inner rest =>
    grids info ∧ frames frame ∧ inner.Each frames components grids ∧
      rest.Each frames components grids

theorem Cells.Each.infos {frames : F → Prop} {components grids : C → Prop} {cells : Cells F C K}
    (h : cells.Each frames components grids) : ∀ c ∈ cells.infos, components c ∨ grids c := by
  induction cells with
  | nil => exact fun _ hc => nomatch hc
  | component info key rest ih => exact List.forall_mem_cons.mpr ⟨.inl h.1, ih h.2⟩
  | grid info frame inner rest _ ih => exact List.forall_mem_cons.mpr ⟨.inr h.1, ih h.2.2.2⟩

/-- Two lists of cells of one shape and with the same keys, with related data in corresponding
grids and cells at all depths. -/
inductive Cells.Alike (frames : F → F' → Prop) (infos : C → C' → Prop) :
    Cells F C K → Cells F' C' K → Prop where
  | nil : Alike frames infos nil nil
  | component {info info' key rest rest'} (cell : infos info info')
      (others : Alike frames infos rest rest') :
      Alike frames infos (component info key rest) (component info' key rest')
  | grid {info info' frame frame' inner inner' rest rest'} (cell : infos info info')
      (axes : frames frame frame') (inside : Alike frames infos inner inner')
      (others : Alike frames infos rest rest') :
      Alike frames infos (grid info frame inner rest) (grid info' frame' inner' rest')

theorem Cells.Alike.imp {frames frames' : F → F' → Prop} {infos infos' : C → C' → Prop}
    (hframes : ∀ f f', frames f f' → frames' f f') (hinfos : ∀ c c', infos c c' → infos' c c')
    {cells : Cells F C K} {cells' : Cells F' C' K} (h : cells.Alike frames infos cells') :
    cells.Alike frames' infos' cells' := by
  induction h with
  | nil => exact .nil
  | component cell _ ih => exact .component (hinfos _ _ cell) ih
  | grid cell axes _ _ ihInside ihOthers =>
    exact .grid (hinfos _ _ cell) (hframes _ _ axes) ihInside ihOthers

/-- Corresponding cells of one grid have related data. -/
theorem Cells.Alike.infos {frames : F → F' → Prop} {infos : C → C' → Prop} {cells : Cells F C K}
    {cells' : Cells F' C' K} (h : cells.Alike frames infos cells') :
    List.Forall₂ infos cells.infos cells'.infos := by
  induction h with
  | nil => exact .nil
  | component cell _ ih => exact .cons cell ih
  | grid cell _ _ _ _ ih => exact .cons cell ih

theorem Cells.Alike.map_infos_eq {α : Type} {frames : F → F' → Prop} {read : C → α}
    {read' : C' → α} {cells : Cells F C K} {cells' : Cells F' C' K}
    (h : cells.Alike frames (fun c c' => read c = read' c') cells') :
    cells'.infos.map read' = cells.infos.map read := by
  have hall : List.Forall₂ (· = ·) (cells.infos.map read) (cells'.infos.map read') := by
    rw [List.forall₂_map_left_iff, List.forall₂_map_right_iff]
    exact h.infos
  rw [List.forall₂_eq_eq_eq] at hall
  exact hall.symm

/-- Corresponding components at all depths have the same keys and related data. -/
theorem Cells.Alike.map_entries_eq {α : Type} {frames : F → F' → Prop} {read : C → α}
    {read' : C' → α} {cells : Cells F C K} {cells' : Cells F' C' K}
    (h : cells.Alike frames (fun c c' => read c = read' c') cells') :
    cells'.entries.map (fun e => (e.1, read' e.2)) = cells.entries.map fun e => (e.1, read e.2) := by
  induction h with
  | nil => rfl
  | component cell _ ih => simp only [entries, List.map_cons, cell, ih]
  | grid _ _ _ _ ihInside ihOthers => simp only [entries, List.map_append, ihInside, ihOthers]

theorem Cells.Alike.refl {frames : F → F → Prop} {infos : C → C → Prop} (hframes : ∀ f, frames f f)
    (hinfos : ∀ c, infos c c) (cells : Cells F C K) : cells.Alike frames infos cells := by
  induction cells with
  | nil => exact .nil
  | component info key rest ih => exact .component (hinfos info) ih
  | grid info frame inner rest ihInner ihRest =>
    exact .grid (hinfos info) (hframes frame) ihInner ihRest

/-! ## Data of every grid and every cell -/

namespace Cells

/-- The cells with other data in every grid and every cell, at all depths. -/
def map (frames : F → F') (infos : C → C') : Cells F C K → Cells F' C' K
  | nil => nil
  | component info key rest => component (infos info) key (rest.map frames infos)
  | grid info frame inner rest =>
    grid (infos info) (frames frame) (inner.map frames infos) (rest.map frames infos)

theorem entries_map (frames : F → F') (infos : C → C') (cells : Cells F C K) :
    (cells.map frames infos).entries = cells.entries.map fun e => (e.1, infos e.2) := by
  induction cells with
  | nil => rfl
  | component info key rest ih => simp [map, entries, ih]
  | grid info frame inner rest ihInner ihRest => simp [map, entries, ihInner, ihRest]

theorem infos_append (cells more : Cells F C K) :
    (cells ++ more).infos = cells.infos ++ more.infos := by
  induction cells with
  | nil => rfl
  | component info key rest ih => simp [infos, ih]
  | grid info frame inner rest _ ih => simp [infos, ih]

end Cells

/-! ## Visible cells -/

namespace Cells

variable (h : Host K)

/-- The cells without invisible components and without grids in which no component is visible. -/
def visible : Cells F C K → Cells F C K
  | nil => nil
  | component info key rest =>
    if h.isVisible key then component info key rest.visible else rest.visible
  | grid info frame inner rest =>
    if inner.isVisible h then grid info frame inner.visible rest.visible else rest.visible

/-- The grids in visible cells at all depths, with all their cells, an outer grid before the grids
in it. -/
def visibleGrids : Cells F C K → List (C × Tree F C K)
  | nil => []
  | component _ _ rest => rest.visibleGrids
  | grid info frame inner rest =>
    if inner.isVisible h then (info, ⟨frame, inner⟩) :: (inner.visibleGrids ++ rest.visibleGrids)
    else rest.visibleGrids

/-- The components that stay are the visible ones. -/
theorem entries_visible (cells : Cells F C K) :
    (cells.visible h).entries = cells.entries.filter fun e => h.isVisible e.1 := by
  induction cells with
  | nil => rfl
  | component info key rest ih =>
    by_cases hkey : h.isVisible key <;> simp [visible, entries, hkey, ih]
  | grid info frame inner rest ihInner ihRest =>
    by_cases hinner : inner.isVisible h
    · simp [visible, entries, hinner, ihInner, ihRest]
    · have hnone : inner.entries.filter (fun e => h.isVisible e.1) = [] := by
        rw [isVisible, anyKey_eq_any_entries] at hinner
        simpa using hinner
      simp [visible, entries, hinner, ihRest, hnone]

theorem isVisible_visible (cells : Cells F C K) :
    (cells.visible h).isVisible h = cells.isVisible h := by
  simp only [isVisible, anyKey_eq_any_entries, entries_visible, List.any_filter, Bool.and_self]

@[simp] theorem visible_visible (cells : Cells F C K) :
    (cells.visible h).visible h = cells.visible h := by
  induction cells with
  | nil => rfl
  | component info key rest ih =>
    by_cases hkey : h.isVisible key <;> simp [visible, hkey, ih]
  | grid info frame inner rest ihInner ihRest =>
    by_cases hinner : inner.isVisible h <;>
      simp [visible, hinner, isVisible_visible, ihInner, ihRest]

/-- Visibility does not depend on the data of grids and cells. -/
theorem isVisible_map (frames : F → F') (infos : C → C') (cells : Cells F C K) :
    (cells.map frames infos).isVisible h = cells.isVisible h := by
  simp only [isVisible, anyKey_eq_any_entries, entries_map, List.any_map, Function.comp_def]

theorem visible_map (frames : F → F') (infos : C → C') (cells : Cells F C K) :
    (cells.map frames infos).visible h = (cells.visible h).map frames infos := by
  induction cells with
  | nil => rfl
  | component info key rest ih =>
    by_cases hkey : h.isVisible key <;> simp [map, visible, hkey, ih]
  | grid info frame inner rest ihInner ihRest =>
    by_cases hinner : inner.isVisible h <;>
      simp [map, visible, isVisible_map, hinner, ihInner, ihRest]

/-- Of a host, only the visible components matter. -/
theorem visible_congr (h' : Host K) (heq : h'.isVisible = h.isVisible) (cells : Cells F C K) :
    cells.visible h' = cells.visible h := by
  induction cells with
  | nil => rfl
  | component info key rest ih => simp only [visible, heq, ih]
  | grid info frame inner rest ihInner ihRest =>
    have hinner : inner.isVisible h' = inner.isVisible h := by rw [isVisible, isVisible, heq]
    simp only [visible, hinner, ihInner, ihRest]

/-- Which cells are visible depends on their shape and their keys. -/
theorem Alike.isVisible_eq {frames : F → F' → Prop} {infos : C → C' → Prop} {cells : Cells F C K}
    {cells' : Cells F' C' K} (same : cells.Alike frames infos cells') :
    cells'.isVisible h = cells.isVisible h := by
  unfold isVisible
  induction same with
  | nil => rfl
  | component _ _ ih => rw [anyKey, anyKey, ih]
  | grid _ _ _ _ ihInside ihOthers => rw [anyKey, anyKey, ihInside, ihOthers]

theorem Alike.visible {frames : F → F' → Prop} {infos : C → C' → Prop} {cells : Cells F C K}
    {cells' : Cells F' C' K} (same : cells.Alike frames infos cells') :
    (cells.visible h).Alike frames infos (cells'.visible h) := by
  induction same with
  | nil => exact .nil
  | component cell _ ih =>
    unfold Cells.visible
    split
    · exact .component cell ih
    · exact ih
  | grid cell axes inside _ ihInside ihOthers =>
    unfold Cells.visible
    rw [inside.isVisible_eq h]
    split
    · exact .grid cell axes ihInside ihOthers
    · exact ihOthers

theorem visible_append (cells more : Cells F C K) :
    (cells ++ more).visible h = cells.visible h ++ more.visible h := by
  induction cells with
  | nil => rfl
  | component info key rest ih =>
    by_cases hkey : h.isVisible key <;> simp [visible, hkey, ih]
  | grid info frame inner rest _ ih =>
    by_cases hinner : inner.isVisible h <;> simp [visible, hinner, ih]

theorem Each.visible {frames : F → Prop} {components grids : C → Prop} {cells : Cells F C K}
    (hcells : cells.Each frames components grids) :
    (cells.visible h).Each frames components grids := by
  induction cells with
  | nil => trivial
  | component info key rest ih =>
    obtain ⟨hinfo, hrest⟩ := hcells
    unfold Cells.visible
    split
    · exact ⟨hinfo, ih hrest⟩
    · exact ih hrest
  | grid info frame inner rest ihInner ihRest =>
    obtain ⟨hinfo, hframe, hinner, hrest⟩ := hcells
    unfold Cells.visible
    split
    · exact ⟨hinfo, hframe, ihInner hinner, ihRest hrest⟩
    · exact ihRest hrest

end Cells

/-- The grid without what is invisible. -/
def Tree.visible (h : Host K) (t : Tree F C K) : Tree F C K := ⟨t.frame, t.cells.visible h⟩

/-- The grids in visible cells are those that stay when the invisible cells go. -/
theorem Cells.map_visible_visibleGrids (h : Host K) (cells : Cells F C K) :
    (cells.visibleGrids h).map (fun p => (p.1, p.2.visible h)) = (cells.visible h).grids := by
  induction cells with
  | nil => rfl
  | component info key rest ih =>
    by_cases hkey : h.isVisible key
    · simpa [visibleGrids, visible, hkey] using ih
    · simpa [visibleGrids, visible, hkey] using ih
  | grid info frame inner rest ihInner ihRest =>
    by_cases hinner : inner.isVisible h
    · simp only [visibleGrids, if_pos hinner, visible, grids_grid, List.map_cons, List.map_append,
        ihInner, ihRest]
      rfl
    · simpa [visibleGrids, visible, hinner] using ihRest

end FormGrid
