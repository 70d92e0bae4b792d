import FormGrid.Proofs.Cells

/-!
# Addresses of nested grids

A grid nested in another one is found by going from cell to cell, and the places of these cells
are its address. Something is done to a nested grid by doing it at its address; the grids around
it keep their settings and their own cells, and so do the grids beside it and inside of it.

## Main definitions

* `Tree.at?`: the grid at an address
* `Tree.changeAt`: a grid tree in which the grid at an address is changed
* `Cells.own`: what the cells of one grid hold, nested cells not looked at

## Main results

* `Tree.at?_changeAt`: the grid at the address is the changed one
* `Tree.changeAt_congr`, `Tree.changeAt_self`: only the grid at the address matters
* `Tree.own_changeAt_of_ne`: all other grids keep their settings and their own cells
-/

namespace FormGrid

variable {F C K : Type}

/-- Where a grid lies in a tree: the places of the cells that lead to it, the outermost first. -/
abbrev Address : Type := List Nat

namespace Cells

/-- The grid in the cell at a place, if that cell holds one. -/
def gridAt? : Cells F C K → Nat → Option (Tree F C K)
  | nil, _ => none
  | component _ _ _, 0 => none
  | component _ _ rest, place + 1 => rest.gridAt? place
  | grid _ frame inner _, 0 => some ⟨frame, inner⟩
  | grid _ _ _ rest, place + 1 => rest.gridAt? place

/-- The cells with a change made to the grid in the cell at a place. -/
def changeGrid (f : Tree F C K → Tree F C K) : Cells F C K → Nat → Cells F C K
  | nil, _ => nil
  | component info key rest, 0 => component info key rest
  | component info key rest, place + 1 => component info key (rest.changeGrid f place)
  | grid info frame inner rest, 0 => grid info (f ⟨frame, inner⟩).frame (f ⟨frame, inner⟩).cells rest
  | grid info frame inner rest, place + 1 => grid info frame inner (rest.changeGrid f place)

/-- What each cell holds: its datum, and its key if it is the cell of a component. -/
def own : Cells F C K → List (C × Option K)
  | nil => []
  | component info key rest => (info, some key) :: rest.own
  | grid info _ _ rest => (info, none) :: rest.own

theorem map_fst_own (cells : Cells F C K) : cells.own.map Prod.fst = cells.infos := by
  induction cells with
  | nil => rfl
  | component info key rest ih => simp [own, infos, ih]
  | grid info frame inner rest _ ih => simp [own, infos, ih]

variable {f g : Tree F C K → Tree F C K}

@[simp] theorem own_changeGrid (cells : Cells F C K) (place : Nat) :
    (cells.changeGrid f place).own = cells.own := by
  induction cells generalizing place with
  | nil => rfl
  | component info key rest ih => cases place <;> simp [changeGrid, own, ih]
  | grid info frame inner rest _ ih => cases place <;> simp [changeGrid, own, ih]

@[simp] theorem infos_changeGrid (cells : Cells F C K) (place : Nat) :
    (cells.changeGrid f place).infos = cells.infos := by
  rw [← map_fst_own, own_changeGrid, map_fst_own]

theorem gridAt?_changeGrid_self (cells : Cells F C K) (place : Nat) :
    (cells.changeGrid f place).gridAt? place = (cells.gridAt? place).map f := by
  induction cells generalizing place with
  | nil => rfl
  | component info key rest ih => cases place <;> simp [changeGrid, gridAt?, ih]
  | grid info frame inner rest _ ih => cases place <;> simp [changeGrid, gridAt?, ih]

theorem gridAt?_changeGrid_of_ne (cells : Cells F C K) {place other : Nat} (h : other ≠ place) :
    (cells.changeGrid f place).gridAt? other = cells.gridAt? other := by
  induction cells generalizing place other with
  | nil => rfl
  | component info key rest ih =>
    cases place with
    | zero => rfl
    | succ place =>
      cases other with
      | zero => rfl
      | succ other => exact ih (by omega)
  | grid info frame inner rest _ ih =>
    cases place with
    | zero =>
      cases other with
      | zero => exact absurd rfl h
      | succ other => rfl
    | succ place =>
      cases other with
      | zero => rfl
      | succ other => exact ih (by omega)

theorem changeGrid_congr {cells : Cells F C K} {place : Nat}
    (h : ∀ sub, cells.gridAt? place = some sub → f sub = g sub) :
    cells.changeGrid f place = cells.changeGrid g place := by
  induction cells generalizing place with
  | nil => rfl
  | component info key rest ih =>
    cases place with
    | zero => rfl
    | succ place => exact congrArg (component info key) (ih h)
  | grid info frame inner rest _ ih =>
    cases place with
    | zero => rw [changeGrid, changeGrid, h _ rfl]
    | succ place => exact congrArg (grid info frame inner) (ih h)

theorem changeGrid_id (cells : Cells F C K) (place : Nat) : cells.changeGrid id place = cells := by
  induction cells generalizing place with
  | nil => rfl
  | component info key rest ih => cases place <;> simp [changeGrid, ih]
  | grid info frame inner rest _ ih => cases place <;> simp [changeGrid, ih]

theorem gridAt?_append {cells : Cells F C K} (more : Cells F C K) {place : Nat}
    {sub : Tree F C K} (h : cells.gridAt? place = some sub) :
    (cells ++ more).gridAt? place = some sub := by
  induction cells generalizing place with
  | nil => cases h
  | component info key rest ih =>
    cases place with
    | zero => cases h
    | succ place => exact ih h
  | grid info frame inner rest _ ih =>
    cases place with
    | zero => exact h
    | succ place => exact ih h

/-- The cell that comes after others is changed at the place that their number gives. -/
theorem changeGrid_append_size (cells : Cells F C K) (info : C) (t : Tree F C K) :
    (cells ++ grid info t.frame t.cells nil).changeGrid f cells.size =
      cells ++ grid info (f t).frame (f t).cells nil := by
  induction cells with
  | nil => rfl
  | component info' key rest ih => exact congrArg (component info' key) ih
  | grid info' frame inner rest _ ih => exact congrArg (grid info' frame inner) ih

end Cells

namespace Tree

/-- The grid at an address. -/
def at? : Tree F C K → Address → Option (Tree F C K)
  | t, [] => some t
  | t, place :: address => (t.cells.gridAt? place).bind (·.at? address)

/-- The tree with a change made to the grid at an address. -/
def changeAt (f : Tree F C K → Tree F C K) : Tree F C K → Address → Tree F C K
  | t, [] => f t
  | t, place :: address => ⟨t.frame, t.cells.changeGrid (·.changeAt f address) place⟩

variable {f g : Tree F C K → Tree F C K} {t s : Tree F C K} {address : Address}

theorem at?_changeAt (h : t.at? address = some s) :
    (t.changeAt f address).at? address = some (f s) := by
  induction address generalizing t with
  | nil =>
    cases h
    rfl
  | cons place address ih =>
    obtain ⟨sub, hsub, hs⟩ := Option.bind_eq_some_iff.mp h
    simp [changeAt, at?, Cells.gridAt?_changeGrid_self, hsub, ih hs]

theorem changeAt_congr (h : ∀ s, t.at? address = some s → f s = g s) :
    t.changeAt f address = t.changeAt g address := by
  induction address generalizing t with
  | nil => exact h t rfl
  | cons place address ih =>
    have hcells : t.cells.changeGrid (·.changeAt f address) place =
        t.cells.changeGrid (·.changeAt g address) place :=
      Cells.changeGrid_congr fun sub hsub => ih fun s hs => h s (by simp [at?, hsub, hs])
    simp only [changeAt, hcells]

theorem changeAt_id (t : Tree F C K) (address : Address) : t.changeAt id address = t := by
  induction address generalizing t with
  | nil => rfl
  | cons place address ih =>
    have hsub : (fun sub : Tree F C K => sub.changeAt id address) = id := funext ih
    simp only [changeAt, hsub, Cells.changeGrid_id]

/-- A change that leaves the grid at the address as it is leaves the whole tree as it is. -/
theorem changeAt_self (h : t.at? address = some s) (hf : f s = s) : t.changeAt f address = t := by
  have hid : t.changeAt f address = t.changeAt id address := by
    refine changeAt_congr fun s' hs' => ?_
    cases h.symm.trans hs'
    exact hf
  rw [hid, changeAt_id]

/-- A change that keeps the grids in the grid at the address makes no other grid of the tree have
other settings or other cells of its own. -/
theorem own_changeAt_of_ne {other : Address} {s' : Tree F C K} (h : t.at? address = some s)
    (hf : ∀ place sub, s.cells.gridAt? place = some sub → (f s).cells.gridAt? place = some sub)
    (hne : other ≠ address) (hother : t.at? other = some s') :
    ∃ s'', (t.changeAt f address).at? other = some s'' ∧ s''.frame = s'.frame ∧
      s''.cells.own = s'.cells.own := by
  -- both addresses are followed as long as they agree
  induction address generalizing t other with
  | nil =>
    cases h
    cases other with
    | nil => exact absurd rfl hne
    | cons place other =>
      obtain ⟨sub, hsub, hs'⟩ := Option.bind_eq_some_iff.mp hother
      exact ⟨s', by simp [changeAt, at?, hf place sub hsub, hs'], rfl, rfl⟩
  | cons place address ih =>
    cases other with
    | nil =>
      cases hother
      exact ⟨_, rfl, rfl, Cells.own_changeGrid _ _⟩
    | cons place' other =>
      obtain ⟨sub, hsub, hs⟩ := Option.bind_eq_some_iff.mp h
      obtain ⟨sub', hsub', hs'⟩ := Option.bind_eq_some_iff.mp hother
      by_cases hplace : place' = place
      · subst hplace
        cases hsub.symm.trans hsub'
        obtain ⟨s'', hs'', hsame⟩ := ih hs (fun heq => hne (by rw [heq])) hs'
        exact ⟨s'', by simp [changeAt, at?, Cells.gridAt?_changeGrid_self, hsub, hs''], hsame⟩
      · exact ⟨s', by simp [changeAt, at?, Cells.gridAt?_changeGrid_of_ne _ hplace, hsub', hs'],
          rfl, rfl⟩

end Tree

end FormGrid
