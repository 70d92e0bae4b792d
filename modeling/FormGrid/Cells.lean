/-!
# Nested cells

The cells of a grid are listed in the order in which they were registered, and a cell may hold a
grid of its own. Cells and everything computed from them have one shape; what differs is the datum
`C` that a cell carries and the datum `F` that a nested grid carries beside its cells. The list
and the nesting are one inductive type, so a single recursion visits all cells at all depths,
depth first and in registration order.

## Main definitions

* `Cells`, `Tree`: the cells of a grid, and a grid as its datum with its cells.
* `Cell.info`, `Cell.subGrid?`: what a single cell carries and holds.
* `Cells.toList`: the cells of one grid without looking into nested ones.
* `Cells.entries`: the components at all depths.
* `Cells.find?`, `Cells.erase?`: the first component with a given key.

## Main results

* `Cells.find?_eq_entries_find?`: the component found is the first entry with the key.
* `Cells.entries_append`: the entries of cells followed by further cells.
-/

namespace FormGrid

/-- The cells of a grid in registration order: none, or a first cell and the rest. The first cell
holds a component, known by its key, or a grid with cells of its own. -/
inductive Cells (F C K : Type) where
  | nil
  | component (info : C) (key : K) (rest : Cells F C K)
  | grid (info : C) (frame : F) (inner rest : Cells F C K)
  deriving DecidableEq, Repr

/-- A grid: its datum and its cells. -/
structure Tree (F C K : Type) where
  frame : F
  cells : Cells F C K
  deriving DecidableEq, Repr

/-- A single cell. -/
inductive Cell (F C K : Type) where
  | component (info : C) (key : K)
  | grid (info : C) (tree : Tree F C K)
  deriving DecidableEq, Repr

/-- The datum of the cell. -/
def Cell.info {F C K : Type} : Cell F C K → C
  | component info _ => info
  | grid info _ => info

/-- The grid that the cell holds, if it holds one. -/
def Cell.subGrid? {F C K : Type} : Cell F C K → Option (Tree F C K)
  | component _ _ => none
  | grid _ tree => some tree

namespace Cells

variable {F C K : Type}

/-! ## The cells of one grid -/

/-- The cells, each by itself. -/
def toList : Cells F C K → List (Cell F C K)
  | nil => []
  | component info key rest => .component info key :: rest.toList
  | grid info frame inner rest => .grid info ⟨frame, inner⟩ :: rest.toList

/-- The data of the cells. -/
def infos : Cells F C K → List C
  | nil => []
  | component info _ rest => info :: rest.infos
  | grid info _ _ rest => info :: rest.infos

/-- The grids among the cells. -/
def subGrids : Cells F C K → List (Tree F C K)
  | nil => []
  | component _ _ rest => rest.subGrids
  | grid _ frame inner rest => ⟨frame, inner⟩ :: rest.subGrids

/-- Cells followed by further cells. -/
def append : Cells F C K → Cells F C K → Cells F C K
  | nil, more => more
  | component info key rest, more => component info key (rest.append more)
  | grid info frame inner rest, more => grid info frame inner (rest.append more)

instance : Append (Cells F C K) := ⟨append⟩

/-- The number of cells, nested ones not counted. -/
def size (cells : Cells F C K) : Nat := cells.infos.length

/-! ## Components at all depths -/

/-- The components with their cells' data, depth first. -/
def entries : Cells F C K → List (K × C)
  | nil => []
  | component info key rest => (key, info) :: rest.entries
  | grid _ _ inner rest => inner.entries ++ rest.entries

/-- Some component at some depth has a key of this kind. -/
def anyKey (p : K → Bool) : Cells F C K → Bool
  | nil => false
  | component _ key rest => p key || rest.anyKey p
  | grid _ _ inner rest => inner.anyKey p || rest.anyKey p

/-- The datum of the first component with this key. -/
def find? [DecidableEq K] (key : K) : Cells F C K → Option C
  | nil => none
  | component info k rest => if k = key then some info else rest.find? key
  | grid _ _ inner rest => (inner.find? key).or (rest.find? key)

/-- The cells without the first component with this key; nothing, where there is none. -/
def erase? [DecidableEq K] (key : K) : Cells F C K → Option (Cells F C K)
  | nil => none
  | component info k rest =>
    if k = key then some rest else (rest.erase? key).map (component info k)
  | grid info frame inner rest =>
    match inner.erase? key with
    | some inner => some (grid info frame inner rest)
    | none => (rest.erase? key).map (grid info frame inner)

/-! ## Laws -/

@[simp] theorem nil_append (cells : Cells F C K) : nil ++ cells = cells := rfl

@[simp] theorem component_append (info : C) (key : K) (rest more : Cells F C K) :
    component info key rest ++ more = component info key (rest ++ more) := rfl

@[simp] theorem grid_append (info : C) (frame : F) (inner rest more : Cells F C K) :
    grid info frame inner rest ++ more = grid info frame inner (rest ++ more) := rfl

theorem toList_append (cells more : Cells F C K) :
    (cells ++ more).toList = cells.toList ++ more.toList := by
  induction cells with
  | nil => rfl
  | component info key rest ih => simp [toList, ih]
  | grid info frame inner rest _ ih => simp [toList, ih]

theorem entries_append (cells more : Cells F C K) :
    (cells ++ more).entries = cells.entries ++ more.entries := by
  induction cells with
  | nil => rfl
  | component info key rest ih => simp [entries, ih]
  | grid info frame inner rest _ ih => simp [entries, ih]

theorem size_eq_length_toList (cells : Cells F C K) : cells.size = cells.toList.length := by
  induction cells with
  | nil => rfl
  | component info key rest ih => simpa [size, infos, toList] using ih
  | grid info frame inner rest _ ih => simpa [size, infos, toList] using ih

theorem anyKey_eq_any_entries (p : K → Bool) (cells : Cells F C K) :
    cells.anyKey p = cells.entries.any (fun e => p e.1) := by
  induction cells with
  | nil => rfl
  | component info key rest ih => simp [anyKey, entries, ih]
  | grid info frame inner rest ihInner ihRest => simp [anyKey, entries, ihInner, ihRest]

/-- The component found is the first entry with the key. -/
theorem find?_eq_entries_find? [DecidableEq K] (key : K) (cells : Cells F C K) :
    cells.find? key = (cells.entries.find? (fun e => e.1 = key)).map Prod.snd := by
  induction cells with
  | nil => rfl
  | component info k rest ih => by_cases h : k = key <;> simp [find?, entries, h, ih]
  | grid info frame inner rest ihInner ihRest =>
    simp [find?, entries, ihInner, ihRest, Option.map_or]

end Cells

end FormGrid
