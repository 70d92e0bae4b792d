import FormGrid.Proofs.Calls
import FormGrid.Proofs.Cellwise
import FormGrid.Proofs.Removal

/-!
# Calls in place

A call changes the grid it is made on, and it may be refused. Written as a sequence of steps, each of
which finds the grid that the steps before have left, an insertion first asks whether the grid is free
for the new cell and then puts the cell at the end. A grid that is inserted is looked up again as the
last cell, handed out to be filled, and written back; if the last cell held no grid, the insertion would
be refused after all, with the new cell already there.

This does not happen. A refused insertion has changed nothing, and one that is accepted leaves the grid
that the insertion returns which makes a new grid (`Grid.register_on`, `Grid.registerSubGrid_on`). So
that a tree stays as it was when a call is refused is a fact about these steps.

## Main definitions

* `InPlace`, `InPlace.on`: a change of a grid that may be refused, and what comes of it
* `Grid.register`, `Grid.registerSubGrid`, `Grid.callInPlace`: calls in place

## Main results

* `Grid.callInPlace_on`: what a call in place returns and what it leaves
* `Grid.run_eq_foldl`: a sequence of calls in place
-/

namespace FormGrid

variable {K α β : Type}

/-! ## Changes -/

/-- A change of a grid that may be refused. What has been changed before it is refused stays changed. -/
abbrev InPlace (K α : Type) : Type := ExceptT InsertError (StateM (Grid K)) α

/-- What a change returns, or why it is refused, and the grid that it leaves. -/
def InPlace.on (change : InPlace K α) (g : Grid K) : Except InsertError α × Grid K :=
  change.run.run g

/-- A step finds the grid that the one before has left, unless that one is refused. -/
theorem InPlace.on_bind (change : InPlace K α) (next : α → InPlace K β) (g : Grid K) :
    InPlace.on (change >>= next) g =
      match change.on g with
      | (.ok a, g') => (next a).on g'
      | (.error e, g') => (.error e, g') := by
  unfold InPlace.on
  rw [ExceptT.run_bind, StateT.run_bind]
  rcases StateT.run (ExceptT.run change) g with ⟨_ | _, g'⟩ <;> rfl

/-! ## Insertions -/

namespace Grid

/-- Goes on only where the grid is free for a cell. -/
def requireFree (c : Constraints) : InPlace K Unit :=
  ExceptT.mk do return Grid.checkFree (← get) c

/-- Puts a cell behind the others. -/
def push (cell : Cell (PerAxis Tracks) Constraints K) : InPlace K Unit :=
  modify fun g => (⟨g.frame, g.cells ++ cell.single⟩ : Grid K)

/-- Inserts a component. -/
def register (key : K) (c : Constraints) : InPlace K Unit := do
  requireFree c
  push (.component c key)

/-- Inserts an empty grid, which is filled where it lies. -/
def registerSubGrid (c : Constraints) (build : Grid K → α × Grid K) : InPlace K α := do
  requireFree c
  push (.grid c Grid.empty)
  let g : Grid K ← get
  match g.cells.toList.getLast? with
  | some (.grid c sub) => do
    let (result, filled) := build sub
    set (⟨g.frame, .ofList (g.cells.toList.dropLast ++ [.grid c filled])⟩ : Grid K)
    return result
  | _ => throw (.occupied c)

variable (g : Grid K) (c : Constraints)

theorem requireFree_on : (requireFree c).on g = (g.checkFree c, g) := rfl

/-- A component is inserted as in a new grid, or nothing is changed. -/
theorem register_on (key : K) : (register key c).on g =
    match g.insert key c with
    | .ok g' => (.ok (), g')
    | .error e => (.error e, g) := by
  unfold register insert
  rw [InPlace.on_bind, requireFree_on]
  cases g.checkFree c <;> rfl

/-- The cell that has been put behind the others is the last one. -/
theorem getLast?_push (cells : Cells (PerAxis Tracks) Constraints K)
    (cell : Cell (PerAxis Tracks) Constraints K) :
    (cells ++ cell.single).toList.getLast? = some cell ∧
      (cells ++ cell.single).toList.dropLast = cells.toList := by
  rw [Cells.toList_append, cell.toList_single]
  exact ⟨List.getLast?_concat, List.dropLast_concat⟩

theorem ofList_concat (cells : Cells (PerAxis Tracks) Constraints K)
    (cell : Cell (PerAxis Tracks) Constraints K) :
    Cells.ofList (cells.toList ++ [cell]) = cells ++ cell.single := by
  apply Cells.toList_injective
  rw [Cells.toList_ofList, Cells.toList_append, cell.toList_single]

/-- A grid is inserted and filled as in a new grid, or nothing is changed. -/
theorem registerSubGrid_on (build : Grid K → α × Grid K) : (registerSubGrid c build).on g =
    match g.insertSubGrid c build with
    | .ok (result, g') => (.ok result, g')
    | .error e => (.error e, g) := by
  unfold registerSubGrid insertSubGrid
  rw [InPlace.on_bind, requireFree_on]
  cases g.checkFree c with
  | error e => rfl
  | ok u =>
    let new : Cell (PerAxis Tracks) Constraints K := .grid c Grid.empty
    let pushed : Grid K := ⟨g.frame, g.cells ++ new.single⟩
    have hpush : (push new).on g = (.ok (), pushed) := rfl
    have hget : InPlace.on (get : InPlace K (Grid K)) pushed = (.ok pushed, pushed) := rfl
    obtain ⟨hlast, hbefore⟩ := getLast?_push g.cells new
    dsimp only
    rw [InPlace.on_bind, hpush]
    dsimp only
    rw [InPlace.on_bind, hget]
    dsimp only
    rw [hlast, hbefore]
    show (Except.ok (build Grid.empty).1,
      (⟨g.frame, .ofList (g.cells.toList ++ [.grid c (build Grid.empty).2])⟩ : Grid K)) = _
    rw [ofList_concat]
    rfl

/-! ## Calls -/

variable [DecidableEq K]

/-- A call in place. Erasing takes the first component with the key out of the grid, if there is one. -/
def callInPlace : Call K → InPlace K Unit
  | .insert key c => register key c
  | .insertSubGrid c => registerSubGrid c fun sub => ((), sub)
  | .erase key => modify fun g => (Grid.remove g key).2

/-- A call in place is refused for the reason for which the call is refused, and it leaves the grid that
the call leaves: where it is refused, the grid as it was. -/
theorem callInPlace_on (call : Call K) :
    (callInPlace call).on g = ((g.call call).map fun _ => (), g.after call) := by
  cases call with
  | insert key c =>
    rw [callInPlace, register_on, after, Grid.call]
    cases g.insert key c <;> rfl
  | insertSubGrid c =>
    rw [callInPlace, registerSubGrid_on, after, Grid.call]
    cases g.insertSubGrid c fun sub => ((), sub) <;> rfl
  | erase key =>
    have hleft : (g.erase? key).getD g = (g.remove key).2 := by
      rw [erase?_eq]
      split
      case isTrue => rfl
      case isFalse hnone =>
        have hkept := Cells.remove_eq_self (by simpa [Grid.remove] using hnone)
        exact (congrArg (fun cells => (⟨g.frame, cells⟩ : Grid K)) hkept).symm
    rw [after, Grid.call, hleft]
    rfl

/-- A refused call has changed nothing. -/
theorem callInPlace_of_refused {call : Call K} {e : InsertError} (h : g.call call = .error e) :
    (callInPlace call).on g = (.error e, g) := by
  rw [callInPlace_on, h, after_of_error h]
  rfl

/-- A sequence of calls leaves the tree that the calls leave in place, each on the grid at its
address. -/
theorem run_eq_foldl (calls : List (Address × Call K)) :
    g.run calls = calls.foldl (fun g p =>
      g.changeAt (fun t => ((callInPlace p.2).on t).2) p.1) g := by
  unfold run perform
  simp only [callInPlace_on]

end Grid

end FormGrid
