import FormGrid.Proofs.Addresses
import FormGrid.Proofs.Occupancy

/-!
# Calls on a grid tree

A grid tree is made by calls that insert a component, insert an empty grid or erase a component,
each made on some grid of the tree. A call that is refused leaves the tree as it was, and one that
is not changes the grid it is made on and nothing else. However many calls are made, and whatever
constraints they come with, no two cells of a grid ever cover the same position.

The cells that a new one is compared with end at any number; a comparison that would need a stop
beyond all indices may end before it comes to that stop. What is compared with success still lies
apart, so the invariant speaks of natural numbers without a bound.

## Main definitions

* `Call`, `Grid.call`: a call and its result
* `Grid.perform`, `Grid.run`: a call on a grid of a tree, and a sequence of calls
* `Grid.AppendsAt`: a tree in which one grid has got further cells

## Main results

* `Grid.apart_perform`, `Grid.apart_run`: the cells of each grid lie apart, after one call and
  after many
* `Grid.insertSubGrid_run`: filling a grid before it is inserted, or at its address
* `Grid.run_registered`: what a tree that calls have made looks like, and what one more call does
-/

namespace FormGrid

variable {F K : Type}

/-! ## Calls -/

/-- A call on a grid: a component is inserted, or an empty grid, or a component is erased. -/
inductive Call (K : Type) where
  | insert (key : K) (c : Constraints)
  | insertSubGrid (c : Constraints)
  | erase (key : K)
  deriving DecidableEq

/-- The cell that a call inserts, with its constraints. -/
def Call.inserts? : Call K → Option (Constraints × Cells (PerAxis Tracks) Constraints K)
  | insert key c => some (c, .component c key .nil)
  | insertSubGrid c => some (c, .grid c (Grid.empty : Grid K).frame .nil .nil)
  | erase _ => none

/-- A cell that a call inserts is a single one, with the constraints of the call. -/
theorem Call.infos_of_inserts? {call : Call K} {c : Constraints} {new}
    (h : call.inserts? = some (c, new)) : new.infos = [c] ∧ new.Apart := by
  cases call with
  | insert key c' =>
    cases h
    exact ⟨rfl, by simp [Cells.infos], trivial⟩
  | insertSubGrid c' =>
    cases h
    exact ⟨rfl, by simp [Cells.infos], trivial, trivial⟩
  | erase key => cases h

namespace Grid

variable [DecidableEq K]

/-- The grid after a call, or why the call is refused. Erasing is never refused; it changes nothing
where the component is not found. -/
def call (g : Grid K) : Call K → Except InsertError (Grid K)
  | .insert key c => g.insert key c
  | .insertSubGrid c => (g.insertSubGrid c fun sub => ((), sub)).map Prod.snd
  | .erase key => .ok ((g.erase? key).getD g)

/-- The grid that a call leaves, which is the same one if the call is refused. -/
def after (g : Grid K) (call : Call K) : Grid K :=
  match g.call call with
  | .ok g' => g'
  | .error _ => g

/-- The tree that a call leaves which is made on the grid at an address. -/
def perform (g : Grid K) (address : Address) (call : Call K) : Grid K :=
  g.changeAt (fun t => Grid.after t call) address

/-- The tree that a sequence of calls leaves, each made on the grid at its address. -/
def run (g : Grid K) (calls : List (Address × Call K)) : Grid K :=
  calls.foldl (fun g p => g.perform p.1 p.2) g

/-- The second tree is the first one with cells appended to the grid at an address: the other grids
keep their settings and their own cells. -/
structure AppendsAt (g : Grid K) (address : Address) (t : Grid K)
    (new : Cells (PerAxis Tracks) Constraints K) (g' : Grid K) : Prop where
  eq_changeAt : g' = g.changeAt (fun _ => ⟨t.frame, t.cells ++ new⟩) address
  at_address : g'.at? address = some ⟨t.frame, t.cells ++ new⟩
  others : ∀ other s, other ≠ address → g.at? other = some s →
    ∃ s', g'.at? other = some s' ∧ s'.frame = s.frame ∧ s'.cells.own = s.cells.own

variable {g t t' : Grid K} {c : Constraints} {new : Cells (PerAxis Tracks) Constraints K}
  {call : Call K}

/-- A call that inserts a cell asks whether there is room for it, and then puts it at the end. -/
theorem call_of_inserts? (h : call.inserts? = some (c, new)) :
    t.call call = (t.checkFree c).map fun _ => ⟨t.frame, t.cells ++ new⟩ := by
  cases call with
  | insert key c' =>
    cases h
    show t.insert key c = _
    unfold Grid.insert
    cases t.checkFree c <;> rfl
  | insertSubGrid c' =>
    cases h
    show (t.insertSubGrid c fun sub => ((), sub)).map Prod.snd = _
    unfold Grid.insertSubGrid
    cases t.checkFree c <;> rfl
  | erase key => cases h

theorem call_eq_ok_iff (h : call.inserts? = some (c, new)) :
    t.call call = .ok t' ↔ t.checkFree c = .ok () ∧ t' = ⟨t.frame, t.cells ++ new⟩ := by
  rw [call_of_inserts? h]
  cases t.checkFree c with
  | error e => simp [Except.map]
  | ok u => simp [Except.map, eq_comm]

theorem call_eq_error_iff (h : call.inserts? = some (c, new)) {e : InsertError} :
    t.call call = .error e ↔ t.checkFree c = .error e := by
  rw [call_of_inserts? h]
  cases t.checkFree c with
  | error e' => simp [Except.map]
  | ok u => simp [Except.map]

theorem after_of_error {e : InsertError} (h : t.call call = .error e) : t.after call = t := by
  rw [after, h]

theorem after_of_ok (h : t.call call = .ok t') : t.after call = t' := by rw [after, h]

/-! ## The cells of each grid lie apart -/

/-- A call on a grid keeps its cells apart, at all depths. -/
theorem apart_after (h : t.cells.Apart) (call : Call K) : (t.after call).cells.Apart := by
  unfold after
  cases hcall : t.call call with
  | error e => exact h
  | ok t' =>
    cases hinserts : call.inserts? with
    | some p =>
      obtain ⟨hfree, rfl⟩ := (call_eq_ok_iff hinserts).mp hcall
      obtain ⟨hinfos, hnew⟩ := Call.infos_of_inserts? hinserts
      exact h.append_single hnew hinfos (apart_of_checkFree hfree)
    | none =>
      cases call with
      | insert key c => cases hinserts
      | insertSubGrid c => cases hinserts
      | erase key =>
        cases hcall
        cases herase : t.cells.erase? key with
        | none => simpa [Grid.erase?, herase] using h
        | some cells => simpa [Grid.erase?, herase] using h.erase? herase

end Grid

namespace Cells

/-- A change that keeps cells apart may be made to a nested grid. -/
theorem Apart.changeGrid {f : Tree F Constraints K → Tree F Constraints K}
    {cells : Cells F Constraints K} (h : cells.Apart)
    (hf : ∀ t : Tree F Constraints K, t.cells.Apart → (f t).cells.Apart) (place : Nat) :
    (cells.changeGrid f place).Apart := by
  induction cells generalizing place with
  | nil => exact h
  | component c key rest ih =>
    cases place with
    | zero => exact h
    | succ place => exact ⟨by simpa using h.1, ih h.2 place⟩
  | grid c frame inner rest _ ih =>
    obtain ⟨hc, hinner, hrest⟩ := h
    cases place with
    | zero => exact ⟨hc, hf _ hinner, hrest⟩
    | succ place => exact ⟨by simpa using hc, hinner, ih hrest place⟩

end Cells

theorem Tree.apart_changeAt {f : Tree F Constraints K → Tree F Constraints K}
    {t : Tree F Constraints K} (h : t.cells.Apart)
    (hf : ∀ t : Tree F Constraints K, t.cells.Apart → (f t).cells.Apart) (address : Address) :
    (t.changeAt f address).cells.Apart := by
  induction address generalizing t with
  | nil => exact hf t h
  | cons place address ih => exact h.changeGrid (fun _ hsub => ih hsub) place

namespace Grid

variable [DecidableEq K] {g t : Grid K}

/-- A call on some grid of a tree keeps the cells of all its grids apart. -/
theorem apart_perform (h : g.cells.Apart) (address : Address) (call : Call K) :
    (g.perform address call).cells.Apart :=
  g.apart_changeAt h (fun _ ht => apart_after ht call) address

/-- So does a sequence of calls. -/
theorem apart_run (h : g.cells.Apart) (calls : List (Address × Call K)) :
    (g.run calls).cells.Apart := by
  induction calls generalizing g with
  | nil => exact h
  | cons p calls ih => exact ih (apart_perform h p.1 p.2)

/-! ## Filling a grid that is inserted -/

/-- Calls made on the grid in the last cell. -/
theorem run_last (frame : PerAxis Tracks) (cells : Cells (PerAxis Tracks) Constraints K)
    (c : Constraints) (calls : List (Address × Call K)) :
    Grid.run ⟨frame, cells ++ .grid c t.frame t.cells .nil⟩
        (calls.map fun p => (cells.size :: p.1, p.2)) =
      ⟨frame, cells ++ .grid c (t.run calls).frame (t.run calls).cells .nil⟩ := by
  -- the grid in the last cell is another one after each call, so the induction is for any grid
  induction calls generalizing t with
  | nil => rfl
  | cons p calls ih =>
    have hperform : Grid.perform ⟨frame, cells ++ .grid c t.frame t.cells .nil⟩
          (cells.size :: p.1) p.2 =
        ⟨frame, cells ++ .grid c (t.perform p.1 p.2).frame (t.perform p.1 p.2).cells .nil⟩ := by
      simp only [perform, Tree.changeAt, Cells.changeGrid_append_size]
    rw [List.map_cons, run, List.foldl_cons, hperform]
    exact ih

/-- The calls that fill a grid while it is inserted may as well be made at its address, once it is
there. -/
theorem insertSubGrid_run (g : Grid K) (c : Constraints) (calls : List (Address × Call K)) :
    (g.insertSubGrid c fun sub => ((), sub.run calls)) =
      (g.insertSubGrid c fun sub => ((), sub)).map fun r =>
        ((), r.2.run (calls.map fun p => (g.size :: p.1, p.2))) := by
  unfold insertSubGrid
  cases g.checkFree c with
  | error e => rfl
  | ok u =>
    have hlast := run_last (t := .empty) g.frame g.cells c calls
    exact congrArg (fun g' => Except.ok ((), g')) hlast.symm

/-! ## Trees that calls have made -/

/-- In a tree that calls have made from the empty grid, no two cells of one grid cover a common
position. One more call, on whatever grid of the tree, leaves the tree as it is if it is refused. A
call that inserts a cell and is not refused appends that cell to the grid, and all other grids keep
their settings and cells. Among proper cells it is refused exactly if an existing cell covers one
of the new cell's positions. -/
theorem run_registered {calls : List (Address × Call K)} (hg : Grid.run .empty calls = g) :
    (∀ t ∈ g.nodes, t.cells.infos.Pairwise fun c d => ¬ c.Meets d) ∧
      ∀ address t, g.at? address = some t → ∀ call : Call K,
        (∀ e, Grid.call t call = .error e → g.perform address call = g) ∧
        ∀ c new, call.inserts? = some (c, new) →
          (∀ t', Grid.call t call = .ok t' →
            g.AppendsAt address t new (g.perform address call)) ∧
          (c.Proper → (∀ d ∈ t.cells.infos, d.Proper) →
            (Grid.call t call = .error (.occupied c) ↔ ∃ d ∈ t.cells.infos, d.Meets c) ∧
            ((∃ t', Grid.call t call = .ok t') ↔ ∀ d ∈ t.cells.infos, ¬ d.Meets c)) := by
  subst hg
  refine ⟨fun t ht => ?_, fun address t ht call => ⟨fun e hcall => ?_, ?_⟩⟩
  · have hapart : t.cells.Apart := by
      have hroot := apart_run (g := .empty) trivial calls
      rcases List.mem_cons.mp ht with rfl | hnested
      · exact hroot
      · obtain ⟨p, hp, rfl⟩ := List.mem_map.mp hnested
        exact hroot.of_mem_grids p hp
    exact hapart.pairwise.imp fun h => h.not_meets
  · exact Tree.changeAt_self ht (after_of_error hcall)
  intro c new hinserts
  refine ⟨fun t' hcall => ?_, fun hc hcells => ?_⟩
  · obtain ⟨-, rfl⟩ := (call_eq_ok_iff hinserts).mp hcall
    have hafter := after_of_ok hcall
    refine ⟨?_, ?_, fun other s hne hother => ?_⟩
    · refine Tree.changeAt_congr fun s hs => ?_
      cases ht.symm.trans hs
      exact hafter
    · rw [← hafter]
      exact Tree.at?_changeAt ht
    · refine Tree.own_changeAt_of_ne ht (fun place sub hsub => ?_) hne hother
      rw [hafter]
      exact Cells.gridAt?_append new hsub
  · obtain ⟨hoccupied, hfree⟩ := checkFree_of_proper hc hcells
    rw [← hoccupied, ← hfree]
    refine ⟨call_eq_error_iff hinserts, ?_⟩
    simp only [call_eq_ok_iff hinserts, exists_and_left, exists_eq, and_true]

end Grid

namespace Form

/-- A cell whose columns end beyond all indices. -/
def farCell : Constraints := (Constraints.single (Index.limit - 1) 0).withSpan 9 1

/-- A component and a nested grid, in which a far cell comes first, then a cell that is accepted
since it starts before the far one, then the far cell once more, which cannot be compared. -/
def calls : List (Address × Call Nat) :=
  [([], .insert 1 (.single 0 0)), ([], .insertSubGrid ((Constraints.single 1 0).withSpan 2 2)),
    ([1], .insert 2 farCell), ([1], .insert 3 (.single 0 0)), ([1], .insert 4 farCell),
    ([], .insert 5 (.single 2 1)), ([], .erase 7)]

/-- The tree that the calls make has two cells in the nested grid. The far cell is refused there
without any effect, and beside the grid a cell is refused for a position that the grid covers. -/
theorem calls_registered : ∃ g t, Grid.run .empty calls = g ∧ g.at? [1] = some t ∧
    t.cells.own = [(farCell, some 2), (.single 0 0, some 3)] ∧
    (∀ t ∈ g.nodes, t.cells.infos.Pairwise fun c d => ¬ c.Meets d) ∧
    Grid.call t (.insert 4 farCell) = .error (.overflow .addition) ∧
    g.perform [1] (.insert 4 farCell) = g ∧
    (g.perform [1] (.insert 4 (.single 0 1))).at? [1] =
      some ⟨t.frame, t.cells ++ .component (.single 0 1) 4 .nil⟩ ∧
    (Grid.call g (.insert 5 (.single 2 1)) = .error (.occupied (.single 2 1)) ↔
      ∃ d ∈ g.cells.infos, d.Meets (.single 2 1)) := by
  obtain ⟨g, t, hg, ht, hown, hfar, hfree⟩ : ∃ g t, Grid.run .empty calls = g ∧
      g.at? [1] = some t ∧ t.cells.own = [(farCell, some 2), (.single 0 0, some 3)] ∧
      Grid.call t (.insert 4 farCell) = .error (.overflow .addition) ∧
      Grid.call t (.insert 4 (.single 0 1)) =
        .ok ⟨t.frame, t.cells ++ .component (.single 0 1) 4 .nil⟩ :=
    ⟨_, _, rfl, rfl, rfl, rfl, rfl⟩
  have hproper : ∀ d ∈ g.cells.infos, d.Proper := by
    subst hg
    refine List.forall_mem_cons.mpr ⟨⟨?_, ?_, ?_, ?_⟩, List.forall_mem_cons.mpr
      ⟨⟨?_, ?_, ?_, ?_⟩, fun _ hd => nomatch hd⟩⟩
    all_goals decide
  have registered := Grid.run_registered hg
  refine ⟨g, t, hg, ht, hown, registered.1, hfar, ?_, ?_, ?_⟩
  · exact (registered.2 [1] t ht _).1 _ hfar
  · exact (((registered.2 [1] t ht _).2 _ _ rfl).1 _ hfree).at_address
  · exact (((registered.2 [] g rfl (.insert 5 (.single 2 1))).2 _ _ rfl).2
      ⟨by decide, by decide, by decide, by decide⟩ hproper).1

end Form

end FormGrid
