import FormGrid.Proofs.Nesting

/-!
# Components are placed, shown and found alike

An arrangement and a snapshot are made from one layout by two recursions of their own. Both come
upon the visible components in the order in which these were registered, and the slots that only a
snapshot computes do not overflow where the bounds do not. So there are both, or neither for the
same overflow. A key that is used for several components stands for the first visible one: what is
found for it in a snapshot has the bounds that the arrangement lists first, and the constraints
with which that component was registered.

## Main definitions

* `Snapshot.Agrees`: what is placed, what is shown and what is found are the same components

## Main results

* `Snapshot.map_find?`: looking up a key finds the first component shown
* `Grid.arrange_agrees`: arrangements, snapshots and what is found in them
-/

namespace FormGrid

variable {K : Type} [DecidableEq K]

namespace Snapshot

/-- The components placed are those shown, and those visible in the grid, in the same order. A key
is found in the snapshot exactly if a component with it is placed, and what is found are the bounds
and the constraints of the first one. -/
structure Agrees (h : Host K) (g : Grid K) (placed : List (K × Rect)) (shown : Snapshot K) :
    Prop where
  placed_eq : placed = Snapshot.placed shown.cells.entries
  keys_eq : placed.map Prod.fst = (g.cells.entries.filter fun e => h.isVisible e.1).map Prod.fst
  found_iff : ∀ key, (shown.find? key).isSome ↔ key ∈ placed.map Prod.fst
  bounds_eq : ∀ key,
    (shown.find? key).map Entry.bounds = (placed.find? (·.1 = key)).map Prod.snd
  constraints_eq : ∀ key, (shown.find? key).map Entry.constraints =
    ((g.cells.entries.filter fun e => h.isVisible e.1).find? (·.1 = key)).map Prod.snd

/-- What is read off the component found is what is read off the first component with its key. -/
theorem map_find? {α : Type} (shown : Snapshot K) (read : Entry → α) (key : K) :
    (shown.find? key).map read =
      ((shown.cells.entries.map fun e => (e.1, read e.2)).find? (·.1 = key)).map Prod.snd := by
  rw [find?, Cells.find?_eq_entries_find?, List.find?_map, Option.map_map, Option.map_map]
  rfl

theorem isSome_find? (shown : Snapshot K) (key : K) :
    (shown.find? key).isSome ↔ key ∈ (placed shown.cells.entries).map Prod.fst := by
  rw [find?, Cells.find?_eq_entries_find?, Option.isSome_map, List.find?_isSome, placed,
    List.map_map]
  simp

end Snapshot

namespace Grid

/-- An arrangement and a snapshot of a grid in one rectangle are both computed, after the same
questions, or they end with the same overflow. Where they are computed, the components placed, the
components shown and the components found agree. -/
theorem arrange_agrees (h : Host K) (g : Grid K) (rect : Rect) :
    (∀ o, g.arrange h rect = .error o ↔ g.snapshot h rect = .error o) ∧
      (∀ asked, (∃ placed, g.arrange h rect = .ok ⟨placed, asked⟩) ↔
        ∃ shown, g.snapshot h rect = .ok ⟨shown, asked⟩) ∧
      ∀ placed shown asked asked', g.arrange h rect = .ok ⟨placed, asked⟩ →
        g.snapshot h rect = .ok ⟨shown, asked'⟩ → Snapshot.Agrees h g placed shown := by
  refine ⟨fun o => ?_, fun asked => ⟨?_, ?_⟩, ?_⟩
  · rw [arrange_eq_map_snapshot]
    cases g.snapshot h rect <;> simp [Except.map]
  · rintro ⟨placed, hplaced⟩
    obtain ⟨shown, hshown, -⟩ := snapshot_of_arrange hplaced
    exact ⟨shown, hshown⟩
  · rintro ⟨shown, hshown⟩
    exact ⟨_, arrange_of_snapshot hshown⟩
  intro placed shown asked asked' hplaced hshown
  cases hplaced.symm.trans (arrange_of_snapshot hshown)
  have hentries := entries_of_snapshot hshown
  refine ⟨rfl, ?_, shown.isSome_find?, shown.map_find? Snapshot.Entry.bounds, fun key => ?_⟩
  · rw [← hentries, Snapshot.placed, List.map_map, List.map_map]
    rfl
  · rw [shown.map_find? Snapshot.Entry.constraints, hentries]

end Grid

namespace Form

/-- The form with a second note (3) beside the buttons, which is not shown either, and with two more
fields that have the key of the first one (2): one in the nested grid and one behind it. -/
def twins : Grid Nat :=
  ⟨grid.frame,
    .component (.single 0 0) 1 <|
      .grid ((Constraints.single 1 1).withGaps (.uniform 2)) buttons.frame
        (.component (.single 2 0) 3 <|
          .component ((Constraints.single 3 0).withAlign .fill .fill) 2 buttons.cells) <|
        .component ((Constraints.single 1 0).withPaddings (.uniform 1)) 2 .nil⟩

/-- A rectangle whose right edge lies beyond all pixels. -/
def farRect : Rect := ⟨⟨2147483600, 120⟩, ⟨20, 60⟩⟩

/-- The key of the fields is found in the nested grid, and in a rectangle that is too far to the
right nothing is placed or shown. -/
theorem twins_agree : ∃ placed shown asked e,
    twins.arrange host rect = .ok ⟨placed, asked⟩ ∧
    twins.snapshot host rect = .ok ⟨shown, asked⟩ ∧
    placed.map Prod.fst = [1, 2, 4, 5, 2] ∧ shown.find? 2 = some e ∧
    e.constraints = (Constraints.single 3 0).withAlign .fill .fill ∧
    (placed.find? (·.1 = 2)).map Prod.snd = some e.bounds ∧ shown.find? 3 = none ∧
    twins.arrange host farRect = .error .addition ∧
    twins.snapshot host farRect = .error .addition := by
  obtain ⟨placed, shown, asked, e, hplaced, hshown, hfound, hfar⟩ : ∃ placed shown asked e,
      twins.arrange host rect = .ok ⟨placed, asked⟩ ∧
      twins.snapshot host rect = .ok ⟨shown, asked⟩ ∧ shown.find? 2 = some e ∧
      twins.arrange host farRect = .error .addition :=
    ⟨_, _, _, _, rfl, rfl, rfl, rfl⟩
  have agrees := (Grid.arrange_agrees host twins rect).2.2 _ _ _ _ hplaced hshown
  have hkeys : placed.map Prod.fst = [1, 2, 4, 5, 2] := agrees.keys_eq
  have hbounds := agrees.bounds_eq 2
  have hconstraints := agrees.constraints_eq 2
  have hnote := agrees.found_iff 3
  rw [hfound] at hbounds hconstraints
  rw [hkeys] at hnote
  refine ⟨placed, shown, asked, e, hplaced, hshown, hkeys, hfound, Option.some.inj hconstraints,
    hbounds.symm, by simpa using hnote, hfar,
    ((Grid.arrange_agrees host twins farRect).1 _).mp hfar⟩

end Form

end FormGrid
