import FormGrid.Grid
import FormGrid.Proofs.Addresses

/-!
# Removing a component

Keys are looked up and removed in the order in which the cells are registered, depth first. To say
what a removal leaves alone, a grid tree is written down as its outline: the list of its landmarks
in this order, where each nested grid begins with its settings and ends with a closing landmark. An
outline determines the tree. A removal strikes out the first component with the key and no other
landmark, so that all nested grids stay where they are, with their settings, and even if nothing is
left in them.

## Main definitions

* `Landmark`, `Cells.outline`: what comes in a tree, one thing after the other
* `Cells.remove`, `Grid.remove`: a removal in place, which tells whether there was such a component
* `Grid.Removes`: what a removal does

## Main results

* `Cells.outline_injective`: cells with one outline are equal
* `Cells.outline_remove`: a removal strikes out the first component with the key
* `Cells.erase?_eq`: removing in place and erasing are the same
* `Grid.remove_first`: lookup and removal follow one order, and a removal undoes an insertion
-/

namespace FormGrid

variable {F C K : Type}

/-- What one comes upon in a grid tree: a component, or a place where a nested grid begins or
ends. -/
inductive Landmark (F C K : Type) where
  | component (info : C) (key : K)
  | opening (info : C) (frame : F)
  | closing
  deriving DecidableEq

namespace Landmark

/-- The component at a landmark. -/
def entry? : Landmark F C K → Option (K × C)
  | component info key => some (key, info)
  | opening _ _ => none
  | closing => none

/-- The grid that begins at a landmark. -/
def grid? : Landmark F C K → Option (C × F)
  | component _ _ => none
  | opening info frame => some (info, frame)
  | closing => none

/-- A component with this key stands at a landmark. -/
def holds [DecidableEq K] (key : K) (l : Landmark F C K) : Bool := l.entry?.any (·.1 = key)

theorem grid?_eq_none_of_holds [DecidableEq K] {key : K} {l : Landmark F C K}
    (h : l.holds key = true) : l.grid? = none := by
  cases l with
  | component info k => rfl
  | opening info frame => cases h
  | closing => rfl

end Landmark

namespace Cells

/-! ## Outlines -/

/-- The landmarks of cells at all depths, in the order of registration. -/
def outline : Cells F C K → List (Landmark F C K)
  | nil => []
  | component info key rest => .component info key :: rest.outline
  | grid info frame inner rest =>
    .opening info frame :: (inner.outline ++ .closing :: rest.outline)

theorem filterMap_entry?_outline (cells : Cells F C K) :
    cells.outline.filterMap Landmark.entry? = cells.entries := by
  induction cells with
  | nil => rfl
  | component info key rest ih => simp [outline, entries, Landmark.entry?, ih]
  | grid info frame inner rest ihInner ihRest =>
    simp [outline, entries, Landmark.entry?, List.filterMap_cons, ihInner, ihRest]

theorem filterMap_grid?_outline (cells : Cells F C K) :
    cells.outline.filterMap Landmark.grid? = cells.grids.map fun p => (p.1, p.2.frame) := by
  induction cells with
  | nil => rfl
  | component info key rest ih => simp [outline, Landmark.grid?, List.filterMap_cons, ih]
  | grid info frame inner rest ihInner ihRest =>
    simp [outline, Landmark.grid?, List.filterMap_cons, ihInner, ihRest]

theorem outline_append (cells more : Cells F C K) :
    (cells ++ more).outline = cells.outline ++ more.outline := by
  induction cells with
  | nil => rfl
  | component info key rest ih => simp [outline, ih]
  | grid info frame inner rest _ ih => simp [outline, ih]

/-- An outline that is not empty does not begin with a closing landmark. -/
theorem eq_nil_of_outline_append {cells : Cells F C K} {after after' : List (Landmark F C K)}
    (h : cells.outline ++ after = after') (hafter' : ∀ l ∈ after'.head?, l = .closing) :
    cells = nil ∧ after = after' := by
  subst h
  cases cells with
  | nil => exact ⟨rfl, rfl⟩
  | component info key rest => exact nomatch hafter' (.component info key) rfl
  | grid info frame inner rest => exact nomatch hafter' (.opening info frame) rfl

/-- The outline of cells ends where no landmark follows or a closing one does. -/
theorem outline_append_injective {cells cells' : Cells F C K} {after after' : List (Landmark F C K)}
    (h : cells.outline ++ after = cells'.outline ++ after')
    (hafter : ∀ l ∈ after.head?, l = .closing) (hafter' : ∀ l ∈ after'.head?, l = .closing) :
    cells = cells' ∧ after = after' := by
  induction cells generalizing cells' after after' with
  | nil =>
    obtain ⟨rfl, heq⟩ := eq_nil_of_outline_append h.symm hafter
    exact ⟨rfl, heq.symm⟩
  | component info key rest ih =>
    cases cells' with
    | nil => exact nomatch (eq_nil_of_outline_append h hafter').1
    | component info' key' rest' =>
      obtain ⟨hhead, htail⟩ := List.cons.inj h
      obtain ⟨rfl, rfl⟩ := ih htail hafter hafter'
      cases hhead
      exact ⟨rfl, rfl⟩
    | grid info' frame inner rest' => exact nomatch (List.cons.inj h).1
  | grid info frame inner rest ihInner ihRest =>
    cases cells' with
    | nil => exact nomatch (eq_nil_of_outline_append h hafter').1
    | component info' key' rest' => exact nomatch (List.cons.inj h).1
    | grid info' frame' inner' rest' =>
      rw [outline, outline, List.cons_append, List.cons_append, List.append_assoc,
        List.append_assoc] at h
      obtain ⟨hhead, htail⟩ := List.cons.inj h
      cases hhead
      -- the nested cells end at the first closing landmark that belongs to none of them
      obtain ⟨rfl, hclosed⟩ := ihInner htail (by simp) (by simp)
      obtain ⟨rfl, rfl⟩ := ihRest (List.cons.inj hclosed).2 hafter hafter'
      exact ⟨rfl, rfl⟩

/-- An outline determines the cells. -/
theorem outline_injective {cells cells' : Cells F C K} (h : cells.outline = cells'.outline) :
    cells = cells' := by
  have hempty : ∀ l ∈ ([] : List (Landmark F C K)).head?, l = .closing := fun _ hl => nomatch hl
  exact (outline_append_injective (by rw [h]) hempty hempty).1

/-! ## Removal in place -/

section Removal

variable [DecidableEq K]

/-- The cells after the first component with the key is taken out of them, and whether there was
one. A nested grid that is searched is written back before its following cells are searched. -/
def remove (key : K) : Cells F C K → Bool × Cells F C K
  | nil => (false, nil)
  | component info k rest =>
    if k = key then (true, rest)
    else ((rest.remove key).1, component info k (rest.remove key).2)
  | grid info frame inner rest =>
    if (inner.remove key).1 then (true, grid info frame (inner.remove key).2 rest)
    else ((rest.remove key).1, grid info frame (inner.remove key).2 (rest.remove key).2)

/-- There was such a component if one of the landmarks is such a component, and the first one of
them is struck out. -/
theorem outline_remove (key : K) (cells : Cells F C K) :
    (cells.remove key).1 = cells.outline.any (Landmark.holds key) ∧
      (cells.remove key).2.outline = cells.outline.eraseP (Landmark.holds key) := by
  induction cells with
  | nil => exact ⟨rfl, rfl⟩
  | component info k rest ih =>
    by_cases hkey : k = key
    · simp [remove, outline, Landmark.holds, Landmark.entry?, hkey]
    · simp [remove, outline, Landmark.holds, Landmark.entry?, hkey, ih]
  | grid info frame inner rest ihInner ihRest =>
    obtain ⟨hfound, hinner⟩ := ihInner
    have hopening : Landmark.holds key (.opening info frame : Landmark F C K) = false := rfl
    have hclosing : Landmark.holds key (.closing : Landmark F C K) = false := rfl
    by_cases hany : inner.outline.any (Landmark.holds key)
    · simp [remove, outline, hfound, hany, hinner, hopening, List.eraseP_append]
    · have hkept : inner.outline.eraseP (Landmark.holds key) = inner.outline :=
        List.eraseP_of_forall_not (by simpa using hany)
      simp [remove, outline, hfound, hany, hinner, hkept, hopening, hclosing, ihRest,
        List.eraseP_append]

/-- Where there was no such component, the cells are the same as before. -/
theorem remove_eq_self {key : K} {cells : Cells F C K} (h : (cells.remove key).1 = false) :
    (cells.remove key).2 = cells := by
  obtain ⟨hfound, houtline⟩ := outline_remove key cells
  rw [hfound] at h
  refine outline_injective ?_
  rw [houtline, List.eraseP_of_forall_not (by simpa using h)]

/-- Erasing gives what a removal in place leaves, where there was such a component. -/
theorem erase?_eq (key : K) (cells : Cells F C K) :
    cells.erase? key = if (cells.remove key).1 then some (cells.remove key).2 else none := by
  induction cells with
  | nil => rfl
  | component info k rest ih =>
    by_cases hkey : k = key
    · simp [erase?, remove, hkey]
    · cases hrest : (rest.remove key).1 <;> simp [erase?, remove, hkey, ih, hrest]
  | grid info frame inner rest ihInner ihRest =>
    cases hinner : (inner.remove key).1 with
    | true => simp [erase?, remove, ihInner, hinner]
    | false =>
      have hkept := remove_eq_self hinner
      cases hrest : (rest.remove key).1 <;>
        simp [erase?, remove, ihInner, ihRest, hinner, hrest, hkept]

/-! ## What is struck out -/

theorem any_holds_outline (key : K) (cells : Cells F C K) :
    cells.outline.any (Landmark.holds key) = cells.entries.any (·.1 = key) := by
  rw [← filterMap_entry?_outline, List.any_filterMap]
  refine congrArg (List.any cells.outline) (funext fun l => ?_)
  cases l <;> rfl

/-- The components lose the first one with the key. -/
theorem entries_remove (key : K) (cells : Cells F C K) :
    (cells.remove key).2.entries = cells.entries.eraseP (·.1 = key) := by
  rw [← filterMap_entry?_outline, ← filterMap_entry?_outline, (outline_remove key cells).2,
    List.eraseP_filterMap]
  refine congrArg (fun p => (cells.outline.eraseP p).filterMap Landmark.entry?) (funext fun l => ?_)
  cases l <;> rfl

/-- No grid begins at the landmark that is struck out. -/
theorem grids_remove (key : K) (cells : Cells F C K) :
    (cells.remove key).2.grids.map (fun p => (p.1, p.2.frame)) =
      cells.grids.map fun p => (p.1, p.2.frame) := by
  rw [← filterMap_grid?_outline, ← filterMap_grid?_outline, (outline_remove key cells).2]
  rcases List.exists_or_eq_self_of_eraseP (Landmark.holds key) cells.outline with
    hself | ⟨l, before, after, -, hl, houtline, herased⟩
  · rw [hself]
  · rw [herased, houtline]
    simp [Landmark.grid?_eq_none_of_holds hl]

end Removal

/-! ## Removal after an insertion -/

/-- The second cells have one more component, with this key, at some place in their outline. -/
def Gains (cells : Cells F C K) (info : C) (key : K) (cells' : Cells F C K) : Prop :=
  ∃ before after, cells.outline = before ++ after ∧
    cells'.outline = before ++ .component info key :: after

/-- A change that gives a nested grid one more component, and leaves it its settings, gives it to
the cells around the grid. -/
theorem Gains.changeGrid {f : Tree F C K → Tree F C K} {cells : Cells F C K} {place : Nat}
    {sub : Tree F C K} {info : C} {key : K} (hsub : cells.gridAt? place = some sub)
    (hframe : (f sub).frame = sub.frame) (hgains : sub.cells.Gains info key (f sub).cells) :
    cells.Gains info key (cells.changeGrid f place) := by
  induction cells generalizing place with
  | nil => cases hsub
  | component info' key' rest ih =>
    cases place with
    | zero => cases hsub
    | succ place =>
      obtain ⟨before, after, hrest, hrest'⟩ := ih hsub
      exact ⟨.component info' key' :: before, after, by simp [outline, hrest],
        by simp [Cells.changeGrid, outline, hrest']⟩
  | grid info' frame inner rest _ ih =>
    cases place with
    | zero =>
      cases hsub
      obtain ⟨before, after, hinner, hinner'⟩ := hgains
      refine ⟨.opening info' frame :: before, after ++ .closing :: rest.outline, ?_, ?_⟩
      · simp [outline, show inner.outline = before ++ after from hinner]
      · simp [Cells.changeGrid, outline, hinner', show (f ⟨frame, inner⟩).frame = frame from hframe]
    | succ place =>
      obtain ⟨before, after, hrest, hrest'⟩ := ih hsub
      refine ⟨.opening info' frame :: (inner.outline ++ .closing :: before), after, ?_, ?_⟩
      · simp [outline, hrest]
      · simp [Cells.changeGrid, outline, hrest']

/-- Where the key of the new component was not in use, removing it gives back the cells as they
were. -/
theorem Gains.remove_eq [DecidableEq K] {cells cells' : Cells F C K} {info : C} {key : K}
    (h : cells.Gains info key cells') (hkey : key ∉ cells.entries.map Prod.fst) :
    cells'.remove key = (true, cells) := by
  obtain ⟨before, after, hcells, hcells'⟩ := h
  obtain ⟨hfound, houtline⟩ := outline_remove key cells'
  have hnew : Landmark.holds key (.component info key : Landmark F C K) = true := by
    simp [Landmark.holds, Landmark.entry?]
  have hnone : cells.outline.any (Landmark.holds key) = false := by
    rw [any_holds_outline, List.any_eq_false]
    exact fun e he hcond => hkey (List.mem_map.mpr ⟨e, he, by simpa using hcond⟩)
  have hbefore : ∀ l ∈ before, ¬ l.holds key = true := by
    rw [hcells, List.any_append, Bool.or_eq_false_iff] at hnone
    simpa using hnone.1
  refine Prod.ext ?_ (outline_injective ?_)
  · rw [hfound, hcells']
    simp [hnew]
  · rw [houtline, hcells', List.eraseP_append_right _ hbefore, List.eraseP_cons_of_pos hnew, hcells]

end Cells

/-- A grid at any address gains a component: so does the tree, and it keeps its settings. -/
theorem Tree.gains_changeAt {t s s' : Tree F C K} {address : Address} {info : C} {key : K}
    (h : t.at? address = some s) (hframe : s'.frame = s.frame)
    (hgains : s.cells.Gains info key s'.cells) :
    (t.changeAt (fun _ => s') address).frame = t.frame ∧
      t.cells.Gains info key (t.changeAt (fun _ => s') address).cells := by
  induction address generalizing t with
  | nil =>
    cases h
    exact ⟨hframe, hgains⟩
  | cons place address ih =>
    obtain ⟨sub, hsub, hs⟩ := Option.bind_eq_some_iff.mp h
    obtain ⟨hkept, hinside⟩ := ih hs
    exact ⟨rfl, Cells.Gains.changeGrid hsub hkept hinside⟩

namespace Grid

variable [DecidableEq K]

/-- The grid after the first component with the key is taken out of it, at whatever depth, and
whether there was one. -/
def remove (g : Grid K) (key : K) : Bool × Grid K :=
  ((g.cells.remove key).1, ⟨g.frame, (g.cells.remove key).2⟩)

/-- What is left of a grid by a removal that tells whether a component was found: the components
without the first one with the key, and everything else where it was, in particular all nested
grids and their settings. -/
structure Removes (g : Grid K) (key : K) (found : Bool) (after : Grid K) : Prop where
  found_iff : found = true ↔ (g.constraintsOf? key).isSome
  entries_eq : after.cells.entries = g.cells.entries.eraseP (·.1 = key)
  frame_eq : after.frame = g.frame
  grids_eq : after.cells.grids.map (fun p => (p.1, p.2.frame)) =
    g.cells.grids.map fun p => (p.1, p.2.frame)
  outline_eq : after.cells.outline = g.cells.outline.eraseP (Landmark.holds key)
  eq_self : found = false → after = g

theorem erase?_eq (g : Grid K) (key : K) :
    g.erase? key = if (g.remove key).1 then some (g.remove key).2 else none := by
  rw [erase?, Cells.erase?_eq, remove]
  cases (g.cells.remove key).1 <;> rfl

/-- The constraints found for a key are those of the first component with it. A removal, which is
the same as erasing, succeeds exactly if there are such constraints, and it takes out that component
and nothing else. So it undoes an insertion, on any grid of the tree, of a component whose key was
not in use. -/
theorem remove_first (g : Grid K) (key : K) :
    g.constraintsOf? key = (g.cells.entries.find? (·.1 = key)).map Prod.snd ∧
      g.erase? key = (if (g.remove key).1 then some (g.remove key).2 else none) ∧
      g.Removes key (g.remove key).1 (g.remove key).2 ∧
      (key ∉ g.cells.entries.map Prod.fst → ∀ (address : Address) (t t' : Grid K) c,
        g.at? address = some t → t.insert key c = .ok t' →
        Grid.remove (g.changeAt (fun _ => t') address) key = (true, g)) := by
  have hfind := Cells.find?_eq_entries_find? key g.cells
  obtain ⟨hfound, houtline⟩ := Cells.outline_remove key g.cells
  refine ⟨hfind, g.erase?_eq key, ⟨?_, Cells.entries_remove key g.cells, rfl,
    Cells.grids_remove key g.cells, houtline, fun hnone => ?_⟩, ?_⟩
  · show (g.cells.remove key).1 = true ↔ (g.cells.find? key).isSome
    rw [hfound, Cells.any_holds_outline, hfind, Option.isSome_map, List.find?_isSome,
      List.any_eq_true]
  · rw [remove, Cells.remove_eq_self hnone]
  · intro hkey address t t' c ht hinsert
    obtain ⟨-, ht'⟩ := insert_eq_ok_iff.mp hinsert
    have hframe : t'.frame = t.frame := by rw [ht']
    have hgains : t.cells.Gains c key t'.cells :=
      ⟨t.cells.outline, [], by simp, by simp [ht', Cells.outline_append, Cells.outline]⟩
    obtain ⟨hkept, hall⟩ := Tree.gains_changeAt ht hframe hgains
    rw [remove, hall.remove_eq hkey, hkept]

end Grid

namespace Form

/-- A grid in a grid in the first cell, with one field (1), and behind them a field that has the
same key. -/
def drawers : Grid Nat :=
  ⟨⟨.plain, ⟨.ofList [0], [⟨0, 3⟩]⟩⟩,
    .grid (.single 0 0) ⟨⟨.ofList [0], [⟨2, 2⟩]⟩, .plain⟩
      (.grid (.single 0 0) ⟨.plain, .plain⟩ (.component (.single 5 0) 1 .nil) .nil) <|
    .component (.single 1 0) 1 .nil⟩

/-- The form `drawers` without the inner field. -/
def emptied : Grid Nat :=
  ⟨drawers.frame,
    .grid (.single 0 0) ⟨⟨.ofList [0], [⟨2, 2⟩]⟩, .plain⟩
      (.grid (.single 0 0) ⟨.plain, .plain⟩ .nil .nil) <|
    .component (.single 1 0) 1 .nil⟩

/-- The inner field is the first one. The grids around it stay when it is removed, and after the
next removal there is no field. A note (7) beside it comes and goes without a trace. -/
theorem drawers_remove : drawers.constraintsOf? 1 = some (.single 5 0) ∧
    drawers.remove 1 = (true, emptied) ∧ drawers.Removes 1 true emptied ∧
    (emptied.remove 1).1 = true ∧ ((emptied.remove 1).2.remove 1).1 = false ∧
    ∃ t t' : Grid Nat, drawers.at? [0, 0] = some t ∧ t.insert 7 (.single 6 0) = .ok t' ∧
      Grid.remove (drawers.changeAt (fun _ => t') [0, 0]) 7 = (true, drawers) := by
  have hfirst := Grid.remove_first drawers 1
  have hemptied : drawers.remove 1 = (true, emptied) := by decide
  refine ⟨hfirst.1, hemptied, ?_, by decide, by decide, _, _, rfl, rfl, ?_⟩
  · simpa only [hemptied] using hfirst.2.2.1
  · exact (Grid.remove_first drawers 7).2.2.2 (by decide) _ _ _ (.single 6 0) rfl rfl

end Form

end FormGrid
