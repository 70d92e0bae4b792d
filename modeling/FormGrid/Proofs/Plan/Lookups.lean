import FormGrid.Plan
import FormGrid.Proofs.Demands
import FormGrid.Proofs.Sizing.Lookups

/-!
# Computations that look up what is there

A computation with look-ups is compared with one without. It simulates the other one up to a relation
if the two have related results or end with the same overflow, so that no look-up ever fails. The
relation is carried from step to step (`Guarded.Simulates.bind`), and where it is equality the two are
the same computation (`Guarded.Simulates.eq`).

Three things are looked up in a plan: cells, edges and lines. A placement that ends at an edge finds
both its ends, so what a cell gets between the edges is what it gets without look-ups. A table of lines
in which the baselines of some cells have been registered, in whatever order they came, holds for each
row and alignment the line that these cells share.

## Main definitions

* `Guarded.Simulates`: related results, or the same overflow
* `Placement.EndsAt`: both ends of a placement are at edges
* `LineTable.note`: the baseline of a cell is registered, if it has one

## Main results

* `Guarded.Simulates.bind`, `Guarded.Simulates.eq`: simulation of a sequence, and up to equality
* `Item.guardedRoom_eq`, `Item.guardedSegment_eq`: between edges that are there
* `LineTable.get?_foldl_note`: registered lines are shared lines
-/

namespace FormGrid

/-! ## Simulation -/

/-- The computation has a result that is related to the result of the other one, or both end with the
same overflow. -/
inductive Guarded.Simulates {α β : Type} (R : α → β → Prop) : Guarded α → Checked β → Prop where
  | ok {a : α} {b : β} (related : R a b) : Simulates R (.ok a) (.ok b)
  | overflow (o : Overflow) : Simulates R (.error (.overflow o)) (.error o)

namespace Guarded.Simulates

variable {α α' β β' : Type} {R : α → α' → Prop} {S : β → β' → Prop} {step : Guarded α}
  {step' : Checked α'}

/-- A computation that looks nowhere else simulates the one without look-ups. -/
theorem of_eq {step : Guarded α} {step' : Checked α} (h : step = ofChecked step') :
    Simulates (fun a b => a = b) step step' := by
  subst h
  cases step' with
  | error o => exact .overflow o
  | ok a => exact .ok rfl

/-- A sequence simulates another one if its first step does and what follows related results does. -/
theorem bind {next : α → Guarded β} {next' : α' → Checked β'} (h : Simulates R step step')
    (hnext : ∀ a b, R a b → step' = .ok b → Simulates S (next a) (next' b)) :
    Simulates S (step >>= next) (step' >>= next') := by
  cases h with
  | ok related => exact hnext _ _ related rfl
  | overflow o => exact .overflow o

/-- Of two computations, the second one may go on without the first one. -/
theorem bind_right {S : α → β' → Prop} {next' : α' → Checked β'} (h : Simulates R step step')
    (hnext : ∀ a b, R a b → Simulates S (.ok a) (next' b)) :
    Simulates S step (step' >>= next') := by
  cases h with
  | ok related => exact hnext _ _ related
  | overflow o => exact .overflow o

/-- A sequence simulates another one with the same first step if what follows does. -/
theorem bind_eq {step : Guarded α} {step' : Checked α} {next : α → Guarded β}
    {next' : α → Checked β'} (h : step = ofChecked step')
    (hnext : ∀ a, step' = .ok a → Simulates S (next a) (next' a)) :
    Simulates S (step >>= next) (step' >>= next') := by
  refine (of_eq h).bind ?_
  rintro a _ rfl ha
  exact hnext a ha

/-- Up to equality, the two are the same computation. -/
theorem eq {step : Guarded α} {step' : Checked α} (h : Simulates (fun a b => a = b) step step') :
    step = ofChecked step' := by
  cases h with
  | ok related => rw [related, ofChecked, Except.mapError]
  | overflow o => rfl

/-- A result is simulated by a related one. -/
theorem exists_of_ok {a : α} (h : Simulates R step step') (ha : step = .ok a) :
    ∃ b, step' = .ok b ∧ R a b := by
  cases h with
  | ok related =>
    cases ha
    exact ⟨_, rfl, related⟩
  | overflow o => cases ha

end Guarded.Simulates

/-- A cell that is in the grid is found. -/
theorem Grid.cellAt_eq {K : Type} {g : Grid K} {index : Nat}
    {cell : Cell (PerAxis Tracks) Constraints K} (h : g.cells.toList[index]? = some cell) :
    g.cellAt index = .ok cell := by
  rw [cellAt, Guarded.read, h]

/-! ## Edges -/

namespace Placement

/-- The placement ends at an edge. -/
def EndsAt (p : Placement) (edges : List Int) : Prop := p.stop < edges.length

variable {p : Placement} {edges : List Int}

theorem EndsAt.start_lt (h : p.EndsAt edges) : p.start < edges.length := by
  unfold EndsAt stop at h
  omega

theorem endsAt_of_le {count : Nat} (hlength : edges.length = count + 1) (h : p.stop ≤ count) :
    p.EndsAt edges := by
  unfold EndsAt
  omega

theorem guardedExtent_eq (h : p.EndsAt edges) :
    p.guardedExtent edges =
      Guarded.ofChecked (Pixel.sub (edgeAt edges p.stop) (edgeAt edges p.start)) := by
  unfold guardedExtent
  rw [Guarded.read_eq h 0, Guarded.read_eq h.start_lt 0]
  rfl

theorem guardedStart_eq (h : p.EndsAt edges) (origin : Int) :
    p.guardedStart edges origin = Guarded.ofChecked (Pixel.add origin (edgeAt edges p.start)) := by
  unfold guardedStart
  rw [Guarded.read_eq h.start_lt 0]
  rfl

end Placement

namespace Item

variable {i : Item} {edges : List Int}

theorem guardedRoom_eq (h : i.placement.EndsAt edges) :
    i.guardedRoom edges = Guarded.ofChecked (i.room edges) := by
  refine Guarded.bind_eq (Placement.guardedExtent_eq h) fun extent _ => ?_
  exact Guarded.bind_eq rfl fun gap _ => Guarded.bind_eq rfl fun _ _ => rfl

theorem guardedLead_eq (h : i.placement.EndsAt edges) (origin : Int) :
    i.guardedLead edges origin = Guarded.ofChecked (i.lead edges origin) := by
  refine Guarded.bind_eq (Placement.guardedStart_eq h origin) fun start _ => ?_
  exact Guarded.bind_eq rfl fun _ _ => rfl

/-- The room that a cell was given is found again. -/
theorem guardedRoom_eq_ok {room : Int} (h : i.placement.EndsAt edges)
    (hroom : i.room edges = .ok room) : i.guardedRoom edges = .ok room := by
  rw [guardedRoom_eq h, hroom]
  rfl

theorem guardedSegment_eq {room : Int} (h : i.placement.EndsAt edges)
    (hroom : i.room edges = .ok room) (origin : Int) :
    i.guardedSegment edges origin = Guarded.ofChecked (i.segment room edges origin) := by
  unfold guardedSegment segment
  rw [guardedRoom_eq_ok h hroom, Guarded.ok_bind]
  refine Guarded.bind_eq rfl fun length _ => ?_
  refine Guarded.bind_eq (guardedLead_eq h origin) fun lead _ => ?_
  exact Guarded.bind_eq rfl fun _ _ => Guarded.bind_eq rfl fun _ _ => rfl

end Item

/-! ## Lines -/

namespace LineTable

/-- The table after the baseline of a cell has been registered, if the cell has one. -/
def note (t : LineTable) (c : RowItem) : LineTable :=
  match c.baseline with
  | some b => t.register c.placement b
  | none => t

theorem lookup_cons (key other : Nat × Align) (line : SharedLine)
    (lines : List ((Nat × Align) × SharedLine)) :
    ((other, line) :: lines).lookup key = if other = key then some line else lines.lookup key := by
  rw [List.lookup_cons]
  by_cases h : other = key
  · simp [h]
  · rw [if_neg h, beq_false_of_ne fun heq => h heq.symm]

/-- Where a baseline is registered, the line is raised to it, and all other lines stay. -/
theorem lookup_join (key key' : Nat × Align) (b : Baseline)
    (lines : List ((Nat × Align) × SharedLine)) :
    (join key b lines).lookup key' =
      if key = key' then some (((lines.lookup key).getD ⟨0, 0⟩).join b)
      else lines.lookup key' := by
  induction lines with
  | nil => simp only [join, lookup_cons, List.lookup_nil, Option.getD_none]
  | cons entry lines ih =>
    obtain ⟨other, line⟩ := entry
    rw [join]
    by_cases hother : other = key
    · subst hother
      by_cases h : other = key' <;> simp [lookup_cons, h]
    · by_cases h : key = key'
      · subst h
        simpa [lookup_cons, hother] using ih
      · simp only [if_neg hother, lookup_cons, ih, if_neg h]

theorem get?_note (t : LineTable) (c : RowItem) (p : Placement) :
    (t.note c).get? p =
      match (if c.placement.start = p.start ∧ c.placement.align = p.align then c.baseline
        else none) with
      | some b => some (((t.get? p).getD ⟨0, 0⟩).join b)
      | none => t.get? p := by
  unfold note
  cases hbaseline : c.baseline with
  | none => simp
  | some b =>
    simp only [register, get?, lookup_join, Prod.mk.injEq]
    by_cases h : c.placement.start = p.start ∧ c.placement.align = p.align
    · rw [if_pos h, if_pos h, h.1, h.2]
    · rw [if_neg h, if_neg h]

/-- When the baselines of some cells have been registered, a line is raised to those among them that
have its row and alignment. -/
theorem get?_foldl_note (t : LineTable) (cells : List RowItem) (p : Placement) :
    (cells.foldl note t).get? p =
      if SharedLine.members cells p.start p.align = [] then t.get? p
      else some ((SharedLine.members cells p.start p.align).foldl SharedLine.join
        ((t.get? p).getD ⟨0, 0⟩)) := by
  induction cells generalizing t with
  | nil => rfl
  | cons c cells ih =>
    rw [List.foldl_cons, ih, get?_note, SharedLine.members_cons]
    cases (if c.placement.start = p.start ∧ c.placement.align = p.align then c.baseline else none) with
    | none => rfl
    | some b =>
      by_cases h : SharedLine.members cells p.start p.align = [] <;> simp [h]

/-- The registered lines are those that the cells share. -/
theorem get?_foldl_note_empty (cells : List RowItem) (p : Placement) :
    (cells.foldl note empty).get? p = SharedLine.find? cells p.start p.align := by
  rw [get?_foldl_note, SharedLine.find?_eq_ite]
  rfl

end LineTable

end FormGrid
