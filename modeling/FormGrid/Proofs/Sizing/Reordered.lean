import FormGrid.Sizing.Edges
import Mathlib.Data.List.Perm.Basic
import Mathlib.Order.Lattice

/-!
# Demands in another order

The order in which demands were made matters only among demands on equally long runs of two tracks
or more, which are gone through in this order. A largest length is the same in any order, so demands
on single tracks may be made at any time, and so may demands on runs of different lengths, which are
sorted. Where the order is kept among those for which it matters, not only the sizes are the same
but each step of the computation, and so also whether it overflows.

## Main definitions

* `Reordered`: a list in another order that is kept among members of the same span from two on

## Main results

* `Reordered.minSizes_eq`, `Reordered.edges_eq`: sizes and edges of an axis
-/

namespace FormGrid

/-- The second list has the members of the first one. Those of one span are in the same order as
there, if the span is at least two. -/
structure Reordered {α : Type} (span : α → Nat) (as bs : List α) : Prop where
  perm : as.Perm bs
  kept : ∀ n, 2 ≤ n → bs.filter (span · = n) = as.filter (span · = n)

/-- Only the spans of members have to be looked at. -/
theorem reordered_iff {α : Type} {span : α → Nat} {as bs : List α} :
    Reordered span as bs ↔ as.Perm bs ∧
      ∀ a ∈ as, 2 ≤ span a → bs.filter (span · = span a) = as.filter (span · = span a) := by
  refine ⟨fun order => ⟨order.perm, fun a _ => order.kept (span a)⟩, fun ⟨perm, kept⟩ => ⟨perm, ?_⟩⟩
  intro n hn
  by_cases hspan : ∃ a ∈ as, span a = n
  · obtain ⟨a, ha, rfl⟩ := hspan
    exact kept a ha hn
  · have hnone : as.filter (span · = n) = [] := by simpa using hspan
    rw [hnone, ← List.perm_nil, ← hnone]
    exact perm.symm.filter _

instance {α : Type} [DecidableEq α] (span : α → Nat) (as bs : List α) :
    Decidable (Reordered span as bs) := decidable_of_iff _ reordered_iff.symm

namespace Reordered

variable {α β : Type} {span : α → Nat} {as bs : List α}

theorem symm (order : Reordered span as bs) : Reordered span bs as :=
  ⟨order.perm.symm, fun n hn => (order.kept n hn).symm⟩

theorem filter (order : Reordered span as bs) (p : α → Bool) :
    Reordered span (as.filter p) (bs.filter p) where
  perm := order.perm.filter p
  kept n hn := by rw [List.filter_comm, order.kept n hn, List.filter_comm]

/-- What has the same spans may take the place of the members. -/
theorem map (order : Reordered span as bs) {span' : β → Nat} {f : α → β}
    (hspan : ∀ a ∈ as, span' (f a) = span a) : Reordered span' (as.map f) (bs.map f) where
  perm := order.perm.map f
  kept n hn := by
    have hfilter : ∀ cs ⊆ as, (cs.map f).filter (span' · = n) = (cs.filter (span · = n)).map f := by
      intro cs hcs
      rw [List.filter_map]
      exact congrArg _ (List.filter_congr fun a ha => by simp [hspan a (hcs ha)])
    rw [hfilter bs order.perm.symm.subset, hfilter as (List.Subset.refl as), order.kept n hn]

/-! ## Sizes of tracks -/

variable {ds ds' : List Demand}

theorem count_eq (order : Reordered Demand.span ds ds') :
    Sizing.count ⟨ds'⟩ = Sizing.count ⟨ds⟩ :=
  ((order.perm.map Demand.stop).foldl_eq 0).symm

theorem singleSize_eq (order : Reordered Demand.span ds ds') (track : Nat) :
    Sizing.singleSize ⟨ds'⟩ track = Sizing.singleSize ⟨ds⟩ track :=
  (((order.perm.filter _).map Demand.size).foldl_eq 0).symm

/-- The demands on longer runs are gone through in the same order. -/
theorem spanning_eq (order : Reordered Demand.span ds ds') :
    Sizing.spanning ⟨ds'⟩ = Sizing.spanning ⟨ds⟩ := by
  rw [Sizing.spanning, Sizing.spanning, order.count_eq]
  refine List.flatMap_congr fun span hspan => order.kept span ?_
  exact (List.mem_range'_1.mp hspan).1

theorem minSizes_eq (order : Reordered Demand.span ds ds') :
    Sizing.minSizes ⟨ds'⟩ = Sizing.minSizes ⟨ds⟩ := by
  have hsingle : Sizing.singleSize ⟨ds'⟩ = Sizing.singleSize ⟨ds⟩ := funext order.singleSize_eq
  rw [Sizing.minSizes, Sizing.minSizes, order.spanning_eq, order.count_eq, hsingle]

-- among equally long runs of two tracks, the order matters
example : Sizing.minSizes ⟨[⟨0, 2, 10⟩, ⟨1, 2, 10⟩]⟩ = .ok [0, 10, 0] ∧
    Sizing.minSizes ⟨[⟨1, 2, 10⟩, ⟨0, 2, 10⟩]⟩ = .ok [0, 10, 10] := ⟨rfl, rfl⟩

theorem preferred_eq (order : Reordered Demand.span ds ds') :
    Sizing.preferred ⟨ds'⟩ = Sizing.preferred ⟨ds⟩ := by
  rw [Sizing.preferred, Sizing.preferred, order.minSizes_eq]

theorem edges_eq (order : Reordered Demand.span ds ds') (total : Int) (resizable : IndexSet) :
    Sizing.edges ⟨ds'⟩ total resizable = Sizing.edges ⟨ds⟩ total resizable := by
  rw [Sizing.edges, Sizing.edges, order.minSizes_eq, order.count_eq]

end Reordered

end FormGrid
