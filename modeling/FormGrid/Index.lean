import FormGrid.Checked

/-!
# Track indices

The tracks of a grid, its columns and its rows, are numbered from zero below `Index.limit`.
Indices are natural numbers; only a sum of two of them can leave the range, and `Index.add`
refuses that one.

`IndexSet` is a finite set of indices kept in ascending order, which is the order in which the
tracks of the set are visited. Its main statements are the membership laws of `insert`, `erase`
and `ofList`.
-/

namespace FormGrid

namespace Index

/-- No index reaches this number. -/
def limit : Nat := 18446744073709551616

/-- The sum of two indices. -/
def add (a b : Nat) : Checked Nat := if a + b < limit then .ok (a + b) else .error .addition

theorem add_eq_ok_iff {a b n : Nat} : add a b = .ok n ↔ n = a + b ∧ a + b < limit := by
  unfold add
  split
  case isTrue h => simp [h, eq_comm]
  case isFalse h => simp [h]

end Index

/-! ## Sets of indices -/

/-- A finite set of indices, listed in ascending order. -/
structure IndexSet where
  toList : List Nat
  ascending : toList.Pairwise (· < ·)
  deriving DecidableEq

namespace IndexSet

instance : Membership Nat IndexSet := ⟨fun s n => n ∈ s.toList⟩

@[simp] theorem mem_toList {s : IndexSet} {n : Nat} : n ∈ s.toList ↔ n ∈ s := Iff.rfl

instance (n : Nat) (s : IndexSet) : Decidable (n ∈ s) := inferInstanceAs (Decidable (n ∈ s.toList))

/-- The set without indices. -/
def empty : IndexSet := ⟨[], .nil⟩

instance : Inhabited IndexSet := ⟨empty⟩

/-- Puts an index before the first greater one of an ascending list, unless it is there. -/
def insertAscending (n : Nat) : List Nat → List Nat
  | [] => [n]
  | m :: ms =>
    if n < m then n :: m :: ms
    else if n = m then m :: ms
    else m :: insertAscending n ms

theorem mem_insertAscending {n m : Nat} {ms : List Nat} :
    m ∈ insertAscending n ms ↔ m = n ∨ m ∈ ms := by
  induction ms with
  | nil => simp [insertAscending]
  | cons k ms ih => grind [insertAscending]

theorem pairwise_insertAscending {n : Nat} {ms : List Nat} (h : ms.Pairwise (· < ·)) :
    (insertAscending n ms).Pairwise (· < ·) := by
  induction ms with
  | nil => simp [insertAscending]
  | cons k ms ih =>
    obtain ⟨hk, hms⟩ := List.pairwise_cons.mp h
    unfold insertAscending
    split
    case isTrue hlt => exact List.pairwise_cons.mpr ⟨by grind, h⟩
    case isFalse hle =>
      split
      case isTrue => exact h
      case isFalse hne =>
        refine List.pairwise_cons.mpr ⟨fun m hm => ?_, ih hms⟩
        rcases mem_insertAscending.mp hm with rfl | hm
        · omega
        · exact hk m hm

/-- The set with one more index. -/
def insert (s : IndexSet) (n : Nat) : IndexSet :=
  ⟨insertAscending n s.toList, pairwise_insertAscending s.ascending⟩

/-- The set with one index taken out. -/
def erase (s : IndexSet) (n : Nat) : IndexSet :=
  ⟨s.toList.filter (· ≠ n), s.ascending.filter _⟩

/-- The set of the listed indices; their order and repetitions mean nothing. -/
def ofList (ns : List Nat) : IndexSet := ns.foldl insert empty

/-- The members below a number of tracks, in ascending order. -/
def below (s : IndexSet) (count : Nat) : List Nat := s.toList.filter (· < count)

@[simp] theorem not_mem_empty {n : Nat} : n ∉ empty := List.not_mem_nil

@[simp] theorem mem_insert {s : IndexSet} {n m : Nat} : m ∈ s.insert n ↔ m = n ∨ m ∈ s :=
  mem_insertAscending

@[simp] theorem mem_erase {s : IndexSet} {n m : Nat} : m ∈ s.erase n ↔ m ∈ s ∧ m ≠ n := by
  simp [erase, ← mem_toList]

@[simp] theorem mem_below {s : IndexSet} {count n : Nat} :
    n ∈ s.below count ↔ n ∈ s ∧ n < count := by
  simp [below]

theorem mem_foldl_insert {ns : List Nat} {s : IndexSet} {m : Nat} :
    m ∈ ns.foldl insert s ↔ m ∈ s ∨ m ∈ ns := by
  induction ns generalizing s with
  | nil => simp
  | cons n ns ih => grind [mem_insert]

@[simp] theorem mem_ofList {ns : List Nat} {m : Nat} : m ∈ ofList ns ↔ m ∈ ns := by
  simp [ofList, mem_foldl_insert]

end IndexSet

end FormGrid
