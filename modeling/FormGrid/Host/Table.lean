import FormGrid.Host

/-!
# Hosts given by a table

A table lists components by key. A component has a fixed size and a rule for its baseline: there
is none, it lies at a fixed distance, or it moves in proportion to the size that the component is
given. A key without an entry stands for a component that is invisible, has no extent and no
baseline.
-/

namespace FormGrid

/-- Where the baseline of a component lies. -/
inductive BaselineRule where
  | none
  | fixed (offset : Int)
  /-- At `base`, plus the width divided by one number and the height divided by another. -/
  | proportional (base widthDivisor heightDivisor : Int)
  deriving DecidableEq, Repr

namespace BaselineRule

/-- An extent divided, rounded toward zero; nothing, if the divisor is zero. -/
def part (extent divisor : Int) : Int := if divisor = 0 then 0 else extent.tdiv divisor

/-- The baseline at a size. A result that is no number of pixels is replaced by the nearest one. -/
def offset (size : Size) : BaselineRule → Option Int
  | none => Option.none
  | fixed offset => some offset
  | proportional base widthDivisor heightDivisor =>
    let exact := base + part size.x widthDivisor + part size.y heightDivisor
    some (max Pixel.least (min Pixel.greatest exact))

end BaselineRule

/-- A component of a table. -/
structure Component where
  size : Size
  visible : Bool
  baseline : BaselineRule
  deriving DecidableEq, Repr

/-- Components by key; the first entry of a key counts. -/
abbrev ComponentTable (K : Type) : Type := List (K × Component)

namespace ComponentTable

variable {K : Type} [DecidableEq K]

/-- The component with this key. -/
def find? (t : ComponentTable K) (key : K) : Option Component := t.lookup key

/-- The table without the component with this key. -/
def remove (t : ComponentTable K) (key : K) : ComponentTable K := t.filter (·.1 ≠ key)

/-- The table with this component for the key, whatever it had before. -/
def set (t : ComponentTable K) (key : K) (c : Component) : ComponentTable K :=
  (key, c) :: t.remove key

/-- The host that answers from the table. -/
def host (t : ComponentTable K) : Host K where
  preferredSize key := ((t.find? key).map Component.size).getD ⟨0, 0⟩
  isVisible key := ((t.find? key).map Component.visible).getD false
  baseline key size := (t.find? key).bind (·.baseline.offset size)

@[simp] theorem find?_set_self (t : ComponentTable K) (key : K) (c : Component) :
    (t.set key c).find? key = some c := by
  simp [find?, set]

/-- Another key keeps its component when one is removed. -/
theorem find?_remove_of_ne (t : ComponentTable K) {key other : K} (h : other ≠ key) :
    (t.remove key).find? other = t.find? other := by
  unfold find? remove
  induction t with
  | nil => rfl
  | cons entry t ih =>
    obtain ⟨k, c⟩ := entry
    by_cases hkey : k = key
    · have hother : (other == k) = false := by simpa [hkey] using h
      rw [List.lookup_cons, hother, ← ih]
      simp [hkey]
    · rw [List.filter_cons_of_pos (by simpa using hkey), List.lookup_cons, List.lookup_cons, ih]

/-- Another key keeps its component when one is set. -/
theorem find?_set_of_ne (t : ComponentTable K) {key other : K} (c : Component) (h : other ≠ key) :
    (t.set key c).find? other = t.find? other := by
  have hother : (other == key) = false := by simpa using h
  rw [← find?_remove_of_ne t h]
  simp [find?, set, List.lookup_cons, hother]

end ComponentTable

end FormGrid
