import FormGrid.Checked

/-!
# Pixel arithmetic

Positions and extents are whole numbers of pixels between `Pixel.least` and `Pixel.greatest`. They
are carried as integers, and an operation first computes the exact result and then keeps it only
if it is representable. The lemmas at the end of each section say just that, so a proof about a
computation that succeeded is a proof about plain integers.
-/

namespace FormGrid.Pixel

/-- The least representable number of pixels. -/
def least : Int := -2147483648

/-- The greatest representable number of pixels. -/
def greatest : Int := 2147483647

/-- The exact number can be kept as a number of pixels. -/
def Representable (n : Int) : Prop := least ≤ n ∧ n ≤ greatest

instance (n : Int) : Decidable (Representable n) := inferInstanceAs (Decidable (_ ∧ _))

/-- Keeps an exact result that is representable. -/
def check (cause : Overflow) (exact : Int) : Checked Int :=
  if Representable exact then .ok exact else .error cause

/-- The sum of two numbers of pixels. -/
def add (a b : Int) : Checked Int := check .addition (a + b)

/-- The difference of two numbers of pixels. -/
def sub (a b : Int) : Checked Int := check .subtraction (a - b)

/-- The magnitude of a number of pixels; the least number has none. -/
def abs (a : Int) : Checked Int := check .negation a.natAbs

/-- The sum of a list, taken from the left: a partial sum that does not fit ends it. -/
def sum (ns : List Int) : Checked Int := ns.foldlM add 0

/-! ## Exact results -/

theorem check_eq_ok_iff {cause : Overflow} {exact n : Int} :
    check cause exact = .ok n ↔ n = exact ∧ Representable exact := by
  unfold check
  split
  case isTrue h => simp [h, eq_comm]
  case isFalse h => simp [h]

theorem check_eq_error_iff {cause o : Overflow} {exact : Int} :
    check cause exact = .error o ↔ o = cause ∧ ¬ Representable exact := by
  unfold check
  split
  case isTrue h => simp [h]
  case isFalse h => simp [h, eq_comm]

theorem add_eq_ok_iff {a b n : Int} : add a b = .ok n ↔ n = a + b ∧ Representable (a + b) :=
  check_eq_ok_iff

theorem sub_eq_ok_iff {a b n : Int} : sub a b = .ok n ↔ n = a - b ∧ Representable (a - b) :=
  check_eq_ok_iff

theorem abs_eq_ok_iff {a n : Int} :
    abs a = .ok n ↔ n = a.natAbs ∧ Representable a.natAbs :=
  check_eq_ok_iff

end FormGrid.Pixel
