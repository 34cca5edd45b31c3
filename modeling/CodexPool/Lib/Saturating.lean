import Mathlib.Order.Basic
import Mathlib.Order.Lattice
import Mathlib.Order.MinMax

/-!
# Bounded integers with saturating arithmetic

`Bounded lo hi` is the type of the integers between `lo` and `hi`: the value
carries the proofs of its own bounds, so that a sum which does not fit cannot
be written down. The saturating operations clamp the exact result to the
range. They need no assumption `lo ≤ hi`, which every element provides.

`I64` is the instance with the bounds of a signed 64-bit machine integer.
-/

namespace Saturating

/-- The nearest integer between `lo` and `hi`. -/
def clamp (lo hi x : Int) : Int := max lo (min hi x)

theorem clamp_of_mem {lo hi x : Int} (h₁ : lo ≤ x) (h₂ : x ≤ hi) :
    clamp lo hi x = x := by
  unfold clamp
  omega

theorem le_clamp (lo hi x : Int) : lo ≤ clamp lo hi x := by
  unfold clamp
  omega

theorem clamp_le {lo hi : Int} (h : lo ≤ hi) (x : Int) : clamp lo hi x ≤ hi := by
  unfold clamp
  omega

/-- The integers between `lo` and `hi`. -/
@[ext] structure Bounded (lo hi : Int) where
  val : Int
  lo_le : lo ≤ val
  le_hi : val ≤ hi
deriving DecidableEq

namespace Bounded

variable {lo hi : Int}

theorem val_injective : Function.Injective (val : Bounded lo hi → Int) :=
  fun _ _ h => Bounded.ext h

theorem bounds_le (a : Bounded lo hi) : lo ≤ hi := le_trans a.lo_le a.le_hi

instance : LinearOrder (Bounded lo hi) :=
  LinearOrder.lift' val val_injective

theorem le_iff_val (a b : Bounded lo hi) : a ≤ b ↔ a.val ≤ b.val := Iff.rfl

theorem eq_iff_val (a b : Bounded lo hi) : a = b ↔ a.val = b.val :=
  ⟨fun h => by rw [h], fun h => Bounded.ext h⟩

theorem val_max (a b : Bounded lo hi) : (max a b).val = max a.val b.val := by
  rcases le_total a b with h | h
  · have hv : a.val ≤ b.val := h
    rw [max_eq_right h, max_eq_right hv]
  · have hv : b.val ≤ a.val := h
    rw [max_eq_left h, max_eq_left hv]

/-- The element nearest to an integer, in a range that is not empty. -/
def nearest (h : lo ≤ hi) (x : Int) : Bounded lo hi :=
  ⟨clamp lo hi x, le_clamp lo hi x, clamp_le h x⟩

/-- Saturating addition. -/
def satAdd (a b : Bounded lo hi) : Bounded lo hi :=
  nearest a.bounds_le (a.val + b.val)

/-- Saturating subtraction. -/
def satSub (a b : Bounded lo hi) : Bounded lo hi :=
  nearest a.bounds_le (a.val - b.val)

/-- Saturating multiplication. -/
def satMul (a b : Bounded lo hi) : Bounded lo hi :=
  nearest a.bounds_le (a.val * b.val)

theorem val_satAdd (a b : Bounded lo hi) :
    (satAdd a b).val = clamp lo hi (a.val + b.val) := rfl

theorem val_satSub (a b : Bounded lo hi) :
    (satSub a b).val = clamp lo hi (a.val - b.val) := rfl

end Bounded

/-- Signed 128-bit integers. -/
abbrev I128 :=
  Bounded (-170141183460469231731687303715884105728)
    170141183460469231731687303715884105727

/-- Signed 64-bit integers. -/
abbrev I64 := Bounded (-9223372036854775808) 9223372036854775807

namespace I64

/-- The nearest 64-bit integer. -/
def ofInt (x : Int) : I64 := Bounded.nearest (by decide) x

theorem val_ofInt (x : Int) :
    (ofInt x).val = clamp (-9223372036854775808) 9223372036854775807 x := rfl

theorem val_ofInt_of_mem {x : Int} (h₁ : -9223372036854775808 ≤ x)
    (h₂ : x ≤ 9223372036854775807) : (ofInt x).val = x := by
  rw [val_ofInt, clamp_of_mem h₁ h₂]

instance (n : ℕ) : OfNat I64 n := ⟨ofInt n⟩

def toI128 (x : I64) : I128 :=
  ⟨x.val, by have := x.lo_le; omega, by have := x.le_hi; omega⟩

@[simp] theorem val_zero : (0 : I64).val = 0 := by decide

/-- Negation in two's complement: the least integer is its own negative. -/
instance : Neg I64 :=
  ⟨fun x => if x.val = -9223372036854775808 then x else ofInt (-x.val)⟩

theorem val_neg {x : I64} (h : 0 ≤ x.val) : (-x).val = -x.val := by
  have hx := x.le_hi
  have hne : x.val ≠ -9223372036854775808 := by omega
  change (if x.val = -9223372036854775808 then x else ofInt (-x.val)).val = -x.val
  rw [if_neg hne, val_ofInt_of_mem (by omega) (by omega)]

instance : Inhabited I64 := ⟨0⟩

theorem val_satAdd_nonneg {a b : I64} (ha : 0 ≤ a.val) (hb : 0 ≤ b.val) :
    0 ≤ (a.satAdd b).val := by
  rw [Bounded.val_satAdd, clamp]
  omega

theorem val_satSub_of_nonneg {a b : I64} (ha : 0 ≤ a.val) (hb : 0 ≤ b.val) :
    (a.satSub b).val = a.val - b.val := by
  have ha' := a.le_hi
  have hb' := b.le_hi
  rw [Bounded.val_satSub, clamp_of_mem (by omega) (by omega)]

theorem val_satSub_max_zero {a b : I64} (ha : 0 ≤ a.val) (hb : 0 ≤ b.val) :
    (max (a.satSub b) 0).val = max (a.val - b.val) 0 := by
  rw [Bounded.val_max, val_satSub_of_nonneg ha hb, val_zero]

end I64

/-- Unsigned 64-bit integers. -/
abbrev U64 := Bounded 0 18446744073709551615

instance (n : ℕ) : OfNat U64 n := ⟨Bounded.nearest (by decide) n⟩

end Saturating
