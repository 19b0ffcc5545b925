import Mathlib.Algebra.CharP.Two
import Mathlib.Data.Fintype.EquivFin
import Mathlib.Tactic.Ring
import IbexAxi4l.XorLinear

set_option autoImplicit false

/-!
# The field with 256 elements

Bytes as polynomials over the field with two elements, modulo `x^8 + x^4 + x^3 + x + 1`. The
laws of the product are checked on the powers of `x` and extended to all bytes by linearity.
-/
namespace IbexAxi4l
open XorLinear

/-- A byte as an element of the field. In this ring the numeral `2` is `0`, so constants are
written as bytes. -/
@[ext] structure Gf256 where
  byte : BitVec 8
  deriving DecidableEq

namespace Gf256

/-- Multiplication by `x`. -/
def xtime (b : BitVec 8) : BitVec 8 := (b <<< 1) ^^^ if b.getLsbD 7 then 0x1b else 0

/-- The Horner scheme over the bits of `a`, the highest `k` bits done. -/
def horner (a b : BitVec 8) : ℕ → BitVec 8
  | 0 => 0
  | k + 1 => xtime (horner a b k) ^^^ if a.getLsbD (7 - k) then b else 0

def times (a b : BitVec 8) : BitVec 8 := horner a b 8

@[simp] theorem xtime_zero : xtime 0#8 = 0#8 := rfl

theorem xtime_linear : Linear xtime := (Linear.shiftLeft 1).xor (Linear.bit 7 0x1b)

theorem horner_right (a : BitVec 8) (k : ℕ) : Linear (fun b => horner a b k) := by
  induction k with
  | zero => exact fun _ _ => (BitVec.xor_self).symm
  | succ k ih => exact (xtime_linear.comp ih).xor (Linear.id.gate (a.getLsbD (7 - k)))

theorem horner_left (b : BitVec 8) (k : ℕ) : Linear (fun a => horner a b k) := by
  induction k with
  | zero => exact fun _ _ => (BitVec.xor_self).symm
  | succ k ih => exact (xtime_linear.comp ih).xor (Linear.bit (7 - k) b)

theorem times_right (a : BitVec 8) : Linear (fun b => times a b) := horner_right a 8

theorem times_left (b : BitVec 8) : Linear (fun a => times a b) := horner_left b 8

/-- The byte `x^i`. -/
abbrev unit (i : ℕ) : BitVec 8 := BitVec.twoPow 8 i

theorem units_checked : (∀ i < 8, times 1 (unit i) = unit i) ∧
    (∀ i < 8, ∀ j < 8, times (unit i) (unit j) = times (unit j) (unit i)) ∧
    ∀ i < 8, ∀ j < 8, ∀ k < 8,
      times (times (unit i) (unit j)) (unit k) = times (unit i) (times (unit j) (unit k)) := by
  decide +kernel

theorem times_comm (a b : BitVec 8) : times a b = times b a := by
  refine (times_left b).ext (times_right b) (fun i hi => ?_) a
  exact (times_right (unit i)).ext (times_left (unit i)) (units_checked.2.1 i hi) b

theorem times_assoc (a b c : BitVec 8) : times (times a b) c = times a (times b c) := by
  refine ((times_left c).comp (times_left b)).ext (times_left (times b c)) (fun i hi => ?_) a
  refine ((times_left c).comp (times_right (unit i))).ext
    ((times_right (unit i)).comp (times_left c)) (fun j hj => ?_) b
  exact (times_right (times (unit i) (unit j))).ext
    ((times_right (unit i)).comp (times_right (unit j))) (units_checked.2.2 i hi j hj) c

theorem one_times (a : BitVec 8) : times 1 a = a := (times_right 1).ext Linear.id units_checked.1 a

instance : Finite Gf256 := Finite.of_injective (fun a => a.byte.toFin) (fun _ _ h =>
  Gf256.ext (BitVec.eq_of_toFin_eq h))

instance : Zero Gf256 := ⟨⟨0⟩⟩
instance : One Gf256 := ⟨⟨1⟩⟩
instance : Add Gf256 := ⟨fun a b => ⟨a.byte ^^^ b.byte⟩⟩
instance : Neg Gf256 := ⟨fun a => a⟩
instance : Mul Gf256 := ⟨fun a b => ⟨times a.byte b.byte⟩⟩

instance : CommRing Gf256 where
  add_assoc a b c := Gf256.ext (BitVec.xor_assoc a.byte b.byte c.byte)
  zero_add a := Gf256.ext BitVec.zero_xor
  add_zero a := Gf256.ext BitVec.xor_zero
  add_comm a b := Gf256.ext (BitVec.xor_comm a.byte b.byte)
  neg_add_cancel a := Gf256.ext BitVec.xor_self
  nsmul := nsmulRec
  zsmul := zsmulRec
  left_distrib a b c := Gf256.ext (times_right a.byte b.byte c.byte)
  right_distrib a b c := Gf256.ext (times_left c.byte a.byte b.byte)
  zero_mul a := Gf256.ext (times_left a.byte).zero
  mul_zero a := Gf256.ext (times_right a.byte).zero
  mul_assoc a b c := Gf256.ext (times_assoc a.byte b.byte c.byte)
  one_mul a := Gf256.ext (one_times a.byte)
  mul_one a := Gf256.ext ((times_comm a.byte 1).trans (one_times a.byte))
  mul_comm a b := Gf256.ext (times_comm a.byte b.byte)

@[simp] theorem byte_add (a b : Gf256) : (a + b).byte = a.byte ^^^ b.byte := rfl

@[simp] theorem byte_zero : (0 : Gf256).byte = 0 := rfl

@[simp] theorem byte_mul (a b : Gf256) : (a * b).byte = times a.byte b.byte := rfl

instance : CharP Gf256 2 := by
  refine CharTwo.of_one_ne_zero_of_two_eq_zero (by decide) ?_
  rw [← one_add_one_eq_two]
  exact Gf256.ext BitVec.xor_self

def square (a : Gf256) : Gf256 := a * a

theorem square_linear : Linear (fun b => (square ⟨b⟩).byte) := by
  intro x y
  have hsum := CharTwo.add_mul_self (⟨x⟩ : Gf256) ⟨y⟩
  exact congrArg byte hsum

theorem units_square : ∀ i < 8, (square^[8] ⟨unit i⟩).byte = unit i := by decide +kernel

theorem square_iterate_linear (n : ℕ) : Linear (fun b => (square^[n] ⟨b⟩).byte) := by
  induction n with
  | zero => exact Linear.id
  | succ n ih => exact ih.comp square_linear

theorem square_iterate (n : ℕ) (a : Gf256) : square^[n] a = a ^ 2 ^ n := by
  induction n generalizing a with
  | zero => exact (pow_one a).symm
  | succ n ih =>
    rw [Function.iterate_succ_apply, ih, square, ← pow_two, ← pow_mul, pow_succ']

theorem pow_256 (a : Gf256) : a ^ 256 = a := by
  rw [show 256 = 2 ^ 8 from rfl, ← square_iterate]
  exact Gf256.ext ((square_iterate_linear 8).ext Linear.id units_square a.byte)

/-- The inverse, or zero for zero. -/
def inverse (a : Gf256) : Gf256 := a ^ 254

theorem inverse_zero : inverse 0 = 0 := zero_pow (by decide)

theorem inverse_unique {a b : Gf256} (h : a * b = 1) : inverse a = b := by
  calc
    inverse a = a ^ 254 * (a * b) * (a * b) := by rw [h, mul_one, mul_one, inverse]
    _ = a ^ 256 * b * b := by ring
    _ = a * b * b := by rw [pow_256]
    _ = b := by rw [h, one_mul]

theorem inverse_inverse (a : Gf256) : inverse (inverse a) = a := by
  unfold inverse
  calc
    (a ^ 254) ^ 254 = (a ^ 256) ^ 252 * a ^ 4 := by rw [← pow_mul, ← pow_mul, ← pow_add]
    _ = a ^ 252 * a ^ 4 := by rw [pow_256]
    _ = a ^ 256 := (pow_add a 252 4).symm
    _ = a := pow_256 a

end Gf256

end IbexAxi4l
