import Mathlib.Logic.Function.Iterate
import IbexAxi4l.XorLinear

set_option autoImplicit false

/-!
# Cyclic redundancy checks, bit by bit

A register of `w` bits that is shifted to the right and takes a bit of the message at its
lowest place, with the feedback `poly`. A burst of at most `w` wrong bits always changes what
the register holds at the end.
-/
namespace IbexAxi4l.CrcRegister
open XorLinear

variable {w : ℕ}

def shift (poly s : BitVec w) : BitVec w := (s >>> 1) ^^^ if s.getLsbD 0 then poly else 0

def bit (b : Bool) : BitVec w := if b then 1#w else 0

def feed (poly s : BitVec w) (b : Bool) : BitVec w := shift poly (s ^^^ bit b)

def run (poly : BitVec w) : BitVec w → List Bool → BitVec w := List.foldl (feed poly)

/-- The first bit of the list is the lowest one. -/
def ofBits : List Bool → BitVec w
  | [] => 0
  | b :: bs => bit b ^^^ (ofBits bs <<< 1)

@[simp] theorem run_nil (poly s : BitVec w) : run poly s [] = s := rfl

@[simp] theorem run_cons (poly s : BitVec w) (b : Bool) (bs : List Bool) :
    run poly s (b :: bs) = run poly (feed poly s b) bs := rfl

theorem run_append (poly s : BitVec w) (bs cs : List Bool) :
    run poly s (bs ++ cs) = run poly (run poly s bs) cs := List.foldl_append

theorem shift_linear (poly : BitVec w) : Linear (shift poly) :=
  (Linear.ushiftRight 1).xor (Linear.bit 0 poly)

theorem shifts_linear (poly : BitVec w) (k : ℕ) : Linear ((shift poly)^[k]) := by
  induction k with
  | zero => exact Linear.id
  | succ k ih => exact ih.comp (shift_linear poly)

theorem shifts_high (poly : BitVec w) (k : ℕ) {x : BitVec w}
    (hx : ∀ i < k, x.getLsbD i = false) : (shift poly)^[k] x = x >>> k := by
  induction k with
  | zero => simp
  | succ k ih =>
    have hlow : (x >>> k).getLsbD 0 = false := by simpa using hx k (Nat.lt_succ_self k)
    rw [Function.iterate_succ_apply', ih (fun i hi => hx i (by omega)), shift, hlow]
    simp [BitVec.shiftRight_add]

theorem getLsbD_ofBits (bs : List Bool) {i : ℕ} (hi : i < w) :
    (ofBits bs : BitVec w).getLsbD i = bs.getD i false := by
  induction bs generalizing i with
  | nil => simp [ofBits]
  | cons b bs ih =>
    change (bit b ^^^ (ofBits bs <<< 1)).getLsbD i = _
    rw [BitVec.getLsbD_xor, BitVec.getLsbD_shiftLeft]
    cases i with
    | zero => cases b <;> simp [bit, hi]
    | succ i =>
      rw [Nat.add_sub_cancel, ih (by omega)]
      cases b <;> simp [bit, hi]

theorem shift_double (poly : BitVec w) {x : BitVec w} (hx : x.getLsbD (w - 1) = false) :
    shift poly (x <<< 1) = x := by
  apply BitVec.eq_of_getLsbD_eq
  intro i hi
  have hlow : (x <<< 1).getLsbD 0 = false := by simp
  rw [shift, hlow]
  simp only [Bool.false_eq_true, if_false, BitVec.getLsbD_xor, BitVec.getLsbD_ushiftRight,
    BitVec.getLsbD_shiftLeft]
  by_cases hlast : i = w - 1
  · rw [hlast, hx]
    simp
    omega
  · have hnext : 1 + i < w := by omega
    simp [hnext]

/-- Up to `w` bits may be added to the register at once, before it is shifted. -/
theorem run_eq_shifts (poly s : BitVec w) (bs : List Bool) (hlength : bs.length ≤ w) :
    run poly s bs = (shift poly)^[bs.length] (s ^^^ ofBits bs) := by
  induction bs generalizing s with
  | nil => simp [ofBits]
  | cons b bs ih =>
    rw [List.length_cons] at hlength
    have htop : (ofBits bs : BitVec w).getLsbD (w - 1) = false := by
      rw [getLsbD_ofBits bs (by omega)]
      simp [List.getElem?_eq_none (show bs.length ≤ w - 1 by omega)]
    calc
      run poly s (b :: bs) = (shift poly)^[bs.length] (feed poly s b ^^^ ofBits bs) :=
        ih _ (by omega)
      _ = (shift poly)^[bs.length] (shift poly (s ^^^ bit b) ^^^ shift poly (ofBits bs <<< 1)) := by
        rw [shift_double poly htop, feed]
      _ = (shift poly)^[bs.length + 1] (s ^^^ ofBits (b :: bs)) := by
        rw [← shift_linear, Function.iterate_succ_apply, ofBits, BitVec.xor_assoc]

theorem ofBits_injective {bs cs : List Bool} (hlength : bs.length = cs.length) (hle : bs.length ≤ w)
    (h : (ofBits bs : BitVec w) = ofBits cs) : bs = cs := by
  refine List.ext_getElem hlength (fun i hi hi' => ?_)
  have hbit := congrArg (fun x => x.getLsbD i) h
  simp only [getLsbD_ofBits _ (show i < w by omega)] at hbit
  simpa [List.getD_eq_getElem?_getD, hi, hi'] using hbit

section Injective
variable {poly : BitVec w} (hpoly : poly.msb = true)
include hpoly

theorem shift_injective : Function.Injective (shift poly) := by
  intro x y h
  have hdiff : shift poly (x ^^^ y) = 0 := by
    rw [shift_linear, h, BitVec.xor_self]
    rfl
  have htop : poly.getLsbD (w - 1) = true := (BitVec.msb_eq_getLsbD_last poly).symm.trans hpoly
  have hw : w - 1 < w := by
    by_contra hge
    rw [BitVec.getLsbD_of_ge _ _ (by omega)] at htop
    cases htop
  -- the feedback would be seen at the top
  have hlow : (x ^^^ y).getLsbD 0 = false := by
    by_contra hset
    have hbit := congrArg (fun s => s.getLsbD (w - 1)) hdiff
    simp only [shift, Bool.not_eq_false] at hbit hset
    rw [hset] at hbit
    simp [htop, BitVec.getLsbD_of_ge _ (1 + (w - 1)) (show w ≤ 1 + (w - 1) by omega)] at hbit
  have hzero : x ^^^ y = 0 := by
    apply BitVec.eq_of_getLsbD_eq
    intro i hi
    cases i with
    | zero => simpa using hlow
    | succ i =>
      have hbit := congrArg (fun s => s.getLsbD i) hdiff
      simp only [shift, hlow] at hbit
      simpa [Nat.add_comm] using hbit
  exact BitVec.xor_eq_zero_iff.1 hzero

theorem run_injective (bs : List Bool) : Function.Injective (fun s => run poly s bs) := by
  induction bs with
  | nil => exact fun _ _ h => h
  | cons b bs ih =>
    intro s s' h
    have hfeed : s ^^^ bit b = s' ^^^ bit b := shift_injective hpoly (ih h)
    simpa using congrArg (· ^^^ bit b) hfeed

/-- Two messages that differ in at most `w` bits next to each other, in any place. -/
theorem burst_detected (s : BitVec w) {before after u v : List Bool} (hlength : u.length = v.length)
    (hburst : u.length ≤ w) (hne : u ≠ v) :
    run poly s (before ++ u ++ after) ≠ run poly s (before ++ v ++ after) := by
  intro h
  rw [run_append, run_append, run_append, run_append] at h
  have hstate := run_injective hpoly after h
  rw [run_eq_shifts poly _ u hburst, run_eq_shifts poly _ v (by omega), hlength] at hstate
  have hword := Function.Injective.iterate (shift_injective hpoly) v.length hstate
  have hsame : (ofBits u : BitVec w) = ofBits v := by
    simpa [← BitVec.xor_assoc] using congrArg (run poly s before ^^^ ·) hword
  exact hne (ofBits_injective hlength hburst hsame)

end Injective

end IbexAxi4l.CrcRegister
