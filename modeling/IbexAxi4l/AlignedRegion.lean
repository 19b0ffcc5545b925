import Mathlib.Data.Nat.Bitwise

set_option autoImplicit false

/-!
# Aligned regions of an address space

A region whose size is a power of two and whose base is a multiple of it is decoded by
comparing the address bits that the mask `~(size-1)` leaves.
-/
namespace IbexAxi4l.AlignedRegion

variable {w : ℕ}

theorem and_not_eq_zero_iff (x mask : BitVec w) : x &&& ~~~mask = 0 ↔ x &&& mask = x := by
  have hbits (i : ℕ) (hi : i < w) : (x &&& ~~~mask).getLsbD i = false ↔
      (x &&& mask).getLsbD i = x.getLsbD i := by
    rw [BitVec.getLsbD_and, BitVec.getLsbD_and, BitVec.getLsbD_not]
    cases x.getLsbD i <;> cases mask.getLsbD i <;> simp [hi]
  constructor
  · intro h
    apply BitVec.eq_of_getLsbD_eq
    intro i hi
    apply (hbits i hi).1
    rw [h]
    exact BitVec.getLsbD_zero
  · intro h
    apply BitVec.eq_of_getLsbD_eq
    intro i hi
    refine ((hbits i hi).2 ?_).trans BitVec.getLsbD_zero.symm
    rw [h]

theorem toNat_sub_one {size : BitVec w} {k : ℕ} (hsize : size.toNat = 2 ^ k) :
    (size - 1).toNat = 2 ^ k - 1 := by
  have hpos := Nat.two_pow_pos k
  have hlt := size.isLt
  have hw : w ≠ 0 := by
    rintro rfl
    omega
  have hone : (1 : BitVec w).toNat = 1 := by
    have hmod : 1 < 2 ^ w := Nat.one_lt_two_pow hw
    change 1 % 2 ^ w = 1
    exact Nat.mod_eq_of_lt hmod
  rw [BitVec.toNat_sub_of_le (by rw [BitVec.le_def, hone]; omega), hone, hsize]

theorem and_mask_eq_zero_iff (x : BitVec w) {size : BitVec w} {k : ℕ}
    (hsize : size.toNat = 2 ^ k) : x &&& ~~~(size - 1) = 0 ↔ x.toNat < 2 ^ k := by
  rw [and_not_eq_zero_iff, ← BitVec.toNat_inj, BitVec.toNat_and, toNat_sub_one hsize,
    Nat.and_two_pow_sub_one_eq_mod]
  constructor
  · intro h
    rw [← h]
    exact Nat.mod_lt _ (Nat.two_pow_pos k)
  · exact Nat.mod_eq_of_lt

theorem xor_lt_two_pow_iff (a b k : ℕ) : a ^^^ b < 2 ^ k ↔ a / 2 ^ k = b / 2 ^ k := by
  rw [← Nat.div_eq_zero_iff_lt (Nat.two_pow_pos k), Nat.xor_div_two_pow, Nat.xor_eq_zero_iff]

theorem decode_iff {a base size : BitVec w} {k : ℕ} (hsize : size.toNat = 2 ^ k)
    (hbase : size.toNat ∣ base.toNat) : (a ^^^ base) &&& ~~~(size - 1) = 0 ↔
      base.toNat ≤ a.toNat ∧ a.toNat < base.toNat + size.toNat := by
  have hpos := Nat.two_pow_pos k
  rcases hbase with ⟨m, hm⟩
  rw [and_mask_eq_zero_iff _ hsize, BitVec.toNat_xor, xor_lt_two_pow_iff, hm, hsize,
    Nat.mul_div_cancel_left _ hpos, Nat.div_eq_iff hpos, Nat.mul_comm m]
  omega

end IbexAxi4l.AlignedRegion
