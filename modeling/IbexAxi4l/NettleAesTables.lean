import Mathlib.Data.List.GetD
import IbexAxi4l.NettleAes
import IbexAxi4l.Rijndael

set_option autoImplicit false

/-!
# What the tables of the AES code hold

An entry is a substituted byte, mixed as the byte of its row in the column. The first table
of each direction is checked entry by entry, the other three are its rotations.
-/
namespace IbexAxi4l.NettleAes
open ByteLanes Gf256 Rijndael XorLinear

def column (w : Word) : Column := fun r => ⟨byte w r⟩

theorem byte_xor (x y : Word) (b : ℕ) : byte (x ^^^ y) b = byte x b ^^^ byte y b :=
  Linear.extractLsb' (8 * b) 8 x y

theorem column_xor (x y : Word) : column (x ^^^ y) = column x + column y := by
  funext r
  exact Gf256.ext (byte_xor x y r)

theorem column_injective : Function.Injective column := by
  intro x y h
  apply @eq_of_byte 4
  intro b hb
  exact congrArg Gf256.byte (congrFun h ⟨b, hb⟩)

theorem byte_setWidth (x : Byte) (i b : ℕ) (hi : i < 4) (hb : b < 4) :
    byte (x.setWidth 32 <<< (8 * i)) b = if b = i then x else 0 := by
  apply BitVec.eq_of_getLsbD_eq
  intro k hk
  unfold ByteLanes.byte
  rw [BitVec.getLsbD_extractLsb', BitVec.getLsbD_shiftLeft, BitVec.getLsbD_setWidth]
  by_cases hbi : b = i
  · subst hbi
    have hlt : 8 * b + k < 32 := by omega
    have hlow : k < 32 := by omega
    rw [Nat.add_sub_cancel_left, if_pos rfl]
    simp [hk, hlt, hlow]
  · rw [if_neg hbi]
    by_cases hlow : 8 * b + k < 8 * i
    · simp [hlow]
    · have hhigh : x.getLsbD (8 * b + k - 8 * i) = false := BitVec.getLsbD_of_ge _ _ (by omega)
      simp [hhigh]

theorem byte_or (x y : Word) (b : ℕ) : byte (x ||| y) b = byte x b ||| byte y b := by
  apply BitVec.eq_of_getLsbD_eq
  intro k hk
  unfold ByteLanes.byte
  simp [hk]

def four (x : Fin 4 → Byte) : Word :=
  (x ⟨0, by decide⟩).setWidth 32 ||| (x ⟨1, by decide⟩).setWidth 32 <<< 8 |||
    (x ⟨2, by decide⟩).setWidth 32 <<< 16 ||| (x ⟨3, by decide⟩).setWidth 32 <<< 24

/-- The macro of a round on the words of the rows. -/
def RoundMacro.onWords (f : RoundMacro) (x : Fin 4 → Word) (k : Word) : Word :=
  f (x ⟨0, by decide⟩) (x ⟨1, by decide⟩) (x ⟨2, by decide⟩) (x ⟨3, by decide⟩) k

theorem byte_four (x : Fin 4 → Byte) (r : Fin 4) : byte (four x) r = x r := by
  have hzero := byte_setWidth (x ⟨0, by decide⟩) 0 r (by decide) r.isLt
  have hone := byte_setWidth (x ⟨1, by decide⟩) 1 r (by decide) r.isLt
  have htwo := byte_setWidth (x ⟨2, by decide⟩) 2 r (by decide) r.isLt
  have hthree := byte_setWidth (x ⟨3, by decide⟩) 3 r (by decide) r.isLt
  simp only [Nat.mul_zero, BitVec.shiftLeft_zero, Nat.mul_one, Nat.reduceMul]
    at hzero hone htwo hthree
  rw [four, byte_or, byte_or, byte_or, hzero, hone, htwo, hthree]
  fin_cases r <;> simp

theorem getLsbD_rotl32 (x : Word) {n i : ℕ} (hn : n < 32) (hi : i < 32) :
    (rotl32 n x).getLsbD i = x.getLsbD ((i + (32 - n)) % 32) := by
  unfold rotl32
  rw [BitVec.getLsbD_or, BitVec.getLsbD_shiftLeft, BitVec.getLsbD_ushiftRight]
  by_cases hin : i < n
  · rw [show (i + (32 - n)) % 32 = (32 - n) % 32 + i by omega]
    simp [hin]
  · rw [show (i + (32 - n)) % 32 = i - n by omega]
    by_cases hzero : n = 0
    · subst hzero
      simp [hi]
    · rw [BitVec.getLsbD_of_ge x ((32 - n) % 32 + i) (by omega)]
      simp [hi, hin]

theorem byte_rotl32 (x : Word) (j r : Fin 4) :
    byte (rotl32 (8 * j) x) r = byte x (r - j : Fin 4) := by
  have hj := j.isLt
  have hr := r.isLt
  have hsub : ((r - j : Fin 4) : ℕ) = (4 - j + r) % 4 := rfl
  apply BitVec.eq_of_getLsbD_eq
  intro k hk
  unfold ByteLanes.byte
  rw [BitVec.getLsbD_extractLsb', BitVec.getLsbD_extractLsb',
    getLsbD_rotl32 x (by omega) (by omega), hsub]
  congr 2
  omega

/-- The substitution boxes, entry by entry: inverses in the field, then each other's. -/
theorem boxes_checked : (∀ n < 256, times (BitVec.ofNat 8 n) (unaffine (sbox.getD n 0)) = 1 ∨
      BitVec.ofNat 8 n = 0 ∧ sbox.getD n 0 = 0x63) ∧
    ∀ n < 256, sbox.getD (isbox.getD n 0).toNat 0 = BitVec.ofNat 8 n := by
  decide +kernel

/-- The words of the tables, those of the later tables from those of the earlier ones. -/
theorem words_checked : (dtable0 = sbox.map (fun b => four (mixed b)) ∧
      mtable = (List.range 256).map (fun n => four (unmixed (BitVec.ofNat 8 n))) ∧
      itable0 = isbox.map (fun b => mtable.getD b.toNat 0)) ∧
    (dtable1 = dtable0.map (rotl32 8) ∧ dtable2 = dtable0.map (rotl32 16) ∧
      dtable3 = dtable0.map (rotl32 24)) ∧
    itable1 = itable0.map (rotl32 8) ∧ itable2 = itable0.map (rotl32 16) ∧
      itable3 = itable0.map (rotl32 24) := by
  decide +kernel

theorem sbox_substitute (x : Byte) : sbox.getD x.toNat 0 = (substitute ⟨x⟩).byte := by
  have hx := boxes_checked.1 x.toNat x.isLt
  rw [BitVec.ofNat_toNat, BitVec.setWidth_eq] at hx
  refine (substitute_of_times ?_).symm
  exact hx.imp_right (fun h => ⟨Gf256.ext h.1, h.2⟩)

theorem isbox_unsubstitute (x : Byte) : isbox.getD x.toNat 0 = (unsubstitute ⟨x⟩).byte := by
  have hx := boxes_checked.2 x.toNat x.isLt
  rw [BitVec.ofNat_toNat, BitVec.setWidth_eq, sbox_substitute] at hx
  have hback := unsubstitute_substitute ⟨isbox.getD x.toNat 0⟩
  rw [show substitute ⟨isbox.getD x.toNat 0⟩ = ⟨x⟩ from Gf256.ext hx] at hback
  exact (congrArg Gf256.byte hback).symm

theorem mtable_getD (x : Byte) : mtable.getD x.toNat 0 = four (unmixed x) := by
  rw [words_checked.1.2.1]
  simp [x.isLt]

theorem dtable0_getD (x : Byte) : dtable0.getD x.toNat 0 = four (mixed (sbox.getD x.toNat 0)) := by
  rw [words_checked.1.1]
  exact List.getD_map sbox 0 (fun b => four (mixed b))

theorem itable0_getD (x : Byte) :
    itable0.getD x.toNat 0 = four (unmixed (isbox.getD x.toNat 0)) := by
  rw [words_checked.1.2.2, ← mtable_getD]
  exact List.getD_map isbox 0 (fun b => mtable.getD b.toNat 0)

/-- The table `T` serves the layers `L`, the first column of whose mixing matrix is `v`. -/
structure AesTable.Serves (T : AesTable) (sub : Gf256 → Gf256) (v : Fin 4 → Gf256) : Prop where
  sbox : ∀ x : Byte, T.sbox.getD x.toNat 0 = (sub ⟨x⟩).byte
  entry : ∀ (j r : Fin 4) (x : Byte), byte (T.entry j x) r = (v (r - j) * sub ⟨x⟩).byte

theorem entry_rotated {t0 t1 t2 t3 : List Word} {T : AesTable}
    (hT : T.table = [t0, t1, t2, t3])
    (hrot : t1 = t0.map (rotl32 8) ∧ t2 = t0.map (rotl32 16) ∧ t3 = t0.map (rotl32 24))
    (j : Fin 4) (x : Byte) : T.entry j x = rotl32 (8 * j) (t0.getD x.toNat 0) := by
  unfold AesTable.entry
  rw [hT, hrot.1, hrot.2.1, hrot.2.2]
  have hrotated (n : ℕ) : (t0.map (rotl32 n)).getD x.toNat 0 = rotl32 n (t0.getD x.toNat 0) := by
    have hzero : rotl32 n 0 = 0 := by simp [rotl32]
    have hmap := List.getD_map (n := x.toNat) t0 0 (rotl32 n)
    rw [hzero] at hmap
    exact hmap
  fin_cases j
  · simp [rotl32]
  · exact hrotated 8
  · exact hrotated 16
  · exact hrotated 24

theorem aesEncryptTable_serves : aesEncryptTable.Serves substitute mixing where
  sbox := sbox_substitute
  entry j r x := by
    rw [entry_rotated rfl words_checked.2.1, byte_rotl32, dtable0_getD, byte_four, sbox_substitute]
    exact (times_mixing _ (r - j)).symm

theorem aesDecryptTable_serves : aesDecryptTable.Serves unsubstitute unmixing where
  sbox := isbox_unsubstitute
  entry j r x := by
    rw [entry_rotated rfl words_checked.2.2, byte_rotl32, itable0_getD, byte_four,
      isbox_unsubstitute]
    exact (times_unmixing _ (r - j)).symm

end IbexAxi4l.NettleAes
