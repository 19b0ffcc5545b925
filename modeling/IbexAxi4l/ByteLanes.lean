import Mathlib.Algebra.Ring.Nat

set_option autoImplicit false

/-!
# Byte lanes of a word

Reading a byte of a word, assigning a byte of it, and assigning the bytes that a strobe
selects. `strobe strb data off` writes the four lanes of a 32-bit word into the bytes
`off .. off+3` of a word that may be wider.
-/
namespace IbexAxi4l.ByteLanes

variable {w : ℕ}

def byte (d : BitVec w) (b : ℕ) : BitVec 8 := d.extractLsb' (8 * b) 8

def byteMask (w b : ℕ) : BitVec w := (BitVec.allOnes 8).setWidth w <<< (8 * b)

/-- The assignment `d[8*b+7:8*b] <= x`. -/
def setByte (d : BitVec w) (b : ℕ) (x : BitVec 8) : BitVec w :=
  d &&& ~~~byteMask w b ||| x.setWidth w <<< (8 * b)

theorem getLsbD_byteMask (b i : ℕ) (hi : i < w) :
    (byteMask w b).getLsbD i = decide (8 * b ≤ i ∧ i < 8 * b + 8) := by
  rw [byteMask, BitVec.getLsbD_shiftLeft, BitVec.getLsbD_setWidth, BitVec.getLsbD_allOnes,
    Bool.eq_iff_iff]
  simp only [Bool.and_eq_true, Bool.not_eq_true', decide_eq_true_eq,
    decide_eq_false_iff_not]
  omega

theorem getLsbD_setByte (d : BitVec w) (b : ℕ) (x : BitVec 8) (i : ℕ) (hi : i < w) :
    (setByte d b x).getLsbD i =
      if 8 * b ≤ i ∧ i < 8 * b + 8 then x.getLsbD (i - 8 * b) else d.getLsbD i := by
  have hlane : i - 8 * b < w := by omega
  unfold setByte
  rw [BitVec.getLsbD_or, BitVec.getLsbD_and, BitVec.getLsbD_not, getLsbD_byteMask b i hi,
    BitVec.getLsbD_shiftLeft, BitVec.getLsbD_setWidth]
  by_cases hin : 8 * b ≤ i ∧ i < 8 * b + 8
  · simp [hin, hi, hlane]
  · by_cases hlo : i < 8 * b
    · simp [hin, hi, hlo]
    · have hx : x.getLsbD (i - 8 * b) = false := BitVec.getLsbD_of_ge _ _ (by omega)
      simp [hin, hi, hx]

theorem byte_setByte (d : BitVec w) (b c : ℕ) (x : BitVec 8) (hc : 8 * c + 8 ≤ w) :
    byte (setByte d b x) c = if c = b then x else byte d c := by
  apply BitVec.eq_of_getLsbD_eq
  intro i hi
  have hw : 8 * c + i < w := by omega
  unfold byte
  rw [BitVec.getLsbD_extractLsb', getLsbD_setByte _ _ _ _ hw]
  by_cases hcb : c = b
  · simp [hcb, hi]
  · have hout : ¬ (8 * b ≤ 8 * c + i ∧ 8 * c + i < 8 * b + 8) := by omega
    rw [if_neg hout, if_neg hcb, BitVec.getLsbD_extractLsb']

/-- One lane: `if (strb[b]) d[..] <= data[..]`, into byte `off + b`. -/
def lane (strb : BitVec 4) (data : BitVec 32) (off b : ℕ) (d : BitVec w) : BitVec w :=
  if strb.getLsbD b then setByte d (off + b) (byte data b) else d

def strobe (strb : BitVec 4) (data : BitVec 32) (off : ℕ) (d : BitVec w) : BitVec w :=
  lane strb data off 3 (lane strb data off 2 (lane strb data off 1 (lane strb data off 0 d)))

theorem byte_lane (strb : BitVec 4) (data : BitVec 32) (off b c : ℕ) (d : BitVec w)
    (hc : 8 * c + 8 ≤ w) :
    byte (lane strb data off b d) c =
      if strb.getLsbD b = true ∧ c = off + b then byte data b else byte d c := by
  unfold lane
  cases strb.getLsbD b with
  | false => simp
  | true => simp [byte_setByte _ _ _ _ hc]

theorem byte_strobe (strb : BitVec 4) (data : BitVec 32) (off c : ℕ) (d : BitVec w)
    (hc : 8 * c + 8 ≤ w) :
    byte (strobe strb data off d) c =
      if off ≤ c ∧ c < off + 4 ∧ strb.getLsbD (c - off) = true then byte data (c - off)
      else byte d c := by
  unfold strobe
  simp only [byte_lane _ _ _ _ _ _ hc]
  by_cases hin : off ≤ c ∧ c < off + 4
  · obtain ⟨b, rfl⟩ : ∃ b, c = off + b := ⟨c - off, by omega⟩
    have hb : b = 0 ∨ b = 1 ∨ b = 2 ∨ b = 3 := by omega
    rcases hb with rfl | rfl | rfl | rfl <;> simp
  · have hne : c ≠ off + 0 ∧ c ≠ off + 1 ∧ c ≠ off + 2 ∧ c ≠ off + 3 := by omega
    have hout : ¬ (off ≤ c ∧ c < off + 4 ∧ strb.getLsbD (c - off) = true) :=
      fun h => hin ⟨h.1, h.2.1⟩
    rw [if_neg hout]
    simp only [hne, and_false, if_false]

theorem getLsbD_byte (d : BitVec w) (i : ℕ) : (byte d (i / 8)).getLsbD (i % 8) = d.getLsbD i := by
  have hlt : i % 8 < 8 := Nat.mod_lt _ (by decide)
  unfold byte
  rw [BitVec.getLsbD_extractLsb', Nat.div_add_mod]
  simp [hlt]

theorem eq_of_byte {n : ℕ} {x y : BitVec (8 * n)} (h : ∀ b < n, byte x b = byte y b) : x = y := by
  apply BitVec.eq_of_getLsbD_eq
  intro i hi
  rw [← getLsbD_byte x i, ← getLsbD_byte y i, h (i / 8) (by omega)]

/-- A write that changes nothing selects only bytes that hold its data already. -/
theorem strobe_eq_self_iff (strb : BitVec 4) (data d : BitVec 32) : strobe strb data 0 d = d ↔
    ∀ b < 4, strb.getLsbD b = true → byte d b = byte data b := by
  constructor
  · intro heq b hb hs
    have hbyte := byte_strobe strb data 0 b d (by omega)
    rw [heq, if_pos ⟨Nat.zero_le b, by omega, hs⟩] at hbyte
    exact hbyte
  · intro hsame
    apply @eq_of_byte 4
    intro b hb
    rw [byte_strobe _ _ _ _ _ (by omega)]
    split_ifs with hsel
    · exact (hsame b hb hsel.2.2).symm
    · rfl

theorem allOnes_getLsbD {b : ℕ} (hb : b < 4) : (0b1111 : BitVec 4).getLsbD b = true := by
  revert b
  decide

theorem getLsbD_strobe_full (d : BitVec 32) (off i : ℕ) (m : BitVec w) (hi : 8 * (i / 8) + 8 ≤ w) :
    (strobe 0b1111 d off m).getLsbD i =
      if 8 * off ≤ i ∧ i < 8 * off + 32 then d.getLsbD (i - 8 * off) else m.getLsbD i := by
  rw [← getLsbD_byte (strobe _ _ _ _), byte_strobe _ _ _ _ _ hi]
  by_cases hin : 8 * off ≤ i ∧ i < 8 * off + 32
  · have hlane : i / 8 - off < 4 := by omega
    have hsel : off ≤ i / 8 ∧ i / 8 < off + 4 ∧ (0b1111 : BitVec 4).getLsbD (i / 8 - off) = true :=
      ⟨by omega, by omega, allOnes_getLsbD hlane⟩
    have hdiv : i / 8 - off = (i - 8 * off) / 8 := by omega
    have hmod : i % 8 = (i - 8 * off) % 8 := by omega
    rw [if_pos hin, if_pos hsel, hdiv, hmod, getLsbD_byte]
  · have hsel : ¬ (off ≤ i / 8 ∧ i / 8 < off + 4 ∧
        (0b1111 : BitVec 4).getLsbD (i / 8 - off) = true) := by
      intro hsel
      exact hin ⟨by omega, by omega⟩
    rw [if_neg hin, if_neg hsel, getLsbD_byte]

theorem strobe_full (d m : BitVec 32) : strobe 0b1111 d 0 m = d := by
  apply BitVec.eq_of_getLsbD_eq
  intro i hi
  rw [getLsbD_strobe_full _ _ _ _ (by omega)]
  simp [hi]

/-- The halves of a double word, as `x >> 32` and `x & 0xffffffff` stored into a word. -/
def highWord (x : BitVec 64) : BitVec 32 := (x >>> 32).setWidth 32
def lowWord (x : BitVec 64) : BitVec 32 := (x &&& 0xffffffff).setWidth 32

theorem toNat_highWord (x : BitVec 64) : (highWord x).toNat = x.toNat / 2 ^ 32 := by
  have hx := x.isLt
  rw [highWord, BitVec.toNat_setWidth, BitVec.toNat_ushiftRight, Nat.shiftRight_eq_div_pow]
  exact Nat.mod_eq_of_lt (by omega)

theorem toNat_lowWord (x : BitVec 64) : (lowWord x).toNat = x.toNat % 2 ^ 32 := by
  have hmask : (0xffffffff : BitVec 64).toNat = 2 ^ 32 - 1 := rfl
  rw [lowWord, BitVec.toNat_setWidth, BitVec.toNat_and, hmask, Nat.and_two_pow_sub_one_eq_mod,
    Nat.mod_mod]

theorem extractLsb'_high (x : BitVec 64) : x.extractLsb' 32 32 = highWord x := by
  apply BitVec.eq_of_toNat_eq
  have hx := x.isLt
  rw [toNat_highWord, BitVec.extractLsb'_toNat, Nat.shiftRight_eq_div_pow]
  exact Nat.mod_eq_of_lt (by omega)

theorem extractLsb'_low (x : BitVec 64) : x.extractLsb' 0 32 = lowWord x := by
  apply BitVec.eq_of_toNat_eq
  rw [toNat_lowWord, BitVec.extractLsb'_toNat]
  rfl

theorem toNat_append_word (hi lo : BitVec 32) :
    (hi ++ lo).toNat = hi.toNat * 2 ^ 32 + lo.toNat := by
  rw [BitVec.toNat_append, ← Nat.shiftLeft_add_eq_or_of_lt lo.isLt, Nat.shiftLeft_eq]

theorem append_words (x : BitVec 64) : highWord x ++ lowWord x = x := by
  apply BitVec.eq_of_toNat_eq
  rw [toNat_append_word, toNat_highWord, toNat_lowWord]
  omega

@[simp] theorem highWord_append (hi lo : BitVec 32) : highWord (hi ++ lo) = hi := by
  apply BitVec.eq_of_toNat_eq
  have hlo := lo.isLt
  rw [toNat_highWord, toNat_append_word]
  omega

@[simp] theorem lowWord_append (hi lo : BitVec 32) : lowWord (hi ++ lo) = lo := by
  apply BitVec.eq_of_toNat_eq
  have hlo := lo.isLt
  rw [toNat_lowWord, toNat_append_word]
  omega

theorem strobe_full_low (d : BitVec 32) (m : BitVec 64) :
    strobe 0b1111 d 0 m = highWord m ++ d := by
  rw [← extractLsb'_high]
  apply BitVec.eq_of_getLsbD_eq
  intro i hi
  rw [getLsbD_strobe_full _ _ _ _ (by omega), BitVec.getLsbD_append]
  by_cases hlow : i < 32
  · simp [hlow]
  · have hsum : 32 + (i - 32) = i := by omega
    simp [hlow, hsum]
    omega

theorem strobe_full_high (d : BitVec 32) (m : BitVec 64) :
    strobe 0b1111 d 4 m = d ++ lowWord m := by
  rw [← extractLsb'_low]
  apply BitVec.eq_of_getLsbD_eq
  intro i hi
  rw [getLsbD_strobe_full _ _ _ _ (by omega), BitVec.getLsbD_append]
  by_cases hlow : i < 32
  · have hout : ¬ 32 ≤ i := by omega
    simp [hlow, hout]
  · have hin : 32 ≤ i := by omega
    simp [hlow, hin]
    omega

example : strobe 0b0101 0x12345678 4 (0#64) = 0x0034007800000000#64 := by decide

end IbexAxi4l.ByteLanes
