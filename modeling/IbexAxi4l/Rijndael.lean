import Mathlib.Data.Fin.VecNotation
import Mathlib.Data.Matrix.Basic
import Mathlib.LinearAlgebra.Matrix.Circulant
import Mathlib.Tactic.FinCases
import Mathlib.Tactic.Ring
import IbexAxi4l.Gf256
import IbexAxi4l.RoundCipher

set_option autoImplicit false

/-!
# The block cipher that AES code computes

Blocks of four columns and four rows over the field with 256 elements, the layers of a round
and of its inverse, and the schedule of the round keys.
-/
namespace IbexAxi4l.Rijndael
open Matrix RoundCipher Gf256

abbrev Block := RoundCipher.Block (Fin 4) (Fin 4) Gf256

def rotl (b : BitVec 8) (s : ℕ) : BitVec 8 := b <<< s ||| b >>> (8 - s)

def affine (b : BitVec 8) : BitVec 8 :=
  b ^^^ rotl b 1 ^^^ rotl b 2 ^^^ rotl b 3 ^^^ rotl b 4 ^^^ 0x63

def unaffine (b : BitVec 8) : BitVec 8 := rotl b 1 ^^^ rotl b 3 ^^^ rotl b 6 ^^^ 0x05

def substitute (x : Gf256) : Gf256 := ⟨affine (inverse x).byte⟩

def unsubstitute (x : Gf256) : Gf256 := inverse ⟨unaffine x.byte⟩

theorem forall_byte {P : BitVec 8 → Prop} (h : ∀ n < 256, P (BitVec.ofNat 8 n)) (b : BitVec 8) :
    P b := by
  have hb := h b.toNat b.isLt
  rw [BitVec.ofNat_toNat, BitVec.setWidth_eq] at hb
  exact hb

theorem affine_inverse (b : BitVec 8) : unaffine (affine b) = b ∧ affine (unaffine b) = b :=
  forall_byte (P := fun b => unaffine (affine b) = b ∧ affine (unaffine b) = b)
    (by decide +kernel) b

theorem unsubstitute_substitute (x : Gf256) : unsubstitute (substitute x) = x := by
  unfold unsubstitute substitute
  rw [(affine_inverse (inverse x).byte).1]
  exact inverse_inverse x

theorem substitute_of_times {x : Gf256} {y : BitVec 8}
    (h : times x.byte (unaffine y) = 1 ∨ x = 0 ∧ y = 0x63) : (substitute x).byte = y := by
  unfold substitute
  rcases h with hone | ⟨rfl, rfl⟩
  · have hinv : inverse x = ⟨unaffine y⟩ := inverse_unique (Gf256.ext hone)
    rw [hinv]
    exact (affine_inverse y).2
  · rw [inverse_zero]
    rfl

/-- The first column of the matrix that mixes the columns, and of its inverse. -/
def mixing : Fin 4 → Gf256 := ![⟨0x02⟩, ⟨0x01⟩, ⟨0x01⟩, ⟨0x03⟩]

def unmixing : Fin 4 → Gf256 := ![⟨0x0e⟩, ⟨0x09⟩, ⟨0x0d⟩, ⟨0x0b⟩]

def mixed (b : BitVec 8) : Fin 4 → BitVec 8 := ![xtime b, b, b, xtime b ^^^ b]

def unmixed (b : BitVec 8) : Fin 4 → BitVec 8 :=
  ![xtime (xtime (xtime b ^^^ b) ^^^ b), xtime (xtime (xtime b)) ^^^ b,
    xtime (xtime (xtime b ^^^ b)) ^^^ b, xtime (xtime (xtime b) ^^^ b) ^^^ b]

theorem times_mixing (b : BitVec 8) (r : Fin 4) : times (mixing r).byte b = mixed b r := by
  fin_cases r <;> simp [mixing, mixed, times, horner]

theorem times_unmixing (b : BitVec 8) (r : Fin 4) : times (unmixing r).byte b = unmixed b r := by
  fin_cases r <;> simp [unmixing, unmixed, times, horner]

theorem unmixing_mixing : circulant unmixing * circulant mixing = 1 := by
  rw [Fin.circulant_mul, ← Matrix.circulant_single_one]
  congr 1
  funext i
  fin_cases i <;> decide +kernel

/-- Row `r` is turned by `r` columns. -/
def encryption : Layers (Fin 4) (Fin 4) Gf256 := ⟨substitute, fun r => r, circulant mixing⟩

def decryption : Layers (Fin 4) (Fin 4) Gf256 := ⟨unsubstitute, fun r => -r, circulant unmixing⟩

theorem decryption_inverts : Layers.Inverse encryption decryption where
  sub := unsubstitute_substitute
  turn r := neg_add_cancel r
  mix := unmixing_mixing

abbrev Column := Fin 4 → Gf256

/-- The word before the sum with the word one key length back. -/
def core (nk i : ℕ) (t : Column) : Column :=
  if i % nk = 0 then
    (fun r => substitute (t (r+1))) + Pi.single 0 ((⟨0x02⟩ : Gf256) ^ (i / nk - 1))
  else if 6 < nk ∧ i % nk = 4 then fun r => substitute (t r)
  else t

def schedule (nk : ℕ) (key : ℕ → Column) (i : ℕ) : Column :=
  if _h : 0 < nk ∧ nk ≤ i then
    schedule nk key (i - nk) + core nk i (schedule nk key (i - 1))
  else key i
termination_by i

def roundKey (nk : ℕ) (key : ℕ → Column) (i : ℕ) : Block :=
  fun r c => schedule nk key (4 * i + c) r

def encrypt (nk nr : ℕ) (key : ℕ → Column) : Block → Block :=
  encryption.cipher (roundKey nk key) nr

def decrypt (nk nr : ℕ) (key : ℕ → Column) : Block → Block :=
  decryption.cipher (decryption.turnKeys (roundKey nk key) nr) nr

theorem decrypt_encrypt (nk : ℕ) {nr : ℕ} (hnr : 0 < nr) (key : ℕ → Column) (s : Block) :
    decrypt nk nr key (encrypt nk nr key s) = s :=
  Layers.decipher _ decryption_inverts hnr s

theorem encrypt_decrypt (nk : ℕ) {nr : ℕ} (hnr : 0 < nr) (key : ℕ → Column) (s : Block) :
    encrypt nk nr key (decrypt nk nr key s) = s := by
  have hleft : Function.LeftInverse (decrypt nk nr key) (encrypt nk nr key) :=
    decrypt_encrypt nk hnr key
  exact hleft.rightInverse_of_surjective (Finite.surjective_of_injective hleft.injective) s

end IbexAxi4l.Rijndael
