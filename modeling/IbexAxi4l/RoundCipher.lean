import Mathlib.Algebra.CharP.Two
import Mathlib.Data.Matrix.Mul

set_option autoImplicit false

/-!
# Ciphers made of rounds

A block is a matrix over a ring of characteristic two. A round substitutes every entry, turns
every row, mixes the columns and adds a round key; the last round does not mix. A cipher of
the same form with the inverse layers undoes it: its round keys are the same ones backwards,
mixed.
-/
namespace IbexAxi4l.RoundCipher
open Matrix

/-- The entries of a row `r` are turned by `turn r` columns. -/
structure Layers (ι κ R : Type) where
  sub : R → R
  turn : ι → κ
  mix : Matrix ι ι R

abbrev Block (ι κ R : Type) := Matrix ι κ R

namespace Layers
variable {ι κ R : Type} [Fintype ι] [AddCommGroup κ] [CommRing R] (L L' : Layers ι κ R)
  (k : ℕ → Block ι κ R)

def stir (s : Block ι κ R) : Block ι κ R := fun r c => L.sub (s r (c + L.turn r))

def round (key s : Block ι κ R) : Block ι κ R := L.mix * L.stir s + key

def rounds (s : Block ι κ R) : ℕ → Block ι κ R
  | 0 => s + k 0
  | i + 1 => L.round (k (i+1)) (rounds s i)

def cipher (nr : ℕ) (s : Block ι κ R) : Block ι κ R := L.stir (L.rounds k s (nr - 1)) + k nr

theorem cipher_congr {k k' : ℕ → Block ι κ R} {nr : ℕ} (h : ∀ i ≤ nr, k i = k' i)
    (s : Block ι κ R) : L.cipher k nr s = L.cipher k' nr s := by
  have hrounds : ∀ i ≤ nr, L.rounds k s i = L.rounds k' s i := by
    intro i
    induction i with
    | zero => exact fun hi => congrArg (s + ·) (h 0 hi)
    | succ i ih =>
      intro hi
      change L.round (k (i+1)) (L.rounds k s i) = L.round (k' (i+1)) (L.rounds k' s i)
      rw [ih (by omega), h (i+1) hi]
  unfold cipher
  rw [hrounds (nr - 1) (Nat.sub_le nr 1), h nr (Nat.le_refl nr)]

/-- The round keys `k` backwards, mixed except for the first and the last. -/
def turnKeys (nr i : ℕ) : Block ι κ R :=
  if i = 0 ∨ i = nr then k (nr - i) else L.mix * k (nr - i)

variable {L L'}

structure Inverse [DecidableEq ι] (L L' : Layers ι κ R) : Prop where
  sub : ∀ x, L'.sub (L.sub x) = x
  turn : ∀ r, L'.turn r + L.turn r = 0
  mix : L'.mix * L.mix = 1

section Inverse
variable [DecidableEq ι] (h : Inverse L L')
include h

theorem stir_stir (s : Block ι κ R) : L'.stir (L.stir s) = s := by
  funext r c
  unfold stir
  rw [h.sub, add_assoc, h.turn, add_zero]

theorem unmix (s : Block ι κ R) : L'.mix * (L.mix * s) = s := by
  rw [← Matrix.mul_assoc, h.mix, Matrix.one_mul]

variable [CharP R 2]

omit [Fintype ι] [AddCommGroup κ] [DecidableEq ι] h in
theorem add_key_twice (s key : Block ι κ R) : s + key + key = s := by
  funext r c
  exact CharTwo.add_cancel_right (s r c) (key r c)

/-- One round of the inverse takes the stirred block of a round to that of the round before. -/
theorem round_back (key s : Block ι κ R) :
    L'.round (L'.mix * key) (L.stir (L.round key s)) = L.stir s := by
  unfold round
  rw [stir_stir h, ← Matrix.mul_add, add_key_twice, unmix h]

theorem rounds_back (nr : ℕ) (s : Block ι κ R) (i : ℕ) (hi : i < nr) :
    L'.rounds (L'.turnKeys k nr) (L.cipher k nr s) i = L.stir (L.rounds k s (nr - 1 - i)) := by
  induction i with
  | zero =>
    have hfirst : L'.turnKeys k nr 0 = k nr := if_pos (.inl rfl)
    change L.cipher k nr s + L'.turnKeys k nr 0 = _
    rw [hfirst]
    exact add_key_twice _ _
  | succ i ih =>
    have hkey : L'.turnKeys k nr (i+1) = L'.mix * k (nr - 1 - (i+1) + 1) := by
      rw [turnKeys, if_neg (by omega), show nr - (i+1) = nr - 1 - (i+1) + 1 by omega]
    change L'.round (L'.turnKeys k nr (i+1)) (L'.rounds (L'.turnKeys k nr) _ i) = _
    rw [ih (by omega), hkey, show nr - 1 - i = nr - 1 - (i+1) + 1 by omega]
    exact round_back h _ _

theorem decipher {nr : ℕ} (hnr : 0 < nr) (s : Block ι κ R) :
    L'.cipher (L'.turnKeys k nr) nr (L.cipher k nr s) = s := by
  have hlast : L'.turnKeys k nr nr = k 0 := by
    rw [turnKeys, if_pos (.inr rfl), Nat.sub_self]
  change L'.stir (L'.rounds (L'.turnKeys k nr) (L.cipher k nr s) (nr - 1)) +
    L'.turnKeys k nr nr = s
  rw [rounds_back k h nr s (nr - 1) (by omega), hlast, stir_stir h, Nat.sub_self]
  exact add_key_twice _ _

end Inverse

end Layers

end IbexAxi4l.RoundCipher
