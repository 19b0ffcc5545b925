import Mathlib.Data.Nat.Notation
import Mathlib.Tactic.ByContra

set_option autoImplicit false

/-!
# Functions of words that are linear over exclusive or

Two such functions are equal if they agree on the words with one bit set.
-/
namespace IbexAxi4l.XorLinear

variable {m n k : ℕ}

def Linear (f : BitVec n → BitVec m) : Prop := ∀ x y, f (x ^^^ y) = f x ^^^ f y

theorem Linear.zero {f : BitVec n → BitVec m} (h : Linear f) : f 0 = 0 := by
  have hself := h 0 0
  rw [BitVec.xor_self, BitVec.xor_self] at hself
  exact hself

theorem Linear.id : Linear (fun x : BitVec n => x) := fun _ _ => rfl

theorem Linear.comp {f : BitVec n → BitVec m} {g : BitVec k → BitVec n} (hf : Linear f)
    (hg : Linear g) : Linear (fun x => f (g x)) := by
  intro x y
  change f (g (x ^^^ y)) = f (g x) ^^^ f (g y)
  rw [hg x y, hf (g x) (g y)]

theorem xor_xor_comm (a b c d : BitVec n) : a ^^^ b ^^^ (c ^^^ d) = a ^^^ c ^^^ (b ^^^ d) := by
  rw [BitVec.xor_assoc, BitVec.xor_assoc, ← BitVec.xor_assoc b c d, BitVec.xor_comm b c,
    BitVec.xor_assoc c b d]

theorem Linear.xor {f g : BitVec n → BitVec m} (hf : Linear f) (hg : Linear g) :
    Linear (fun x => f x ^^^ g x) := by
  intro x y
  change f (x ^^^ y) ^^^ g (x ^^^ y) = f x ^^^ g x ^^^ (f y ^^^ g y)
  rw [hf x y, hg x y, xor_xor_comm]

theorem Linear.shiftLeft (s : ℕ) : Linear (fun x : BitVec n => x <<< s) :=
  fun x y => BitVec.shiftLeft_xor_distrib x y s

theorem Linear.ushiftRight (s : ℕ) : Linear (fun x : BitVec n => x >>> s) :=
  fun x y => BitVec.ushiftRight_xor_distrib x y s

theorem Linear.extractLsb' (start len : ℕ) :
    Linear (fun x : BitVec n => x.extractLsb' start len) := by
  intro x y
  apply BitVec.eq_of_getLsbD_eq
  intro i hi
  simp [hi]

theorem Linear.bit (i : ℕ) (c : BitVec m) :
    Linear (fun x : BitVec n => if x.getLsbD i then c else 0) := by
  intro x y
  change (if (x ^^^ y).getLsbD i then c else 0) =
    (if x.getLsbD i then c else 0) ^^^ (if y.getLsbD i then c else 0)
  rw [BitVec.getLsbD_xor]
  cases x.getLsbD i <;> cases y.getLsbD i <;> simp

theorem Linear.gate {f : BitVec n → BitVec m} (hf : Linear f) (b : Bool) :
    Linear (fun x => if b then f x else 0) := by
  cases b with
  | true => exact hf
  | false => exact fun _ _ => (BitVec.xor_self).symm

/-- The bits from `j` on are clear. -/
def Below (x : BitVec n) (j : ℕ) : Prop := ∀ i ≥ j, x.getLsbD i = false

theorem Below.step {x : BitVec n} {j : ℕ} (h : Below x (j+1)) (hj : x.getLsbD j = true) :
    Below (x ^^^ BitVec.twoPow n j) j := by
  intro i hi
  rw [BitVec.getLsbD_xor, BitVec.getLsbD_twoPow]
  by_cases hij : j = i
  · subst hij
    have hlt : j < n := by
      by_contra hge
      rw [BitVec.getLsbD_of_ge _ _ (by omega)] at hj
      cases hj
    simp [hj, hlt]
  · rw [h i (by omega)]
    simp [hij]

theorem Linear.ext {f g : BitVec n → BitVec m} (hf : Linear f) (hg : Linear g)
    (h : ∀ i < n, f (BitVec.twoPow n i) = g (BitVec.twoPow n i)) (x : BitVec n) : f x = g x := by
  have hlow : ∀ j ≤ n, ∀ y : BitVec n, Below y j → f y = g y := by
    intro j
    induction j with
    | zero =>
      intro _ y hy
      have hzero : y = 0 := BitVec.eq_of_getLsbD_eq (fun i _ => (hy i (by omega)).trans (by simp))
      rw [hzero, hf.zero, hg.zero]
    | succ j ih =>
      intro hj y hy
      cases hbit : y.getLsbD j with
      | false =>
        refine ih (by omega) y (fun i hi => ?_)
        by_cases hij : i = j
        · rw [hij, hbit]
        · exact hy i (by omega)
      | true =>
        have hsplit : y = (y ^^^ BitVec.twoPow n j) ^^^ BitVec.twoPow n j := by
          rw [BitVec.xor_assoc, BitVec.xor_self, BitVec.xor_zero]
        rw [hsplit, hf, hg, ih (by omega) _ (hy.step hbit), h j (by omega)]
  exact hlow n (Nat.le_refl n) x (fun i hi => BitVec.getLsbD_of_ge x i hi)

end IbexAxi4l.XorLinear
