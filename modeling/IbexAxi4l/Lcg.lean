import Mathlib.Algebra.BigOperators.Ring.Finset
import Mathlib.Data.Fintype.EquivFin
import Mathlib.Data.Nat.ModEq
import Mathlib.Data.Nat.Prime.Basic
import Mathlib.Order.Interval.Finset.Nat
import Mathlib.Tactic.Ring

set_option autoImplicit false

/-!
# Linear congruential generators

Modulo a power of two, `a * x + c` runs through all residues from any of them if `c` is odd
and `a` is one more than a multiple of four.
-/
namespace IbexAxi4l.Lcg

def next (a c k x : ℕ) : ℕ := (a * x + c) % 2 ^ k

def geom (a n : ℕ) : ℕ := ∑ i ∈ Finset.range n, a ^ i

theorem geom_succ (a n : ℕ) : geom a (n+1) = 1 + a * geom a n := by
  unfold geom
  rw [Finset.sum_range_succ', Finset.mul_sum, pow_zero, Nat.add_comm]
  simp only [pow_succ']

theorem geom_double (a n : ℕ) : geom a (2 * n) = (1 + a) * geom (a * a) n := by
  induction n with
  | zero => simp [geom]
  | succ n ih =>
    rw [show 2 * (n+1) = 2 * n + 1 + 1 by omega, geom_succ, geom_succ, ih, geom_succ]
    ring

theorem geom_odd {a n : ℕ} (ha : a % 2 = 1) (hn : n % 2 = 1) : geom a n % 2 = 1 := by
  have hparity : geom a n % 2 = n % 2 := by
    clear hn
    induction n with
    | zero => rfl
    | succ n ih =>
      rw [geom_succ, Nat.add_mod, Nat.mul_mod, ha, ih]
      omega
  exact hparity.trans hn

/-- Every factor two of `n` gives exactly one of the sum. -/
theorem dvd_geom_iff {a : ℕ} (ha : a % 4 = 1) (k n : ℕ) : 2 ^ k ∣ geom a n ↔ 2 ^ k ∣ n := by
  induction k generalizing a n with
  | zero => simp
  | succ k ih =>
    by_cases hn : n % 2 = 1
    · have hodd := geom_odd (show a % 2 = 1 by omega) hn
      have htwo : 2 ∣ 2 ^ (k+1) := dvd_pow_self 2 (Nat.succ_ne_zero k)
      constructor
      · intro h
        have := htwo.trans h
        omega
      · intro h
        have := htwo.trans h
        omega
    · obtain ⟨m, rfl⟩ : ∃ m, n = 2 * m := ⟨n / 2, by omega⟩
      have hsquare : a * a % 4 = 1 := by rw [Nat.mul_mod, ha]
      -- `1 + a` has exactly one factor two
      obtain ⟨b, hb⟩ : ∃ b, 1 + a = 2 * (2 * b + 1) := ⟨a / 4, by omega⟩
      have hcop : Nat.Coprime (2 ^ k) (2 * b + 1) :=
        Nat.Coprime.pow_left k (Nat.coprime_two_left.2 ⟨b, rfl⟩)
      rw [geom_double, hb, pow_succ', Nat.mul_assoc, Nat.mul_dvd_mul_iff_left (by decide),
        Nat.mul_dvd_mul_iff_left (by decide), hcop.dvd_mul_left, ih hsquare]

theorem iterate_eq (a c x n : ℕ) (ha : 0 < a) :
    (fun x => a * x + c)^[n] x = x + geom a n * ((a - 1) * x + c) := by
  induction n with
  | zero => simp [geom]
  | succ n ih =>
    obtain ⟨b, rfl⟩ : ∃ b, a = b + 1 := ⟨a - 1, by omega⟩
    rw [Function.iterate_succ_apply', ih, geom_succ, Nat.add_sub_cancel]
    ring

theorem next_iterate (a c k x n : ℕ) :
    (next a c k)^[n] x ≡ (fun x => a * x + c)^[n] x [MOD 2 ^ k] := by
  induction n with
  | zero => exact Nat.ModEq.refl _
  | succ n ih =>
    rw [Function.iterate_succ_apply', Function.iterate_succ_apply']
    exact (Nat.mod_modEq _ _).trans ((ih.mul_left a).add_right c)

section Period
variable {a c k : ℕ} (ha : a % 4 = 1) (hc : c % 2 = 1)
include ha hc

theorem iterate_modEq_iff (x n : ℕ) : (next a c k)^[n] x ≡ x [MOD 2 ^ k] ↔ 2 ^ k ∣ n := by
  have hodd : ((a - 1) * x + c) % 2 = 1 := by
    obtain ⟨b, rfl⟩ : ∃ b, a = 4 * b + 1 := ⟨a / 4, by omega⟩
    rw [Nat.add_sub_cancel, Nat.mul_assoc]
    omega
  have hcop : Nat.Coprime (2 ^ k) ((a - 1) * x + c) :=
    Nat.Coprime.pow_left k (Nat.coprime_two_left.2 (Nat.odd_iff.2 hodd))
  have hmod := next_iterate a c k x n
  rw [iterate_eq a c x n (by omega)] at hmod
  rw [← dvd_geom_iff ha k n, ← hcop.dvd_mul_right, ← Nat.modEq_zero_iff_dvd]
  constructor
  · intro h
    exact Nat.ModEq.add_left_cancel' x (hmod.symm.trans h)
  · intro h
    exact hmod.trans (Nat.ModEq.add_left x h)

theorem iterate_injective (x : ℕ) {i j : ℕ} (hi : i < 2 ^ k) (hj : j < 2 ^ k)
    (h : (next a c k)^[i] x = (next a c k)^[j] x) : i = j := by
  wlog hij : i ≤ j generalizing i j
  · exact (this hj hi h.symm (by omega)).symm
  · obtain ⟨d, rfl⟩ : ∃ d, j = d + i := ⟨j - i, by omega⟩
    rw [Function.iterate_add_apply] at h
    have hback : (next a c k)^[d] ((next a c k)^[i] x) ≡ (next a c k)^[i] x [MOD 2 ^ k] := by
      rw [← h]
    have hdvd := (iterate_modEq_iff ha hc _ d).1 hback
    have hzero := Nat.eq_zero_of_dvd_of_lt hdvd (by omega)
    omega

/-- Every residue comes up exactly once in a period. -/
theorem full_period (x y : ℕ) (hy : y < 2 ^ k) : ∃! n, n < 2 ^ k ∧ (next a c k)^[n+1] x = y := by
  let f : Fin (2 ^ k) → Fin (2 ^ k) :=
    fun n => ⟨(next a c k)^[n+1] x, by
      rw [Function.iterate_succ_apply']
      exact Nat.mod_lt _ (Nat.two_pow_pos k)⟩
  have hinj : Function.Injective f := by
    intro i j h
    have hval : (next a c k)^[i] (next a c k x) = (next a c k)^[j] (next a c k x) :=
      congrArg Fin.val h
    exact Fin.ext (iterate_injective ha hc _ i.isLt j.isLt hval)
  obtain ⟨n, hn⟩ := Finite.surjective_of_injective hinj ⟨y, hy⟩
  refine ⟨n, ⟨n.isLt, congrArg Fin.val hn⟩, ?_⟩
  rintro m ⟨hm, hmy⟩
  have hval : (next a c k)^[m] (next a c k x) = (next a c k)^[n] (next a c k x) :=
    hmy.trans (congrArg Fin.val hn).symm
  exact iterate_injective ha hc _ hm n.isLt hval

theorem period_count (x : ℕ) (p : ℕ → Prop) [DecidablePred p] :
    ((Finset.range (2 ^ k)).filter (fun n => p ((next a c k)^[n+1] x))).card =
      ((Finset.range (2 ^ k)).filter p).card := by
  refine Finset.card_bij (fun n _ => (next a c k)^[n+1] x) ?_ ?_ ?_
  · intro n hn
    have hlt : (next a c k)^[n+1] x < 2 ^ k := by
      rw [Function.iterate_succ_apply']
      exact Nat.mod_lt _ (Nat.two_pow_pos k)
    exact Finset.mem_filter.2 ⟨Finset.mem_range.2 hlt, (Finset.mem_filter.1 hn).2⟩
  · intro i hi j hj h
    have hi := Finset.mem_range.1 (Finset.mem_filter.1 hi).1
    have hj := Finset.mem_range.1 (Finset.mem_filter.1 hj).1
    exact iterate_injective ha hc (next a c k x) hi hj h
  · intro y hy
    obtain ⟨hy, hp⟩ := Finset.mem_filter.1 hy
    obtain ⟨n, ⟨hn, hny⟩, -⟩ := full_period ha hc x y (Finset.mem_range.1 hy)
    exact ⟨n, Finset.mem_filter.2 ⟨Finset.mem_range.2 hn, by rwa [hny]⟩, hny⟩

end Period

theorem high_count {j l v : ℕ} (hv : v < 2 ^ j) :
    ((Finset.range (2 ^ (j + l))).filter (fun y => y / 2 ^ l = v)).card = 2 ^ l := by
  have hpos := Nat.two_pow_pos l
  have hsame : (Finset.range (2 ^ (j + l))).filter (fun y => y / 2 ^ l = v) =
      Finset.Ico (v * 2 ^ l) ((v + 1) * 2 ^ l) := by
    ext y
    rw [Finset.mem_filter, Finset.mem_range, Finset.mem_Ico, Nat.div_eq_iff hpos]
    have hlast : (v + 1) * 2 ^ l ≤ 2 ^ (j + l) := by
      rw [pow_add]
      exact Nat.mul_le_mul_right _ hv
    have hstep : (v + 1) * 2 ^ l = v * 2 ^ l + 2 ^ l := by ring
    omega
  rw [hsame, Nat.card_Ico, show (v + 1) * 2 ^ l = v * 2 ^ l + 2 ^ l by ring,
    Nat.add_sub_cancel_left]

end IbexAxi4l.Lcg
