import Mathlib.Logic.Function.Basic
import IbexAxi4l.Lcg

set_option autoImplicit false

/-!
# The library routines of the benchmarks

`beebsc.c` on the 32-bit target: the random numbers, and the heap that only grows. `NULL` is
the address zero; pointers and sizes wrap around.
-/
namespace IbexAxi4l.Beebsc
open Lcg

abbrev Word := BitVec 32

def nextSeed (seed : Word) : Word := (seed * 1103515245#32 + 12345#32) &&& 0x7fffffff#32

def randBeebs (seed : Word) : Word × Word := (nextSeed seed >>> 16, nextSeed seed)

theorem nextSeed_toNat (seed : Word) :
    (nextSeed seed).toNat = next 1103515245 12345 31 seed.toNat := by
  unfold nextSeed next
  rw [BitVec.toNat_and, show (0x7fffffff#32).toNat = 2 ^ 31 - 1 from rfl,
    Nat.and_two_pow_sub_one_eq_mod,
    BitVec.toNat_add, BitVec.toNat_mul, Nat.mod_mod_of_dvd _ (by decide), Nat.add_mod,
    Nat.mod_mod_of_dvd _ (by decide), ← Nat.add_mod, Nat.mul_comm]
  rfl

theorem nextSeed_iterate (seed : Word) (n : ℕ) :
    (nextSeed^[n] seed).toNat = (next 1103515245 12345 31)^[n] seed.toNat := by
  induction n with
  | zero => rfl
  | succ n ih => rw [Function.iterate_succ_apply', Function.iterate_succ_apply', nextSeed_toNat, ih]

theorem randBeebs_toNat (seed : Word) (n : ℕ) : (randBeebs (nextSeed^[n] seed)).1.toNat =
    (next 1103515245 12345 31)^[n+1] seed.toNat / 2 ^ 16 := by
  rw [← nextSeed_iterate, Function.iterate_succ_apply', randBeebs, BitVec.toNat_ushiftRight,
    Nat.shiftRight_eq_div_pow]

/-- In `2 ^ 31` calls every seed comes up once, and every number equally often. -/
structure Uniform (seed : Word) : Prop where
  seeds : ∀ y < 2 ^ 31, ∃! n, n < 2 ^ 31 ∧ (nextSeed^[n+1] seed).toNat = y
  bound : ∀ n, (randBeebs (nextSeed^[n] seed)).1.toNat < 2 ^ 15
  numbers : ∀ v < 2 ^ 15, ((Finset.range (2 ^ 31)).filter
    (fun n => (randBeebs (nextSeed^[n] seed)).1.toNat = v)).card = 2 ^ 16

theorem rand_uniform (seed : Word) : Uniform seed where
  seeds y hy := by
    simp only [nextSeed_iterate]
    exact full_period (by decide) (by decide) seed.toNat y hy
  bound n := by
    rw [randBeebs_toNat, Function.iterate_succ_apply']
    have hlt : next 1103515245 12345 31 ((next 1103515245 12345 31)^[n] seed.toNat) < 2 ^ 31 :=
      Nat.mod_lt _ (Nat.two_pow_pos 31)
    rw [Nat.div_lt_iff_lt_mul (Nat.two_pow_pos 16), ← pow_add]
    exact hlt
  numbers v hv := by
    simp only [randBeebs_toNat]
    have hcount := period_count (k := 31) (show 1103515245 % 4 = 1 by decide)
      (show 12345 % 2 = 1 by decide) seed.toNat (fun y => y / 2 ^ 16 = v)
    exact hcount.trans (high_count (j := 15) (l := 16) hv)

end IbexAxi4l.Beebsc
