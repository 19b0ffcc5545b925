import IbexAxi4l.Axi4lTimer
import IbexAxi4l.LedFirmware

set_option autoImplicit false

/-!
# Reading a running 64-bit counter in two words

The loop of `main` reads the high word, the low word and the high word again until both high
words agree, from a counter that advances in every cycle.
-/
namespace IbexAxi4l.TimeRead
open ReadyValid AxiLite ByteLanes BusProgram Axi4lTimer LedFirmware

def highAfter (m n : ℕ) : ℕ := (m + n) % 2 ^ 64 / 2 ^ 32

/-- High words that agree at both ends of less than 2^63 cycles agree in between. -/
theorem highAfter_between {m a b : ℕ} (hm : m < 2 ^ 64) (hab : a ≤ b) (hb : b < 2 ^ 63)
    (hsame : highAfter m b = highAfter m 0) : highAfter m a = highAfter m 0 := by
  unfold highAfter at hsame ⊢
  omega

theorem highAfter_after_carry {m b c d : ℕ} (hbc : b ≤ c) (hcd : c ≤ d) (hd : d < 2 ^ 32)
    (hcarry : highAfter m b ≠ highAfter m 0) : highAfter m d = highAfter m c := by
  unfold highAfter at hcarry ⊢
  omega

/-- The two words as `mtimeh * 0x100000000UL + mtimel`. -/
theorem words_eq {high low : Data} {x : BitVec 64} (hhigh : high = highWord x)
    (hlow : low = lowWord x) : high.setWidth 64 * 0x100000000 + low.setWidth 64 = x := by
  apply BitVec.eq_of_toNat_eq
  have hx := x.isLt
  have htop : (0x100000000 : BitVec 64).toNat = 2 ^ 32 := rfl
  have hh : (high.setWidth 64).toNat = x.toNat / 2 ^ 32 := by
    rw [BitVec.toNat_setWidth, hhigh, toNat_highWord]
    exact Nat.mod_eq_of_lt (by omega)
  have hl : (low.setWidth 64).toNat = x.toNat % 2 ^ 32 := by
    rw [BitVec.toNat_setWidth, hlow, toNat_lowWord]
    exact Nat.mod_eq_of_lt (by omega)
  rw [BitVec.toNat_add, BitVec.toNat_mul, hh, hl, htop]
  omega

/-- `answer` says what addresses read as, and `time` is what the two words of `mtime` do. -/
structure Clock (time : ℕ → BitVec 64) (answer : ℕ → Addr → Data) : Prop where
  advances : ∀ t, time (t+1) = time t + 1
  low : ∀ t, answer t mtime = lowWord (time t)
  high : ∀ t, answer t mtimeh = highWord (time t)

section Clock
variable {time : ℕ → BitVec 64} {answer : ℕ → Addr → Data}

theorem Clock.time_after (h : Clock time answer) (t n : ℕ) :
    (time (t+n)).toNat = ((time t).toNat + n) % 2 ^ 64 := by
  induction n with
  | zero => exact (Nat.mod_eq_of_lt (time t).isLt).symm
  | succ n ih =>
    have hone : (1 : BitVec 64).toNat = 1 := rfl
    rw [← Nat.add_assoc, h.advances, BitVec.toNat_add, ih, hone]
    omega

theorem Clock.toNat_high (h : Clock time answer) (t n : ℕ) :
    (answer (t+n) mtimeh).toNat = highAfter (time t).toNat n := by
  rw [h.high, toNat_highWord, h.time_after]
  rfl

variable (answer) (sched : Schedule)

theorem eval_readMtimeOnce (fuel n : ℕ) : readMtimeOnce.eval answer sched fuel n =
    some (if answer (sched.cycle (n+2)) mtimeh ≠ answer (sched.cycle n) mtimeh then none
      else some (answer (sched.cycle n) mtimeh, answer (sched.cycle (n+1)) mtime), n+3) := rfl

theorem eval_readMtime (fuel n : ℕ) : readMtime.eval answer sched fuel n =
    (repeatStep (readMtimeOnce.eval answer sched fuel) fuel n).bind
      (fun (words, m) =>
        some (words.1.setWidth 64 * 0x100000000 + words.2.setWidth 64, m)) := rfl

variable {answer sched}

theorem readMtimeOnce_some {fuel l m : ℕ} {words : Data × Data}
    (h : readMtimeOnce.eval answer sched fuel l = some (some words, m)) :
    m = l + 3 ∧ answer (sched.cycle (l+2)) mtimeh = answer (sched.cycle l) mtimeh ∧
      words = (answer (sched.cycle l) mtimeh, answer (sched.cycle (l+1)) mtime) := by
  rw [eval_readMtimeOnce] at h
  simp only [Option.some.injEq, Prod.mk.injEq] at h
  split_ifs at h with hne
  · exact absurd h.1 (by simp)
  · exact ⟨h.2.symm, not_not.1 hne, (Option.some.inj h.1).symm⟩

theorem readMtimeOnce_none {fuel l m : ℕ}
    (h : readMtimeOnce.eval answer sched fuel l = some (none, m)) : m = l + 3 := by
  rw [eval_readMtimeOnce] at h
  simp only [Option.some.injEq, Prod.mk.injEq] at h
  exact h.2.symm

theorem Clock.words_of_same (h : Clock time answer) {l : ℕ}
    (hsame : answer (sched.cycle (l+2)) mtimeh = answer (sched.cycle l) mtimeh)
    (hspan : sched.cycle (l+2) - sched.cycle l < 2 ^ 63) :
    (answer (sched.cycle l) mtimeh).setWidth 64 * 0x100000000 +
      (answer (sched.cycle (l+1)) mtime).setWidth 64 = time (sched.cycle (l+1)) := by
  have hfirst := sched.lt (show l < l + 1 by omega)
  have hsecond := sched.lt (show l + 1 < l + 2 by omega)
  obtain ⟨a, ha⟩ : ∃ a, sched.cycle (l+1) = sched.cycle l + a :=
    ⟨sched.cycle (l+1) - sched.cycle l, by omega⟩
  obtain ⟨b, hb⟩ : ∃ b, sched.cycle (l+2) = sched.cycle l + b :=
    ⟨sched.cycle (l+2) - sched.cycle l, by omega⟩
  have hstart := h.toNat_high (sched.cycle l) 0
  have hmiddle := h.toNat_high (sched.cycle l) a
  have hend := h.toNat_high (sched.cycle l) b
  rw [← hb, hsame] at hend
  have hbetween := highAfter_between (time (sched.cycle l)).isLt (show a ≤ b by omega) (by omega)
    (hend.symm.trans hstart)
  apply words_eq
  · rw [← h.high, ha]
    apply BitVec.eq_of_toNat_eq
    rw [hmiddle, hbetween]
    exact hstart
  · exact h.low _

/-- Of two passes in less than 2^32 cycles one ends the loop. -/
theorem Clock.one_pass_ends (h : Clock time answer) {n : ℕ}
    (hspan : sched.cycle (n+5) - sched.cycle n < 2 ^ 32)
    (hmore : answer (sched.cycle (n+2)) mtimeh ≠ answer (sched.cycle n) mtimeh) :
    answer (sched.cycle (n+5)) mtimeh = answer (sched.cycle (n+3)) mtimeh := by
  have hfirst := sched.lt (show n < n + 2 by omega)
  have hpause := sched.lt (show n + 2 < n + 3 by omega)
  have hsecond := sched.lt (show n + 3 < n + 5 by omega)
  obtain ⟨b, hb⟩ : ∃ b, sched.cycle (n+2) = sched.cycle n + b :=
    ⟨sched.cycle (n+2) - sched.cycle n, by omega⟩
  obtain ⟨c, hc⟩ : ∃ c, sched.cycle (n+3) = sched.cycle n + c :=
    ⟨sched.cycle (n+3) - sched.cycle n, by omega⟩
  obtain ⟨d, hd⟩ : ∃ d, sched.cycle (n+5) = sched.cycle n + d :=
    ⟨sched.cycle (n+5) - sched.cycle n, by omega⟩
  have hcarry : highAfter (time (sched.cycle n)).toNat b ≠
      highAfter (time (sched.cycle n)).toNat 0 := by
    rw [← h.toNat_high, ← h.toNat_high, ← hb]
    intro heq
    exact hmore (BitVec.eq_of_toNat_eq heq)
  have hlast := highAfter_after_carry (show b ≤ c by omega) (show c ≤ d by omega) (by omega)
    hcarry
  apply BitVec.eq_of_toNat_eq
  rw [hd, hc, h.toNat_high, h.toNat_high, hlast]

theorem Clock.last_pass (h : Clock time answer) {fuel fuel' n l : ℕ} {words : Data × Data}
    (hloop : repeatStep (readMtimeOnce.eval answer sched fuel) fuel' n = some (words, l)) :
    ∃ i, l = n + 3 * i + 3 ∧
      (sched.cycle (n + 3 * i + 2) - sched.cycle (n + 3 * i) < 2 ^ 63 →
        words.1.setWidth 64 * 0x100000000 + words.2.setWidth 64 =
          time (sched.cycle (n + 3 * i + 1))) := by
  have hinv (p q : ℕ) (hp : ∃ i, p = n + 3 * i)
      (hpass : readMtimeOnce.eval answer sched fuel p = some (none, q)) :
      ∃ i, q = n + 3 * i := by
    rcases hp with ⟨i, hi⟩
    have hq := readMtimeOnce_none hpass
    exact ⟨i + 1, by omega⟩
  rcases repeatStep_last hinv ⟨0, rfl⟩ hloop with ⟨p, ⟨i, hi⟩, hpass⟩
  rcases readMtimeOnce_some hpass with ⟨hl, hsame, hwords⟩
  subst hi
  refine ⟨i, hl, ?_⟩
  intro hspan
  rw [hwords]
  exact h.words_of_same hsame hspan

/-- The value that the loop returns, and the access that it is the time of. -/
theorem Clock.read_exact (h : Clock time answer) {fuel n m : ℕ} {x : BitVec 64}
    (hread : readMtime.eval answer sched fuel n = some (x, m)) : ∃ i, m = n + 3 * i + 3 ∧
      (sched.cycle (n + 3 * i + 2) - sched.cycle (n + 3 * i) < 2 ^ 63 →
        x = time (sched.cycle (n + 3 * i + 1))) := by
  rw [eval_readMtime] at hread
  rcases hloop : repeatStep (readMtimeOnce.eval answer sched fuel) fuel n with _ | ⟨words, l⟩
  · simp [hloop] at hread
  rw [hloop] at hread
  have hvalue : some (words.1.setWidth 64 * 0x100000000 + words.2.setWidth 64, l) =
    some (x, m) := hread
  simp only [Option.some.injEq, Prod.mk.injEq] at hvalue
  rw [← hvalue.1, ← hvalue.2]
  exact h.last_pass hloop

end Clock

section Timer
variable (start : Regs) (input : ℕ → AxiMaster)

def regs (t : ℕ) : Regs := axi4lTimer.states start input t

def answer (t : ℕ) (a : Addr) : Data := readReg (regs start input t) a

theorem readReg_mtime (s : Regs) : readReg s mtime = lowWord s.mtime := extractLsb'_low _

theorem readReg_mtimeh (s : Regs) : readReg s mtimeh = highWord s.mtime := extractLsb'_high _

theorem clock : Clock (fun t => (regs start input t).mtime) (answer start input) where
  advances _ := rfl
  low _ := readReg_mtime _
  high _ := readReg_mtimeh _

end Timer

/-- Read `n` of the schedule is the first of the loop. The value is that of `mtime` when its
last low word is sampled, and two passes are enough if they take less than 2^32 cycles. -/
structure NeverTorn (start : Regs) (input : ℕ → AxiMaster) (sched : Schedule) : Prop where
  exact : ∀ fuel n x m, readMtime.eval (answer start input) sched fuel n = some (x, m) →
    ∃ i, m = n + 3 * i + 3 ∧
      (sched.cycle (n + 3 * i + 2) - sched.cycle (n + 3 * i) < 2 ^ 63 →
        x = (regs start input (sched.cycle (n + 3 * i + 1))).mtime)
  ends : ∀ n, sched.cycle (n+5) - sched.cycle n < 2 ^ 32 →
    ∃ x m, readMtime.eval (answer start input) sched 2 n = some (x, m) ∧ m ≤ n + 6

theorem never_torn (start : Regs) (input : ℕ → AxiMaster) (sched : Schedule) :
    NeverTorn start input sched where
  exact _ _ _ _ h := (clock start input).read_exact h
  ends n hspan := by
    rw [eval_readMtime]
    unfold repeatStep
    rw [eval_readMtimeOnce]
    by_cases hmore : answer start input (sched.cycle (n+2)) mtimeh ≠
        answer start input (sched.cycle n) mtimeh
    · have hsame := (clock start input).one_pass_ends hspan hmore
      rw [if_pos hmore]
      unfold repeatStep
      rw [Option.bind_some]
      simp only [Option.elim_none]
      rw [eval_readMtimeOnce, if_neg (not_not.2 hsame)]
      exact ⟨_, _, rfl, by omega⟩
    · rw [if_neg hmore]
      exact ⟨_, _, rfl, by omega⟩

end IbexAxi4l.TimeRead
