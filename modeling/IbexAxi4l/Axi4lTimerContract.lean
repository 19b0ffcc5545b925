import Mathlib.Algebra.Ring.Nat
import IbexAxi4l.Axi4lTimer

set_option autoImplicit false

/-!
# The AXI4-Lite timer keeps time

Every result holds in every run from reset, whatever the master does on any channel.
-/
namespace IbexAxi4l.Axi4lTimer
open EventLog ReadyValid AxiLite ByteLanes RegisterSlave Journal

def compareByte (b : ℕ) (c : WriteChannel.Write) : Option (BitVec 8) :=
  if offset c.addr = (if b < 4 then mtimecmpAddr else mtimecmphAddr) ∧
      c.strb.getLsbD (b % 4) = true then
    some (byte c.data (b % 4))
  else none

/-- Bit 1 of the offset selects the register, bit 0 its half. -/
def half (mtime mtimecmp : BitVec 64) (o : BitVec 10) : Data :=
  (if o.getLsbD 1 then mtimecmp else mtime).extractLsb' (if o.getLsbD 0 then 32 else 0) 32

theorem check_eq_okay {addr : Addr} : check addr = .okay ↔
    offset addr = mtimeAddr ∨ offset addr = mtimehAddr ∨ offset addr = mtimecmpAddr ∨
      offset addr = mtimecmphAddr := by
  unfold check
  split_ifs with h <;> simp [h]

theorem byte_store (c : WriteChannel.Write) (m : BitVec 64) {b : ℕ} (hb : b < 8) :
    byte (store c m) b = (compareByte b c).getD (byte m b) := by
  have hword : 8 * b + 8 ≤ 64 := by omega
  have hne : mtimecmphAddr ≠ mtimecmpAddr := by decide
  unfold store compareByte
  by_cases hlow : b < 4
  · have hmod : b % 4 = b := Nat.mod_eq_of_lt hlow
    have hhigh : ¬ 4 ≤ b := by omega
    by_cases h2 : offset c.addr = mtimecmpAddr
    · rw [if_pos h2, byte_strobe _ _ _ _ _ hword]
      rw [hmod, Nat.sub_zero]
      generalize c.strb.getLsbD b = selected
      cases selected <;> simp [h2, hlow]
    · by_cases h3 : offset c.addr = mtimecmphAddr
      · rw [if_neg h2, if_pos h3, byte_strobe _ _ _ _ _ hword]
        simp [h3, hlow, hhigh, hne]
      · simp [h2, h3, hlow]
  · have hmod : b % 4 = b - 4 := by omega
    have hhigh : 4 ≤ b := by omega
    by_cases h2 : offset c.addr = mtimecmpAddr
    · rw [if_pos h2, byte_strobe _ _ _ _ _ hword]
      simp [h2, hlow, hne.symm]
    · by_cases h3 : offset c.addr = mtimecmphAddr
      · rw [if_neg h2, if_pos h3, byte_strobe _ _ _ _ _ hword]
        rw [hmod]
        generalize c.strb.getLsbD (b - 4) = selected
        cases selected <;> simp [h3, hlow, hhigh, hb]
      · simp [h2, h3, hlow]

theorem readReg_mapped (s : Regs) {addr : Addr} (h : check addr = .okay) :
    readReg s addr = half s.mtime s.mtimecmp (offset addr) := by
  unfold readReg half
  rcases check_eq_okay.1 h with ho | ho | ho | ho <;> rw [ho] <;> rfl

section Run
variable (r : Run axi4lTimer)

structure TimerLaw : Prop where
  writes : WriteChannel.ExactlyOnce (fun t => (r.state t).write) (trace r).port
  compare : ∀ t b, b < 8 → byte (r.state t).mtimecmp b =
    (latest (compareByte b) (log (trace r).commits t)).getD 0xff
  keeps : ∀ t, (∀ c, (trace r).commits t = some c →
      offset c.addr ≠ mtimecmpAddr ∧ offset c.addr ≠ mtimecmphAddr) →
    (r.state (t+1)).mtimecmp = (r.state t).mtimecmp
  counts : ∀ t, (r.state (t+1)).mtime.toNat = ((r.state t).mtime.toNat + 1) % 2 ^ 64
  irq : ∀ t, (r.output t).irq = true ↔ (r.state t).mtimecmp.toNat ≤ (r.state t).mtime.toNat
  reads : ∀ k t, (trace r).port.r.Shown k t → ∃ ta ts a, ReadAt check (trace r) k ta ts a ∧
    (check a = .okay →
      (trace r).load ts a = half (r.state ts).mtime (r.state ts).mtimecmp (offset a))

theorem follows : Follows store (trace r).commits (fun t => (r.state t).mtimecmp) :=
  (drives r).follows

theorem mtime_succ (t : ℕ) : (r.state (t+1)).mtime = (r.state t).mtime + 1 := rfl

theorem irq_iff (t : ℕ) :
    (r.output t).irq = true ↔ (r.state t).mtimecmp.toNat ≤ (r.state t).mtime.toNat := by
  change decide ((r.state t).mtimecmp ≤ (r.state t).mtime) = true ↔ _
  rw [decide_eq_true_eq, BitVec.le_def]

theorem store_other {c : WriteChannel.Write} (h2 : offset c.addr ≠ mtimecmpAddr)
    (h3 : offset c.addr ≠ mtimecmphAddr) (m : BitVec 64) : store c m = m := by
  unfold store
  rw [if_neg h2, if_neg h3]

theorem mtimecmp_kept {s t : ℕ} (hst : s ≤ t)
    (hquiet : ∀ u, s ≤ u → u < t → ∀ c, (trace r).commits u = some c →
      offset c.addr ≠ mtimecmpAddr ∧ offset c.addr ≠ mtimecmphAddr) :
    (r.state t).mtimecmp = (r.state s).mtimecmp := by
  apply (follows r).kept id hst
  intro u hs ht c hc
  have hne := hquiet u hs ht c hc
  exact store_other hne.1 hne.2 _

theorem compare_byte (t : ℕ) {b : ℕ} (hb : b < 8) : byte (r.state t).mtimecmp b =
    (latest (compareByte b) (log (trace r).commits t)).getD 0xff := by
  have hstart : byte (r.state 0).mtimecmp b = 0xff := by
    apply BitVec.eq_of_getLsbD_eq
    intro i hi
    change (byte (BitVec.allOnes 64) b).getLsbD i = (BitVec.allOnes 8).getLsbD i
    unfold byte
    rw [BitVec.getLsbD_extractLsb', BitVec.getLsbD_allOnes, BitVec.getLsbD_allOnes]
    simp only [hi, decide_true, Bool.true_and, decide_eq_true_eq]
    omega
  have hput (c : WriteChannel.Write) (m : BitVec 64) := byte_store c m hb
  have hget := (follows r).get_eq (fun m => byte m b) (compareByte b) hput t
  rw [hget, hstart]

theorem timer_law : TimerLaw r where
  writes := (drives r).answers.writes
  compare t b hb := compare_byte r t hb
  keeps t hquiet := by
    apply mtimecmp_kept r (Nat.le_succ t)
    intro u hs ht c hc
    have htime : u = t := by omega
    subst htime
    exact hquiet c hc
  counts t := by
    rw [mtime_succ, BitVec.toNat_add]
    rfl
  irq := irq_iff r
  reads k t hs := by
    rcases (drives r).read_at hs with ⟨ta, ts, a, hread⟩
    exact ⟨ta, ts, a, hread, readReg_mapped (r.state ts)⟩

end Run

def Holds (c : WriteChannel.Write) (off : ℕ) (x : BitVec 64) : Prop :=
  ∀ b < 4, c.strb.getLsbD b = true → byte x (off + b) = byte c.data b

/-- The addressed register holds what the write selects and writes, the running `mtime` up
to one increment. -/
structure TakesEffect (r : Run axi4lTimer) (tc : ℕ) (c : WriteChannel.Write) : Prop where
  mtime : offset c.addr = mtimeAddr →
    Holds c 0 (r.state (tc+1)).mtime ∨ Holds c 0 ((r.state (tc+1)).mtime - 1)
  mtimeh : offset c.addr = mtimehAddr →
    Holds c 4 (r.state (tc+1)).mtime ∨ Holds c 4 ((r.state (tc+1)).mtime - 1)
  mtimecmp : offset c.addr = mtimecmpAddr → Holds c 0 (r.state (tc+1)).mtimecmp
  mtimecmph : offset c.addr = mtimecmphAddr → Holds c 4 (r.state (tc+1)).mtimecmp

def Ignored (r : Run axi4lTimer) (tc : ℕ) : Prop :=
  (r.state (tc+1)).mtimecmp = (r.state tc).mtimecmp ∧
    (r.state (tc+1)).mtime = (r.state tc).mtime + 1

/-- Write `k`, made in cycle `tc`, by the response that it is given. -/
structure WriteLaw (r : Run axi4lTimer) (k tc : ℕ) (c : WriteChannel.Write) : Prop where
  answered : (trace r).port.b.Shown k (tc+1)
  okay : ∀ t, (trace r).port.b.Shown k t → ((trace r).port.slave t).bresp = .okay →
    (offset c.addr = mtimeAddr ∨ offset c.addr = mtimehAddr) ∧ Ignored r tc ∨
      offset c.addr = mtimecmpAddr ∧ Holds c 0 (r.state (tc+1)).mtimecmp ∨
      offset c.addr = mtimecmphAddr ∧ Holds c 4 (r.state (tc+1)).mtimecmp
  error : ∀ t, (trace r).port.b.Shown k t → ((trace r).port.slave t).bresp = .slverr →
    Ignored r tc

theorem holds_store_low {c : WriteChannel.Write} (ho : offset c.addr = mtimecmpAddr)
    (m : BitVec 64) : Holds c 0 (store c m) := by
  intro b hb hs
  have hput : compareByte (0 + b) c = some (byte c.data b) := by
    unfold compareByte
    rw [Nat.zero_add, if_pos hb, Nat.mod_eq_of_lt hb, if_pos ⟨ho, hs⟩]
  rw [byte_store c m (by omega), hput]
  rfl

theorem holds_store_high {c : WriteChannel.Write} (ho : offset c.addr = mtimecmphAddr)
    (m : BitVec 64) : Holds c 4 (store c m) := by
  intro b hb hs
  have hhigh : ¬ 4 + b < 4 := by omega
  have hmod : (4 + b) % 4 = b := by omega
  have hput : compareByte (4 + b) c = some (byte c.data b) := by
    unfold compareByte
    rw [if_neg hhigh, hmod, if_pos ⟨ho, hs⟩]
  rw [byte_store c m (by omega), hput]
  rfl

theorem ignored_of_other {r : Run axi4lTimer} {tc : ℕ} {c : WriteChannel.Write}
    (hc : (trace r).commits tc = some c) (h2 : offset c.addr ≠ mtimecmpAddr)
    (h3 : offset c.addr ≠ mtimecmphAddr) : Ignored r tc := by
  have hstep := (follows r).commit hc
  exact ⟨hstep.trans (store_other h2 h3 _), rfl⟩

/-- A write to `mtimecmp` takes effect; one to `mtime` is acknowledged and ignored. -/
theorem acknowledged (r : Run axi4lTimer) (k tc : ℕ) (c : WriteChannel.Write)
    (hc : Nth (trace r).commits k tc c) : WriteLaw r k tc c where
  answered := (drives r).answered hc
  okay t hs hresp := by
    rw [(drives r).status hc hs] at hresp
    have hstep := (follows r).commit hc.occurs
    have hvalue : (r.state (tc+1)).mtimecmp = store c (r.state tc).mtimecmp := hstep
    rcases check_eq_okay.1 hresp with ho | ho | ho | ho
    · refine Or.inl ⟨Or.inl ho, ignored_of_other hc.occurs ?_ ?_⟩ <;> rw [ho] <;> decide
    · refine Or.inl ⟨Or.inr ho, ignored_of_other hc.occurs ?_ ?_⟩ <;> rw [ho] <;> decide
    · refine Or.inr (Or.inl ⟨ho, ?_⟩)
      rw [hvalue]
      exact holds_store_low ho _
    · refine Or.inr (Or.inr ⟨ho, ?_⟩)
      rw [hvalue]
      exact holds_store_high ho _
  error t hs hresp := by
    rw [(drives r).status hc hs] at hresp
    have hnot : ¬ check c.addr = .okay := by
      rw [hresp]
      decide
    rw [check_eq_okay] at hnot
    push Not at hnot
    exact ignored_of_other hc.occurs hnot.2.2.1 hnot.2.2.2

def anyRegs : Regs where
  write := ⟨false, false, true, 0, 0, 0⟩
  read := ⟨false, true, 0⟩
  bresp := .slverr
  rresp := .slverr
  rdata := 0
  mtime := 7
  mtimecmp := 0

def timeWrite : Run axi4lTimer where
  before := anyRegs
  resetInput := .idle
  input := fun
    | 0 => (AxiMaster.idle.withAw 0x10004000).withW 0x12345678 0b1111
    | _ => .idle

theorem timeWrite_commit : Nth (trace timeWrite).commits 0 0 ⟨0x10004000, 0x12345678, 0b1111⟩ :=
  ⟨by decide, by decide⟩

theorem timeWrite_acknowledged : WriteLaw timeWrite 0 0 ⟨0x10004000, 0x12345678, 0b1111⟩ :=
  acknowledged timeWrite 0 0 _ timeWrite_commit

theorem timeWrite_ineffective : ¬ ∀ (r : Run axi4lTimer) (k tc t : ℕ) (c : WriteChannel.Write),
    Nth (trace r).commits k tc c → (trace r).port.b.Shown k t →
    ((trace r).port.slave t).bresp = .okay → TakesEffect r tc c := by
  intro h
  have heffect := h timeWrite 0 0 1 _ timeWrite_commit ⟨by decide, by decide⟩ (by decide)
  rcases heffect.mtime (by decide) with hnow | hlater
  · exact absurd (hnow 0 (by decide) (by decide)) (by decide)
  · exact absurd (hlater 0 (by decide) (by decide)) (by decide)

end IbexAxi4l.Axi4lTimer
