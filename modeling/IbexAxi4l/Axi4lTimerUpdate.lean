import IbexAxi4l.Axi4lTimerContract

set_option autoImplicit false

/-!
# Updating `mtimecmp` by three writes

`0xffffffff` into the low half, the new high half, the new low half. The first two leave a
value that is not below the old one, or not below the new one.
-/
namespace IbexAxi4l.Axi4lTimer
open EventLog ReadyValid AxiLite ByteLanes RegisterSlave Journal

/-- `mtimecmp` after `j` of the three writes. -/
def staged (old new : BitVec 64) : ℕ → BitVec 64
  | 0 => old
  | 1 => highWord old ++ 0xffffffff#32
  | 2 => highWord new ++ 0xffffffff#32
  | _ => new

def stageOffset (j : ℕ) : BitVec 10 := if j = 1 then mtimecmphAddr else mtimecmpAddr

def stageData (new : BitVec 64) (j : ℕ) : Data :=
  if j = 0 then 0xffffffff else if j = 1 then highWord new else lowWord new

theorem store_low {c : WriteChannel.Write} (ho : offset c.addr = mtimecmpAddr)
    (hs : c.strb = 0b1111) (m : BitVec 64) : store c m = highWord m ++ c.data := by
  unfold store
  rw [if_pos ho, hs]
  exact strobe_full_low _ _

theorem store_high {c : WriteChannel.Write} (ho : offset c.addr = mtimecmphAddr)
    (hs : c.strb = 0b1111) (m : BitVec 64) : store c m = c.data ++ lowWord m := by
  have hne : offset c.addr ≠ mtimecmpAddr := by
    rw [ho]
    decide
  unfold store
  rw [if_neg hne, if_pos ho, hs]
  exact strobe_full_high _ _

theorem store_staged {c : WriteChannel.Write} {old new : BitVec 64} {j : ℕ} (hj : j < 3)
    (ho : offset c.addr = stageOffset j) (hd : c.data = stageData new j)
    (hs : c.strb = 0b1111) : store c (staged old new j) = staged old new (j+1) := by
  have hcases : j = 0 ∨ j = 1 ∨ j = 2 := by omega
  rcases hcases with rfl | rfl | rfl
  · rw [store_low ho hs, hd]
    rfl
  · rw [store_high ho hs, hd]
    simp [staged, stageData]
  · rw [store_low ho hs, hd]
    simp [staged, stageData, append_words]

theorem le_highWord_append (x : BitVec 64) :
    x.toNat ≤ (highWord x ++ 0xffffffff#32).toNat := by
  have hmax : (0xffffffff#32).toNat = 2 ^ 32 - 1 := rfl
  rw [toNat_append_word, toNat_highWord, hmax]
  omega

theorem le_staged (old new : BitVec 64) {j : ℕ} (hj : j ≤ 2) :
    old.toNat ≤ (staged old new j).toNat ∨ new.toNat ≤ (staged old new j).toNat := by
  have hcases : j = 0 ∨ j = 1 ∨ j = 2 := by omega
  rcases hcases with rfl | rfl | rfl
  · exact Or.inl (Nat.le_refl _)
  · exact Or.inl (le_highWord_append old)
  · exact Or.inr (le_highWord_append new)

section Run
variable (r : Run axi4lTimer)

structure Sends (k : ℕ) (o : BitVec 10) (d : Data) : Prop where
  address : ∃ ta a, Nth (trace r).port.awAddr k ta a ∧ offset a = o
  data : ∃ td, Nth (trace r).port.w.beat k td ⟨d, 0b1111⟩

/-- Writes `k`, `k+1` and `k+2` are the three that set `mtimecmp` to `new`. -/
structure Update (k : ℕ) (new : BitVec 64) : Prop where
  low : Sends r k mtimecmpAddr 0xffffffff
  high : Sends r (k+1) mtimecmphAddr (highWord new)
  last : Sends r (k+2) mtimecmpAddr (lowWord new)

variable {r}

theorem Sends.commit {k t : ℕ} {o : BitVec 10} {d : Data} {c : WriteChannel.Write}
    (h : Sends r k o d) (hc : Nth (trace r).commits k t c) :
    offset c.addr = o ∧ c.data = d ∧ c.strb = 0b1111 := by
  have honce := (drives r).answers.writes
  rcases honce.address k t c hc with ⟨ta, -, ha⟩
  rcases honce.data k t c hc with ⟨td, -, hd⟩
  rcases h.address with ⟨ta', a, ha', ho⟩
  rcases h.data with ⟨td', hd'⟩
  have haddr := ha.value_unique ha'
  have hbeat := hd.value_unique hd'
  refine ⟨?_, congrArg WriteBeat.data hbeat, congrArg WriteBeat.strb hbeat⟩
  rw [haddr, ho]

theorem Update.sends {k j : ℕ} {new : BitVec 64} (h : Update r k new) (hj : j < 3) :
    Sends r (k+j) (stageOffset j) (stageData new j) := by
  have hcases : j = 0 ∨ j = 1 ∨ j = 2 := by omega
  rcases hcases with rfl | rfl | rfl
  · exact h.low
  · exact h.high
  · exact h.last

theorem Update.value {k s t j : ℕ} {new : BitVec 64} (h : Update r k new)
    (hs : count (trace r).commits s = k) (hst : s ≤ t) (hj : j ≤ 3)
    (ht : count (trace r).commits t = k + j) :
    (r.state t).mtimecmp = staged (r.state s).mtimecmp new j := by
  induction t, hst using Nat.le_induction generalizing j with
  | base =>
    have hzero : j = 0 := by omega
    subst hzero
    rfl
  | succ t hst ih =>
    cases hc : (trace r).commits t with
    | none =>
      rw [count_succ_none hc] at ht
      exact ((follows r).idle hc).trans (ih hj ht)
    | some c =>
      rw [count_succ_some hc] at ht
      have hmono := count_mono (trace r).commits hst
      obtain ⟨i, rfl⟩ : ∃ i, j = i + 1 := ⟨j - 1, by omega⟩
      have hcount : count (trace r).commits t = k + i := by omega
      have hsent := (h.sends (show i < 3 by omega)).commit ⟨hc, hcount⟩
      have hstep : (r.state (t+1)).mtimecmp = store c (r.state t).mtimecmp := (follows r).commit hc
      rw [hstep, ih (by omega) hcount]
      exact store_staged (by omega) hsent.1 hsent.2.1 hsent.2.2

/-- No interrupt that neither the old nor the new value calls for, and the new value from the
last write on. -/
structure RaisesNothing (r : Run axi4lTimer) (k : ℕ) (new : BitVec 64) : Prop where
  during : ∀ s t, count (trace r).commits s = k → s ≤ t → count (trace r).commits t ≤ k + 2 →
    (r.output t).irq = true →
    (r.state s).mtimecmp.toNat ≤ (r.state t).mtime.toNat ∨ new.toNat ≤ (r.state t).mtime.toNat
  programmed : ∀ tc c, Nth (trace r).commits (k+2) tc c → ∀ t, tc < t →
    (∀ u, tc < u → u < t → ∀ c', (trace r).commits u = some c' →
      offset c'.addr ≠ mtimecmpAddr ∧ offset c'.addr ≠ mtimecmphAddr) →
    (r.state t).mtimecmp = new ∧
      ((r.output t).irq = true ↔ new.toNat ≤ (r.state t).mtime.toNat)

theorem update_raises_nothing (r : Run axi4lTimer) (k : ℕ) (new : BitVec 64)
    (h : Update r k new) : RaisesNothing r k new where
  during s t hs hst hcount hirq := by
    have hmono := count_mono (trace r).commits hst
    obtain ⟨j, hj⟩ : ∃ j, count (trace r).commits t = k + j :=
      ⟨count (trace r).commits t - k, by omega⟩
    have hvalue := h.value hs hst (by omega) hj
    have hle := (irq_iff r t).1 hirq
    rw [hvalue] at hle
    rcases le_staged (r.state s).mtimecmp new (show j ≤ 2 by omega) with hold | hnew
    · exact Or.inl (by omega)
    · exact Or.inr (by omega)
  programmed tc c hc t ht hquiet := by
    have hk : k < count (trace r).commits tc := by
      rw [hc.index]
      omega
    rcases exists_nth hk with ⟨s, hs, x, hx⟩
    have hafter : count (trace r).commits (tc+1) = k + 3 := hc.count_succ
    have hnew := h.value hx.index (show s ≤ tc + 1 by omega) (Nat.le_refl 3) hafter
    have hkept : (r.state t).mtimecmp = (r.state (tc+1)).mtimecmp := mtimecmp_kept r ht hquiet
    have hvalue : (r.state t).mtimecmp = new := hkept.trans hnew
    have hirq := irq_iff r t
    rw [hvalue] at hirq
    exact ⟨hvalue, hirq⟩

end Run

/-- The three writes that set `mtimecmp` to 500000, the data of the second one late. -/
def threeWrites : Run axi4lTimer where
  before := anyRegs
  resetInput := .idle
  input := fun
    | 0 => (AxiMaster.idle.withAw 0x10004008).withW 0xffffffff 0b1111
    | 2 => AxiMaster.idle.withAw 0x1000400c
    | 3 => AxiMaster.idle.withW 0 0b1111
    | 5 => (AxiMaster.idle.withAw 0x10004008).withW 500000 0b1111
    | _ => .idle

theorem threeWrites_update : Update threeWrites 0 500000 where
  low := ⟨⟨0, 0x10004008, ⟨by decide, by decide⟩, by decide⟩, ⟨0, ⟨by decide, by decide⟩⟩⟩
  high := ⟨⟨2, 0x1000400c, ⟨by decide, by decide⟩, by decide⟩, ⟨3, ⟨by decide, by decide⟩⟩⟩
  last := ⟨⟨5, 0x10004008, ⟨by decide, by decide⟩, by decide⟩, ⟨5, ⟨by decide, by decide⟩⟩⟩

theorem threeWrites_raise_nothing : RaisesNothing threeWrites 0 500000 :=
  update_raises_nothing threeWrites 0 500000 threeWrites_update

end IbexAxi4l.Axi4lTimer
