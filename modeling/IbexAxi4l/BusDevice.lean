import IbexAxi4l.Axi4lDpramx32Contract
import IbexAxi4l.Axi4l2coreBeats
import IbexAxi4l.RegisterSlave

set_option autoImplicit false

/-!
# What the interconnect finds behind a slave port

A `Device` makes writes and takes samples in definite cycles. Each of them belongs to the
beats of its number, and its response says what was written or sampled. The RAM, the
register slaves and the slave port of `axi4l_dm_top` are devices.
-/
namespace IbexAxi4l.BusDevice
open EventLog ReadyValid AxiLite
open WriteChannel (Write)

structure Device (n : ℕ) where
  port : AxiPort
  commits : ℕ → Option Write
  samples : ℕ → Option Addr
  status : Addr → Resp
  load : ℕ → Addr → Data
  commit_addr : ∀ j t c, t < n → Nth commits j t c → ∃ s ≤ t, Nth port.awAddr j s c.addr
  commit_data : ∀ j t c, t < n → Nth commits j t c → ∃ s ≤ t, Nth port.w.beat j s c.beat
  sample_addr : ∀ j t a, t < n → Nth samples j t a → ∃ s ≤ t, Nth port.arAddr j s a
  b_shown : ∀ j t, t < n → port.b.Shown j t →
    ∃ s < t, ∃ c, Nth commits j s c ∧ port.b.data t = status c.addr
  r_shown : ∀ j t, t < n → port.r.Shown j t →
    ∃ s < t, ∃ a, Nth samples j s a ∧ port.r.data t = ⟨load s a, status a⟩

def ram (z : Axi4lDpramx32.RamSize) (r : Run (Axi4lDpramx32.axi4lDpramx32 z.size)) (n : ℕ) :
    Device n where
  port := Axi4lDpramx32.axiPort r
  commits := Axi4lDpramx32.commits r
  samples := Axi4lDpramx32.samples r
  status _ := .okay
  load t a := Axi4lDpramx32.mem r t (z.cell a)
  commit_addr j t c _ h := (Axi4lDpramx32.write_once r).address j t c h
  commit_data j t c _ h := (Axi4lDpramx32.write_once r).data j t c h
  sample_addr j t a _ h := (Axi4lDpramx32.read_once r).address j t a h
  b_shown j t _ h := by
    obtain ⟨s, hs, c, hc, -⟩ := (Axi4lDpramx32.write_once r).response j t h
    exact ⟨s, hs, c, hc, rfl⟩
  r_shown j t _ h := by
    obtain ⟨s, hs, a, ha, hdata⟩ := Axi4lDpramx32.sample_value h
    exact ⟨s, hs, a, ha, congrArg (ReadBeat.mk · .okay) hdata⟩

def registers {σ : Type} {check : Addr → Resp} {store : Write → σ → σ}
    {v : RegisterSlave.Trace σ} (h : RegisterSlave.Drives check store v) (n : ℕ) : Device n where
  port := v.port
  commits := v.commits
  samples := v.samples
  status := check
  load := v.load
  commit_addr j t c _ hc := h.answers.writes.address j t c hc
  commit_data j t c _ hc := h.answers.writes.data j t c hc
  sample_addr j t a _ ha := h.answers.reads.address j t a ha
  b_shown j t _ hs := by
    obtain ⟨s, hlt, c, hc, -⟩ := h.answers.writes.response j t hs
    exact ⟨s, hlt, c, hc, h.status hc hs⟩
  r_shown j t _ hs := h.response hs

/-- `slave_core` in `axi4l_dm_top`: only `rdata` comes from the debug module. -/
structure DmHookup (r : Run Axi4l2core.axi4l2core) (n : ℕ) : Prop where
  gnt : ∀ t < n, ((Axi4l2core.corePort r).slave t).gnt = true
  rvalid : ∀ t < n, ((Axi4l2core.corePort r).slave t).rvalid = true
  err : ∀ t < n, ((Axi4l2core.corePort r).slave t).err = false

section Dm
variable {r : Run Axi4l2core.axi4l2core} {n : ℕ}

def writeOf (q : Request) : Write := ⟨q.addr, q.wdata, q.be⟩

theorem DmHookup.firstAnswer (h : DmHookup r n) {s c : ℕ} (hc : c < n)
    (hfirst : Axi4l2core.FirstAnswer r s c) : c = s + 1 := by
  by_contra hne
  have hafter := hfirst.after
  have hlow := hfirst.first (s+1) (by omega) (by omega)
  rw [h.rvalid (s+1) (by omega)] at hlow
  exact absurd hlow (by decide)

/-- A write is made, and a read sampled, in the cycle in which the debug module sees `req`;
its `rdata` comes in the next cycle. -/
def dm (r : Run Axi4l2core.axi4l2core) (n : ℕ) (hookup : DmHookup r n)
    (hstable : (Axi4l2core.axiPort r).Stable n) : Device n where
  port := Axi4l2core.axiPort r
  commits t := ((Axi4l2core.corePort r).write t).map writeOf
  samples t := ((Axi4l2core.corePort r).read t).map Request.addr
  status _ := .okay
  load t _ := ((Axi4l2core.corePort r).slave (t+1)).rdata
  commit_addr j t c ht h := by
    obtain ⟨q, hq, rfl⟩ := nth_map_iff.1 h
    exact ⟨t, Nat.le_refl t, (Axi4l2core.nth_of_write hstable ht hq).1⟩
  commit_data j t c ht h := by
    obtain ⟨q, hq, rfl⟩ := nth_map_iff.1 h
    exact ⟨t, Nat.le_refl t, (Axi4l2core.nth_of_write hstable ht hq).2⟩
  sample_addr j t a ht h := by
    obtain ⟨q, hq, rfl⟩ := nth_map_iff.1 h
    exact ⟨t, Nat.le_refl t, Axi4l2core.nth_of_read hstable ht hq⟩
  b_shown j t ht h := by
    obtain ⟨s, q, c, hq, hfirst, hct, hdata⟩ := Axi4l2core.write_answered h
    have herr := hookup.err c (by omega)
    refine ⟨s, Nat.lt_of_lt_of_le hfirst.after hct, _, hq.map writeOf, ?_⟩
    rw [hdata, herr]
    rfl
  r_shown j t ht h := by
    obtain ⟨s, q, c, hq, hfirst, hct, hdata⟩ := Axi4l2core.read_answered h
    have herr := hookup.err c (by omega)
    have hnext := hookup.firstAnswer (by omega) hfirst
    refine ⟨s, Nat.lt_of_lt_of_le hfirst.after hct, _, hq.map Request.addr, ?_⟩
    rw [hdata, herr, hnext]
    rfl

end Dm

end IbexAxi4l.BusDevice
