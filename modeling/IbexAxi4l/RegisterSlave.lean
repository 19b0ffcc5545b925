import IbexAxi4l.Journal
import IbexAxi4l.WriteChannel
import IbexAxi4l.ReadChannel

set_option autoImplicit false

/-!
# Slaves with a few registers and an address check

What `axi4l_gpio`, `axi4l_timer` and `axi4l_led` have in common: the five channels, and the
status of a transaction, which is `check` of its address. `bresp`, `rresp` and `rdata` have
no reset. The registers that a write changes are the `stored` part of a slave, and `load` is
what a read of an address puts into `rdata`.
-/
namespace IbexAxi4l.RegisterSlave
open EventLog ReadyValid AxiLite Journal

/-- `addr[11:2]`, which the slaves decode. -/
def offset (addr : Addr) : BitVec 10 := addr.extractLsb' 2 10

structure BusRegs where
  write : WriteChannel.Regs
  read : ReadChannel.Regs
  bresp : Resp
  rresp : Resp
  rdata : Data

def busPosedge (check : Addr → Resp) (load : Addr → Data) (aresetn : Bool) (s : BusRegs)
    (axi : AxiMaster) : BusRegs where
  write := WriteChannel.posedge aresetn s.write axi
  read := ReadChannel.posedge aresetn s.read axi
  bresp := WriteChannel.bresp check s.write axi s.bresp
  rresp :=
    if ReadChannel.readEnable s.read axi then check (ReadChannel.raddr s.read axi) else s.rresp
  rdata :=
    if ReadChannel.readEnable s.read axi then load (ReadChannel.raddr s.read axi) else s.rdata

def busOut (s : BusRegs) : AxiSlave where
  awready := s.write.awready
  wready := s.write.wready
  bvalid := s.write.bvalid
  bresp := s.bresp
  arready := s.read.arready
  rvalid := s.read.rvalid
  rdata := s.rdata
  rresp := s.rresp

structure Trace (σ : Type) where
  port : AxiPort
  bus : ℕ → BusRegs
  stored : ℕ → σ
  load : ℕ → Addr → Data

section Trace
variable {σ : Type}

def Trace.commits (v : Trace σ) : ℕ → Option WriteChannel.Write :=
  WriteChannel.commits (fun t => (v.bus t).write) v.port

def Trace.samples (v : Trace σ) : ℕ → Option Addr :=
  ReadChannel.samples (fun t => (v.bus t).read) v.port

/-- The trace is one of a slave with this `check`, whose writes do `store`. -/
structure Drives (check : Addr → Resp) (store : WriteChannel.Write → σ → σ) (v : Trace σ) :
    Prop where
  start : ∃ load before axi, v.bus 0 = busPosedge check load false before axi
  step : ∀ t, v.bus (t+1) = busPosedge check (v.load t) true (v.bus t) (v.port.master t)
  slave : ∀ t, v.port.slave t = busOut (v.bus t)
  stored : ∀ t, v.stored (t+1) = (v.commits t).elim (v.stored t) (fun c => store c (v.stored t))

structure AnswersOnce (check : Addr → Resp) (store : WriteChannel.Write → σ → σ)
    (v : Trace σ) : Prop where
  writes : WriteChannel.ExactlyOnce (fun t => (v.bus t).write) v.port
  reads : ReadChannel.ExactlyOnce (fun t => (v.bus t).read) v.port
  stored : ∀ t, v.stored (t+1) = (v.commits t).elim (v.stored t) (fun c => store c (v.stored t))
  bresp : ∀ k t, v.port.b.Shown k t →
    ∃ ta < t, ∃ a, Nth v.port.awAddr k ta a ∧ (v.port.slave t).bresp = check a
  rresp : ∀ k t, v.port.r.Shown k t →
    ∃ ta < t, ∃ a, Nth v.port.arAddr k ta a ∧ (v.port.slave t).rresp = check a
  readCount : ∀ t, count v.port.ar.beat t = count v.port.r.beat t +
    (if (v.port.slave t).rvalid then 1 else 0) + if (v.port.slave t).arready then 0 else 1

/-- Read `k` is accepted in cycle `ta`, takes its value in cycle `ts`, and shows it from then
on. -/
structure ReadAt (check : Addr → Resp) (v : Trace σ) (k ta ts : ℕ) (a : Addr) : Prop where
  accepted : Nth v.port.arAddr k ta a
  sampled : Nth v.samples k ts a
  after : ta ≤ ts
  value : ∀ t, v.port.r.Shown k t → ts < t ∧ v.port.r.data t = ⟨v.load ts a, check a⟩

section Drives
variable {check : Addr → Resp} {store : WriteChannel.Write → σ → σ} {v : Trace σ}
variable (h : Drives check store v)
include h

theorem Drives.write : WriteChannel.Drives (fun t => (v.bus t).write) v.port where
  start := by
    rcases h.start with ⟨load, before, axi, h0⟩
    exact ⟨before.write, axi, congrArg BusRegs.write h0⟩
  step t := congrArg BusRegs.write (h.step t)
  awready t := congrArg AxiSlave.awready (h.slave t)
  wready t := congrArg AxiSlave.wready (h.slave t)
  bvalid t := congrArg AxiSlave.bvalid (h.slave t)

theorem Drives.bresp (t : ℕ) : (v.port.slave (t+1)).bresp =
    WriteChannel.bresp check (v.bus t).write (v.port.master t) (v.port.slave t).bresp := by
  rw [h.slave, h.slave, h.step]
  rfl

theorem Drives.r_data (t : ℕ) : v.port.r.data (t+1) =
    (v.samples t).elim (v.port.r.data t) (fun a => ⟨v.load t a, check a⟩) := by
  change ReadBeat.mk (v.port.slave (t+1)).rdata (v.port.slave (t+1)).rresp =
    (v.samples t).elim ⟨(v.port.slave t).rdata, (v.port.slave t).rresp⟩ _
  rw [h.slave, h.slave, h.step]
  unfold Trace.samples ReadChannel.samples ReadChannel.sample busPosedge busOut
  cases ReadChannel.readEnable (v.bus t).read (v.port.master t) <;> rfl

theorem Drives.read : ReadChannel.Drives (fun t => (v.bus t).read) v.port where
  start := by
    rcases h.start with ⟨load, before, axi, h0⟩
    exact ⟨before.read, axi, congrArg BusRegs.read h0⟩
  step t := congrArg BusRegs.read (h.step t)
  arready t := congrArg AxiSlave.arready (h.slave t)
  rvalid t := congrArg AxiSlave.rvalid (h.slave t)
  keep t := by
    intro he
    have hnone : v.samples t = none := if_neg (by simp [he])
    rw [h.r_data, hnone]
    rfl

theorem Drives.response {k t : ℕ} (hs : v.port.r.Shown k t) :
    ∃ ts < t, ∃ a, Nth v.samples k ts a ∧ v.port.r.data t = ⟨v.load ts a, check a⟩ := by
  rcases h.read.exactly_once.response k t hs with ⟨ts, hts, a, ha, hdata⟩
  refine ⟨ts, hts, a, ha, ?_⟩
  have hoccurs : v.samples ts = some a := ha.occurs
  rw [hdata, h.r_data, hoccurs]
  rfl

theorem Drives.answers : AnswersOnce check store v := by
  have hreads := h.read.exactly_once
  refine ⟨h.write.exactly_once ?_, hreads, h.stored, ?_, ?_, ?_⟩
  · intro t hstall
    rw [h.bresp, WriteChannel.bresp, hstall]
    rfl
  · intro k t hs
    exact h.write.response h.bresp hs
  · intro k t hs
    rcases h.response hs with ⟨ts, hts, a, ha, hdata⟩
    rcases hreads.address k ts a ha with ⟨ta, hta, har⟩
    exact ⟨ta, by omega, a, har, congrArg ReadBeat.resp hdata⟩
  · intro t
    rw [hreads.addressCount, hreads.responseCount]

theorem Drives.follows : Follows store v.commits v.stored := h.stored

theorem Drives.read_at {k t : ℕ} (hs : v.port.r.Shown k t) :
    ∃ ta ts a, ReadAt check v k ta ts a := by
  rcases h.response hs with ⟨ts, -, a, ha, -⟩
  rcases h.read.exactly_once.address k ts a ha with ⟨ta, hta, har⟩
  refine ⟨ta, ts, a, har, ha, hta, ?_⟩
  intro u hu
  rcases h.response hu with ⟨ts', hts', a', ha', hdata⟩
  have htime := ha'.time_unique ha
  have haddr := ha'.value_unique ha
  subst htime haddr
  exact ⟨hts', hdata⟩

theorem Drives.status {k tc t : ℕ} {c : WriteChannel.Write} (hc : Nth v.commits k tc c)
    (hs : v.port.b.Shown k t) : (v.port.slave t).bresp = check c.addr := by
  rcases h.answers.writes.address k tc c hc with ⟨ta, -, ha⟩
  rcases h.answers.bresp k t hs with ⟨ta', -, a, ha', hresp⟩
  rw [hresp, ha'.value_unique ha]

theorem Drives.answered {k tc : ℕ} {c : WriteChannel.Write} (hc : Nth v.commits k tc c) :
    v.port.b.Shown k (tc+1) := by
  have hsome : (v.commits tc).isSome = true := by
    rw [hc.occurs]
    rfl
  have hwrite : WriteChannel.writeEnable (v.bus tc).write (v.port.master tc) = true :=
    (WriteChannel.isSome_commit _ _).symm.trans hsome
  have hvalid : (v.port.slave (tc+1)).bvalid = true := by
    rw [h.write.bvalid, h.write.step, WriteChannel.posedge_bvalid, hwrite]
    rfl
  have hcount := h.answers.writes.responseCount (tc+1)
  have hnext : count v.commits (tc+1) = k + 1 := hc.count_succ
  unfold Trace.commits at hnext
  rw [hvalid, if_pos rfl, hnext] at hcount
  exact ⟨hvalid, by omega⟩

end Drives

end Trace

end IbexAxi4l.RegisterSlave
