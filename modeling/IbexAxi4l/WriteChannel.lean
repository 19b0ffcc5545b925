import IbexAxi4l.AxiLite
import IbexAxi4l.SkidBuffer

set_option autoImplicit false

/-!
# The write channels of the bus slaves

The registers and wires of AW, W and B that `axi4l_dpramx32`, `axi4l_gpio`, `axi4l_timer`
and `axi4l_led` all have. `pre_waddr`, `pre_wdata` and `pre_wstrb` have no reset. What a
slave stores and how it sets `bresp` are its own.
-/
namespace IbexAxi4l.WriteChannel
open EventLog ReadyValid SkidBuffer AxiLite

structure Regs where
  awready : Bool
  wready : Bool
  bvalid : Bool
  preWaddr : Addr
  preWdata : Data
  preWstrb : Strb

def validWriteAddress (s : Regs) (axi : AxiMaster) : Bool := axi.awvalid || !s.awready
def validWriteData (s : Regs) (axi : AxiMaster) : Bool := axi.wvalid || !s.wready
def writeResponseStall (s : Regs) (axi : AxiMaster) : Bool := s.bvalid && !axi.bready

def writeEnable (s : Regs) (axi : AxiMaster) : Bool :=
  !writeResponseStall s axi && validWriteAddress s axi && validWriteData s axi

def waddr (s : Regs) (axi : AxiMaster) : Addr := if !s.awready then s.preWaddr else axi.awaddr
def wdata (s : Regs) (axi : AxiMaster) : Data := if !s.wready then s.preWdata else axi.wdata
def wstrb (s : Regs) (axi : AxiMaster) : Strb := if !s.wready then s.preWstrb else axi.wstrb

def posedge (aresetn : Bool) (s : Regs) (axi : AxiMaster) : Regs where
  awready :=
    if !aresetn then true
    else if writeResponseStall s axi then !validWriteAddress s axi
    else if validWriteData s axi then true
    else s.awready && !axi.awvalid
  wready :=
    if !aresetn then true
    else if writeResponseStall s axi then !validWriteData s axi
    else if validWriteAddress s axi then true
    else s.wready && !axi.wvalid
  bvalid :=
    if !aresetn then false
    else if validWriteAddress s axi && validWriteData s axi then true
    else if axi.bready then false
    else s.bvalid
  preWaddr := if s.awready then axi.awaddr else s.preWaddr
  preWdata := if s.wready then axi.wdata else s.preWdata
  preWstrb := if s.wready then axi.wstrb else s.preWstrb

/-- `bresp` of the slaves that decode the address: loaded as soon as an address is present
and B is not stalled, before there is data. -/
def bresp (check : Addr → Resp) (s : Regs) (axi : AxiMaster) (old : Resp) : Resp :=
  if !writeResponseStall s axi && validWriteAddress s axi then check (waddr s axi) else old

/-- A write that a slave makes: address, data and strobes as it uses them. -/
structure Write where
  addr : Addr
  data : Data
  strb : Strb
  deriving DecidableEq

def Write.beat (c : Write) : WriteBeat := ⟨c.data, c.strb⟩

def commit (s : Regs) (axi : AxiMaster) : Option Write :=
  if writeEnable s axi then some ⟨waddr s axi, wdata s axi, wstrb s axi⟩ else none

theorem isSome_commit (s : Regs) (axi : AxiMaster) :
    (commit s axi).isSome = writeEnable s axi := by
  unfold commit
  cases writeEnable s axi <;> rfl

/-- The registers `s` run from reset and drive the write channels of the port `p`. -/
structure Drives (s : ℕ → Regs) (p : AxiPort) : Prop where
  start : ∃ before axi, s 0 = posedge false before axi
  step : ∀ t, s (t+1) = posedge true (s t) (p.master t)
  awready : ∀ t, (p.slave t).awready = (s t).awready
  wready : ∀ t, (p.slave t).wready = (s t).wready
  bvalid : ∀ t, (p.slave t).bvalid = (s t).bvalid

def commits (s : ℕ → Regs) (p : AxiPort) (t : ℕ) : Option Write := commit (s t) (p.master t)

/-- No write is lost, made twice or mispaired, and B answers each of them once. -/
structure ExactlyOnce (s : ℕ → Regs) (p : AxiPort) : Prop where
  address : ∀ k t c, Nth (commits s p) k t c → ∃ ta ≤ t, Nth p.awAddr k ta c.addr
  data : ∀ k t c, Nth (commits s p) k t c → ∃ td ≤ t, Nth p.w.beat k td ⟨c.data, c.strb⟩
  response : ∀ k t, p.b.Shown k t →
    ∃ tc < t, ∃ c, Nth (commits s p) k tc c ∧ (p.slave t).bresp = (p.slave (tc+1)).bresp
  addressCount : ∀ t, count p.aw.beat t =
    count (commits s p) t + if (p.slave t).awready then 0 else 1
  dataCount : ∀ t, count p.w.beat t =
    count (commits s p) t + if (p.slave t).wready then 0 else 1
  responseCount : ∀ t, count (commits s p) t =
    count p.b.beat t + if (p.slave t).bvalid then 1 else 0
  responseHolds : ∀ n, p.b.Holds (fun x y => y = x) n

theorem not_validWriteAddress (s : Regs) (axi : AxiMaster) :
    (s.awready && !axi.awvalid) = !validWriteAddress s axi := by
  simp [validWriteAddress, Bool.and_comm]

theorem not_validWriteData (s : Regs) (axi : AxiMaster) :
    (s.wready && !axi.wvalid) = !validWriteData s axi := by
  simp [validWriteData, Bool.and_comm]

theorem posedge_awready (s : Regs) (axi : AxiMaster) :
    (posedge true s axi).awready = (writeEnable s axi || !validWriteAddress s axi) := by
  simp only [posedge, writeEnable, not_validWriteAddress]
  cases writeResponseStall s axi
  · cases validWriteAddress s axi <;> cases validWriteData s axi <;> rfl
  · rfl

theorem posedge_wready (s : Regs) (axi : AxiMaster) :
    (posedge true s axi).wready = (writeEnable s axi || !validWriteData s axi) := by
  simp only [posedge, writeEnable, not_validWriteData]
  cases writeResponseStall s axi
  · cases validWriteAddress s axi <;> cases validWriteData s axi <;> rfl
  · rfl

theorem posedge_bvalid (s : Regs) (axi : AxiMaster) :
    (posedge true s axi).bvalid = (writeEnable s axi || writeResponseStall s axi) := by
  have hkeep : (if axi.bready then false else s.bvalid) = writeResponseStall s axi := by
    cases hb : axi.bready <;> simp [writeResponseStall, hb]
  simp only [posedge, writeEnable, hkeep]
  cases writeResponseStall s axi <;> cases validWriteAddress s axi <;>
    cases validWriteData s axi <;> rfl

section Drives
variable {s : ℕ → Regs} {p : AxiPort} (h : Drives s p)
include h

theorem Drives.start_regs : (s 0).awready = true ∧ (s 0).wready = true ∧ (s 0).bvalid = false := by
  obtain ⟨before, axi, h0⟩ := h.start
  rw [h0]
  exact ⟨rfl, rfl, rfl⟩

theorem Drives.quiet {n t : ℕ}
    (hn : (p.slave n).bvalid = false ∧ (p.slave n).awready = true)
    (hidle : ∀ u ≥ n, p.aw.valid u = false) (ht : n ≤ t) :
    (p.slave t).bvalid = false ∧ (p.slave t).awready = true := by
  induction t, ht using Nat.le_induction with
  | base => exact hn
  | succ t ht ih =>
    obtain ⟨hb, ha⟩ := ih
    have hv : (p.master t).awvalid = false := hidle t ht
    rw [h.bvalid] at hb
    rw [h.awready] at ha
    rw [h.bvalid, h.awready, h.step, posedge_bvalid, posedge_awready]
    simp [writeEnable, writeResponseStall, validWriteAddress, hb, ha, hv]

theorem Drives.aw_skid : Skid (p.aw.map AddrBeat.addr) (fun t => (s t).preWaddr)
    (fun t => writeEnable (s t) (p.master t)) where
  start := (h.awready 0).trans h.start_regs.1
  present t := by
    intro he
    change ((p.master t).awvalid || !(p.slave t).awready) = true
    rw [h.awready]
    simp only [writeEnable, Bool.and_eq_true] at he
    exact he.1.2
  ready t := by
    change (p.slave (t+1)).awready = (_ || !((p.master t).awvalid || !(p.slave t).awready))
    rw [h.awready, h.awready, h.step]
    exact posedge_awready _ _
  keep t := by
    change _ = if (p.slave t).awready then (p.master t).awaddr else (s t).preWaddr
    rw [h.awready, h.step]
    rfl

theorem Drives.w_skid : Skid p.w (fun t => ⟨(s t).preWdata, (s t).preWstrb⟩)
    (fun t => writeEnable (s t) (p.master t)) where
  start := (h.wready 0).trans h.start_regs.2.1
  present t := by
    intro he
    change ((p.master t).wvalid || !(p.slave t).wready) = true
    rw [h.wready]
    simp only [writeEnable, Bool.and_eq_true] at he
    exact he.2
  ready t := by
    change (p.slave (t+1)).wready = (_ || !((p.master t).wvalid || !(p.slave t).wready))
    rw [h.wready, h.wready, h.step]
    exact posedge_wready _ _
  keep t := by
    change _ = if (p.slave t).wready then p.w.data t else ⟨(s t).preWdata, (s t).preWstrb⟩
    rw [h.wready, h.step]
    unfold posedge
    cases (s t).wready <;> rfl

/-- `bresp` only has to be kept while the response is stalled. -/
theorem Drives.b_register
    (hkeep : ∀ t, writeResponseStall (s t) (p.master t) = true →
      (p.slave (t+1)).bresp = (p.slave t).bresp) :
    Register p.b (fun t => writeEnable (s t) (p.master t)) where
  start := (h.bvalid 0).trans h.start_regs.2.2
  free t := by
    change _ → (p.slave t).bvalid = true → (p.master t).bready = true
    rw [h.bvalid]
    simp only [writeEnable, writeResponseStall]
    intro he hv
    rw [hv] at he
    simp only [Bool.true_and, Bool.not_not, Bool.and_eq_true] at he
    exact he.1.1
  valid t := by
    change (p.slave (t+1)).bvalid = (_ || ((p.slave t).bvalid && !(p.master t).bready))
    rw [h.bvalid, h.bvalid, h.step]
    exact posedge_bvalid _ _
  keep t := by
    intro hv hr
    have hs : (s t).bvalid = true := (h.bvalid t).symm.trans hv
    have hb : (p.master t).bready = false := hr
    exact hkeep t (by simp [writeResponseStall, hs, hb])

theorem Drives.aw_fifo (n : ℕ) : Fifo n p.awAddr (fun t => (commits s p t).map Write.addr)
    (fun t => slot (!(p.slave t).awready) (s t).preWaddr) := by
  have hf := h.aw_skid.fifo n
  have hin : (p.aw.map AddrBeat.addr).beat = p.awAddr := beat_map _ _
  have hout : taken (p.aw.map AddrBeat.addr) (fun t => (s t).preWaddr)
      (fun t => writeEnable (s t) (p.master t)) = fun t => (commits s p t).map Write.addr := by
    funext t
    change (if writeEnable (s t) (p.master t) then
      some (if (p.slave t).awready then (p.master t).awaddr else (s t).preWaddr) else none) = _
    rw [h.awready t]
    unfold commits commit waddr
    cases writeEnable (s t) (p.master t) <;> cases (s t).awready <;> rfl
  rw [hin, hout] at hf
  exact hf

theorem Drives.w_fifo (n : ℕ) : Fifo n p.w.beat (fun t => (commits s p t).map Write.beat)
    (fun t => slot (!(p.slave t).wready) ⟨(s t).preWdata, (s t).preWstrb⟩) := by
  have hf := h.w_skid.fifo n
  have hout : taken p.w (fun t => ⟨(s t).preWdata, (s t).preWstrb⟩)
      (fun t => writeEnable (s t) (p.master t)) = fun t => (commits s p t).map Write.beat := by
    funext t
    change (if writeEnable (s t) (p.master t) then
      some (if (p.slave t).wready then p.w.data t else ⟨(s t).preWdata, (s t).preWstrb⟩)
      else none) = _
    rw [h.wready t]
    unfold commits commit wdata wstrb
    cases writeEnable (s t) (p.master t) <;> cases (s t).wready <;> rfl
  rw [hout] at hf
  exact hf

theorem Drives.exactly_once
    (hkeep : ∀ t, writeResponseStall (s t) (p.master t) = true →
      (p.slave (t+1)).bresp = (p.slave t).bresp) : ExactlyOnce s p where
  address k t c hc := (h.aw_fifo (t+1)).nth (hc.map Write.addr) (Nat.lt_succ_self t)
  data k t c hc := (h.w_fifo (t+1)).nth (hc.map Write.beat) (Nat.lt_succ_self t)
  response k t := (h.b_register hkeep).shown (fun _ => isSome_commit _ _)
  addressCount t := by
    have hc := (h.aw_fifo t).count_eq (Nat.le_refl t)
    rw [count_awAddr, count_map, slot_length] at hc
    cases hr : (p.slave t).awready <;> simpa [hr] using hc
  dataCount t := by
    have hc := (h.w_fifo t).count_eq (Nat.le_refl t)
    rw [count_map, slot_length] at hc
    cases hr : (p.slave t).wready <;> simpa [hr] using hc
  responseCount := (h.b_register hkeep).count_eq (fun _ => isSome_commit _ _)
  responseHolds n := (h.b_register hkeep).holds n

/-- Response `k` carries the status of the `k`-th accepted address. -/
theorem Drives.response {check : Addr → Resp}
    (hbresp : ∀ t, (p.slave (t+1)).bresp = bresp check (s t) (p.master t) (p.slave t).bresp)
    {k t : ℕ} (hs : p.b.Shown k t) :
    ∃ ta < t, ∃ a, Nth p.awAddr k ta a ∧ (p.slave t).bresp = check a := by
  have hkeep (u : ℕ) (hu : writeResponseStall (s u) (p.master u) = true) :
      (p.slave (u+1)).bresp = (p.slave u).bresp := by
    rw [hbresp, bresp, hu]
    rfl
  have honce := h.exactly_once hkeep
  rcases honce.response k t hs with ⟨tc, htc, c, hc, hresp⟩
  rcases honce.address k tc c hc with ⟨ta, hta, ha⟩
  refine ⟨ta, by omega, c.addr, ha, ?_⟩
  -- a write has its address, so `bresp` is loaded in the same cycle
  have hoccurs := hc.occurs
  unfold commits commit at hoccurs
  split_ifs at hoccurs with he
  simp only [writeEnable, Bool.and_eq_true] at he
  rw [hresp, hbresp, bresp, he.1.1, he.1.2, ← Option.some.inj hoccurs]
  rfl

end Drives

end IbexAxi4l.WriteChannel
