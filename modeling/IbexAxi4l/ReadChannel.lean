import IbexAxi4l.AxiLite
import IbexAxi4l.SkidBuffer

set_option autoImplicit false

/-!
# The read channels of the bus slaves

The registers and wires of AR and R that the bus slaves have in common. `pre_raddr` has no
reset. What a slave reads, and when it loads `rdata` and `rresp`, is its own; it may only do
so when `read_enable` is high.
-/
namespace IbexAxi4l.ReadChannel
open EventLog ReadyValid SkidBuffer AxiLite

structure Regs where
  arready : Bool
  rvalid : Bool
  preRaddr : Addr

def validReadAddress (s : Regs) (axi : AxiMaster) : Bool := axi.arvalid || !s.arready
def readResponseStall (s : Regs) (axi : AxiMaster) : Bool := s.rvalid && !axi.rready

def readEnable (s : Regs) (axi : AxiMaster) : Bool :=
  !readResponseStall s axi && validReadAddress s axi

def raddr (s : Regs) (axi : AxiMaster) : Addr := if !s.arready then s.preRaddr else axi.araddr

def posedge (aresetn : Bool) (s : Regs) (axi : AxiMaster) : Regs where
  arready :=
    if !aresetn then true
    else if readResponseStall s axi then !validReadAddress s axi
    else true
  rvalid :=
    if !aresetn then false
    else if readResponseStall s axi then true
    else if validReadAddress s axi then true
    else false
  preRaddr := if s.arready then axi.araddr else s.preRaddr

/-- The address that is read in one cycle, when `read_enable` is high. -/
def sample (s : Regs) (axi : AxiMaster) : Option Addr :=
  if readEnable s axi then some (raddr s axi) else none

/-- The registers `s` run from reset and drive the read channels of the port `p`. -/
structure Drives (s : ℕ → Regs) (p : AxiPort) : Prop where
  start : ∃ before axi, s 0 = posedge false before axi
  step : ∀ t, s (t+1) = posedge true (s t) (p.master t)
  arready : ∀ t, (p.slave t).arready = (s t).arready
  rvalid : ∀ t, (p.slave t).rvalid = (s t).rvalid
  keep : ∀ t, readEnable (s t) (p.master t) = false → p.r.data (t+1) = p.r.data t

def samples (s : ℕ → Regs) (p : AxiPort) (t : ℕ) : Option Addr := sample (s t) (p.master t)

/-- No read is lost, made twice or out of order, and R answers each of them once. -/
structure ExactlyOnce (s : ℕ → Regs) (p : AxiPort) : Prop where
  address : ∀ k t a, Nth (samples s p) k t a → ∃ ta ≤ t, Nth p.arAddr k ta a
  response : ∀ k t, p.r.Shown k t →
    ∃ ts < t, ∃ a, Nth (samples s p) k ts a ∧ p.r.data t = p.r.data (ts+1)
  addressCount : ∀ t, count p.ar.beat t =
    count (samples s p) t + if (p.slave t).arready then 0 else 1
  responseCount : ∀ t, count (samples s p) t =
    count p.r.beat t + if (p.slave t).rvalid then 1 else 0
  responseHolds : ∀ n, p.r.Holds (fun x y => y = x) n

theorem isSome_sample (s : Regs) (axi : AxiMaster) :
    (sample s axi).isSome = readEnable s axi := by
  unfold sample
  cases readEnable s axi <;> rfl

theorem posedge_arready (s : Regs) (axi : AxiMaster) :
    (posedge true s axi).arready = (readEnable s axi || !validReadAddress s axi) := by
  simp only [posedge, readEnable]
  cases readResponseStall s axi <;> cases validReadAddress s axi <;> rfl

theorem posedge_rvalid (s : Regs) (axi : AxiMaster) :
    (posedge true s axi).rvalid = (readEnable s axi || readResponseStall s axi) := by
  simp only [posedge, readEnable]
  cases readResponseStall s axi <;> cases validReadAddress s axi <;> rfl

section Drives
variable {s : ℕ → Regs} {p : AxiPort} (h : Drives s p)
include h

theorem Drives.start_regs : (s 0).arready = true ∧ (s 0).rvalid = false := by
  obtain ⟨before, axi, h0⟩ := h.start
  rw [h0]
  exact ⟨rfl, rfl⟩

theorem Drives.quiet {n t : ℕ}
    (hn : (p.slave n).rvalid = false ∧ (p.slave n).arready = true)
    (hidle : ∀ u ≥ n, p.ar.valid u = false) (ht : n ≤ t) :
    (p.slave t).rvalid = false ∧ (p.slave t).arready = true := by
  induction t, ht using Nat.le_induction with
  | base => exact hn
  | succ t ht ih =>
    obtain ⟨hb, ha⟩ := ih
    have hv : (p.master t).arvalid = false := hidle t ht
    rw [h.rvalid] at hb
    rw [h.arready] at ha
    rw [h.rvalid, h.arready, h.step, posedge_rvalid, posedge_arready]
    simp [readEnable, readResponseStall, validReadAddress, hb, ha, hv]

theorem Drives.ar_skid : Skid (p.ar.map AddrBeat.addr) (fun t => (s t).preRaddr)
    (fun t => readEnable (s t) (p.master t)) where
  start := (h.arready 0).trans h.start_regs.1
  present t := by
    intro he
    change ((p.master t).arvalid || !(p.slave t).arready) = true
    rw [h.arready]
    simp only [readEnable, Bool.and_eq_true] at he
    exact he.2
  ready t := by
    change (p.slave (t+1)).arready = (_ || !((p.master t).arvalid || !(p.slave t).arready))
    rw [h.arready, h.arready, h.step]
    exact posedge_arready _ _
  keep t := by
    change _ = if (p.slave t).arready then (p.master t).araddr else (s t).preRaddr
    rw [h.arready, h.step]
    rfl

theorem Drives.r_register : Register p.r (fun t => readEnable (s t) (p.master t)) where
  start := (h.rvalid 0).trans h.start_regs.2
  free t := by
    change _ → (p.slave t).rvalid = true → (p.master t).rready = true
    rw [h.rvalid]
    intro he hv
    simp only [readEnable, readResponseStall, hv, Bool.true_and, Bool.not_not,
      Bool.and_eq_true] at he
    exact he.1
  valid t := by
    change (p.slave (t+1)).rvalid = (_ || ((p.slave t).rvalid && !(p.master t).rready))
    rw [h.rvalid, h.rvalid, h.step]
    exact posedge_rvalid _ _
  keep t := by
    intro hv hr
    have hs : (s t).rvalid = true := (h.rvalid t).symm.trans hv
    have hready : (p.master t).rready = false := hr
    exact h.keep t (by simp [readEnable, readResponseStall, hs, hready])

theorem Drives.ar_fifo (n : ℕ) : Fifo n p.arAddr (samples s p)
    (fun t => slot (!(p.slave t).arready) (s t).preRaddr) := by
  have hf := h.ar_skid.fifo n
  have hin : (p.ar.map AddrBeat.addr).beat = p.arAddr := beat_map _ _
  have hout : taken (p.ar.map AddrBeat.addr) (fun t => (s t).preRaddr)
      (fun t => readEnable (s t) (p.master t)) = samples s p := by
    funext t
    change (if readEnable (s t) (p.master t) then
      some (if (p.slave t).arready then (p.master t).araddr else (s t).preRaddr) else none) = _
    rw [h.arready t]
    unfold samples sample raddr
    cases readEnable (s t) (p.master t) <;> cases (s t).arready <;> rfl
  rw [hin, hout] at hf
  exact hf

theorem Drives.exactly_once : ExactlyOnce s p where
  address k t a ha := (h.ar_fifo (t+1)).nth ha (Nat.lt_succ_self t)
  response k t := h.r_register.shown (fun _ => isSome_sample _ _)
  addressCount t := by
    have hc := (h.ar_fifo t).count_eq (Nat.le_refl t)
    rw [count_arAddr, slot_length] at hc
    cases hr : (p.slave t).arready <;> simpa [hr] using hc
  responseCount := h.r_register.count_eq (fun _ => isSome_sample _ _)
  responseHolds n := h.r_register.holds n

end Drives

end IbexAxi4l.ReadChannel
