import IbexAxi4l.ByteLanes
import IbexAxi4l.RegisterSlave

set_option autoImplicit false

/-!
# The AXI4-Lite LED driver

One register without a reset, written and read at every address; only the status depends on
the address.
-/
namespace IbexAxi4l.Axi4lLed
open ReadyValid AxiLite ByteLanes RegisterSlave

structure Regs extends BusRegs where
  ledReg : Data

structure Output (N : ℕ) where
  axi : AxiSlave
  led : BitVec N

def check (addr : Addr) : Resp := if offset addr = 0x000 then .okay else .slverr

/-- The address is not looked at. -/
def store (c : WriteChannel.Write) (ledReg : Data) : Data := strobe c.strb c.data 0 ledReg

def posedge (aresetn : Bool) (s : Regs) (axi : AxiMaster) : Regs where
  toBusRegs := busPosedge check (fun _ => s.ledReg) aresetn s.toBusRegs axi
  ledReg := (WriteChannel.commit s.write axi).elim s.ledReg (fun c => store c s.ledReg)

def out {N : ℕ} (s : Regs) (_ : AxiMaster) : Output N where
  axi := busOut s.toBusRegs
  led := s.ledReg.extractLsb' 0 N

def axi4lLed (N : ℕ) : Design Regs AxiMaster (Output N) := ⟨posedge, out⟩

def trace {N : ℕ} (r : Run (axi4lLed N)) : Trace Data where
  port := ⟨r.input, fun t => (r.output t).axi⟩
  bus t := (r.state t).toBusRegs
  stored t := (r.state t).ledReg
  load t _ := (r.state t).ledReg

theorem drives {N : ℕ} (r : Run (axi4lLed N)) : Drives check store (trace r) where
  start := ⟨fun _ => r.before.ledReg, r.before.toBusRegs, r.resetInput, rfl⟩
  step _ := rfl
  slave _ := rfl
  stored _ := rfl

end IbexAxi4l.Axi4lLed
