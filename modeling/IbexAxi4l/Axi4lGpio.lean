import IbexAxi4l.ByteLanes
import IbexAxi4l.RegisterSlave

set_option autoImplicit false

/-!
# The AXI4-Lite GPIO

With `sync_data`, of which there is one per input bit. `gpio_o` and `gpio_en` have no reset.
-/
namespace IbexAxi4l.Axi4lGpio
open ReadyValid AxiLite ByteLanes RegisterSlave

/-- `sync_data`: the shift register `q`, whose last stage is the output. -/
def syncData {N : ℕ} (rstN : Bool) (q : BitVec N) (dataI : Bool) : BitVec N :=
  if !rstN then 0 else q.shiftConcat dataI

structure Stored where
  gpioO : Data
  gpioEn : Data

structure Regs extends BusRegs where
  sync : Fin 32 → BitVec 2
  stored : Stored

structure Input where
  axi : AxiMaster
  gpioI : Data

structure Output where
  axi : AxiSlave
  gpioO : Data
  gpioEn : Data
  gpioIrq : Bool

def gpioData : BitVec 10 := 0x000
def gpioDir : BitVec 10 := 0b001

def gpioSync (s : Regs) : Data :=
  (BitVec.ofBoolListLE (List.ofFn (fun i => (s.sync i).msb))).cast (List.length_ofFn)

def check (addr : Addr) : Resp :=
  if offset addr = gpioData ∨ offset addr = gpioDir then .okay else .slverr

def store (c : WriteChannel.Write) (g : Stored) : Stored :=
  if offset c.addr = gpioData then { g with gpioO := strobe c.strb c.data 0 g.gpioO }
  else if offset c.addr = gpioDir then { g with gpioEn := strobe c.strb c.data 0 g.gpioEn }
  else g

/-- The value loaded into `rdata`; an unmapped address leaves the old one. -/
def readReg (s : Regs) (addr : Addr) : Data :=
  if offset addr = gpioData then gpioSync s
  else if offset addr = gpioDir then s.stored.gpioEn
  else s.rdata

def posedge (aresetn : Bool) (s : Regs) (i : Input) : Regs where
  toBusRegs := busPosedge check (readReg s) aresetn s.toBusRegs i.axi
  sync b := syncData aresetn (s.sync b) (i.gpioI.getLsbD b)
  stored := (WriteChannel.commit s.write i.axi).elim s.stored (fun c => store c s.stored)

def out (s : Regs) (_ : Input) : Output where
  axi := busOut s.toBusRegs
  gpioO := s.stored.gpioO
  gpioEn := s.stored.gpioEn
  gpioIrq := gpioSync s != 0

def axi4lGpio : Design Regs Input Output := ⟨posedge, out⟩

def trace (r : Run axi4lGpio) : Trace Stored where
  port := ⟨fun t => (r.input t).axi, fun t => (r.output t).axi⟩
  bus t := (r.state t).toBusRegs
  stored t := (r.state t).stored
  load t := readReg (r.state t)

theorem drives (r : Run axi4lGpio) : Drives check store (trace r) where
  start := ⟨readReg r.before, r.before.toBusRegs, r.resetInput.axi, rfl⟩
  step _ := rfl
  slave _ := rfl
  stored _ := rfl

end IbexAxi4l.Axi4lGpio
