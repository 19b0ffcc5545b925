import IbexAxi4l.ByteLanes
import IbexAxi4l.RegisterSlave

set_option autoImplicit false

/-!
# The AXI4-Lite timer

`clk` and `rst_n` are the clock and the reset of the bus, as the timer is connected.
-/
namespace IbexAxi4l.Axi4lTimer
open ReadyValid AxiLite ByteLanes RegisterSlave

structure Regs extends BusRegs where
  mtime : BitVec 64
  mtimecmp : BitVec 64

structure Output where
  axi : AxiSlave
  irq : Bool

def mtimeAddr : BitVec 10 := 0x000
def mtimehAddr : BitVec 10 := 0x001
def mtimecmpAddr : BitVec 10 := 0x002
def mtimecmphAddr : BitVec 10 := 0x003

def check (addr : Addr) : Resp :=
  if offset addr = mtimeAddr ∨ offset addr = mtimehAddr ∨ offset addr = mtimecmpAddr ∨
      offset addr = mtimecmphAddr then .okay
  else .slverr

/-- A write changes `mtimecmp` only: there is no branch for `MTIME` and `MTIMEH`. -/
def store (c : WriteChannel.Write) (mtimecmp : BitVec 64) : BitVec 64 :=
  if offset c.addr = mtimecmpAddr then strobe c.strb c.data 0 mtimecmp
  else if offset c.addr = mtimecmphAddr then strobe c.strb c.data 4 mtimecmp
  else mtimecmp

/-- The value loaded into `rdata`; an unmapped address leaves the old one. -/
def readReg (s : Regs) (addr : Addr) : Data :=
  if offset addr = mtimeAddr then s.mtime.extractLsb' 0 32
  else if offset addr = mtimehAddr then s.mtime.extractLsb' 32 32
  else if offset addr = mtimecmpAddr then s.mtimecmp.extractLsb' 0 32
  else if offset addr = mtimecmphAddr then s.mtimecmp.extractLsb' 32 32
  else s.rdata

def posedge (aresetn : Bool) (s : Regs) (axi : AxiMaster) : Regs where
  toBusRegs := busPosedge check (readReg s) aresetn s.toBusRegs axi
  mtime := if !aresetn then 0x0000000000000000 else s.mtime + 0x0000000000000001
  mtimecmp :=
    if !aresetn then 0xffffffffffffffff
    else (WriteChannel.commit s.write axi).elim s.mtimecmp (fun c => store c s.mtimecmp)

def out (s : Regs) (_ : AxiMaster) : Output where
  axi := busOut s.toBusRegs
  irq := decide (s.mtime ≥ s.mtimecmp)

def axi4lTimer : Design Regs AxiMaster Output := ⟨posedge, out⟩

def trace (r : Run axi4lTimer) : Trace (BitVec 64) where
  port := ⟨r.input, fun t => (r.output t).axi⟩
  bus t := (r.state t).toBusRegs
  stored t := (r.state t).mtimecmp
  load t := readReg (r.state t)

theorem drives (r : Run axi4lTimer) : Drives check store (trace r) where
  start := ⟨readReg r.before, r.before.toBusRegs, r.resetInput, rfl⟩
  step _ := rfl
  slave _ := rfl
  stored _ := rfl

end IbexAxi4l.Axi4lTimer
