import Mathlib.Algebra.Ring.Nat
import Mathlib.Data.Nat.Log
import IbexAxi4l.StrobedStore
import IbexAxi4l.WriteChannel
import IbexAxi4l.ReadChannel

set_option autoImplicit false

/-!
# The AXI4-Lite RAM

`size` is in bytes. The array has `size>>2` words; an access outside it would be ignored or
read as zero, and `RamSize` collects the sizes for which there is none.
-/
namespace IbexAxi4l.Axi4lDpramx32
open EventLog ReadyValid AxiLite StrobedStore

structure Regs (size : ℕ) where
  write : WriteChannel.Regs
  read : ReadChannel.Regs
  mem : Store (size >>> 2)
  rdata : Data

def ramAw (size : ℕ) : ℕ := Nat.clog 2 size - 2

/-- The array index `addr[ram_aw+1:2]`. -/
def index (size : ℕ) (addr : Addr) : ℕ := (addr.extractLsb' 2 (ramAw size)).toNat

def readMem {size : ℕ} (mem : Store (size >>> 2)) (i : ℕ) : Data :=
  if h : i < size >>> 2 then mem ⟨i, h⟩ else 0

/-- A write to the array, as the four strobed byte assignments address it. -/
def store (size : ℕ) (c : WriteChannel.Write) : Commit := ⟨index size c.addr, c.data, c.strb⟩

/-- The read channel registers. The order of the conditions is not that of the other
slaves. -/
def readPosedge (aresetn : Bool) (s : ReadChannel.Regs) (axi : AxiMaster) :
    ReadChannel.Regs where
  rvalid :=
    if !aresetn then false
    else if ReadChannel.validReadAddress s axi then true
    else if axi.rready then false
    else s.rvalid
  preRaddr := if s.arready then axi.araddr else s.preRaddr
  arready :=
    if !aresetn then true
    else if !ReadChannel.readResponseStall s axi then true
    else if axi.arvalid then false
    else s.arready

def posedge {size : ℕ} (aresetn : Bool) (s : Regs size) (axi : AxiMaster) : Regs size where
  write := WriteChannel.posedge aresetn s.write axi
  read := readPosedge aresetn s.read axi
  mem := ((WriteChannel.commit s.write axi).map (store size)).elim s.mem (fun c => c.apply s.mem)
  rdata :=
    if ReadChannel.readEnable s.read axi then
      readMem s.mem (index size (ReadChannel.raddr s.read axi))
    else s.rdata

def out {size : ℕ} (s : Regs size) (_ : AxiMaster) : AxiSlave where
  awready := s.write.awready
  wready := s.write.wready
  bvalid := s.write.bvalid
  bresp := .okay
  arready := s.read.arready
  rvalid := s.read.rvalid
  rdata := s.rdata
  rresp := .okay

def axi4lDpramx32 (size : ℕ) : Design (Regs size) AxiMaster AxiSlave := ⟨posedge, out⟩

theorem readPosedge_eq (aresetn : Bool) (s : ReadChannel.Regs) (axi : AxiMaster) :
    readPosedge aresetn s axi = ReadChannel.posedge aresetn s axi := by
  unfold readPosedge ReadChannel.posedge ReadChannel.readResponseStall
    ReadChannel.validReadAddress
  cases aresetn
  · rfl
  · cases axi.arvalid <;> cases axi.rready <;> cases s.rvalid <;> cases s.arready <;> rfl

/-- The sizes of the array: a power of two, so that every index is inside. -/
structure RamSize where
  size : ℕ
  atLeast : 8 ≤ size
  power : ∃ k, size = 2 ^ k

namespace RamSize
variable (z : RamSize)

theorem words_eq : z.size >>> 2 = z.size / 4 := Nat.shiftRight_eq_div_pow _ _

theorem two_pow_ramAw : 2 ^ ramAw z.size = z.size / 4 := by
  obtain ⟨k, hk⟩ := z.power
  have hlow := z.atLeast
  have hk2 : 2 ≤ k := by
    by_contra hlt
    have hpow : 2 ^ k ≤ 2 ^ 1 := Nat.pow_le_pow_right (by omega) (by omega)
    omega
  have hsplit : 2 ^ k = 2 ^ (k - 2) * 4 := by
    rw [show k = k - 2 + 2 by omega, Nat.pow_add]
    simp
  rw [ramAw, hk, Nat.clog_pow 2 k (by omega), hsplit, Nat.mul_div_cancel _ (by omega)]

def cell (addr : Addr) : Fin (z.size >>> 2) :=
  ⟨(addr.toNat >>> 2) % (z.size / 4), by
    have hlow := z.atLeast
    rw [z.words_eq]
    exact Nat.mod_lt _ (by omega)⟩

theorem index_eq (addr : Addr) : index z.size addr = (z.cell addr).val := by
  rw [index, BitVec.extractLsb'_toNat, two_pow_ramAw]
  rfl

theorem readMem_eq (mem : Store (z.size >>> 2)) (addr : Addr) :
    readMem mem (index z.size addr) = mem (z.cell addr) := by
  have hlt : index z.size addr < z.size >>> 2 := by
    rw [z.index_eq]
    exact (z.cell addr).isLt
  unfold readMem
  rw [dif_pos hlt]
  exact congrArg mem (Fin.ext (z.index_eq addr))

end RamSize

section Run
variable {size : ℕ} (r : Run (axi4lDpramx32 size))

def axiPort : AxiPort where
  master := r.input
  slave t := r.output t

def mem (t : ℕ) : Store (size >>> 2) := (r.state t).mem

def commits : ℕ → Option WriteChannel.Write :=
  WriteChannel.commits (fun t => (r.state t).write) (axiPort r)

def samples : ℕ → Option Addr :=
  ReadChannel.samples (fun t => (r.state t).read) (axiPort r)

theorem write_drives : WriteChannel.Drives (fun t => (r.state t).write) (axiPort r) where
  start := ⟨r.before.write, r.resetInput, rfl⟩
  step _ := rfl
  awready _ := rfl
  wready _ := rfl
  bvalid _ := rfl

theorem write_once : WriteChannel.ExactlyOnce (fun t => (r.state t).write) (axiPort r) :=
  (write_drives r).exactly_once (fun _ _ => rfl)

theorem read_drives : ReadChannel.Drives (fun t => (r.state t).read) (axiPort r) where
  start := ⟨r.before.read, r.resetInput, readPosedge_eq _ _ _⟩
  step _ := readPosedge_eq _ _ _
  arready _ := rfl
  rvalid _ := rfl
  keep t := by
    intro he
    change (⟨if ReadChannel.readEnable (r.state t).read (r.input t) then _ else _, _⟩ : ReadBeat)
      = _
    have he' : ReadChannel.readEnable (r.state t).read (r.input t) = false := he
    rw [he']
    rfl

theorem read_once : ReadChannel.ExactlyOnce (fun t => (r.state t).read) (axiPort r) :=
  (read_drives r).exactly_once

theorem mem_succ (t : ℕ) : mem r (t+1) =
    ((commits r t).map (store size)).elim (mem r t) (fun c => c.apply (mem r t)) := rfl

theorem rdata_succ {t : ℕ} {a : Addr} (h : samples r t = some a) :
    ((axiPort r).slave (t+1)).rdata = readMem (mem r t) (index size a) := by
  unfold samples ReadChannel.samples ReadChannel.sample at h
  split_ifs at h with he
  rw [← Option.some.inj h]
  exact if_pos he

theorem mem_eq (t : ℕ) :
    mem r t = replay (mem r 0) ((log (commits r) t).map (store size)) := by
  rw [← log_map]
  exact replay_log (mem_succ r) t

end Run

end IbexAxi4l.Axi4lDpramx32
