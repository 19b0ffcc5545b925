import Mathlib.Data.Int.Notation
import IbexAxi4l.EventLog
import IbexAxi4l.TapController

set_option autoImplicit false

/-!
# The JTAG driver of the debug simulation

`driver::drive` and the main loop around it. The debug module is there with its TAP controller
only.
-/
namespace IbexAxi4l.JtagDriver
open TapController

def jtagIr : Bool := false
def jtagDr : Bool := true

structure Transaction where
  mode : Bool
  req : BitVec 64
  len : BitVec 64

inductive Transaction.Made : Transaction → Prop
  | instr (instr : BitVec 8) : Made ⟨jtagIr, instr.setWidth 64, 5⟩
  | idcode (data : BitVec 32) : Made ⟨jtagDr, data.setWidth 64, 32⟩
  | dtmcs (data : BitVec 32) : Made ⟨jtagDr, data.setWidth 64, 32⟩
  | dmi (data : BitVec 64) : Made ⟨jtagDr, data, 41⟩

structure Driver where
  pastTck : Bool
  rdy : Bool
  bits : ℤ
  idle : ℤ
  state : TapState

structure Pins where
  tck : Bool
  tms : Bool
  tdi : Bool

/-- What a call of `drive` reads and writes. -/
structure Drive where
  drv : Driver
  top : Pins
  xaction : Transaction

def numIdle : ℤ := 8

namespace Drive

def go (v : Drive) (tms : Bool) (state : TapState) : Drive :=
  { v with top.tms := tms, drv.state := state }

/-- The two cases that shift. The count is converted to the unsigned type of the length. -/
def shift (v : Drive) (again done : TapState) : Drive :=
  let v' := { v with
    top.tdi := v.xaction.req.getLsbD 0
    xaction.req := v.xaction.req >>> 1
    drv.bits := v.drv.bits + 1 }
  if BitVec.ofInt 64 v.drv.bits < v.xaction.len - 1 then v'.go false again else v'.go true done

/-- The two cases that are done with the transaction. -/
def finish (v : Drive) : Drive := { v with drv.idle := 0, drv.rdy := true }.go false .runTestIdle

def assign (v : Drive) : Drive :=
  match v.drv.state with
  | .testLogicReset => { v with drv.idle := 0 }.go false .runTestIdle
  | .runTestIdle =>
    let v' := { v with drv.bits := 0, drv.idle := v.drv.idle + 1 }
    if v.drv.idle + 1 < numIdle then v'.go false .runTestIdle else v'.go true .selectDrScan
  | .selectDrScan =>
    if v.xaction.mode = jtagIr then v.go true .selectIrScan else v.go false .captureDr
  | .captureDr => v.go false .shiftDr
  | .shiftDr => v.shift .shiftDr .exit1Dr
  | .exit1Dr => { v with top.tdi := v.xaction.req.getLsbD 0 }.go false .pauseDr
  | .pauseDr => v.go true .exit2Dr
  | .exit2Dr => v.go true .updateDr
  | .updateDr => v.finish
  | .selectIrScan => v.go false .captureIr
  | .captureIr => v.go false .shiftIr
  | .shiftIr => v.shift .shiftIr .exit1Ir
  | .exit1Ir => { v with top.tdi := v.xaction.req.getLsbD 0 }.go false .pauseIr
  | .pauseIr => v.go true .exit2Ir
  | .exit2Ir => v.go true .updateIr
  | .updateIr => v.finish

/-- The signals are assigned at the falling edges of TCK. -/
def drive (v : Drive) : Drive :=
  let v' := { v with drv.rdy := false }
  let v'' := if v.drv.pastTck && !v.top.tck then v'.assign else v'
  { v'' with drv.pastTck := v.top.tck }

end Drive

structure Sim where
  drv : Driver
  top : Pins
  tap : TapState
  seq : List Transaction

/-- The driver gets the transaction at the front, which leaves the queue if it is done. What
the front of an empty queue is stays open. -/
def Sim.driven (s : Sim) (tck : Bool) : Sim :=
  match s.seq with
  | [] => { s with top.tck := tck }
  | txn :: rest =>
    let v := Drive.drive ⟨s.drv, { s.top with tck := tck }, txn⟩
    { s with drv := v.drv, top := v.top, seq := if s.drv.rdy then rest else v.xaction :: rest }

/-- `eval` sees a rising edge by the level of TCK that it saw before. -/
def Sim.rises (s : Sim) (tck : Bool) : Bool := !s.top.tck && tck

def Sim.step (s : Sim) (tck : Bool) : Sim :=
  let s' := s.driven tck
  { s' with tap := if s.rises tck then s.tap.next s'.top.tms else s.tap }

def Sim.period (s : Sim) (tck : Bool) : Option Period :=
  if s.rises tck then some (s.tap.period (s.driven tck).top.tdi) else none

def Sim.run (s : Sim) (tck : ℕ → Bool) : ℕ → Sim
  | 0 => s
  | n + 1 => (Sim.run s tck n).step (tck n)

def Sim.periods (s : Sim) (tck : ℕ → Bool) (n : ℕ) : Option Period :=
  (s.run tck n).period (tck n)

/-- TCK in the loop of `main`, which inverts it every ten steps and calls the driver from step
101 on. -/
def mainTck (n : ℕ) : Bool := (101 + n) / 10 % 2 == 1

theorem mainTck_rises (m : ℕ) : ∃ n ≥ m, mainTck n = false ∧ mainTck (n+1) = true := by
  have hlow : (101 + (20 * m + 8)) / 10 % 2 = 0 := by omega
  have hhigh : (101 + (20 * m + 8 + 1)) / 10 % 2 = 1 := by omega
  refine ⟨20 * m + 8, by omega, ?_, ?_⟩
  · rw [mainTck, hlow]
    rfl
  · rw [mainTck, hhigh]
    rfl

namespace Transaction

def path (x : Transaction) : Path := if x.mode = jtagIr then .ir else .dr

def firstBits (req : BitVec 64) (n : ℕ) : List Bool := (List.range n).map req.getLsbD

def sent (x : Transaction) : List Bool := firstBits x.req x.len.toNat

def Fits (x : Transaction) : Prop := 1 ≤ x.len.toNat ∧ x.len.toNat ≤ 64

instance (x : Transaction) : Decidable x.Fits :=
  inferInstanceAs (Decidable (1 ≤ x.len.toNat ∧ x.len.toNat ≤ 64))

theorem Made.fits {x : Transaction} (h : x.Made) : x.Fits := by
  unfold Fits
  cases h
  all_goals
    dsimp only
    decide

def visit (x : Transaction) : List Period := List.replicate 8 .idle ++ x.path.scan x.sent

theorem firstBits_succ (req : BitVec 64) (n : ℕ) :
    firstBits req (n+1) = req.getLsbD 0 :: firstBits (req >>> 1) n := by
  unfold firstBits
  rw [List.range_succ_eq_map, List.map_cons, List.map_map]
  congr 1
  apply List.map_congr_left
  intro i _
  rw [Function.comp_apply, BitVec.getLsbD_ushiftRight, Nat.add_comm]

theorem received_visits (held : List Bool) (seq : List Transaction) :
    received held (seq.flatMap visit) = seq.map (fun x => (x.path, x.sent)) := by
  induction seq generalizing held with
  | nil => rfl
  | cons x rest ih =>
    rw [List.flatMap_cons, visit, List.append_assoc, received_idle, received_scan, ih]
    rfl

end Transaction

/-- The loop at its first call of `drive`, with driver and TAP at rest. The level of TCK that the
driver remembers and its count of bits are not initialized. -/
structure Bench where
  seq : List Transaction
  fits : ∀ x ∈ seq, x.Fits
  pastTck : Bool
  bits : ℤ
  tck : Bool
  tdi : Bool

def Bench.start (b : Bench) : Sim where
  drv := ⟨b.pastTck, false, b.bits, 0, .runTestIdle⟩
  top := ⟨b.tck, false, b.tdi⟩
  tap := .runTestIdle
  seq := b.seq

end IbexAxi4l.JtagDriver
