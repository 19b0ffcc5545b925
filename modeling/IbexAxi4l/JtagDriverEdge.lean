import IbexAxi4l.JtagDriver

set_option autoImplicit false

/-!
# The falling edges of TCK

What is left of a transaction is a function of the driver's state and its two counts. One
assignment of the signals takes the first period of it off.
-/
namespace IbexAxi4l.JtagDriver
open TapController

def Driver.due (d : Driver) (x : Transaction) : List Bool :=
  Transaction.firstBits x.req (x.len.toNat - d.bits).toNat

/-- The periods of the transaction from the driver's state on. -/
def Driver.remaining (d : Driver) (x : Transaction) : List Period :=
  match d.state with
  | .testLogicReset => ⟨.testLogicReset, none⟩ :: x.visit
  | .runTestIdle => List.replicate (numIdle - d.idle).toNat .idle ++ x.path.scan x.sent
  | .selectDrScan => x.path.scan (d.due x)
  | .captureDr => ⟨.captureDr, none⟩ :: Path.dr.shiftIn (d.due x)
  | .shiftDr => Path.dr.shiftIn (d.due x)
  | .exit1Dr => Path.dr.leave
  | .pauseDr => Path.dr.leave.drop 1
  | .exit2Dr => Path.dr.leave.drop 2
  | .updateDr => Path.dr.leave.drop 3
  | .selectIrScan => ⟨.selectIrScan, none⟩ :: ⟨.captureIr, none⟩ :: Path.ir.shiftIn (d.due x)
  | .captureIr => ⟨.captureIr, none⟩ :: Path.ir.shiftIn (d.due x)
  | .shiftIr => Path.ir.shiftIn (d.due x)
  | .exit1Ir => Path.ir.leave
  | .pauseIr => Path.ir.leave.drop 1
  | .exit2Ir => Path.ir.leave.drop 2
  | .updateIr => Path.ir.leave.drop 3

def counting : TapState → Bool
  | .selectDrScan | .selectIrScan | .captureDr | .captureIr | .shiftDr | .shiftIr => true
  | _ => false

structure Driver.Counts (d : Driver) (x : Transaction) : Prop where
  idle : d.state = .runTestIdle → d.idle < numIdle
  bits : counting d.state = true → 0 ≤ d.bits ∧ d.bits < x.len.toNat

theorem Driver.Counts.fresh {d : Driver} {x : Transaction} (hstate : d.state = .runTestIdle)
    (hidle : d.idle = 0) : d.Counts x := by
  constructor
  · rw [hidle]
    exact fun _ => by decide
  · rw [hstate]
    nofun

/-- What one assignment of the signals does. -/
structure Drive.Moves (v v' : Drive) : Prop where
  state : v'.drv.state = v.drv.state.next v'.top.tms
  tck : v'.top.tck = v.top.tck
  len : v'.xaction.len = v.xaction.len
  counts : v'.drv.Counts v'.xaction
  done : v'.drv.rdy = true → v'.drv.state = .runTestIdle ∧ v'.drv.idle = 0
  remaining : v.drv.remaining v.xaction = v.drv.state.period v'.top.tdi ::
    if v'.drv.rdy then [] else v'.drv.remaining v'.xaction

namespace Drive

theorem go_moves {v w : Drive} {tms : Bool} {before state : TapState}
    (hstate : v.drv.state = before) (hrdy : w.drv.rdy = false)
    (htck : w.top.tck = v.top.tck) (hlen : w.xaction.len = v.xaction.len)
    (hnext : state = before.next tms)
    (hidle : state = .runTestIdle → w.drv.idle < numIdle)
    (hbits : counting state = true → 0 ≤ w.drv.bits ∧ w.drv.bits < w.xaction.len.toNat)
    (hremaining : v.drv.remaining v.xaction = before.period w.top.tdi ::
      Driver.remaining { w.drv with state := state } w.xaction) :
    v.Moves (w.go tms state) where
  state := by
    rw [hstate]
    exact hnext
  tck := htck
  len := hlen
  counts := ⟨hidle, hbits⟩
  done h := absurd (hrdy.symm.trans h) Bool.false_ne_true
  remaining := by
    change _ = _ :: if w.drv.rdy then [] else _
    rw [hrdy, hstate]
    exact hremaining

variable {v : Drive} (hrdy : v.drv.rdy = false) (hcounts : v.drv.Counts v.xaction)

include hrdy hcounts in
theorem idle_moves (hlen : 0 < v.xaction.len.toNat) (hstate : v.drv.state = .runTestIdle) :
    v.Moves v.assign := by
  have hidle := hcounts.idle hstate
  have hremaining : v.drv.remaining v.xaction =
      List.replicate (numIdle - v.drv.idle).toNat .idle ++ v.xaction.path.scan v.xaction.sent := by
    rw [Driver.remaining, hstate]
  unfold assign
  rw [hstate]
  dsimp only
  by_cases hagain : v.drv.idle + 1 < numIdle
  · have hcount : (numIdle - v.drv.idle).toNat = (numIdle - (v.drv.idle + 1)).toNat + 1 := by
      omega
    rw [if_pos hagain]
    refine go_moves hstate hrdy rfl rfl rfl (fun _ => hagain) nofun ?_
    rw [hremaining, hcount]
    rfl
  · have hcount : (numIdle - v.drv.idle).toNat = 1 := by omega
    have hzero : 0 ≤ (0 : ℤ) ∧ (0 : ℤ) < v.xaction.len.toNat := by omega
    rw [if_neg hagain]
    refine go_moves hstate hrdy rfl rfl rfl nofun (fun _ => hzero) ?_
    rw [hremaining, hcount]
    rfl

/-- The comparison is one of machine integers, but neither side of it wraps. -/
theorem again_iff {bits : ℤ} {len : BitVec 64} (hbits : 0 ≤ bits ∧ bits < len.toNat) :
    BitVec.ofInt 64 bits < len - 1 ↔ bits + 1 < len.toNat := by
  rcases Int.eq_ofNat_of_zero_le hbits.1 with ⟨k, rfl⟩
  have hone : (1 : BitVec 64).toNat = 1 := rfl
  rw [BitVec.ofInt_natCast, BitVec.lt_def, BitVec.toNat_ofNat, BitVec.toNat_sub, hone]
  omega

theorem shift_remaining {p : Path} (hstate : v.drv.state = p.shift) {m : ℕ}
    (hm : (v.xaction.len.toNat - v.drv.bits).toNat = m + 1) :
    v.drv.remaining v.xaction = p.shift.period (v.xaction.req.getLsbD 0) ::
      p.shiftIn (Transaction.firstBits (v.xaction.req >>> 1) m) := by
  have hdue : v.drv.remaining v.xaction = p.shiftIn (v.drv.due v.xaction) := by
    rw [Driver.remaining, hstate]
    cases p <;> rfl
  rw [hdue, Driver.due, hm, Transaction.firstBits_succ]
  cases p <;> rfl

include hrdy hcounts in
theorem shift_moves (p : Path) (hstate : v.drv.state = p.shift) :
    v.Moves (v.shift p.shift p.exit1) := by
  have hbits : 0 ≤ v.drv.bits ∧ v.drv.bits < v.xaction.len.toNat := by
    apply hcounts.bits
    rw [hstate]
    cases p <;> rfl
  rcases Nat.exists_eq_succ_of_ne_zero
    (show (v.xaction.len.toNat - v.drv.bits).toNat ≠ 0 by omega) with ⟨m, hm⟩
  unfold shift
  dsimp only
  by_cases hagain : BitVec.ofInt 64 v.drv.bits < v.xaction.len - 1
  · rw [if_pos hagain]
    rw [again_iff hbits] at hagain
    have hcount : (v.xaction.len.toNat - (v.drv.bits + 1)).toNat = m := by omega
    refine go_moves hstate hrdy rfl rfl ?_ ?_ ?_ ?_
    · cases p <;> rfl
    · cases p <;> nofun
    · exact fun _ => ⟨Int.add_nonneg hbits.1 (by decide), hagain⟩
    · rw [shift_remaining hstate hm, ← hcount]
      cases p <;> rfl
  · rw [if_neg hagain]
    rw [again_iff hbits] at hagain
    have hcount : m = 0 := by omega
    refine go_moves hstate hrdy rfl rfl ?_ ?_ ?_ ?_
    · cases p <;> rfl
    · cases p <;> nofun
    · cases p <;> nofun
    · rw [shift_remaining hstate hm, hcount]
      cases p <;> rfl

theorem finish_moves (p : Path) (hstate : v.drv.state = p.update) : v.Moves v.finish where
  state := by
    rw [hstate]
    cases p <;> rfl
  tck := rfl
  len := rfl
  counts := .fresh rfl rfl
  done _ := ⟨rfl, rfl⟩
  remaining := by
    rw [Driver.remaining, hstate]
    cases p <;> rfl

include hrdy hcounts in
theorem select_moves (hstate : v.drv.state = .selectDrScan) : v.Moves v.assign := by
  have hbits : 0 ≤ v.drv.bits ∧ v.drv.bits < v.xaction.len.toNat := by
    apply hcounts.bits
    rw [hstate]
    rfl
  unfold assign
  rw [hstate]
  dsimp only
  by_cases hir : v.xaction.mode = jtagIr
  · have hpath : v.xaction.path = .ir := if_pos hir
    rw [if_pos hir]
    refine go_moves hstate hrdy rfl rfl rfl nofun (fun _ => hbits) ?_
    rw [Driver.remaining, hstate, hpath]
    rfl
  · have hpath : v.xaction.path = .dr := if_neg hir
    rw [if_neg hir]
    refine go_moves hstate hrdy rfl rfl rfl nofun (fun _ => hbits) ?_
    rw [Driver.remaining, hstate, hpath]
    rfl

include hrdy hcounts in
theorem assign_moves (hlen : 0 < v.xaction.len.toNat) : v.Moves v.assign := by
  have hbits := hcounts.bits
  cases hstate : v.drv.state with
  | runTestIdle => exact idle_moves hrdy hcounts hlen hstate
  | selectDrScan => exact select_moves hrdy hcounts hstate
  | shiftDr =>
    unfold assign
    rw [hstate]
    exact shift_moves hrdy hcounts .dr hstate
  | shiftIr =>
    unfold assign
    rw [hstate]
    exact shift_moves hrdy hcounts .ir hstate
  | updateDr =>
    unfold assign
    rw [hstate]
    exact finish_moves .dr hstate
  | updateIr =>
    unfold assign
    rw [hstate]
    exact finish_moves .ir hstate
  | testLogicReset =>
    unfold assign
    rw [hstate]
    refine go_moves hstate hrdy rfl rfl rfl (fun _ => show (0 : ℤ) < numIdle by decide) nofun ?_
    rw [Driver.remaining, hstate]
    rfl
  | captureDr | captureIr | selectIrScan =>
    rw [hstate] at hbits
    unfold assign
    rw [hstate]
    refine go_moves hstate hrdy rfl rfl rfl nofun (fun _ => hbits rfl) ?_
    rw [Driver.remaining, hstate]
    rfl
  | exit1Dr | exit1Ir | pauseDr | pauseIr | exit2Dr | exit2Ir =>
    unfold assign
    rw [hstate]
    refine go_moves hstate hrdy rfl rfl rfl nofun nofun ?_
    rw [Driver.remaining, hstate]
    rfl

end Drive

end IbexAxi4l.JtagDriver
