import Mathlib.Data.Nat.Notation

set_option autoImplicit false

/-!
# The TAP controller of IEEE 1149.1

The controller moves on the rising edges of TCK, and a `Period` is what such an edge finds.
-/
namespace IbexAxi4l.TapController

inductive TapState where
  | testLogicReset | runTestIdle
  | selectDrScan | captureDr | shiftDr | exit1Dr | pauseDr | exit2Dr | updateDr
  | selectIrScan | captureIr | shiftIr | exit1Ir | pauseIr | exit2Ir | updateIr
  deriving DecidableEq

namespace TapState

def next : TapState → Bool → TapState
  | testLogicReset, tms => if tms then testLogicReset else runTestIdle
  | runTestIdle, tms => if tms then selectDrScan else runTestIdle
  | selectDrScan, tms => if tms then selectIrScan else captureDr
  | captureDr, tms => if tms then exit1Dr else shiftDr
  | shiftDr, tms => if tms then exit1Dr else shiftDr
  | exit1Dr, tms => if tms then updateDr else pauseDr
  | pauseDr, tms => if tms then exit2Dr else pauseDr
  | exit2Dr, tms => if tms then updateDr else shiftDr
  | updateDr, tms => if tms then selectDrScan else runTestIdle
  | selectIrScan, tms => if tms then testLogicReset else captureIr
  | captureIr, tms => if tms then exit1Ir else shiftIr
  | shiftIr, tms => if tms then exit1Ir else shiftIr
  | exit1Ir, tms => if tms then updateIr else pauseIr
  | pauseIr, tms => if tms then exit2Ir else pauseIr
  | exit2Ir, tms => if tms then updateIr else shiftIr
  | updateIr, tms => if tms then selectDrScan else runTestIdle

def shifts : TapState → Bool
  | shiftDr | shiftIr => true
  | _ => false

end TapState

/-- The state before the edge and, where it shifts, the bit on TDI. -/
structure Period where
  state : TapState
  tdi : Option Bool

def TapState.period (t : TapState) (tdi : Bool) : Period :=
  ⟨t, if t.shifts then some tdi else none⟩

def Period.idle : Period := ⟨.runTestIdle, none⟩

inductive Path where
  | ir
  | dr

namespace Path

def capture : Path → TapState
  | ir => .captureIr
  | dr => .captureDr

def shift : Path → TapState
  | ir => .shiftIr
  | dr => .shiftDr

def exit1 : Path → TapState
  | ir => .exit1Ir
  | dr => .exit1Dr

def pause : Path → TapState
  | ir => .pauseIr
  | dr => .pauseDr

def exit2 : Path → TapState
  | ir => .exit2Ir
  | dr => .exit2Dr

def update : Path → TapState
  | ir => .updateIr
  | dr => .updateDr

def select : Path → List Period
  | ir => [⟨.selectDrScan, none⟩, ⟨.selectIrScan, none⟩]
  | dr => [⟨.selectDrScan, none⟩]

def leave (p : Path) : List Period :=
  [⟨p.exit1, none⟩, ⟨p.pause, none⟩, ⟨p.exit2, none⟩, ⟨p.update, none⟩]

def shiftIn (p : Path) (bits : List Bool) : List Period :=
  bits.map (fun b => ⟨p.shift, some b⟩) ++ p.leave

/-- A scan that leaves by way of the pause state. -/
def scan (p : Path) (bits : List Bool) : List Period :=
  p.select ++ ⟨p.capture, none⟩ :: p.shiftIn bits

end Path

/-- The scans that are complete, each with the bits of its shift register. -/
def received : List Bool → List Period → List (Path × List Bool)
  | _, [] => []
  | held, period :: rest =>
    match period.state with
    | .captureIr | .captureDr => received [] rest
    | .shiftIr | .shiftDr => received (held ++ period.tdi.toList) rest
    | .updateIr => (.ir, held) :: received held rest
    | .updateDr => (.dr, held) :: received held rest
    | _ => received held rest

theorem received_shiftIn (p : Path) (held bits : List Bool) (rest : List Period) :
    received held (p.shiftIn bits ++ rest) = (p, held ++ bits) :: received (held ++ bits) rest := by
  induction bits generalizing held with
  | nil =>
    rw [List.append_nil]
    cases p <;> rfl
  | cons b bits ih =>
    have hshift : received held (p.shiftIn (b :: bits) ++ rest) =
        received (held ++ [b]) (p.shiftIn bits ++ rest) := by
      cases p <;> rfl
    rw [hshift, ih, List.append_assoc]
    rfl

theorem received_scan (p : Path) (held bits : List Bool) (rest : List Period) :
    received held (p.scan bits ++ rest) = (p, bits) :: received bits rest := by
  have hcapture : received held (p.scan bits ++ rest) = received [] (p.shiftIn bits ++ rest) := by
    cases p <;> rfl
  rw [hcapture, received_shiftIn]
  rfl

theorem received_idle (n : ℕ) (held : List Bool) (rest : List Period) :
    received held (List.replicate n .idle ++ rest) = received held rest := by
  induction n with
  | zero => rfl
  | succ n ih => exact ih

theorem received_prefix (held : List Bool) {seen plan : List Period} (h : seen <+: plan) :
    received held seen <+: received held plan := by
  rcases h with ⟨later, rfl⟩
  induction seen generalizing held with
  | nil => exact List.nil_prefix
  | cons period seen ih =>
    rcases period with ⟨state, tdi⟩
    cases state with
    | captureIr | captureDr => exact ih []
    | shiftIr | shiftDr => exact ih (held ++ tdi.toList)
    | updateIr | updateDr => exact (List.prefix_cons_inj _).2 (ih held)
    | _ => exact ih held

end IbexAxi4l.TapController
