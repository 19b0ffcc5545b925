import IbexAxi4l.AxiLite
import IbexAxi4l.BusProgram
import IbexAxi4l.ByteLanes

set_option autoImplicit false

/-!
# The LED firmware

`led.c`. Its variable `ticks` is passed in and returned; the accesses to control registers of
the core and the endless `wfi` are left out.
-/
namespace IbexAxi4l.LedFirmware
open AxiLite ByteLanes BusProgram

abbrev Code := Prog Addr Data

def clkFixedFreqHz : BitVec 64 := 50000000
def tickTime : BitVec 32 := 10
def blinkTime : BitVec 32 := 1000

def sw : Addr := 0x10000000
def ledrgb : Addr := 0x10001000
def led : Addr := 0x10002000
def btn : Addr := 0x10003000
def mtime : Addr := 0x10004000
def mtimeh : Addr := 0x10004004
def mtimecmp : Addr := 0x10004008
def mtimecmph : Addr := 0x1000400c

/-- `CLK_FIXED_FREQ_HZ * TICK_TIME / 1000` -/
def period : BitVec 64 := clkFixedFreqHz * tickTime.setWidth 64 / 1000

theorem toNat_period : period.toNat = 500000 := by decide

def ledrgbReg (button color : BitVec 8) : Data :=
  let r : Data := 0
  let r := if button &&& 0b0001 ≠ 0 then r ||| color.setWidth 32 else r
  let r := if button &&& 0b0010 ≠ 0 then r ||| color.setWidth 32 <<< 3 else r
  let r := if button &&& 0b0100 ≠ 0 then r ||| color.setWidth 32 <<< 6 else r
  if button &&& 0b1000 ≠ 0 then r ||| color.setWidth 32 <<< 9 else r

def senseButtons : Code Unit := do
  if (← .read sw) &&& 0b1000 = 0 then
    let button ← .read btn
    let color := (← .read sw) &&& 0b0111
    .write ledrgb (ledrgbReg (button.setWidth 8) (color.setWidth 8))

def blink (ticks : BitVec 32) : Code (BitVec 32) :=
  if ticks + 1 = blinkTime / tickTime then do
    .write led ((← .read led) + 1)
    return 0
  else return ticks + 1

def setMtimecmp (value : BitVec 64) : Code Unit := do
  .write mtimecmp 0xffffffff
  .write mtimecmph (highWord value)
  .write mtimecmp (lowWord value)

/-- The double word is read by its low half first. -/
def incrementMtimecmp : Code Unit := do
  let low ← .read mtimecmp
  let high ← .read mtimecmph
  setMtimecmp (high ++ low + period)

def timerInterruptHandler (ticks : BitVec 32) : Code (BitVec 32) := do
  senseButtons
  let ticks ← blink ticks
  incrementMtimecmp
  return ticks

/-- One pass of the loop, with the two words that it ends with. -/
def readMtimeOnce : Code (Option (Data × Data)) := do
  let high ← .read mtimeh
  let low ← .read mtime
  return if (← .read mtimeh) ≠ high then none else some (high, low)

def readMtime : Code (BitVec 64) := do
  let (high, low) ← .loop readMtimeOnce
  return high.setWidth 64 * 0x100000000 + low.setWidth 64

/-- Up to the point where interrupts are enabled, with the value that it has programmed. -/
def main : Code (BitVec 64) := do
  .write ledrgb 0
  .write led 0
  let time ← readMtime
  setMtimecmp (time + period)
  return time + period

end IbexAxi4l.LedFirmware
