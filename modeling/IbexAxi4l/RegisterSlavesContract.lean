import IbexAxi4l.Axi4lGpio
import IbexAxi4l.Axi4lTimer
import IbexAxi4l.Axi4lLed

set_option autoImplicit false

/-!
# The register slaves answer every transaction once

In every run from reset, whatever the master does on any channel.
-/
namespace IbexAxi4l.RegisterSlavesContract
open ReadyValid AxiLite RegisterSlave

structure SlavesAnswerOnce : Prop where
  gpio : ∀ r : Run Axi4lGpio.axi4lGpio,
    AnswersOnce Axi4lGpio.check Axi4lGpio.store (Axi4lGpio.trace r)
  timer : ∀ r : Run Axi4lTimer.axi4lTimer,
    AnswersOnce Axi4lTimer.check Axi4lTimer.store (Axi4lTimer.trace r)
  led : ∀ N, ∀ r : Run (Axi4lLed.axi4lLed N),
    AnswersOnce Axi4lLed.check Axi4lLed.store (Axi4lLed.trace r)

theorem slaves_answer : SlavesAnswerOnce where
  gpio r := (Axi4lGpio.drives r).answers
  timer r := (Axi4lTimer.drives r).answers
  led _ r := (Axi4lLed.drives r).answers

end IbexAxi4l.RegisterSlavesContract
