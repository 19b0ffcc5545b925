import Mathlib.Order.Basic
import IbexAxi4l.Progress
import IbexAxi4l.AxiLite

set_option autoImplicit false

/-!
# What a slave owes in the long run

A beat has reached a slave when it was taken or is offered. A lively slave shows a response
to each transaction whose beats have reached it, once the responses before it are taken.
-/
namespace IbexAxi4l.ReadyValid
open EventLog

def Link.Reached {α : Type} (l : Link α) (k t : ℕ) : Prop := k < count l.beat t ∨ l.Shown k t

section Reached
variable {α : Type} {l : Link α} {k t : ℕ}

theorem Link.Reached.of_le {j : ℕ} (h : l.Reached k t) (hj : j ≤ k) : l.Reached j t := by
  rcases Nat.lt_or_eq_of_le hj with hlt | rfl
  · exact .inl (h.elim (fun hk => hlt.trans hk) (fun hs => hs.2.symm ▸ hlt))
  · exact h

theorem Link.Reached.taken (h : l.Reached k t) (hready : count l.beat t ≤ k → l.ready t = true) :
    k < count l.beat (t+1) := by
  rcases h with hlt | hs
  · exact hlt.trans_le (count_mono l.beat (Nat.le_succ t))
  · rw [count_succ, isSome_beat, hs.1, hready hs.2.le, hs.2]
    exact Nat.lt_succ_self k

theorem Link.Reached.mono {keep : α → α → Prop} (hheld : ∀ n, l.Holds keep n)
    (h : l.Reached k t) {u : ℕ} (hu : t ≤ u) : l.Reached k u := by
  induction u, hu using Nat.le_induction with
  | base => exact h
  | succ u hu ih =>
    rcases ih with hlt | hs
    · exact .inl (hlt.trans_le (count_mono l.beat (Nat.le_succ u)))
    · cases hready : l.ready u with
      | true => exact .inl (Link.Reached.taken (.inr hs) (fun _ => hready))
      | false =>
        right
        have hnone : l.beat u = none := beat_none (by rw [hready, Bool.and_false])
        exact ⟨(hheld (u+2) u (by omega) hs.1 hready).1, (count_succ_none hnone).trans hs.2⟩

end Reached

end IbexAxi4l.ReadyValid

namespace IbexAxi4l.AxiLite
open EventLog ReadyValid Progress

structure AxiPort.Lively (s : AxiPort) : Prop where
  writes : ∀ t, count s.b.beat t ≤ count s.aw.beat t ∧ count s.b.beat t ≤ count s.w.beat t
  reads : ∀ t, count s.r.beat t ≤ count s.ar.beat t
  write : ∀ j, LeadsTo (fun t => count s.b.beat t = j ∧ s.aw.Reached j t ∧ s.w.Reached j t)
    (fun t => s.b.valid t = true)
  read : ∀ j, LeadsTo (fun t => count s.r.beat t = j ∧ s.ar.Reached j t)
    (fun t => s.r.valid t = true)

section Lively
variable {s : AxiPort} (h : s.Lively) (hheld : ∀ n, s.Stable n)
include h hheld

/-- A write that has reached the slave is answered, after all the writes before it. -/
theorem AxiPort.Lively.write_answered
    (htakes : LeadsTo (fun t => s.b.valid t = true) (fun t => (s.b.beat t).isSome = true))
    {j t : ℕ} (haw : s.aw.Reached j t) (hw : s.w.Reached j t) :
    ∃ u ≥ t, j < count s.b.beat u := by
  apply eventually_exceeds
  intro u hu hle
  have haw' := (haw.mono (fun n => (hheld n).aw) hu).of_le hle
  have hw' := (hw.mono (fun n => (hheld n).w) hu).of_le hle
  obtain ⟨v, hv, hvalid⟩ := h.write _ u ⟨rfl, haw', hw'⟩
  obtain ⟨x, hx, hbeat⟩ := htakes v hvalid
  exact ⟨x, hv.trans hx, hbeat⟩

theorem AxiPort.Lively.read_answered
    (htakes : LeadsTo (fun t => s.r.valid t = true) (fun t => (s.r.beat t).isSome = true))
    {j t : ℕ} (har : s.ar.Reached j t) : ∃ u ≥ t, j < count s.r.beat u := by
  apply eventually_exceeds
  intro u hu hle
  have har' := (har.mono (fun n => (hheld n).ar) hu).of_le hle
  obtain ⟨v, hv, hvalid⟩ := h.read _ u ⟨rfl, har'⟩
  obtain ⟨x, hx, hbeat⟩ := htakes v hvalid
  exact ⟨x, hv.trans hx, hbeat⟩

end Lively

end IbexAxi4l.AxiLite
