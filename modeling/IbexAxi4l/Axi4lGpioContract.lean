import IbexAxi4l.Axi4lGpio

set_option autoImplicit false

/-!
# The registers of the AXI4-Lite GPIO

What `gpio_o` and `gpio_en` hold and what a read of the pins returns, in every run from reset.
-/
namespace IbexAxi4l.Axi4lGpio
open EventLog ReadyValid AxiLite ByteLanes RegisterSlave Journal

theorem msb_shiftConcat_twice (q : BitVec 2) (a b : Bool) :
    ((q.shiftConcat a).shiftConcat b).msb = a := by
  revert q a b
  decide

theorem msb_shiftConcat_zero (a : Bool) : ((0 : BitVec 2).shiftConcat a).msb = false := by
  revert a
  decide

theorem getLsbD_gpioSync (s : Regs) (i : Fin 32) : (gpioSync s).getLsbD i = (s.sync i).msb := by
  unfold gpioSync
  rw [BitVec.getLsbD_cast, BitVec.getLsbD_ofBoolListLE, List.getD_eq_getElem?_getD,
    List.getElem?_ofFn, dif_pos i.isLt]
  rfl

/-- The pins two clock edges ago, and zero in the first two cycles. -/
def delayed (r : Run axi4lGpio) : ℕ → Data
  | 0 | 1 => 0
  | t + 2 => (r.input t).gpioI

theorem gpioSync_eq (r : Run axi4lGpio) (t : ℕ) : gpioSync (r.state t) = delayed r t := by
  apply BitVec.eq_of_getLsbD_eq
  intro i hi
  have hbit := getLsbD_gpioSync (r.state t) ⟨i, hi⟩
  cases t with
  | zero =>
    have hold : (0 : BitVec 2).msb = false := rfl
    exact (hbit.trans hold).trans BitVec.getLsbD_zero.symm
  | succ t =>
    cases t with
    | zero =>
      have hold : ((0 : BitVec 2).shiftConcat ((r.input 0).gpioI.getLsbD i)).msb = false :=
        msb_shiftConcat_zero _
      exact (hbit.trans hold).trans BitVec.getLsbD_zero.symm
    | succ t => exact hbit.trans (msb_shiftConcat_twice _ _ _)

def written (o : BitVec 10) (b : ℕ) (c : WriteChannel.Write) : Option (BitVec 8) :=
  if offset c.addr = o ∧ c.strb.getLsbD b = true then some (byte c.data b) else none

theorem check_eq_okay {addr : Addr} :
    check addr = .okay ↔ offset addr = gpioData ∨ offset addr = gpioDir := by
  unfold check
  split_ifs with h <;> simp [h]

theorem byte_register (c : WriteChannel.Write) (o : BitVec 10) (d : Data) {b : ℕ} (hb : b < 4) :
    byte (if offset c.addr = o then strobe c.strb c.data 0 d else d) b =
      (written o b c).getD (byte d b) := by
  unfold written
  by_cases ho : offset c.addr = o
  · rw [if_pos ho, byte_strobe _ _ _ _ _ (by omega), Nat.sub_zero]
    generalize c.strb.getLsbD b = selected
    cases selected <;> simp [ho, hb]
  · simp [ho]

theorem store_gpioO (c : WriteChannel.Write) (g : Stored) : (store c g).gpioO =
    if offset c.addr = gpioData then strobe c.strb c.data 0 g.gpioO else g.gpioO := by
  unfold store
  split_ifs <;> rfl

theorem store_gpioEn (c : WriteChannel.Write) (g : Stored) : (store c g).gpioEn =
    if offset c.addr = gpioDir then strobe c.strb c.data 0 g.gpioEn else g.gpioEn := by
  have hne : gpioDir ≠ gpioData := by decide
  unfold store
  by_cases ho : offset c.addr = gpioDir
  · rw [if_neg (by rw [ho]; exact hne), if_pos ho, if_pos ho]
  · rw [if_neg ho, if_neg ho]
    split_ifs <;> rfl

theorem byte_gpioO (c : WriteChannel.Write) (g : Stored) {b : ℕ} (hb : b < 4) :
    byte (store c g).gpioO b = (written gpioData b c).getD (byte g.gpioO b) := by
  rw [store_gpioO]
  exact byte_register c gpioData g.gpioO hb

theorem byte_gpioEn (c : WriteChannel.Write) (g : Stored) {b : ℕ} (hb : b < 4) :
    byte (store c g).gpioEn b = (written gpioDir b c).getD (byte g.gpioEn b) := by
  rw [store_gpioEn]
  exact byte_register c gpioDir g.gpioEn hb

theorem store_unmapped {c : WriteChannel.Write} (h : check c.addr = .slverr) (g : Stored) :
    store c g = g := by
  have hnot : ¬ check c.addr = .okay := by
    rw [h]
    decide
  rw [check_eq_okay, not_or] at hnot
  unfold store
  rw [if_neg hnot.1, if_neg hnot.2]

theorem readReg_mapped (r : Run axi4lGpio) (t : ℕ) {addr : Addr} (h : check addr = .okay) :
    readReg (r.state t) addr =
      if offset addr = gpioData then delayed r t else (r.output t).gpioEn := by
  have hne : gpioDir ≠ gpioData := by decide
  unfold readReg
  rw [gpioSync_eq]
  rcases check_eq_okay.1 h with ho | ho
  · rw [if_pos ho, if_pos ho]
  · have hdata : ¬ offset addr = gpioData := by
      rw [ho]
      exact hne
    rw [if_neg hdata, if_neg hdata, if_pos ho]
    rfl

/-- Write `k`, made in cycle `tc`, by the response that it is given. -/
structure WriteLaw (r : Run axi4lGpio) (k tc : ℕ) (c : WriteChannel.Write) : Prop where
  answered : (trace r).port.b.Shown k (tc+1)
  okay : ∀ t, (trace r).port.b.Shown k t → ((trace r).port.slave t).bresp = .okay →
    (offset c.addr = gpioData ∨ offset c.addr = gpioDir) ∧ ∀ b < 4,
      byte (r.output (tc+1)).gpioO b = (written gpioData b c).getD (byte (r.output tc).gpioO b) ∧
      byte (r.output (tc+1)).gpioEn b = (written gpioDir b c).getD (byte (r.output tc).gpioEn b)
  error : ∀ t, (trace r).port.b.Shown k t → ((trace r).port.slave t).bresp = .slverr →
    (r.output (tc+1)).gpioO = (r.output tc).gpioO ∧ (r.output (tc+1)).gpioEn = (r.output tc).gpioEn

structure GpioLaw (r : Run axi4lGpio) : Prop where
  channel : WriteChannel.ExactlyOnce (fun t => (r.state t).write) (trace r).port
  gpioO : ∀ t b, b < 4 → byte (r.output t).gpioO b =
    (latest (written gpioData b) (log (trace r).commits t)).getD (byte (r.output 0).gpioO b)
  gpioEn : ∀ t b, b < 4 → byte (r.output t).gpioEn b =
    (latest (written gpioDir b) (log (trace r).commits t)).getD (byte (r.output 0).gpioEn b)
  writes : ∀ k tc c, Nth (trace r).commits k tc c → WriteLaw r k tc c
  reads : ∀ k t, (trace r).port.r.Shown k t → ∃ ta ts a, ReadAt check (trace r) k ta ts a ∧
    (check a = .okay → (trace r).load ts a =
      if offset a = gpioData then delayed r ts else (r.output ts).gpioEn)

variable (r : Run axi4lGpio)

theorem follows : Follows store (trace r).commits (fun t => (r.state t).stored) :=
  (drives r).follows

theorem write_law {k tc : ℕ} {c : WriteChannel.Write} (hc : Nth (trace r).commits k tc c) :
    WriteLaw r k tc c := by
  have hstep : (r.state (tc+1)).stored = store c (r.state tc).stored :=
    (follows r).commit hc.occurs
  refine ⟨(drives r).answered hc, ?_, ?_⟩
  · intro t hs hresp
    rw [(drives r).status hc hs] at hresp
    refine ⟨check_eq_okay.1 hresp, ?_⟩
    intro b hb
    change byte (r.state (tc+1)).stored.gpioO b = _ ∧ byte (r.state (tc+1)).stored.gpioEn b = _
    rw [hstep]
    exact ⟨byte_gpioO c _ hb, byte_gpioEn c _ hb⟩
  · intro t hs hresp
    rw [(drives r).status hc hs] at hresp
    change (r.state (tc+1)).stored.gpioO = _ ∧ (r.state (tc+1)).stored.gpioEn = _
    rw [hstep, store_unmapped hresp]
    exact ⟨rfl, rfl⟩

theorem gpio_law : GpioLaw r where
  channel := (drives r).answers.writes
  gpioO t b hb := by
    have hput (c : WriteChannel.Write) (g : Stored) := byte_gpioO c g hb
    exact (follows r).get_eq (fun g => byte g.gpioO b) (written gpioData b) hput t
  gpioEn t b hb := by
    have hput (c : WriteChannel.Write) (g : Stored) := byte_gpioEn c g hb
    exact (follows r).get_eq (fun g => byte g.gpioEn b) (written gpioDir b) hput t
  writes k tc c hc := write_law r hc
  reads k t hs := by
    rcases (drives r).read_at hs with ⟨ta, ts, a, hread⟩
    exact ⟨ta, ts, a, hread, readReg_mapped r ts⟩

end IbexAxi4l.Axi4lGpio
