import IbexAxi4l.Axi4lGpioContract

set_option autoImplicit false

/-!
# Reading back the LEDs

`u_ledg` of `ibex_soc`: the LED port is a GPIO whose pins are its own four outputs. A value
that is written takes two more cycles through the synchroniser before it can be read.
-/
namespace IbexAxi4l.LedReadback
open EventLog ReadyValid AxiLite ByteLanes RegisterSlave Journal Axi4lGpio

/-- `led_gpio_i`, as `{28'h0000000, led}` with `led = led_gpio_o[3:0]`. -/
def ledGpioI (gpioO : Data) : Data := (0 : BitVec 28) ++ gpioO.extractLsb' 0 4

def uLedg : Design Regs AxiMaster Output where
  posedge aresetn s axi := posedge aresetn s ⟨axi, ledGpioI s.stored.gpioO⟩
  out s axi := out s ⟨axi, ledGpioI s.stored.gpioO⟩

def gpioRun (r : Run uLedg) : Run axi4lGpio where
  before := r.before
  resetInput := ⟨r.resetInput, ledGpioI r.before.stored.gpioO⟩
  input t := ⟨r.input t, ledGpioI (r.state t).stored.gpioO⟩

theorem gpioRun_state (r : Run uLedg) (t : ℕ) : (gpioRun r).state t = r.state t := by
  induction t with
  | zero => rfl
  | succ t ih =>
    rw [Run.state_succ, Run.state_succ, ih]
    rfl

theorem gpioRun_output (r : Run uLedg) (t : ℕ) : (gpioRun r).output t = r.output t := by
  unfold Run.output
  rw [gpioRun_state]
  rfl

theorem gpioRun_wired (r : Run uLedg) (t : ℕ) :
    ((gpioRun r).input t).gpioI = ledGpioI ((gpioRun r).output t).gpioO := by
  rw [gpioRun_output]
  rfl

/-- Write `j` of a full word to offset 0 is made in cycle `tc` and its response is taken in
cycle `tb`. After that, in cycle `ta`, the address of read `k` at offset 0 is accepted, whose
response is shown in cycle `t`; up to then nothing else is written to offset 0. -/
structure WriteThenRead (v : Trace Stored) (j k tc tb ta t : ℕ) (c : WriteChannel.Write)
    (a : Addr) : Prop where
  commit : Nth v.commits j tc c
  writeOffset : offset c.addr = gpioData
  fullWord : c.strb = 0b1111
  taken : ∃ x, Nth v.port.b.beat j tb x
  accepted : Nth v.port.arAddr k ta a
  readOffset : offset a = gpioData
  after : tb < ta
  shown : v.port.r.Shown k t
  quiet : ∀ u, tc < u → u < t → ∀ c', v.commits u = some c' → offset c'.addr ≠ gpioData

/-- The read returns what was written, unless it takes its value two cycles after the write,
when it returns what was there before. -/
structure ReadsBack (v : Trace Stored) (k tc tb ta t : ℕ) (c : WriteChannel.Write)
    (a : Addr) : Prop where
  sampled : ∃ ts, Nth v.samples k ts a ∧ ta ≤ ts ∧ ts < t ∧
    (v.port.slave t).rdata =
      if ts = tc + 2 then ledGpioI (v.stored tc).gpioO else ledGpioI c.data
  early : ∀ ts, Nth v.samples k ts a → ts = tc + 2 → tb = tc + 1 ∧ ta = tb + 1 ∧ ts = ta
  spaced : tb + 2 ≤ ta → (v.port.slave t).rdata = ledGpioI c.data

section Run
variable {r : Run uLedg} {j k tc tb ta t : ℕ} {c : WriteChannel.Write} {a : Addr}

theorem WriteThenRead.commit_lt (h : WriteThenRead (trace (gpioRun r)) j k tc tb ta t c a) :
    tc < tb := by
  rcases h.taken with ⟨x, hx⟩
  have honce := (drives (gpioRun r)).answers.writes
  rcases honce.response j tb (shown_of_nth hx) with ⟨tc', htc, c', hc', -⟩
  have htime := hc'.time_unique h.commit
  omega

theorem WriteThenRead.gpioO (h : WriteThenRead (trace (gpioRun r)) j k tc tb ta t c a) {u : ℕ}
    (hlow : tc < u) (hhigh : u < t) : ((gpioRun r).state u).stored.gpioO = c.data := by
  have hkept : ((gpioRun r).state u).stored.gpioO = ((gpioRun r).state (tc+1)).stored.gpioO := by
    apply (follows (gpioRun r)).kept Stored.gpioO hlow
    intro w hw hu c' hc'
    rw [store_gpioO, if_neg (h.quiet w hw (by omega) c' hc')]
  have hstep := (follows (gpioRun r)).commit h.commit.occurs
  rw [hkept, hstep, store_gpioO, if_pos h.writeOffset, h.fullWord, strobe_full]

theorem delayed_eq (r : Run uLedg) (t : ℕ) :
    delayed (gpioRun r) (t+2) = ledGpioI ((gpioRun r).state t).stored.gpioO :=
  gpioRun_wired r t

theorem reads_back (r : Run uLedg) (j k tc tb ta t : ℕ) (c : WriteChannel.Write) (a : Addr)
    (h : WriteThenRead (trace (gpioRun r)) j k tc tb ta t c a) :
    ReadsBack (trace (gpioRun r)) k tc tb ta t c a := by
  have htc := h.commit_lt
  have hafter := h.after
  rcases (drives (gpioRun r)).read_at h.shown with ⟨ta', ts, a', hread⟩
  have hta := hread.accepted.time_unique h.accepted
  have haddr := hread.accepted.value_unique h.accepted
  subst hta haddr
  have hts := hread.after
  rcases hread.value t h.shown with ⟨hlt, hdata⟩
  have hokay : check a' = .okay := check_eq_okay.2 (Or.inl h.readOffset)
  have hload : ((trace (gpioRun r)).port.slave t).rdata = delayed (gpioRun r) ts := by
    have hvalue := readReg_mapped (gpioRun r) ts hokay
    rw [if_pos h.readOffset] at hvalue
    exact (congrArg ReadBeat.data hdata).trans hvalue
  -- the pins two cycles before the sample
  obtain ⟨u, rfl⟩ : ∃ u, ts = u + 2 := ⟨ts - 2, by omega⟩
  rw [delayed_eq] at hload
  have hlate (hne : u ≠ tc) : ((gpioRun r).state u).stored.gpioO = c.data :=
    h.gpioO (by omega) (by omega)
  refine ⟨⟨u + 2, hread.sampled, hts, hlt, ?_⟩, ?_, ?_⟩
  · rw [hload]
    by_cases hu : u = tc
    · rw [if_pos (by omega), hu]
      rfl
    · rw [if_neg (by omega), hlate hu]
  · intro ts' hs' he
    have htime := hs'.time_unique hread.sampled
    omega
  · intro hspaced
    rw [hload, hlate (by omega)]

end Run

def backToBack : Run uLedg where
  before :=
    { write := ⟨false, false, true, 0, 0, 0⟩, read := ⟨false, true, 0⟩, bresp := .slverr,
      rresp := .slverr, rdata := 0, sync := fun _ => 3, stored := ⟨2, 0⟩ }
  resetInput := .idle
  input := fun
    | 0 => (AxiMaster.idle.withAw 0x10002000).withW 5 0b1111
    | 2 | 3 => AxiMaster.idle.withAr 0x10002000
    | _ => .idle

theorem backToBack_quiet {n u : ℕ} (hn : n ≤ 5) (hlow : 0 < u) (hhigh : u < n)
    (c : WriteChannel.Write) (hc : (trace (gpioRun backToBack)).commits u = some c) :
    offset c.addr ≠ gpioData := by
  have hnone : (trace (gpioRun backToBack)).commits u = none := by
    have hcases : u = 1 ∨ u = 2 ∨ u = 3 ∨ u = 4 := by omega
    rcases hcases with rfl | rfl | rfl | rfl <;> decide
  rw [hnone] at hc
  exact absurd hc (by simp)

theorem backToBack_first : WriteThenRead (trace (gpioRun backToBack)) 0 0 0 1 2 3
    ⟨0x10002000, 5, 0b1111⟩ 0x10002000 where
  commit := ⟨by decide, by decide⟩
  writeOffset := by decide
  fullWord := rfl
  taken := ⟨.okay, by decide, by decide⟩
  accepted := ⟨by decide, by decide⟩
  readOffset := by decide
  after := by decide
  shown := ⟨by decide, by decide⟩
  quiet u hlow hhigh c' hc' := backToBack_quiet (by decide) hlow hhigh c' hc'

theorem backToBack_second : WriteThenRead (trace (gpioRun backToBack)) 0 1 0 1 3 4
    ⟨0x10002000, 5, 0b1111⟩ 0x10002000 where
  commit := ⟨by decide, by decide⟩
  writeOffset := by decide
  fullWord := rfl
  taken := ⟨.okay, by decide, by decide⟩
  accepted := ⟨by decide, by decide⟩
  readOffset := by decide
  after := by decide
  shown := ⟨by decide, by decide⟩
  quiet u hlow hhigh c' hc' := backToBack_quiet (by decide) hlow hhigh c' hc'

theorem backToBack_reads : ReadsBack (trace (gpioRun backToBack)) 1 0 1 3 4
    ⟨0x10002000, 5, 0b1111⟩ 0x10002000 :=
  reads_back backToBack 0 1 0 1 3 4 _ _ backToBack_second

theorem backToBack_stale : ¬ ∀ (r : Run uLedg) (j k tc tb ta t : ℕ) (c : WriteChannel.Write)
    (a : Addr), WriteThenRead (trace (gpioRun r)) j k tc tb ta t c a →
    ((trace (gpioRun r)).port.slave t).rdata = ledGpioI c.data := by
  intro h
  have hread := h backToBack 0 0 0 1 2 3 _ _ backToBack_first
  exact absurd hread (by decide)

end IbexAxi4l.LedReadback
