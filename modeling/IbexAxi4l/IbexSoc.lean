import IbexAxi4l.SoleWriter
import IbexAxi4l.MemoryMap
import IbexAxi4l.LedReadback
import IbexAxi4l.TickFirmware
import IbexAxi4l.BridgeRoundTrip

set_option autoImplicit false

/-!
# The bus of the SoC

The three masters and seven slaves of `ibex_soc` on `axi4l_interconnect`: what each of the
cores finds at each address, whatever the other two do.
-/
namespace IbexAxi4l.IbexSoc
open EventLog ReadyValid AxiLite RegisterSlave MemoryMap
open Crossbar (Routes Connects System)
open BusDevice (Device DmHookup writeOf)
open Core2axi4l (core2axi4l corePort)
open Axi4lGpio (axi4lGpio delayed)
open LedReadback (ledGpioI)

def socRam : Axi4lDpramx32.RamSize := ⟨ramSize.toNat, by decide, 16, rfl⟩

/-- The modules of `ibex_soc` that are on the bus: `axim[0]` is the bus master of the debug
module, `axim[1]` the data port and `axim[2]` the instruction port of the core. -/
structure Parts where
  axim : Fin 3 → Run core2axi4l
  uDpram : Run (Axi4lDpramx32.axi4lDpramx32 socRam.size)
  uDmTop : Run Axi4l2core.axi4l2core
  uSw : Run axi4lGpio
  uLedrgb : Run axi4lGpio
  uLedg : Run axi4lGpio
  uBtn : Run axi4lGpio
  uTimer : Run Axi4lTimer.axi4lTimer

structure Wired (p : Parts) (sw btn : ℕ → BitVec 4) (n : ℕ) : Prop where
  instr : ∀ t, let core := (corePort (p.axim 2)).master t
    core.we = false ∧ core.be = 0 ∧ core.wdata = 0
  dm : DmHookup p.uDmTop n
  sw : ∀ t, (p.uSw.input t).gpioI = (0 : BitVec 28) ++ sw t
  ledrgb : ∀ t, (p.uLedrgb.input t).gpioI = ledGpioI (p.uLedg.output t).gpioO
  led : ∀ t, (p.uLedg.input t).gpioI = ledGpioI (p.uLedg.output t).gpioO
  btn : ∀ t, (p.uBtn.input t).gpioI = (0 : BitVec 28) ++ btn t

def Parts.axis (p : Parts) : Fin 7 → AxiPort
  | 0 => Axi4lDpramx32.axiPort p.uDpram
  | 1 => Axi4l2core.axiPort p.uDmTop
  | 2 => (Axi4lGpio.trace p.uSw).port
  | 3 => (Axi4lGpio.trace p.uLedrgb).port
  | 4 => (Axi4lGpio.trace p.uLedg).port
  | 5 => (Axi4lGpio.trace p.uBtn).port
  | 6 => (Axi4lTimer.trace p.uTimer).port

/-- The slave that `axilxbar` selects. -/
def decode (x : Axilxbar) (a : Addr) : Option (Fin 7) :=
  (List.finRange 7).find? (fun i => x.selects (slaveAddr socBaseAddr) (slaveMask socSize) a i)

structure Soc (n : ℕ) extends Parts where
  sw : ℕ → BitVec 4
  btn : ℕ → BitVec 4
  wired : Wired toParts sw btn n
  axilxbar : Axilxbar
  decodes : axilxbar.Decodes
  writes : Routes (Fin 3) (Fin 7)
  reads : Routes (Fin 3) (Fin 7)
  connects : Connects (decode axilxbar) writes reads (fun m => Core2axi4l.axiPort (axim m))
    toParts.axis n
  holds : (Axi4l2core.axiPort uDmTop).Stable n
  stable : ∀ m, (corePort (axim m)).Stable n

namespace Soc
variable {n : ℕ} (S : Soc n)

def device : Fin 7 → Device n
  | 0 => BusDevice.ram socRam S.uDpram n
  | 1 => BusDevice.dm S.uDmTop n S.wired.dm S.holds
  | 2 => BusDevice.registers (Axi4lGpio.drives S.uSw) n
  | 3 => BusDevice.registers (Axi4lGpio.drives S.uLedrgb) n
  | 4 => BusDevice.registers (Axi4lGpio.drives S.uLedg) n
  | 5 => BusDevice.registers (Axi4lGpio.drives S.uBtn) n
  | 6 => BusDevice.registers (Axi4lTimer.drives S.uTimer) n

theorem device_port (i : Fin 7) : (S.device i).port = S.axis i := by
  fin_cases i <;> rfl

def system : System (Fin 3) (Fin 7) n where
  core := S.axim
  device := S.device
  decode := decode S.axilxbar
  writes := S.writes
  reads := S.reads
  connects := by
    have hports : (fun i => (S.device i).port) = S.axis := funext S.device_port
    rw [hports]
    exact S.connects
  stable := S.stable

end Soc

/-! ## The view of a core -/

instance (baseAddr size : Fin 7 → Addr) (a : Addr) (i : Fin 7) :
    Decidable (Inside baseAddr size a i) :=
  inferInstanceAs (Decidable (_ ∧ _))

def region (a : Addr) : Option (Fin 7) :=
  (List.finRange 7).find? (fun i => decide (Inside socBaseAddr socSize a i))

/-- An access to this address gets an error: no slave is there, or no register. -/
def errs (a : Addr) : Bool :=
  match region a with
  | none => true
  | some 0 | some 1 => false
  | some 6 => decide (4 ≤ (offset a).toNat)
  | some _ => decide (2 ≤ (offset a).toNat)

/-- A GPIO loads its pins as they were two cycles ago. -/
def synced (pins : ℕ → Data) : ℕ → Data
  | 0 | 1 => 0
  | t + 2 => pins t

/-- What an access that samples the address in cycle `te` reads. -/
def Soc.value {n : ℕ} (S : Soc n) (a : Addr) (te : ℕ) : Data :=
  let gpio (r : Run axi4lGpio) (pins : ℕ → Data) : Data :=
    if offset a = Axi4lGpio.gpioData then synced pins te else (r.output te).gpioEn
  let led (t : ℕ) : Data := ledGpioI (S.uLedg.output t).gpioO
  match region a with
  | some 0 => Axi4lDpramx32.mem S.uDpram te (socRam.cell a)
  | some 1 => ((Axi4l2core.corePort S.uDmTop).slave (te+1)).rdata
  | some 2 => gpio S.uSw (fun t => (0 : BitVec 28) ++ S.sw t)
  | some 3 => gpio S.uLedrgb led
  | some 4 => gpio S.uLedg led
  | some 5 => gpio S.uBtn (fun t => (0 : BitVec 28) ++ S.btn t)
  | some 6 => Axi4lTimer.half (BitVec.ofNat 64 te) (S.uTimer.state te).mtimecmp (offset a)
  | none => 0

theorem decode_eq {x : Axilxbar} (h : x.Decodes) (a : Addr) : decode x a = region a := by
  unfold decode region
  refine congrArg (fun p => (List.finRange 7).find? p) (funext fun i => ?_)
  rw [Bool.eq_iff_iff, decide_eq_true_iff]
  exact selected_iff h soc_aligned a i

theorem toNat_lt_succ_iff {o : BitVec 10} {k : ℕ} (hk : k < 1024) :
    o.toNat < k + 1 ↔ o.toNat < k ∨ o = BitVec.ofNat 10 k := by
  have heq : o = BitVec.ofNat 10 k ↔ o.toNat = k := by
    constructor
    · rintro rfl
      exact Nat.mod_eq_of_lt hk
    · intro h
      exact BitVec.eq_of_toNat_eq (h.trans (Nat.mod_eq_of_lt hk).symm)
  rw [heq]
  omega

theorem gpio_check (a : Addr) : Axi4lGpio.check a = .okay ↔ (offset a).toNat < 2 := by
  rw [Axi4lGpio.check_eq_okay, toNat_lt_succ_iff (by decide), toNat_lt_succ_iff (by decide)]
  simp [Axi4lGpio.gpioData, Axi4lGpio.gpioDir]

theorem timer_check (a : Addr) : Axi4lTimer.check a = .okay ↔ (offset a).toNat < 4 := by
  rw [Axi4lTimer.check_eq_okay, toNat_lt_succ_iff (by decide), toNat_lt_succ_iff (by decide),
    toNat_lt_succ_iff (by decide), toNat_lt_succ_iff (by decide)]
  simp [Axi4lTimer.mtimeAddr, Axi4lTimer.mtimehAddr, Axi4lTimer.mtimecmpAddr,
    Axi4lTimer.mtimecmphAddr, or_assoc]

namespace Soc
variable {n : ℕ} {S : Soc n}

theorem status_iff {a : Addr} {i : Fin 7} (hi : region a = some i) :
    (S.device i).status a ≠ .okay ↔ errs a = true := by
  unfold errs
  rw [hi]
  have hgpio : Axi4lGpio.check a ≠ .okay ↔ decide (2 ≤ (offset a).toNat) = true := by
    rw [Ne, gpio_check, decide_eq_true_iff, Nat.not_lt]
  fin_cases i
  · exact ⟨fun h => absurd rfl h, nofun⟩
  · exact ⟨fun h => absurd rfl h, nofun⟩
  · exact hgpio
  · exact hgpio
  · exact hgpio
  · exact hgpio
  · change Axi4lTimer.check a ≠ .okay ↔ decide (4 ≤ (offset a).toNat) = true
    rw [Ne, timer_check, decide_eq_true_iff, Nat.not_lt]

theorem delayed_eq {r : Run axi4lGpio} {pins : ℕ → Data} (h : ∀ t, (r.input t).gpioI = pins t)
    (t : ℕ) : delayed r t = synced pins t := by
  cases t with
  | zero => rfl
  | succ t =>
    cases t with
    | zero => rfl
    | succ t => exact h t

theorem gpio_load {r : Run axi4lGpio} {pins : ℕ → Data} (h : ∀ t, (r.input t).gpioI = pins t)
    {a : Addr} (te : ℕ) (hmapped : decide (2 ≤ (offset a).toNat) = false) :
    Axi4lGpio.readReg (r.state te) a =
      if offset a = Axi4lGpio.gpioData then synced pins te else (r.output te).gpioEn := by
  have hcheck : Axi4lGpio.check a = .okay := by
    rw [gpio_check]
    simpa using hmapped
  rw [Axi4lGpio.readReg_mapped r te hcheck, delayed_eq h]

theorem load_eq {a : Addr} {i : Fin 7} (hi : region a = some i) (herr : errs a = false) (te : ℕ) :
    (S.device i).load te a = S.value a te := by
  unfold value
  unfold errs at herr
  rw [hi] at herr ⊢
  fin_cases i
  · rfl
  · rfl
  · exact gpio_load S.wired.sw te herr
  · exact gpio_load S.wired.ledrgb te herr
  · exact gpio_load S.wired.led te herr
  · exact gpio_load S.wired.btn te herr
  · have hcheck : Axi4lTimer.check a = .okay := by
      rw [timer_check]
      simpa using herr
    have htime : (S.uTimer.state te).mtime = BitVec.ofNat 64 te :=
      BitVec.eq_of_toNat_eq (TickFirmware.mtime_eq S.uTimer te)
    refine (Axi4lTimer.readReg_mapped _ hcheck).trans ?_
    rw [htime]

/-- What the response `y` to a request `q` says: there is an error exactly if nothing is at
the address, a read returns the value there in one cycle between its grant and its response,
and a write is made by the slave of the address in one such cycle. -/
structure Served (S : Soc n) (q : Request) (tg t : ℕ) (y : Response) : Prop where
  err : y.err = errs q.addr
  read : q.we = false → errs q.addr = false →
    ∃ te, tg ≤ te ∧ te < t ∧ y.rdata = S.value q.addr te
  write : q.we = true → errs q.addr = false →
    ∃ i, region q.addr = some i ∧ ∃ j te, tg ≤ te ∧ te < t ∧
      Nth (S.device i).commits j te (writeOf q)

/-- The memory map, as the data port, the instruction port and the debug module see it. -/
theorem serves (S : Soc n) (m : Fin 3) (k t : ℕ) (y : Response) (ht : t < n)
    (hy : Nth (corePort (S.axim m)).response k t y) :
    ∃ tg < t, ∃ q, Nth (corePort (S.axim m)).grant k tg q ∧ S.Served q tg t y := by
  obtain ⟨tg, htg, q, hq, hexplains⟩ := System.explained (S := S.system) ht hy
  refine ⟨tg, htg, q, hq, ?_⟩
  have hdecode : S.system.decode q.addr = region q.addr := decode_eq S.decodes q.addr
  unfold System.Explains at hexplains
  rw [hdecode] at hexplains
  cases hi : region q.addr with
  | none =>
    rw [hi] at hexplains
    have herr : errs q.addr = true := by
      unfold errs
      rw [hi]
    have hmapped : ¬ errs q.addr = false := by
      rw [herr]
      decide
    exact ⟨hexplains.trans herr.symm, fun _ h => absurd h hmapped, fun _ h => absurd h hmapped⟩
  | some i =>
    rw [hi] at hexplains
    obtain ⟨hstatus, te, hte, hte', heffect⟩ := hexplains
    refine ⟨Bool.eq_iff_iff.2 (hstatus.trans (status_iff hi)), ?_, ?_⟩
    · intro hwe herr
      rw [if_neg (by simp [hwe])] at heffect
      obtain ⟨k', j, -, -, -, hdata⟩ := heffect
      exact ⟨te, hte, hte', hdata.trans (load_eq hi herr te)⟩
    · intro hwe _
      rw [if_pos hwe] at heffect
      obtain ⟨k', j, -, -, hc⟩ := heffect
      exact ⟨i, hi, j, te, hte, hte', hc⟩

end Soc

/-! ## An instance -/

/-- The data port stores two bytes of a word of the RAM and loads the word, and the
instruction port fetches the same word before the store arrives. -/
def storeFetch : Parts :=
  let ask (addr : Addr) : CoreMaster := { req := true, we := false, be := 0, addr, wdata := 0 }
  let none : CoreMaster := { req := false, we := false, be := 0, addr := 0, wdata := 0 }
  let quiet : AxiSlave := BridgeRoundTrip.silent
  let idle : Run core2axi4l := ⟨.idle, ⟨none, quiet⟩, fun _ => ⟨none, quiet⟩⟩
  let fetch : Run core2axi4l :=
    { before := .idle
      resetInput := ⟨none, quiet⟩
      input := fun
        | 0 => ⟨ask 0x40, { quiet with arready := true }⟩
        | 3 => ⟨none, { quiet with rvalid := true, rdata := 0x11111111 }⟩
        | _ => ⟨none, quiet⟩ }
  let bus : BusRegs := ⟨⟨true, true, false, 0, 0, 0⟩, ⟨true, false, 0⟩, .okay, .okay, 0⟩
  let gpio (pins : ℕ → Data) : Run axi4lGpio :=
    ⟨⟨bus, fun _ => 0, ⟨0, 0⟩⟩, ⟨.idle, 0⟩, fun t => ⟨.idle, pins t⟩⟩
  let ledg : Run axi4lGpio :=
    LedReadback.gpioRun ⟨⟨bus, fun _ => 0, ⟨0, 0⟩⟩, .idle, fun _ => .idle⟩
  let answer : CoreSlave := { gnt := true, rvalid := true, rdata := 0, err := false }
  { axim := fun
      | 0 => idle
      | 1 => MemoryRefinement.storeLoad
      | 2 => fetch
    uDpram :=
      { before :=
          { write := ⟨false, false, true, 0, 0, 0⟩, read := ⟨false, true, 0⟩,
            mem := fun _ => 0x11111111, rdata := 0 }
        resetInput := .idle
        input := fun
          | 1 => (AxiMaster.idle.withAw 0x40).withAr 0x40
          | 2 => AxiMaster.idle.withW 0x12345678 5
          | 5 => AxiMaster.idle.withAr 0x40
          | _ => .idle }
    uDmTop := ⟨⟨.idle, .okay, .okay, 0⟩, ⟨answer, .idle⟩, fun _ => ⟨answer, .idle⟩⟩
    uSw := gpio (fun _ => 0)
    uLedrgb := gpio (fun t => ledGpioI (ledg.output t).gpioO)
    uLedg := ledg
    uBtn := gpio (fun _ => 0)
    uTimer := ⟨⟨bus, 0, 0⟩, .idle, fun _ => .idle⟩ }

theorem storeFetch_wired (n : ℕ) : Wired storeFetch (fun _ => 0) (fun _ => 0) n where
  instr t := by
    match t with
    | 0 | 1 | 2 | 3 | _ + 4 => exact ⟨rfl, rfl, rfl⟩
  dm := ⟨fun _ _ => rfl, fun _ _ => rfl, fun _ _ => rfl⟩
  sw _ := rfl
  ledrgb _ := rfl
  led t := LedReadback.gpioRun_wired _ t
  btn _ := rfl

/-- All traffic is between the last two masters and the RAM, which serves the fetch first. -/
def storeFetchWrites : Routes (Fin 3) (Fin 7) :=
  ⟨fun _ _ => some ⟨0, by decide⟩, fun _ _ => ⟨1, by decide⟩⟩

def storeFetchReads : Routes (Fin 3) (Fin 7) :=
  ⟨fun _ _ => some ⟨0, by decide⟩, fun _ j => if j = 0 then ⟨2, by decide⟩ else ⟨1, by decide⟩⟩

theorem storeFetch_idle (i : Fin 7) (hi : i ≠ 0) (t : ℕ) :
    (storeFetch.axis i).aw.valid t = false ∧ (storeFetch.axis i).w.valid t = false ∧
      (storeFetch.axis i).ar.valid t = false := by
  fin_cases i
  · exact absurd rfl hi
  all_goals exact ⟨rfl, rfl, rfl⟩

theorem storeFetch_dm (t : ℕ) : storeFetch.uDmTop.state t = storeFetch.uDmTop.state 0 := by
  induction t with
  | zero => rfl
  | succ t ih =>
    rw [Run.state_succ, ih]
    rfl

theorem storeFetch_mute (i : Fin 7) (hi : i ≠ 0) (t : ℕ) :
    (storeFetch.axis i).b.valid t = false ∧ (storeFetch.axis i).r.valid t = false := by
  have hidle := storeFetch_idle i hi
  have hregisters {σ : Type} {check : Addr → Resp} {store : WriteChannel.Write → σ → σ}
      {v : Trace σ} (h : Drives check store v) (hv : storeFetch.axis i = v.port)
      (h0 : ((v.port.slave 0).bvalid = false ∧ (v.port.slave 0).awready = true) ∧
        (v.port.slave 0).rvalid = false ∧ (v.port.slave 0).arready = true) :
      (storeFetch.axis i).b.valid t = false ∧ (storeFetch.axis i).r.valid t = false := by
    rw [hv] at hidle ⊢
    exact ⟨(h.write.quiet h0.1 (fun u _ => (hidle u).1) (Nat.zero_le t)).1,
      (h.read.quiet h0.2 (fun u _ => (hidle u).2.2) (Nat.zero_le t)).1⟩
  fin_cases i
  · exact absurd rfl hi
  · constructor
    · change (Axi4l2core.comb (storeFetch.uDmTop.state t) _).axi.bvalid = false
      rw [storeFetch_dm]
      rfl
    · change (Axi4l2core.comb (storeFetch.uDmTop.state t) _).axi.rvalid = false
      rw [storeFetch_dm]
      rfl
  · exact hregisters (Axi4lGpio.drives storeFetch.uSw) rfl (by decide)
  · exact hregisters (Axi4lGpio.drives storeFetch.uLedrgb) rfl (by decide)
  · exact hregisters (Axi4lGpio.drives storeFetch.uLedg) rfl (by decide)
  · exact hregisters (Axi4lGpio.drives storeFetch.uBtn) rfl (by decide)
  · exact hregisters (Axi4lTimer.drives storeFetch.uTimer) rfl (by decide)

theorem storeFetch_quiet (m : Fin 3) (t : ℕ) (ht : t < 8) :
    let p := Core2axi4l.axiPort (storeFetch.axim m)
    (m ≠ 1 → p.aw.valid t = false ∧ p.w.valid t = false ∧ p.b.valid t = false) ∧
      (m = 0 → p.ar.valid t = false ∧ p.r.valid t = false) := by
  fin_cases m <;> interval_cases t <;> decide

/-- Where everything goes to one slave, the channels of the others carry nothing. -/
theorem only_out {α : Type} {n : ℕ} {x : Routes (Fin 3) (Fin 7)} {a : Fin 3 → Link α}
    {b : Fin 7 → Link α} {only : Fin 7} (hx : ∀ m k, x.target m k = some only)
    (hb : ∀ i ≠ only, ∀ t < n, (b i).valid t = false)
    (honly : ∀ m, Channel n ((a m).part (x.to m only)) ((b only).part (x.from m only)))
    (m : Fin 3) (i : Fin 7) : Channel n ((a m).part (x.to m i)) ((b i).part (x.from m i)) := by
  by_cases hi : i = only
  · rw [hi]
    exact honly m
  · refine .silent (fun t _ => part_silent fun k => ?_) (fun t ht => part_of_silent (hb i hi t ht))
    exact decide_eq_false (fun h => hi (Option.some.inj ((hx m k).symm.trans h)).symm)

theorem only_back {α : Type} {n : ℕ} {x : Routes (Fin 3) (Fin 7)} {a : Fin 3 → Link α}
    {b : Fin 7 → Link α} {only : Fin 7} (hx : ∀ m k, x.target m k = some only)
    (hb : ∀ i ≠ only, ∀ t < n, (b i).valid t = false)
    (honly : ∀ m, Channel n ((b only).part (x.from m only)) ((a m).part (x.to m only)))
    (m : Fin 3) (i : Fin 7) : Channel n ((b i).part (x.from m i)) ((a m).part (x.to m i)) := by
  by_cases hi : i = only
  · rw [hi]
    exact honly m
  · refine .silent (fun t ht => part_of_silent (hb i hi t ht)) (fun t _ => part_silent fun k => ?_)
    exact decide_eq_false (fun h => hi (Option.some.inj ((hx m k).symm.trans h)).symm)

theorem storeFetch_apart {α : Type} {n : ℕ} {x : Routes (Fin 3) (Fin 7)} {a : Fin 3 → Link α}
    {b : Link α} {m : Fin 3} (ha : ∀ t < n, (a m).valid t = false)
    (hx : ∀ j, x.source 0 j ≠ m) :
    Channel n ((a m).part (x.to m 0)) (b.part (x.from m 0)) ∧
      Channel n (b.part (x.from m 0)) ((a m).part (x.to m 0)) := by
  have hb (j : ℕ) : x.from m 0 j = false := decide_eq_false (hx j)
  exact ⟨.silent (fun t ht => part_of_silent (ha t ht)) (fun t _ => part_silent hb),
    .silent (fun t _ => part_silent hb) (fun t ht => part_of_silent (ha t ht))⟩

theorem storeFetch_source (j : ℕ) : storeFetchReads.source 0 j ≠ 0 := by
  change (if j = 0 then (2 : Fin 3) else 1) ≠ 0
  split_ifs <;> decide

def storeFetchMaster (m : Fin 3) : AxiPort := Core2axi4l.axiPort (storeFetch.axim m)

theorem storeFetch_aw (m : Fin 3) :
    Channel 8 ((storeFetchMaster m).aw.part (storeFetchWrites.to m 0))
      ((storeFetch.axis 0).aw.part (storeFetchWrites.from m 0)) := by
  by_cases hm : m = 1
  · subst hm
    refine ⟨fun t => if t = 1 then [⟨0x40, .zero⟩] else [], ⟨rfl, ?_⟩, ?_⟩ <;>
      intro t ht <;> interval_cases t <;> decide
  · exact (storeFetch_apart (a := fun m => (storeFetchMaster m).aw)
      (fun t ht => ((storeFetch_quiet m t ht).1 hm).1) (fun _ h => hm h.symm)).1

theorem storeFetch_w (m : Fin 3) :
    Channel 8 ((storeFetchMaster m).w.part (storeFetchWrites.to m 0))
      ((storeFetch.axis 0).w.part (storeFetchWrites.from m 0)) := by
  by_cases hm : m = 1
  · subst hm
    refine ⟨fun t => if t = 1 ∨ t = 2 then [⟨0x12345678, 5⟩] else [], ⟨rfl, ?_⟩, ?_⟩ <;>
      intro t ht <;> interval_cases t <;> decide
  · exact (storeFetch_apart (a := fun m => (storeFetchMaster m).w)
      (fun t ht => ((storeFetch_quiet m t ht).1 hm).2.1) (fun _ h => hm h.symm)).1

theorem storeFetch_b (m : Fin 3) :
    Channel 8 ((storeFetch.axis 0).b.part (storeFetchWrites.from m 0))
      ((storeFetchMaster m).b.part (storeFetchWrites.to m 0)) := by
  by_cases hm : m = 1
  · subst hm
    refine ⟨fun t => if t = 4 then [.okay] else [], ⟨rfl, ?_⟩, ?_⟩ <;>
      intro t ht <;> interval_cases t <;> decide
  · exact (storeFetch_apart (a := fun m => (storeFetchMaster m).b)
      (fun t ht => ((storeFetch_quiet m t ht).1 hm).2.2) (fun _ h => hm h.symm)).2

theorem storeFetch_ar (m : Fin 3) :
    Channel 8 ((storeFetchMaster m).ar.part (storeFetchReads.to m 0))
      ((storeFetch.axis 0).ar.part (storeFetchReads.from m 0)) := by
  fin_cases m
  · exact (storeFetch_apart (a := fun m => (storeFetchMaster m).ar)
      (fun t ht => ((storeFetch_quiet 0 t ht).2 rfl).1) storeFetch_source).1
  · refine ⟨fun _ => [], ⟨rfl, ?_⟩, ?_⟩ <;> intro t ht <;> interval_cases t <;> decide
  · refine ⟨fun t => if t = 1 then [⟨0x40, .zero⟩] else [], ⟨rfl, ?_⟩, ?_⟩ <;>
      intro t ht <;> interval_cases t <;> decide

theorem storeFetch_r (m : Fin 3) :
    Channel 8 ((storeFetch.axis 0).r.part (storeFetchReads.from m 0))
      ((storeFetchMaster m).r.part (storeFetchReads.to m 0)) := by
  fin_cases m
  · exact (storeFetch_apart (a := fun m => (storeFetchMaster m).r)
      (fun t ht => ((storeFetch_quiet 0 t ht).2 rfl).2) storeFetch_source).2
  · refine ⟨fun t => if t = 7 then [⟨0x11341178, .okay⟩] else [], ⟨rfl, ?_⟩, ?_⟩ <;>
      intro t ht <;> interval_cases t <;> decide
  · refine ⟨fun t => if t = 3 then [⟨0x11111111, .okay⟩] else [], ⟨rfl, ?_⟩, ?_⟩ <;>
      intro t ht <;> interval_cases t <;> decide

theorem storeFetch_addr (m : Fin 3) (t : ℕ) (ht : t < 8) :
    ((storeFetchMaster m).awAddr t = none ∨ (storeFetchMaster m).awAddr t = some 0x40) ∧
      ((storeFetchMaster m).arAddr t = none ∨ (storeFetchMaster m).arAddr t = some 0x40) := by
  fin_cases m <;> interval_cases t <;> decide

theorem storeFetch_region {o : Option Addr} {a : Addr} (h : o = none ∨ o = some 0x40)
    (ha : o = some a) : decode maskCompare a = some 0 := by
  rw [decode_eq maskCompare_decodes]
  rcases h with rfl | rfl
  · cases ha
  · cases ha
    decide

theorem storeFetch_connects : Connects (decode maskCompare) storeFetchWrites storeFetchReads
    storeFetchMaster storeFetch.axis 8 where
  aw := only_out (fun _ _ => rfl) (fun i hi t _ => (storeFetch_idle i hi t).1) storeFetch_aw
  w := only_out (fun _ _ => rfl) (fun i hi t _ => (storeFetch_idle i hi t).2.1) storeFetch_w
  b := only_back (fun _ _ => rfl) (fun i hi t _ => (storeFetch_mute i hi t).1)
    storeFetch_b
  ar := only_out (fun _ _ => rfl) (fun i hi t _ => (storeFetch_idle i hi t).2.2)
    storeFetch_ar
  r := only_back (fun _ _ => rfl) (fun i hi t _ => (storeFetch_mute i hi t).2)
    storeFetch_r
  awDecode m k t a ht h := by
    rw [storeFetch_region (storeFetch_addr m t ht).1 h.occurs]
    rfl
  arDecode m k t a ht h := by
    rw [storeFetch_region (storeFetch_addr m t ht).2 h.occurs]
    rfl
  bUnmapped m k t _ _ h := by cases h
  rUnmapped m k t _ _ h := by cases h

def storeFetchSoc : Soc 8 where
  toParts := storeFetch
  sw _ := 0
  btn _ := 0
  wired := storeFetch_wired 8
  axilxbar := maskCompare
  decodes := maskCompare_decodes
  writes := storeFetchWrites
  reads := storeFetchReads
  connects := storeFetch_connects
  holds := by
    refine ⟨?_, ?_, ?_⟩ <;> intro t _ hv <;> cases hv
  stable m := by
    intro t ht
    have hlt : t < 7 := by omega
    fin_cases m <;> interval_cases t <;> decide

theorem storeFetch_served : ∃ tg < 7, ∃ q,
    Nth (corePort (storeFetchSoc.axim 1)).grant 1 tg q ∧
      storeFetchSoc.Served q tg 7 ⟨0x11341178, false⟩ :=
  storeFetchSoc.serves 1 1 7 ⟨0x11341178, false⟩ (by decide) ⟨by decide, by decide⟩

theorem ram_follows {z : Axi4lDpramx32.RamSize} (r : Run (Axi4lDpramx32.axi4lDpramx32 z.size)) :
    Journal.Follows (fun c => (Axi4lDpramx32.store z.size c).apply) (Axi4lDpramx32.commits r)
      (Axi4lDpramx32.mem r) := by
  intro t
  rw [Axi4lDpramx32.mem_succ]
  cases Axi4lDpramx32.commits r t <;> rfl

theorem storeFetch_sole : storeFetchSoc.system.SoleWriter 1 0 := by
  intro m t q ht hq _
  have hsome : ((corePort (storeFetch.axim m)).write t).isSome = true → m = 1 := by
    fin_cases m <;> interval_cases t <;> decide
  apply hsome
  rw [show (corePort (storeFetch.axim m)).write t = some q from hq]
  rfl

theorem storeFetch_linearizes : storeFetchSoc.system.Linearizes :=
  System.linearizes storeFetchSoc.system

end IbexAxi4l.IbexSoc
