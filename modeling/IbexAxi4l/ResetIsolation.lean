import IbexAxi4l.AsyncReset
import IbexAxi4l.Axi4lDpramx32
import IbexAxi4l.Axi4lGpio
import IbexAxi4l.Axi4lTimerContract

set_option autoImplicit false

/-!
# What a reset leaves of the transactions in flight

The skid buffers, `bresp`, `rresp` and `rdata` have no reset. Two slaves with the same storage
are alike after one edge in reset, because each of these registers is loaded again before it is
looked at.
-/
namespace IbexAxi4l.ResetIsolation
open EventLog ReadyValid AsyncReset AxiLite RegisterSlave

/-- READY and VALID, and a payload only while it means something. -/
structure Seen where
  awready : Bool
  wready : Bool
  bvalid : Bool
  bresp : Option Resp
  arready : Bool
  rvalid : Bool
  rresp : Option Resp
  rdata : Option Data
  deriving DecidableEq

def seen (o : AxiSlave) : Seen where
  awready := o.awready
  wready := o.wready
  bvalid := o.bvalid
  bresp := if o.bvalid then some o.bresp else none
  arready := o.arready
  rvalid := o.rvalid
  rresp := if o.rvalid then some o.rresp else none
  rdata := if o.rvalid ∧ o.rresp = .okay then some o.rdata else none

/-! ## The channels -/

/-- The write channels agree but for what is buffered while READY is high. -/
structure SameWrite (s s' : WriteChannel.Regs) : Prop where
  awready : s'.awready = s.awready
  wready : s'.wready = s.wready
  bvalid : s'.bvalid = s.bvalid
  preWaddr : s.awready = false → s'.preWaddr = s.preWaddr
  preWdata : s.wready = false → s'.preWdata = s.preWdata
  preWstrb : s.wready = false → s'.preWstrb = s.preWstrb

structure SameRead (s s' : ReadChannel.Regs) : Prop where
  arready : s'.arready = s.arready
  rvalid : s'.rvalid = s.rvalid
  preRaddr : s.arready = false → s'.preRaddr = s.preRaddr

section Buffer
variable {α : Type} {ready : Bool} {fresh x y : α} (h : ready = false → y = x)
include h

theorem loaded_eq : (if ready then fresh else y) = if ready then fresh else x := by
  cases ready with
  | true => rfl
  | false => exact h rfl

theorem chosen_eq : (if !ready then y else fresh) = if !ready then x else fresh := by
  cases ready with
  | true => rfl
  | false => exact h rfl

end Buffer

section Write
variable {s s' : WriteChannel.Regs}

theorem SameWrite.waddr (h : SameWrite s s') (axi : AxiMaster) :
    WriteChannel.waddr s' axi = WriteChannel.waddr s axi := by
  unfold WriteChannel.waddr
  rw [h.awready]
  exact chosen_eq h.preWaddr

theorem SameWrite.wdata (h : SameWrite s s') (axi : AxiMaster) :
    WriteChannel.wdata s' axi = WriteChannel.wdata s axi := by
  unfold WriteChannel.wdata
  rw [h.wready]
  exact chosen_eq h.preWdata

theorem SameWrite.wstrb (h : SameWrite s s') (axi : AxiMaster) :
    WriteChannel.wstrb s' axi = WriteChannel.wstrb s axi := by
  unfold WriteChannel.wstrb
  rw [h.wready]
  exact chosen_eq h.preWstrb

theorem SameWrite.stall (h : SameWrite s s') (axi : AxiMaster) :
    WriteChannel.writeResponseStall s' axi = WriteChannel.writeResponseStall s axi := by
  unfold WriteChannel.writeResponseStall
  rw [h.bvalid]

theorem SameWrite.address (h : SameWrite s s') (axi : AxiMaster) :
    WriteChannel.validWriteAddress s' axi = WriteChannel.validWriteAddress s axi := by
  unfold WriteChannel.validWriteAddress
  rw [h.awready]

theorem SameWrite.data (h : SameWrite s s') (axi : AxiMaster) :
    WriteChannel.validWriteData s' axi = WriteChannel.validWriteData s axi := by
  unfold WriteChannel.validWriteData
  rw [h.wready]

theorem SameWrite.commit (h : SameWrite s s') (axi : AxiMaster) :
    WriteChannel.commit s' axi = WriteChannel.commit s axi := by
  unfold WriteChannel.commit WriteChannel.writeEnable
  rw [h.stall, h.address, h.data, h.waddr, h.wdata, h.wstrb]

theorem SameWrite.posedge (h : SameWrite s s') (resetN : Bool) (axi : AxiMaster) :
    SameWrite (WriteChannel.posedge resetN s axi) (WriteChannel.posedge resetN s' axi) := by
  unfold WriteChannel.posedge
  simp only [h.stall, h.address, h.data, h.awready, h.wready, h.bvalid]
  refine ⟨rfl, rfl, rfl, ?_, ?_, ?_⟩
  · exact fun _ => loaded_eq h.preWaddr
  · exact fun _ => loaded_eq h.preWdata
  · exact fun _ => loaded_eq h.preWstrb

theorem sameWrite_empty (haw : s.awready = true) (haw' : s'.awready = true)
    (hw : s.wready = true) (hw' : s'.wready = true) (hb : s.bvalid = false)
    (hb' : s'.bvalid = false) : SameWrite s s' where
  awready := haw'.trans haw.symm
  wready := hw'.trans hw.symm
  bvalid := hb'.trans hb.symm
  preWaddr hr := absurd (hr.symm.trans haw) Bool.false_ne_true
  preWdata hr := absurd (hr.symm.trans hw) Bool.false_ne_true
  preWstrb hr := absurd (hr.symm.trans hw) Bool.false_ne_true

end Write

section Read
variable {s s' : ReadChannel.Regs}

theorem SameRead.raddr (h : SameRead s s') (axi : AxiMaster) :
    ReadChannel.raddr s' axi = ReadChannel.raddr s axi := by
  unfold ReadChannel.raddr
  rw [h.arready]
  exact chosen_eq h.preRaddr

theorem SameRead.stall (h : SameRead s s') (axi : AxiMaster) :
    ReadChannel.readResponseStall s' axi = ReadChannel.readResponseStall s axi := by
  unfold ReadChannel.readResponseStall
  rw [h.rvalid]

theorem SameRead.address (h : SameRead s s') (axi : AxiMaster) :
    ReadChannel.validReadAddress s' axi = ReadChannel.validReadAddress s axi := by
  unfold ReadChannel.validReadAddress
  rw [h.arready]

theorem SameRead.enable (h : SameRead s s') (axi : AxiMaster) :
    ReadChannel.readEnable s' axi = ReadChannel.readEnable s axi := by
  unfold ReadChannel.readEnable
  rw [h.stall, h.address]

theorem SameRead.posedge (h : SameRead s s') (resetN : Bool) (axi : AxiMaster) :
    SameRead (ReadChannel.posedge resetN s axi) (ReadChannel.posedge resetN s' axi) := by
  unfold ReadChannel.posedge
  simp only [h.stall, h.address, h.arready]
  refine ⟨rfl, rfl, ?_⟩
  exact fun _ => loaded_eq h.preRaddr

theorem sameRead_empty (har : s.arready = true) (har' : s'.arready = true)
    (hr : s.rvalid = false) (hr' : s'.rvalid = false) : SameRead s s' where
  arready := har'.trans har.symm
  rvalid := hr'.trans hr.symm
  preRaddr hlow := absurd (hlow.symm.trans har) Bool.false_ne_true

theorem rvalid_cases {resetN : Bool} {axi : AxiMaster}
    (h : (ReadChannel.posedge resetN s axi).rvalid = true) :
    ReadChannel.readEnable s axi = true ∨
      ReadChannel.readEnable s axi = false ∧ s.rvalid = true := by
  cases resetN with
  | false => cases h
  | true =>
    rw [ReadChannel.posedge_rvalid] at h
    cases he : ReadChannel.readEnable s axi with
    | true => exact Or.inl rfl
    | false =>
      rw [he] at h
      simp only [ReadChannel.readResponseStall, Bool.false_or, Bool.and_eq_true] at h
      exact Or.inr ⟨rfl, h.1⟩

theorem bvalid_cases {s : WriteChannel.Regs} {resetN : Bool} {axi : AxiMaster}
    (h : (WriteChannel.posedge resetN s axi).bvalid = true) :
    WriteChannel.writeResponseStall s axi = true ∧ s.bvalid = true ∨
      WriteChannel.writeResponseStall s axi = false ∧
        WriteChannel.validWriteAddress s axi = true := by
  cases resetN with
  | false => cases h
  | true =>
    rw [WriteChannel.posedge_bvalid] at h
    cases hstall : WriteChannel.writeResponseStall s axi with
    | true =>
      have hv := hstall
      simp only [WriteChannel.writeResponseStall, Bool.and_eq_true] at hv
      exact Or.inl ⟨rfl, hv.1⟩
    | false =>
      rw [hstall, Bool.or_false] at h
      simp only [WriteChannel.writeEnable, Bool.and_eq_true] at h
      exact Or.inr ⟨rfl, h.1.2⟩

end Read

/-! ## The RAM -/

/-- All flags of the RAM have an asynchronous reset. -/
def ramClear {size : ℕ} (s : Axi4lDpramx32.Regs size) : Axi4lDpramx32.Regs size :=
  { s with
    write := { s.write with awready := true, wready := true, bvalid := false }
    read := { s.read with arready := true, rvalid := false } }

def ram (size : ℕ) : AsyncDesign (Axi4lDpramx32.Regs size) AxiMaster AxiSlave :=
  { Axi4lDpramx32.axi4lDpramx32 size with clear := ramClear }

def observeRam {size : ℕ} (s : Axi4lDpramx32.Regs size) (axi : AxiMaster) :=
  (seen (Axi4lDpramx32.out s axi), s.mem)

structure SameRam {size : ℕ} (s s' : Axi4lDpramx32.Regs size) : Prop where
  write : SameWrite s.write s'.write
  read : SameRead s.read s'.read
  mem : s'.mem = s.mem
  rdata : s.read.rvalid = true → s'.rdata = s.rdata

theorem SameRam.unwinding (size : ℕ) : Unwinding (ram size) SameRam where
  clear s s' h := by
    refine ⟨sameWrite_empty rfl rfl rfl rfl rfl rfl, sameRead_empty rfl rfl rfl rfl, h.mem, ?_⟩
    intro hv
    cases hv
  posedge resetN s s' axi h := by
    refine ⟨h.write.posedge resetN axi, ?_, ?_, ?_⟩
    · change SameRead (Axi4lDpramx32.readPosedge resetN s.read axi)
        (Axi4lDpramx32.readPosedge resetN s'.read axi)
      rw [Axi4lDpramx32.readPosedge_eq, Axi4lDpramx32.readPosedge_eq]
      exact h.read.posedge resetN axi
    · change ((WriteChannel.commit s'.write axi).map _).elim s'.mem _ = _
      rw [h.write.commit, h.mem]
      rfl
    · intro hv
      change (Axi4lDpramx32.readPosedge resetN s.read axi).rvalid = true at hv
      rw [Axi4lDpramx32.readPosedge_eq] at hv
      change (if ReadChannel.readEnable s'.read axi then _ else s'.rdata) =
        if ReadChannel.readEnable s.read axi then _ else s.rdata
      rw [h.read.enable, h.read.raddr, h.mem]
      rcases rvalid_cases hv with he | ⟨he, hold⟩
      · rw [he]
        rfl
      · rw [he]
        exact h.rdata hold

theorem SameRam.observe {size : ℕ} {s s' : Axi4lDpramx32.Regs size} (h : SameRam s s')
    (axi : AxiMaster) : observeRam s' axi = observeRam s axi := by
  have hrdata : (if s'.read.rvalid = true ∧ Resp.okay = .okay then some s'.rdata else none) =
      if s.read.rvalid = true ∧ Resp.okay = .okay then some s.rdata else none := by
    rw [h.read.rvalid]
    split_ifs with hv
    · rw [h.rdata hv.1]
    · rfl
  unfold observeRam seen Axi4lDpramx32.out
  rw [hrdata, h.write.awready, h.write.wready, h.write.bvalid, h.read.arready, h.read.rvalid,
    h.mem]

theorem ram_forgets (size : ℕ) : (ram size).Forgets Axi4lDpramx32.Regs.mem observeRam := by
  apply (SameRam.unwinding size).forgets
  · intro s s' axi axi' hmem
    refine ⟨sameWrite_empty rfl rfl rfl rfl rfl rfl, ?_, hmem.symm, ?_⟩
    · exact sameRead_empty rfl rfl rfl rfl
    · intro hv
      cases hv
  · intro s s' axi h
    exact h.observe axi

/-! ## The register slaves -/

/-- Of the flags of the register slaves only `rvalid` has an asynchronous reset. -/
def busClear (s : BusRegs) : BusRegs := { s with read := { s.read with rvalid := false } }

structure SameBus (s s' : BusRegs) : Prop where
  write : SameWrite s.write s'.write
  read : SameRead s.read s'.read
  bresp : s.write.bvalid = true → s'.bresp = s.bresp
  rresp : s.read.rvalid = true → s'.rresp = s.rresp
  rdata : s.read.rvalid = true → s.rresp = .okay → s'.rdata = s.rdata

theorem SameBus.seen {s s' : BusRegs} (h : SameBus s s') :
    seen (busOut s') = seen (busOut s) := by
  have hbresp : (if s'.write.bvalid then some s'.bresp else none) =
      if s.write.bvalid then some s.bresp else none := by
    rw [h.write.bvalid]
    split_ifs with hv
    · rw [h.bresp hv]
    · rfl
  have hrresp : (if s'.read.rvalid then some s'.rresp else none) =
      if s.read.rvalid then some s.rresp else none := by
    rw [h.read.rvalid]
    split_ifs with hv
    · rw [h.rresp hv]
    · rfl
  have hrdata : (if s'.read.rvalid ∧ s'.rresp = .okay then some s'.rdata else none) =
      if s.read.rvalid ∧ s.rresp = .okay then some s.rdata else none := by
    rw [h.read.rvalid]
    by_cases hv : s.read.rvalid = true
    · rw [h.rresp hv]
      split_ifs with ho
      · rw [h.rdata hv ho.2]
      · rfl
    · rw [if_neg (fun hboth => hv hboth.1), if_neg (fun hboth => hv hboth.1)]
  unfold ResetIsolation.seen busOut
  dsimp only
  rw [hbresp, hrresp, hrdata, h.write.awready, h.write.wready, h.write.bvalid, h.read.arready,
    h.read.rvalid]

theorem SameBus.clear {s s' : BusRegs} (h : SameBus s s') :
    SameBus (busClear s) (busClear s') where
  write := h.write
  read := ⟨h.read.arready, rfl, h.read.preRaddr⟩
  bresp := h.bresp
  rresp hv := by cases hv
  rdata hv := by cases hv

theorem sameBus_reset (check : Addr → Resp) (load load' : Addr → Data) (s s' : BusRegs)
    (axi axi' : AxiMaster) :
    SameBus (busPosedge check load false s axi) (busPosedge check load' false s' axi') where
  write := sameWrite_empty rfl rfl rfl rfl rfl rfl
  read := sameRead_empty rfl rfl rfl rfl
  bresp hv := by cases hv
  rresp hv := by cases hv
  rdata hv := by cases hv

/-- The loads only have to agree where the address is mapped. -/
theorem SameBus.posedge {s s' : BusRegs} (h : SameBus s s') {check : Addr → Resp}
    {load load' : Addr → Data} (hload : ∀ a, check a = .okay → load' a = load a) (resetN : Bool)
    (axi : AxiMaster) :
    SameBus (busPosedge check load resetN s axi) (busPosedge check load' resetN s' axi) where
  write := h.write.posedge resetN axi
  read := h.read.posedge resetN axi
  bresp hv := by
    unfold busPosedge WriteChannel.bresp
    dsimp only
    rw [h.write.stall, h.write.address, h.write.waddr]
    rcases bvalid_cases hv with ⟨hstall, hold⟩ | ⟨hstall, hvalid⟩
    · rw [hstall]
      exact h.bresp hold
    · rw [hstall, hvalid]
      rfl
  rresp hv := by
    unfold busPosedge
    dsimp only
    rw [h.read.enable, h.read.raddr]
    rcases rvalid_cases hv with he | ⟨he, hold⟩
    · rw [he]
      rfl
    · rw [he]
      exact h.rresp hold
  rdata hv := by
    unfold busPosedge
    dsimp only
    rw [h.read.enable, h.read.raddr]
    rcases rvalid_cases hv with he | ⟨he, hold⟩
    · rw [he]
      exact hload _
    · rw [he]
      exact h.rdata hold

/-- `sync_data` has an asynchronous reset. -/
def gpioClear (s : Axi4lGpio.Regs) : Axi4lGpio.Regs :=
  { s with toBusRegs := busClear s.toBusRegs, sync := fun _ => 0 }

def gpio : AsyncDesign Axi4lGpio.Regs Axi4lGpio.Input Axi4lGpio.Output :=
  { Axi4lGpio.axi4lGpio with clear := gpioClear }

def observeGpio (s : Axi4lGpio.Regs) (i : Axi4lGpio.Input) :=
  let o := Axi4lGpio.out s i
  (seen o.axi, o.gpioO, o.gpioEn, o.gpioIrq)

structure SameGpio (s s' : Axi4lGpio.Regs) : Prop where
  bus : SameBus s.toBusRegs s'.toBusRegs
  sync : s'.sync = s.sync
  stored : s'.stored = s.stored

theorem SameGpio.gpioSync {s s' : Axi4lGpio.Regs} (h : SameGpio s s') :
    Axi4lGpio.gpioSync s' = Axi4lGpio.gpioSync s := by
  rcases s' with ⟨bus', sync', stored'⟩
  have hsync : sync' = s.sync := h.sync
  subst hsync
  rfl

theorem SameGpio.load {s s' : Axi4lGpio.Regs} (h : SameGpio s s') {a : Addr}
    (ha : Axi4lGpio.check a = .okay) : Axi4lGpio.readReg s' a = Axi4lGpio.readReg s a := by
  unfold Axi4lGpio.readReg
  rw [h.gpioSync, h.stored]
  by_cases hdata : offset a = Axi4lGpio.gpioData
  · rw [if_pos hdata, if_pos hdata]
  · by_cases hdir : offset a = Axi4lGpio.gpioDir
    · rw [if_neg hdata, if_neg hdata, if_pos hdir, if_pos hdir]
    · rw [Axi4lGpio.check, if_neg (by simp [hdata, hdir])] at ha
      cases ha

theorem SameGpio.unwinding : Unwinding gpio SameGpio where
  clear s s' h := ⟨h.bus.clear, rfl, h.stored⟩
  posedge resetN s s' i h := by
    refine ⟨h.bus.posedge (fun _ => h.load) resetN i.axi, ?_, ?_⟩
    · change (fun b => Axi4lGpio.syncData resetN (s'.sync b) _) =
        fun b => Axi4lGpio.syncData resetN (s.sync b) _
      rw [h.sync]
    · change (WriteChannel.commit s'.write i.axi).elim s'.stored _ = _
      rw [h.bus.write.commit, h.stored]
      rfl

theorem gpio_forgets : gpio.Forgets Axi4lGpio.Regs.stored observeGpio := by
  apply SameGpio.unwinding.forgets
  · intro s s' i i' hstored
    exact ⟨sameBus_reset _ _ _ _ _ _ _, rfl, hstored.symm⟩
  · intro s s' i h
    unfold observeGpio Axi4lGpio.out
    dsimp only
    rw [h.bus.seen, h.stored, h.gpioSync]

/-- `mtime` and `mtimecmp` have an asynchronous reset. -/
def timerClear (s : Axi4lTimer.Regs) : Axi4lTimer.Regs where
  toBusRegs := busClear s.toBusRegs
  mtime := 0x0000000000000000
  mtimecmp := 0xffffffffffffffff

def timer : AsyncDesign Axi4lTimer.Regs AxiMaster Axi4lTimer.Output :=
  { Axi4lTimer.axi4lTimer with clear := timerClear }

def observeTimer (s : Axi4lTimer.Regs) (axi : AxiMaster) :=
  let o := Axi4lTimer.out s axi
  (seen o.axi, s.mtime, s.mtimecmp, o.irq)

structure SameTimer (s s' : Axi4lTimer.Regs) : Prop where
  bus : SameBus s.toBusRegs s'.toBusRegs
  mtime : s'.mtime = s.mtime
  mtimecmp : s'.mtimecmp = s.mtimecmp

theorem SameTimer.load {s s' : Axi4lTimer.Regs} (h : SameTimer s s') {a : Addr}
    (ha : Axi4lTimer.check a = .okay) : Axi4lTimer.readReg s' a = Axi4lTimer.readReg s a := by
  rw [Axi4lTimer.readReg_mapped s' ha, Axi4lTimer.readReg_mapped s ha, h.mtime, h.mtimecmp]

theorem SameTimer.unwinding : Unwinding timer SameTimer where
  clear s s' h := ⟨h.bus.clear, rfl, rfl⟩
  posedge resetN s s' axi h := by
    refine ⟨h.bus.posedge (fun _ => h.load) resetN axi, ?_, ?_⟩
    · change (if !resetN then _ else s'.mtime + _) = if !resetN then _ else s.mtime + _
      rw [h.mtime]
    · change (if !resetN then _ else (WriteChannel.commit s'.write axi).elim s'.mtimecmp _) = _
      rw [h.bus.write.commit, h.mtimecmp]
      rfl

theorem timer_forgets : timer.Forgets (fun _ => ()) observeTimer := by
  apply SameTimer.unwinding.forgets
  · intro s s' axi axi' _
    exact ⟨sameBus_reset _ _ _ _ _ _ _, rfl, rfl⟩
  · intro s s' axi h
    unfold observeTimer Axi4lTimer.out
    dsimp only
    rw [h.bus.seen, h.mtime, h.mtimecmp]

theorem answers_of_once {w : ℕ → WriteChannel.Regs} {rd : ℕ → ReadChannel.Regs} {p : AxiPort}
    (hw : WriteChannel.ExactlyOnce w p) (hr : ReadChannel.ExactlyOnce rd p) (n : ℕ) :
    p.Answers n where
  b t _ hv := by
    have haddr := hw.addressCount t
    have hdata := hw.dataCount t
    have hresp := hw.responseCount t
    rw [if_pos hv] at hresp
    omega
  r t _ hv := by
    have haddr := hr.addressCount t
    have hresp := hr.responseCount t
    rw [if_pos hv] at hresp
    omega

/-- Two runs that have the same storage after an edge in reset are alike from then on, and
after a reset only transactions that are accepted later are answered. -/
structure LeavesNoTrace : Prop where
  ram : ∀ size, (ram size).Forgets Axi4lDpramx32.Regs.mem observeRam
  gpio : gpio.Forgets Axi4lGpio.Regs.stored observeGpio
  timer : timer.Forgets (fun _ => ()) observeTimer
  ramAnswers : ∀ size (r : Run (Axi4lDpramx32.axi4lDpramx32 size)) n,
    (Axi4lDpramx32.axiPort r).Answers n
  gpioAnswers : ∀ (r : Run Axi4lGpio.axi4lGpio) n, (Axi4lGpio.trace r).port.Answers n
  timerAnswers : ∀ (r : Run Axi4lTimer.axi4lTimer) n, (Axi4lTimer.trace r).port.Answers n

theorem leaves_no_trace : LeavesNoTrace where
  ram := ram_forgets
  gpio := gpio_forgets
  timer := timer_forgets
  ramAnswers _ r := answers_of_once (Axi4lDpramx32.write_once r) (Axi4lDpramx32.read_once r)
  gpioAnswers r :=
    answers_of_once (Axi4lGpio.drives r).answers.writes (Axi4lGpio.drives r).answers.reads
  timerAnswers r :=
    answers_of_once (Axi4lTimer.drives r).answers.writes (Axi4lTimer.drives r).answers.reads

end IbexAxi4l.ResetIsolation
