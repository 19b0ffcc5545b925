import IbexAxi4l.Axi4lTimerUpdate
import IbexAxi4l.MemoryMap
import IbexAxi4l.TimeRead

set_option autoImplicit false

/-!
# The tick firmware on the timer

`main` and the interrupt handler of `led.c` with the timer that they program. The handler is
started by the level of `irq`, however late, and each run of it moves the compare value on by
one period.
-/
namespace IbexAxi4l.TickFirmware
open EventLog ReadyValid AxiLite ByteLanes RegisterSlave Journal BusProgram Axi4lTimer
open LedFirmware

abbrev Op := Access Addr Data

def inTimer (a : Addr) : Bool :=
  (a ^^^ MemoryMap.timerBaseAddr) &&& ~~~(MemoryMap.timerSize - 1) = 0

def timerWrite : Op → Option WriteChannel.Write
  | .store a d => if inTimer a then some ⟨a, d, 0b1111⟩ else none
  | .load _ _ => none

/-- `ops` says which access of the firmware takes place in which cycle. The timer performs its
stores and nothing else, and its loads return what the timer samples in that cycle. -/
structure Attached (r : Run axi4lTimer) (ops : ℕ → Option Op) : Prop where
  stores : ∀ t, (trace r).commits t = (ops t).bind timerWrite
  loads : ∀ t a d, ops t = some (.load a d) → inTimer a = true →
    (trace r).samples t = some a ∧ d = (trace r).load t a

/-- In cycle `t` no run of the handler is in progress, `k` of them are complete, and `ticks` is
the firmware's counter. A run starts in a cycle in which `irq` is high. -/
inductive Serves (r : Run axi4lTimer) (ops : ℕ → Option Op) (c0 : BitVec 64) :
    ℕ → ℕ → BitVec 32 → Prop
  | start {t : ℕ} : Exec ops main 0 t c0 → Serves r ops c0 0 t 0
  | idle {k t : ℕ} {ticks : BitVec 32} : Serves r ops c0 k t ticks → ops t = none →
      Serves r ops c0 k (t+1) ticks
  | run {k s e : ℕ} {ticks ticks' : BitVec 32} : Serves r ops c0 k s ticks →
      (r.output s).irq = true → s < e → Exec ops (timerInterruptHandler ticks) s e ticks' →
      Serves r ops c0 (k+1) e ticks'

/-! ## What the firmware does to `mtimecmp` and the LED port -/

structure View where
  compare : BitVec 64
  ledLog : List Op

def ledAccess (x : Op) : Option Op := if x.addr = led then some x else none

def device : Device Addr Data View where
  answers v a d := (a = mtimecmp → d = lowWord v.compare) ∧ (a = mtimecmph → d = highWord v.compare)
  step x v :=
    { compare := (timerWrite x).elim v.compare (fun c => store c v.compare)
      ledLog := v.ledLog ++ (ledAccess x).toList }

def view (r : Run axi4lTimer) (ops : ℕ → Option Op) (t : ℕ) : View where
  compare := (r.state t).mtimecmp
  ledLog := log (fun u => (ops u).bind ledAccess) t

theorem readReg_mtimecmp (s : Regs) : readReg s mtimecmp = lowWord s.mtimecmp :=
  extractLsb'_low _

theorem readReg_mtimecmph (s : Regs) : readReg s mtimecmph = highWord s.mtimecmp :=
  extractLsb'_high _

theorem Attached.tracks {r : Run axi4lTimer} {ops : ℕ → Option Op} (h : Attached r ops) :
    Tracks device ops (view r ops) where
  follows t := by
    have hcompare := follows r t
    rw [h.stores t] at hcompare
    unfold view device
    rw [log_succ]
    dsimp only at hcompare ⊢
    rw [hcompare]
    cases ops t with
    | none => simp
    | some x => rfl
  loads t a d hop := by
    constructor
    · rintro rfl
      have hvalue := (h.loads t _ d hop (by decide)).2
      exact hvalue.trans (readReg_mtimecmp _)
    · rintro rfl
      have hvalue := (h.loads t _ d hop (by decide)).2
      exact hvalue.trans (readReg_mtimecmph _)

section Spec
variable {v : View}

theorem step_load {a : Addr} (d : Data) (ha : a ≠ led) : device.step (.load a d) v = v := by
  simp [device, timerWrite, ledAccess, Access.addr, ha]

theorem step_store {a : Addr} (d : Data) (ha : a ≠ led) (ht : inTimer a = false) :
    device.step (.store a d) v = v := by
  simp [device, timerWrite, ledAccess, Access.addr, ha, ht]

theorem step_led {x : Op} (hx : x.addr = led) :
    device.step x v = { v with ledLog := v.ledLog ++ [x] } := by
  have hnone : timerWrite x = none := by
    cases x with
    | load a d => rfl
    | store a d =>
      have ha : a = led := hx
      subst ha
      rfl
  simp [device, ledAccess, hx, hnone]

theorem step_mtimecmp (d : Data) : device.step (.store mtimecmp d) v =
    { v with compare := highWord v.compare ++ d } := by
  have ho : offset mtimecmp = mtimecmpAddr := by decide
  have hstore : store ⟨mtimecmp, d, 0b1111⟩ v.compare = highWord v.compare ++ d :=
    store_low ho rfl _
  change View.mk (store ⟨mtimecmp, d, 0b1111⟩ v.compare) (v.ledLog ++ []) = _
  rw [hstore, List.append_nil]

theorem step_mtimecmph (d : Data) : device.step (.store mtimecmph d) v =
    { v with compare := d ++ lowWord v.compare } := by
  have ho : offset mtimecmph = mtimecmphAddr := by decide
  have hstore : store ⟨mtimecmph, d, 0b1111⟩ v.compare = d ++ lowWord v.compare :=
    store_high ho rfl _
  change View.mk (store ⟨mtimecmph, d, 0b1111⟩ v.compare) (v.ledLog ++ []) = _
  rw [hstore, List.append_nil]

theorem setMtimecmp_spec {value : BitVec 64} {post : Unit → View → Prop}
    (h : post () { v with compare := value }) : wp device (setMtimecmp value) post v := by
  unfold setMtimecmp
  simp only [wp_bind, wp_write, step_mtimecmp, step_mtimecmph, highWord_append, append_words]
  exact h

theorem incrementMtimecmp_spec {post : Unit → View → Prop}
    (h : post () { v with compare := v.compare + period }) :
    wp device incrementMtimecmp post v := by
  unfold incrementMtimecmp
  rw [wp_bind, wp_read]
  intro low hlow
  rw [step_load low (by decide), wp_bind, wp_read]
  intro high hhigh
  rw [step_load high (by decide), hlow.1 rfl, hhigh.2 rfl, append_words]
  exact setMtimecmp_spec h

theorem senseButtons_spec {post : Unit → View → Prop} (h : post () v) :
    wp device senseButtons post v := by
  unfold senseButtons
  rw [wp_bind, wp_read]
  intro switches _
  rw [step_load switches (by decide)]
  split_ifs
  · rw [wp_bind, wp_read]
    intro button _
    rw [step_load button (by decide), wp_bind, wp_read]
    intro color _
    rw [step_load color (by decide), wp_write, step_store _ (by decide) (by decide)]
    exact h
  · exact h

def increment (d : Data) : List Op := [.load led d, .store led (d + 1)]

theorem blink_spec {ticks : BitVec 32} {post : BitVec 32 → View → Prop}
    (hwrap : ticks + 1 = 100 → ∀ d, post 0 { v with ledLog := v.ledLog ++ increment d })
    (hcount : ticks + 1 ≠ 100 → post (ticks + 1) v) : wp device (blink ticks) post v := by
  have hticks : blinkTime / tickTime = 100 := by decide
  unfold blink
  rw [hticks]
  split_ifs with h
  · rw [wp_bind, wp_read]
    intro d _
    rw [step_led rfl, wp_bind, wp_write, step_led rfl, wp_pure]
    dsimp only
    rw [List.append_assoc]
    exact hwrap h d
  · exact hcount h

/-- The handler moves the compare value on by one period, and every hundredth of its runs
increments the LED register. -/
theorem handler_spec {ticks : BitVec 32} {post : BitVec 32 → View → Prop}
    (hwrap : ticks + 1 = 100 →
      ∀ d, post 0 ⟨v.compare + period, v.ledLog ++ increment d⟩)
    (hcount : ticks + 1 ≠ 100 → post (ticks + 1) ⟨v.compare + period, v.ledLog⟩) :
    wp device (timerInterruptHandler ticks) post v := by
  unfold timerInterruptHandler
  rw [wp_bind]
  apply senseButtons_spec
  rw [wp_bind]
  apply blink_spec
  · intro hticks d
    rw [wp_bind]
    apply incrementMtimecmp_spec
    exact hwrap hticks d
  · intro hticks
    rw [wp_bind]
    apply incrementMtimecmp_spec
    exact hcount hticks

theorem readMtime_spec {post : BitVec 64 → View → Prop} (h : ∀ time, post time v) :
    wp device readMtime post v := by
  unfold readMtime
  rw [wp_bind, wp_loop]
  refine ⟨fun u => u = v, rfl, ?_⟩
  intro u hu
  subst hu
  unfold readMtimeOnce
  rw [wp_bind, wp_read]
  intro high _
  rw [step_load high (by decide), wp_bind, wp_read]
  intro low _
  rw [step_load low (by decide), wp_bind, wp_read]
  intro again _
  rw [step_load again (by decide), wp_pure]
  split_ifs
  · rfl
  · exact h _

theorem main_spec {post : BitVec 64 → View → Prop}
    (h : ∀ value, post value ⟨value, v.ledLog ++ [.store led 0]⟩) :
    wp device main post v := by
  unfold main
  rw [wp_bind, wp_write, step_store _ (by decide) (by decide), wp_bind, wp_write, step_led rfl,
    wp_bind]
  apply readMtime_spec
  intro time
  rw [wp_bind]
  apply setMtimecmp_spec
  exact h (time + period)

end Spec

def answers (r : Run axi4lTimer) (ops : ℕ → Option Op) (t : ℕ) (a : Addr) : Data :=
  if inTimer a then (trace r).load t a
  else
    match ops t with
    | some (.load _ d) => d
    | _ => 0

theorem clock (r : Run axi4lTimer) (ops : ℕ → Option Op) :
    TimeRead.Clock (fun t => (r.state t).mtime) (answers r ops) where
  advances := mtime_succ r
  low t := TimeRead.readReg_mtime (r.state t)
  high t := TimeRead.readReg_mtimeh (r.state t)

theorem Attached.answers {r : Run axi4lTimer} {ops : ℕ → Option Op} (h : Attached r ops) {t : ℕ}
    {a : Addr} {d : Data} (hload : ops t = some (.load a d)) : d = answers r ops t a := by
  unfold TickFirmware.answers
  split_ifs with ha
  · exact (h.loads t a d hload ha).2
  · rw [hload]

theorem eval_main (answer : ℕ → Addr → Data) (sched : Schedule) (fuel n : ℕ) :
    main.eval answer sched fuel n =
      (repeatStep (readMtimeOnce.eval answer sched fuel) fuel (n+2)).bind
        (fun (words, m) =>
          some (words.1.setWidth 64 * 0x100000000 + words.2.setWidth 64 + period, m+3)) := rfl

theorem eval_main_readMtime (answer : ℕ → Addr → Data) (sched : Schedule) (fuel n : ℕ) :
    main.eval answer sched fuel n =
      (readMtime.eval answer sched fuel (n+2)).bind (fun (x, m) => some (x + period, m+3)) := by
  rw [eval_main, TimeRead.eval_readMtime, Option.bind_assoc]
  rfl

theorem main_asks {r : Run axi4lTimer} {ops : ℕ → Option Op} (hattached : Attached r ops)
    {t : ℕ} {c0 : BitVec 64} (hmain : Exec ops main 0 t c0) (ht : t < 2 ^ 63) :
    ∃ u < t, c0 = (r.state u).mtime + period := by
  rcases hmain.eval (fun _ _ _ => hattached.answers) with ⟨fuel, heval⟩
  rw [count_zero, eval_main] at heval
  rcases hloop : repeatStep (readMtimeOnce.eval (answers r ops) (.of ops) fuel) fuel (0+2) with
    _ | ⟨words, l⟩
  · simp [hloop] at heval
  rw [hloop] at heval
  have hvalue : some (words.1.setWidth 64 * 0x100000000 + words.2.setWidth 64 + period, l+3) =
    some (c0, count ops t) := heval
  simp only [Option.some.injEq, Prod.mk.injEq] at hvalue
  rcases (clock r ops).last_pass hloop with ⟨i, hl, htime⟩
  have hearlier (k : ℕ) (hk : k < l) : (Schedule.of ops).cycle k < t := by
    rcases exists_nth (show k < count ops t by omega) with ⟨u, hu, x, hx⟩
    have hcycle : (Schedule.of ops).cycle k = u := cycleOf_eq hx
    omega
  have hlast := hearlier (0 + 2 + 3 * i + 2) (by omega)
  refine ⟨(Schedule.of ops).cycle (0 + 2 + 3 * i + 1), hearlier _ (by omega), ?_⟩
  rw [← hvalue.1, htime (by omega)]

/-! ## All schedules -/

section Schedule
variable {r : Run axi4lTimer} {ops : ℕ → Option Op} {c0 : BitVec 64}

theorem mtime_eq (r : Run axi4lTimer) (t : ℕ) : (r.state t).mtime.toNat = t % 2 ^ 64 := by
  induction t with
  | zero => rfl
  | succ t ih =>
    have hone : (1 : BitVec 64).toNat = 1 := rfl
    rw [mtime_succ, BitVec.toNat_add, ih, hone]
    omega

structure Ticked (r : Run axi4lTimer) (ops : ℕ → Option Op) (c0 : BitVec 64) (k t : ℕ)
    (ticks : BitVec 32) : Prop where
  compare : (r.state t).mtimecmp.toNat = c0.toNat + k * 500000
  reached : 0 < k → c0.toNat + (k - 1) * 500000 ≤ t
  ticks : ticks.toNat = k % 100
  led : ∃ ds : List Data, ds.length = k / 100 ∧
    (view r ops t).ledLog = .store led 0 :: ds.flatMap increment

theorem ticked_start (hattached : Attached r ops) {t : ℕ} (hmain : Exec ops main 0 t c0) :
    Ticked r ops c0 0 t 0 := by
  have hview : view r ops t = ⟨c0, [.store led 0]⟩ :=
    hmain.sound hattached.tracks (fun value u => u = ⟨value, [.store led 0]⟩)
      (main_spec fun value => rfl)
  have hcompare : (r.state t).mtimecmp = c0 := congrArg View.compare hview
  refine ⟨?_, ?_, rfl, [], rfl, ?_⟩
  · rw [hcompare]
    omega
  · intro hk
    omega
  · rw [hview]
    rfl

theorem ticked_idle (hattached : Attached r ops) {k t : ℕ} {ticks : BitVec 32}
    (h : Ticked r ops c0 k t ticks) (hnone : ops t = none) : Ticked r ops c0 k (t+1) ticks := by
  have hview : view r ops (t+1) = view r ops t := hattached.tracks.follows.idle hnone
  have hcompare : (r.state (t+1)).mtimecmp = (r.state t).mtimecmp := congrArg View.compare hview
  refine ⟨?_, ?_, h.ticks, ?_⟩
  · rw [hcompare]
    exact h.compare
  · intro hk
    have hreached := h.reached hk
    omega
  · rw [hview]
    exact h.led

theorem ticks_succ {ticks : BitVec 32} {k : ℕ} (h : ticks.toNat = k % 100) :
    (ticks + 1).toNat = k % 100 + 1 := by
  have hone : (1 : BitVec 32).toNat = 1 := rfl
  rw [BitVec.toNat_add, h, hone]
  omega

theorem ticked_next {k s e : ℕ} {ticks ticks' : BitVec 32} (h : Ticked r ops c0 k s ticks)
    (hirq : (r.output s).irq = true) (hse : s < e) (hbound : s < 2 ^ 64 - 2 ^ 32)
    (hcompare : (r.state e).mtimecmp = (r.state s).mtimecmp + period)
    (hticks : ticks'.toNat = (k + 1) % 100)
    (hled : ∃ ds : List Data, ds.length = (k + 1) / 100 ∧
      (view r ops e).ledLog = .store led 0 :: ds.flatMap increment) :
    Ticked r ops c0 (k+1) e ticks' := by
  have hdue := (irq_iff r s).1 hirq
  rw [h.compare, mtime_eq] at hdue
  refine ⟨?_, ?_, hticks, hled⟩
  · rw [hcompare, BitVec.toNat_add, h.compare, toNat_period]
    omega
  · intro _
    rw [Nat.add_sub_cancel]
    omega

theorem ticked_run (hattached : Attached r ops) {k s e : ℕ} {ticks ticks' : BitVec 32}
    (h : Ticked r ops c0 k s ticks) (hirq : (r.output s).irq = true) (hse : s < e)
    (hbound : s < 2 ^ 64 - 2 ^ 32) (hexec : Exec ops (timerInterruptHandler ticks) s e ticks') :
    Ticked r ops c0 (k+1) e ticks' := by
  have hticks := h.ticks
  rcases h.led with ⟨ds, hlength, hled⟩
  apply hexec.sound hattached.tracks (fun n u => u = view r ops e → Ticked r ops c0 (k+1) e n) _ rfl
  apply handler_spec
  · intro hwrap d hview
    have hlast : k % 100 + 1 = 100 := by
      rw [← ticks_succ hticks, hwrap]
      rfl
    apply ticked_next h hirq hse hbound (congrArg View.compare hview).symm
    · change 0 = (k + 1) % 100
      omega
    · refine ⟨ds ++ [d], ?_, ?_⟩
      · rw [List.length_append, hlength, List.length_singleton]
        omega
      · rw [← hview, hled, List.flatMap_append]
        simp
  · intro hcount hview
    have hlast : k % 100 + 1 ≠ 100 := by
      intro heq
      exact hcount (BitVec.eq_of_toNat_eq ((ticks_succ hticks).trans heq))
    apply ticked_next h hirq hse hbound (congrArg View.compare hview).symm
    · rw [ticks_succ hticks]
      omega
    · refine ⟨ds, ?_, ?_⟩
      · rw [hlength]
        omega
      · rw [← hview, hled]

theorem Serves.ticked (hattached : Attached r ops) {k t : ℕ} {ticks : BitVec 32}
    (h : Serves r ops c0 k t ticks) (ht : t < 2 ^ 64 - 2 ^ 32) :
    Ticked r ops c0 k t ticks := by
  induction h with
  | start hmain => exact ticked_start hattached hmain
  | idle _ hnone ih => exact ticked_idle hattached (ih (by omega)) hnone
  | run _ hirq hlt hexec ih =>
    exact ticked_run hattached (ih (by omega)) hirq hlt (by omega) hexec

theorem Serves.idle_until {k s t : ℕ} {ticks : BitVec 32} (h : Serves r ops c0 k s ticks)
    (hst : s ≤ t) (hquiet : ∀ u, s ≤ u → u < t → ops u = none) : Serves r ops c0 k t ticks := by
  induction t, hst using Nat.le_induction with
  | base => exact h
  | succ t hst ih =>
    exact (ih fun u hs ht => hquiet u hs (by omega)).idle (hquiet t hst (Nat.lt_succ_self t))

/-- The firmware loses no tick: what holds whenever no run of the handler is in progress and
`k` of them are complete. A run that starts then is number `k+1`. -/
structure TickLaw (r : Run axi4lTimer) (ops : ℕ → Option Op) (c0 : BitVec 64) (k t : ℕ) :
    Prop where
  compare : (r.state t).mtimecmp.toNat = c0.toNat + k * 500000
  quiet : (r.output t).irq = false → k =
    if (r.state t).mtime.toNat < c0.toNat then 0
    else ((r.state t).mtime.toNat - c0.toNat) / 500000 + 1
  notEarly : (r.output t).irq = true → c0.toNat + k * 500000 ≤ (r.state t).mtime.toNat
  led : ∃ ds : List Data, ds.length = k / 100 ∧
    log (fun u => (ops u).bind ledAccess) t = .store led 0 :: ds.flatMap increment

theorem tick_law (r : Run axi4lTimer) (ops : ℕ → Option Op) (c0 : BitVec 64) (k t : ℕ)
    (ticks : BitVec 32) (hattached : Attached r ops) (h : Serves r ops c0 k t ticks)
    (ht : t < 2 ^ 64 - 2 ^ 32) : TickLaw r ops c0 k t := by
  have hticked := h.ticked hattached ht
  have htime := mtime_eq r t
  rw [Nat.mod_eq_of_lt (by omega)] at htime
  have hirq := irq_iff r t
  rw [hticked.compare, htime] at hirq
  refine ⟨hticked.compare, ?_, ?_, hticked.led⟩
  · intro hlow
    have hlate : ¬ c0.toNat + k * 500000 ≤ t := by
      rw [← hirq, hlow]
      decide
    rw [htime]
    split_ifs with hbefore
    · by_contra hk
      have hreached := hticked.reached (by omega)
      omega
    · have hk : 0 < k := by
        by_contra hzero
        omega
      have hreached := hticked.reached hk
      omega
  · intro hhigh
    rw [htime]
    exact hirq.1 hhigh

end Schedule

/-! ## A run of one tick -/

def drive : Option Op → AxiMaster
  | some (.store a d) => if inTimer a then (AxiMaster.idle.withAw a).withW d 0b1111 else .idle
  | some (.load a _) => if inTimer a then AxiMaster.idle.withAr a else .idle
  | none => .idle

def driven (ops : ℕ → Option Op) : Run axi4lTimer where
  before := anyRegs
  resetInput := .idle
  input t := drive (ops t)

theorem drive_writes (o : Option Op) : (drive o).bready = true ∧ (drive o).rready = true ∧
    (drive o).wvalid = (drive o).awvalid := by
  unfold drive
  split
  · split_ifs <;> exact ⟨rfl, rfl, rfl⟩
  · split_ifs <;> exact ⟨rfl, rfl, rfl⟩
  · exact ⟨rfl, rfl, rfl⟩

/-- With every response taken at once and address and data offered together, nothing waits. -/
theorem driven_ready (ops : ℕ → Option Op) (t : ℕ) :
    ((driven ops).state t).write.awready = true ∧ ((driven ops).state t).write.wready = true ∧
      ((driven ops).state t).read.arready = true := by
  induction t with
  | zero => exact ⟨rfl, rfl, rfl⟩
  | succ t ih =>
    rcases ih with ⟨haw, hw, har⟩
    rcases drive_writes (ops t) with ⟨hb, hr, hwa⟩
    have hinput : (driven ops).input t = drive (ops t) := rfl
    rw [Run.state_succ, hinput]
    refine ⟨?_, ?_, ?_⟩
    · change (WriteChannel.posedge true ((driven ops).state t).write _).awready = true
      rw [WriteChannel.posedge_awready]
      simp [WriteChannel.writeEnable, WriteChannel.writeResponseStall, haw, hw, hb,
        WriteChannel.validWriteAddress, WriteChannel.validWriteData, hwa]
    · change (WriteChannel.posedge true ((driven ops).state t).write _).wready = true
      rw [WriteChannel.posedge_wready]
      simp [WriteChannel.writeEnable, WriteChannel.writeResponseStall, haw, hw, hb,
        WriteChannel.validWriteAddress, WriteChannel.validWriteData, hwa]
    · change (ReadChannel.posedge true ((driven ops).state t).read _).arready = true
      rw [ReadChannel.posedge_arready]
      simp [ReadChannel.readEnable, ReadChannel.readResponseStall, har, hr,
        ReadChannel.validReadAddress]

theorem driven_commits (ops : ℕ → Option Op) (t : ℕ) :
    (trace (driven ops)).commits t = (ops t).bind timerWrite := by
  rcases driven_ready ops t with ⟨haw, hw, -⟩
  rcases drive_writes (ops t) with ⟨hb, -, hwa⟩
  change WriteChannel.commit ((driven ops).state t).write (drive (ops t)) = _
  unfold WriteChannel.commit WriteChannel.writeEnable WriteChannel.writeResponseStall
    WriteChannel.validWriteAddress WriteChannel.validWriteData WriteChannel.waddr
    WriteChannel.wdata WriteChannel.wstrb
  rw [haw, hw, hb, hwa]
  cases ops t with
  | none => simp [drive, AxiMaster.idle]
  | some x =>
    cases x with
    | load a d =>
      cases h : inTimer a <;> simp [drive, AxiMaster.idle, AxiMaster.withAr, timerWrite, h]
    | store a d =>
      cases h : inTimer a <;>
        simp [drive, AxiMaster.idle, AxiMaster.withAw, AxiMaster.withW, timerWrite, h]

theorem driven_samples (ops : ℕ → Option Op) {t : ℕ} {a : Addr} {d : Data}
    (hload : ops t = some (.load a d)) (ha : inTimer a = true) :
    (trace (driven ops)).samples t = some a := by
  rcases driven_ready ops t with ⟨-, -, har⟩
  change ReadChannel.sample ((driven ops).state t).read (drive (ops t)) = _
  rw [hload]
  unfold ReadChannel.sample ReadChannel.readEnable ReadChannel.readResponseStall
    ReadChannel.validReadAddress ReadChannel.raddr
  rw [har]
  simp [drive, ha, AxiMaster.idle, AxiMaster.withAr]

theorem driven_attached {ops : ℕ → Option Op} (hloads : ∀ t a d, ops t = some (.load a d) →
      inTimer a = true → d = readReg ((driven ops).state t) a) : Attached (driven ops) ops where
  stores := driven_commits ops
  loads t a d hload ha := ⟨driven_samples ops hload ha, hloads t a d hload ha⟩

/-- The accesses of `main`, and of a first run of the handler at the time that it asked for. -/
def oneTick (t : ℕ) : Option Op :=
  if t < 500003 then
    [.store ledrgb 0, .store led 0, .load mtimeh 0, .load mtime 3, .load mtimeh 0,
      .store mtimecmp 0xffffffff, .store mtimecmph 0, .store mtimecmp 500003][t]?
  else
    [.load sw 0b1000, .load mtimecmp 500003, .load mtimecmph 0,
      .store mtimecmp 0xffffffff, .store mtimecmph 0, .store mtimecmp 1000003][t - 500003]?

theorem oneTick_main : Exec oneTick main 0 8 500003 :=
  .store rfl (.store rfl (.done (.load rfl (.load rfl (.load rfl .ret)))
    (.store rfl (.store rfl (.store rfl .ret)))))

theorem oneTick_handler : Exec oneTick (timerInterruptHandler 0) 500003 500009 1 :=
  .load rfl (.load rfl (.load rfl (.store rfl (.store rfl (.store rfl .ret)))))

theorem oneTick_quiet {t : ℕ} (h8 : 8 ≤ t) (ht : t < 500003) : oneTick t = none := by
  unfold oneTick
  rw [if_pos ht]
  exact List.getElem?_eq_none h8

theorem oneTick_compare {t : ℕ} (h8 : 8 ≤ t) (ht : t ≤ 500006) :
    ((driven oneTick).state t).mtimecmp = 500003 := by
  have hkept : ((driven oneTick).state t).mtimecmp = ((driven oneTick).state 8).mtimecmp := by
    apply mtimecmp_kept _ h8
    intro u hu hut c hc
    have hnone : (oneTick u).bind timerWrite = none := by
      by_cases hidle : u < 500003
      · rw [oneTick_quiet hu hidle]
        rfl
      · have hlate : u = 500003 ∨ u = 500004 ∨ u = 500005 := by omega
        rcases hlate with rfl | rfl | rfl <;> rfl
    rw [driven_commits, hnone] at hc
    cases hc
  exact hkept

theorem oneTick_attached : Attached (driven oneTick) oneTick := by
  apply driven_attached
  intro t a d hload ha
  unfold oneTick at hload
  split_ifs at hload with ht
  · rcases t with _ | _ | _ | _ | _ | _ | _ | _ | t
    all_goals cases hload
    · exact rfl
    · exact rfl
    · exact rfl
  · obtain ⟨j, rfl⟩ : ∃ j, t = 500003 + j := ⟨t - 500003, by omega⟩
    rw [Nat.add_sub_cancel_left] at hload
    rcases j with _ | _ | _ | _ | _ | _ | j
    all_goals cases hload
    · exact absurd ha (by decide)
    · rw [readReg_mtimecmp, oneTick_compare (by omega) (by omega)]
      rfl
    · rw [readReg_mtimecmph, oneTick_compare (by omega) (by omega)]
      rfl

theorem oneTick_serves : Serves (driven oneTick) oneTick 500003 1 500009 1 := by
  have hmain := Serves.start (r := driven oneTick) oneTick_main
  have hwait : Serves (driven oneTick) oneTick 500003 0 500003 0 :=
    hmain.idle_until (by omega) fun u => oneTick_quiet
  apply hwait.run _ (by omega) oneTick_handler
  rw [irq_iff, mtime_eq, oneTick_compare (by omega) (by omega)]
  decide

theorem oneTick_law : TickLaw (driven oneTick) oneTick 500003 1 500009 :=
  tick_law (driven oneTick) oneTick 500003 1 500009 1 oneTick_attached oneTick_serves (by omega)

end IbexAxi4l.TickFirmware
