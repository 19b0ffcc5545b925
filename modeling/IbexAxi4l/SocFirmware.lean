import IbexAxi4l.IbexSoc

set_option autoImplicit false

/-!
# Programs on the SoC

A program that runs on a core is evaluated on the memory map, whatever the other two masters
do: each of its accesses takes place in one cycle between its grant and its response. So the
loop of `main` reads the time in two words without tearing it.
-/
namespace IbexAxi4l.IbexSoc
open EventLog ReadyValid AxiLite BusProgram
open Core2axi4l (corePort)
open Crossbar (Connects)
open LedFirmware (Code)
open RegisterSlave (offset)

section Program
variable {n : ℕ} (S : Soc n) (m : Fin 3)

structure Soc.Answered (j tg t : ℕ) (q : Request) (y : Response) : Prop where
  inRun : t < n
  grant : Nth (corePort (S.axim m)).grant j tg q
  response : Nth (corePort (S.axim m)).response j t y

/-- Request `j` of the port is this access, and has no error. -/
def Soc.Performs (j : ℕ) : Access Addr Data → Prop
  | .load a d => ∃ tg t q y, S.Answered m j tg t q y ∧ q.we = false ∧ q.addr = a ∧
      y.err = false ∧ y.rdata = d
  | .store a d => ∃ tg t q y, S.Answered m j tg t q y ∧ q.we = true ∧ q.addr = a ∧
      q.be = 15 ∧ q.wdata = d ∧ y.err = false

/-- A cycle between the grant and the response of request `j`, in which a load finds what it
returns. -/
def Soc.Effect (j te : ℕ) : Prop :=
  ∃ tg t q y, S.Answered m j tg t q y ∧ tg ≤ te ∧ te < t ∧
    (q.we = false → y.err = false → y.rdata = S.value q.addr te)

variable {S m}

theorem Soc.Performs.answered {j : ℕ} {x : Access Addr Data} (h : S.Performs m j x) :
    ∃ tg t q y, S.Answered m j tg t q y := by
  cases x with
  | load a d =>
    obtain ⟨tg, t, q, y, h, -⟩ := h
    exact ⟨tg, t, q, y, h⟩
  | store a d =>
    obtain ⟨tg, t, q, y, h, -⟩ := h
    exact ⟨tg, t, q, y, h⟩

theorem exists_effect {j t : ℕ} {y : Response} (ht : t < n)
    (hy : Nth (corePort (S.axim m)).response j t y) : ∃ te, S.Effect m j te := by
  obtain ⟨tg, htg, q, hq, hserved⟩ := S.serves m j t y ht hy
  by_cases hread : q.we = false ∧ errs q.addr = false
  · obtain ⟨te, hte, hte', hdata⟩ := hserved.read hread.1 hread.2
    exact ⟨te, tg, t, q, y, ⟨ht, hq, hy⟩, hte, hte', fun _ _ => hdata⟩
  · refine ⟨tg, tg, t, q, y, ⟨ht, hq, hy⟩, Nat.le_refl tg, htg, fun hwe herr => ?_⟩
    exact absurd ⟨hwe, hserved.err.symm.trans herr⟩ hread

theorem exists_effects : ∃ sched : Schedule,
    ∀ j te, S.Effect m j te → S.Effect m j (sched.cycle j) := by
  apply exists_schedule
  · rintro j te ⟨tg, t, q, y, ⟨ht, -, hy⟩, -⟩
    have hbefore : j < count (corePort (S.axim m)).response t := by
      rw [hy.index]
      exact Nat.lt_succ_self j
    obtain ⟨s, hs, y', hy'⟩ := exists_nth hbefore
    exact exists_effect (by omega) hy'
  · rintro j s te ⟨tg, t, q, y, ⟨ht, -, hy⟩, -, hs, -⟩
      ⟨tg', t', q', y', ⟨ht', hq', -⟩, hte, hte', -⟩
    have horder := Core2axi4l.answered_before (S.stable m) (show tg' < n by omega) hy hq'
    omega

theorem load_effect {j te : ℕ} {a : Addr} {d : Data} (h : S.Performs m j (.load a d))
    (heffect : S.Effect m j te) : d = S.value a te := by
  obtain ⟨tg, t, q, y, ⟨-, hq, hy⟩, hwe, ha, herr, hd⟩ := h
  obtain ⟨tg', t', q', y', ⟨-, hq', hy'⟩, -, -, hdata⟩ := heffect
  have hq'' : q' = q := hq'.value_unique hq
  have hy'' : y' = y := hy'.value_unique hy
  subst hq'' hy''
  rw [← hd, ← ha]
  exact hdata hwe herr

/-- What a program computes on a port of the SoC is what it computes on the memory map, on a
schedule that has each access between its grant and its response. -/
theorem program_sees_map {α : Type} {p : Code α} {k k' : ℕ} {x : α}
    (h : Numbered (S.Performs m) p k k' x) : ∃ sched : Schedule,
      (∀ j, k ≤ j → j < k' → S.Effect m j (sched.cycle j)) ∧
      ∃ fuel, p.eval (fun t a => S.value a t) sched fuel k = some (x, k') := by
  obtain ⟨sched, hsched⟩ := exists_effects (S := S) (m := m)
  have heffect {j : ℕ} {y : Access Addr Data} (hj : S.Performs m j y) :
      S.Effect m j (sched.cycle j) := by
    obtain ⟨tg, t, q, z, hanswered⟩ := hj.answered
    obtain ⟨te, hte⟩ := exists_effect hanswered.inRun hanswered.response
    exact hsched j te hte
  refine ⟨sched, fun j hj hj' => ?_, ?_⟩
  · obtain ⟨y, hy⟩ := h.made hj hj'
    exact heffect hy
  · exact h.eval (fun j a d hj => load_effect hj (heffect hj))

theorem map_clock (S : Soc n) : TimeRead.Clock (BitVec.ofNat 64) (fun t a => S.value a t) where
  advances t := BitVec.ofNat_add t 1
  low t := by
    have hregion : region LedFirmware.mtime = some 6 := by decide
    have hoffset : offset LedFirmware.mtime = 0 := by decide
    unfold Soc.value
    rw [hregion]
    change Axi4lTimer.half _ _ (offset LedFirmware.mtime) = _
    rw [hoffset]
    exact ByteLanes.extractLsb'_low _
  high t := by
    have hregion : region LedFirmware.mtimeh = some 6 := by decide
    have hoffset : offset LedFirmware.mtimeh = 1 := by decide
    unfold Soc.value
    rw [hregion]
    change Axi4lTimer.half _ _ (offset LedFirmware.mtimeh) = _
    rw [hoffset]
    exact ByteLanes.extractLsb'_high _

theorem read_effect (hn : n < 2 ^ 63) {sched : Schedule} {k k' : ℕ}
    (heffect : ∀ j, k ≤ j → j < k' → S.Effect m j (sched.cycle j)) {fuel s l : ℕ}
    {x : BitVec 64} (hs : k ≤ s) (hl : l ≤ k')
    (heval : LedFirmware.readMtime.eval (fun t a => S.value a t) sched fuel s = some (x, l)) :
    ∃ j te, s < j ∧ j + 2 = l ∧ S.Effect m j te ∧ x.toNat = te := by
  obtain ⟨i, hlast, hvalue⟩ := (map_clock S).read_exact heval
  have hwithin {j : ℕ} (hj : k ≤ j) (hj' : j < k') : sched.cycle j < n := by
    obtain ⟨tg, t, q, y, hanswered, -, hlt, -⟩ := heffect j hj hj'
    have hrun := hanswered.inRun
    omega
  have hend := hwithin (show k ≤ s + 3 * i + 2 by omega) (by omega)
  have hread := hwithin (show k ≤ s + 3 * i + 1 by omega) (by omega)
  refine ⟨s + 3 * i + 1, _, by omega, by omega, heffect _ (by omega) (by omega), ?_⟩
  rw [hvalue (by omega), BitVec.toNat_ofNat]
  exact Nat.mod_eq_of_lt (by omega)

/-- The value that the loop returns is the number of cycles since reset, in a cycle between
the grant and the response of its last read of the low word. -/
theorem time_read (S : Soc n) (m : Fin 3) (hn : n < 2 ^ 63) {k k' : ℕ} {x : BitVec 64}
    (h : Numbered (S.Performs m) LedFirmware.readMtime k k' x) :
    ∃ j te, k < j ∧ j + 2 = k' ∧ S.Effect m j te ∧ x.toNat = te := by
  obtain ⟨sched, heffect, fuel, heval⟩ := program_sees_map h
  exact read_effect hn heffect (Nat.le_refl k) (Nat.le_refl k') heval

/-- `main` programs its first tick 500000 cycles, 10 ms, after such a cycle. -/
theorem first_tick (hn : n < 2 ^ 63) {k k' : ℕ} {x : BitVec 64}
    (h : Numbered (S.Performs m) LedFirmware.main k k' x) :
    ∃ j te, k + 2 < j ∧ j + 5 = k' ∧ S.Effect m j te ∧ x.toNat = te + 500000 := by
  obtain ⟨sched, heffect, fuel, heval⟩ := program_sees_map h
  rw [TickFirmware.eval_main_readMtime] at heval
  rcases htime : LedFirmware.readMtime.eval (fun t a => S.value a t) sched fuel (k+2) with
    _ | ⟨time, l⟩
  · simp [htime] at heval
  rw [htime] at heval
  have hvalue : some (time + LedFirmware.period, l + 3) = some (x, k') := heval
  simp only [Option.some.injEq, Prod.mk.injEq] at hvalue
  obtain ⟨j, te, hj, hl, hte, htoNat⟩ :=
    read_effect hn heffect (Nat.le_add_right k 2) (by omega) htime
  refine ⟨j, te, hj, by omega, hte, ?_⟩
  have hbound : te < n := by
    obtain ⟨tg, t, q, y, hanswered, -, hlt, -⟩ := hte
    have hrun := hanswered.inRun
    omega
  rw [← hvalue.1, BitVec.toNat_add, htoNat, LedFirmware.toNat_period]
  exact Nat.mod_eq_of_lt (by omega)

end Program

/-! ## An instance -/

/-- The data port runs the loop, and is alone on the bus. -/
def readTime : Parts :=
  let ask (addr : Addr) : CoreMaster := { req := true, we := false, be := 15, addr, wdata := 0 }
  let none : CoreMaster := { req := false, we := false, be := 0, addr := 0, wdata := 0 }
  let quiet : AxiSlave := BridgeRoundTrip.silent
  let idle : Run Core2axi4l.core2axi4l := ⟨.idle, ⟨none, quiet⟩, fun _ => ⟨none, quiet⟩⟩
  let loop : Run Core2axi4l.core2axi4l :=
    { before := .idle
      resetInput := ⟨none, quiet⟩
      input := fun
        | 0 => ⟨ask LedFirmware.mtimeh, { quiet with arready := true }⟩
        | 3 => ⟨none, { quiet with rvalid := true, rdata := 0 }⟩
        | 4 => ⟨ask LedFirmware.mtime, { quiet with arready := true }⟩
        | 7 => ⟨none, { quiet with rvalid := true, rdata := 5 }⟩
        | 8 => ⟨ask LedFirmware.mtimeh, { quiet with arready := true }⟩
        | 11 => ⟨none, { quiet with rvalid := true, rdata := 0 }⟩
        | _ => ⟨none, quiet⟩ }
  { storeFetch with
    axim := fun
      | 0 => idle
      | 1 => loop
      | 2 => idle
    uDpram := { storeFetch.uDpram with input := fun _ => .idle }
    uTimer :=
      { storeFetch.uTimer with
        input := fun
          | 1 => AxiMaster.idle.withAr LedFirmware.mtimeh
          | 5 => AxiMaster.idle.withAr LedFirmware.mtime
          | 9 => AxiMaster.idle.withAr LedFirmware.mtimeh
          | _ => .idle } }

theorem readTime_wired : Wired readTime (fun _ => 0) (fun _ => 0) 12 where
  instr _ := ⟨rfl, rfl, rfl⟩
  dm := ⟨fun _ _ => rfl, fun _ _ => rfl, fun _ _ => rfl⟩
  sw _ := rfl
  ledrgb _ := rfl
  led t := LedReadback.gpioRun_wired _ t
  btn _ := rfl

def readTimeMaster (m : Fin 3) : AxiPort := Core2axi4l.axiPort (readTime.axim m)

def readTimeRoutes : Crossbar.Routes (Fin 3) (Fin 7) :=
  ⟨fun _ _ => some (Fin.last 6), storeFetchWrites.source⟩

theorem readTime_masters (m : Fin 3) (t : ℕ) (ht : t < 12) :
    let p := readTimeMaster m
    (p.aw.valid t = false ∧ p.w.valid t = false ∧ p.b.valid t = false) ∧
      (m ≠ 1 → p.ar.valid t = false ∧ p.r.valid t = false) := by
  fin_cases m <;> interval_cases t <;> decide

theorem readTime_slaves (i : Fin 7) (t : ℕ) (ht : t < 12) :
    let s := readTime.axis i
    (s.aw.valid t = false ∧ s.w.valid t = false ∧ s.b.valid t = false) ∧
      (i ≠ 6 → s.ar.valid t = false ∧ s.r.valid t = false) := by
  fin_cases i <;> interval_cases t <;> decide

theorem readTime_ar (m : Fin 3) :
    Channel 12 ((readTimeMaster m).ar.part (readTimeRoutes.to m 6))
      ((readTime.axis 6).ar.part (readTimeRoutes.from m 6)) := by
  by_cases hm : m = 1
  · subst hm
    refine ⟨fun t => if t = 1 ∨ t = 9 then [⟨LedFirmware.mtimeh, .zero⟩]
      else if t = 5 then [⟨LedFirmware.mtime, .zero⟩] else [], ⟨rfl, ?_⟩, ?_⟩ <;>
      intro t ht <;> interval_cases t <;> decide
  · exact .silent (fun t ht => part_of_silent ((readTime_masters m t ht).2 hm).1)
      (fun t _ => part_silent fun j => decide_eq_false (fun h => hm h.symm))

theorem readTime_r (m : Fin 3) :
    Channel 12 ((readTime.axis 6).r.part (readTimeRoutes.from m 6))
      ((readTimeMaster m).r.part (readTimeRoutes.to m 6)) := by
  by_cases hm : m = 1
  · subst hm
    refine ⟨fun t => if t = 3 ∨ t = 11 then [⟨0, .okay⟩]
      else if t = 7 then [⟨5, .okay⟩] else [], ⟨rfl, ?_⟩, ?_⟩ <;>
      intro t ht <;> interval_cases t <;> decide
  · exact .silent (fun t _ => part_silent fun j => decide_eq_false (fun h => hm h.symm))
      (fun t ht => part_of_silent ((readTime_masters m t ht).2 hm).2)

theorem readTime_addr (m : Fin 3) (t : ℕ) (ht : t < 12) :
    (readTimeMaster m).awAddr t = none ∧ ((readTimeMaster m).arAddr t = none ∨
      (readTimeMaster m).arAddr t = some LedFirmware.mtimeh ∨
      (readTimeMaster m).arAddr t = some LedFirmware.mtime) := by
  fin_cases m <;> interval_cases t <;> decide

theorem readTime_connects : Connects (decode MemoryMap.maskCompare) readTimeRoutes
    readTimeRoutes readTimeMaster readTime.axis 12 where
  aw m i := .silent (fun t ht => part_of_silent (readTime_masters m t ht).1.1)
    (fun t ht => part_of_silent (readTime_slaves i t ht).1.1)
  w m i := .silent (fun t ht => part_of_silent (readTime_masters m t ht).1.2.1)
    (fun t ht => part_of_silent (readTime_slaves i t ht).1.2.1)
  b m i := .silent (fun t ht => part_of_silent (readTime_slaves i t ht).1.2.2)
    (fun t ht => part_of_silent (readTime_masters m t ht).1.2.2)
  ar := only_out (fun _ _ => rfl) (fun i hi t ht => ((readTime_slaves i t ht).2 hi).1) readTime_ar
  r := only_back (fun _ _ => rfl) (fun i hi t ht => ((readTime_slaves i t ht).2 hi).2) readTime_r
  awDecode m k t a ht h := by
    have hnone := (readTime_addr m t ht).1
    rw [h.occurs] at hnone
    cases hnone
  arDecode m k t a ht h := by
    rw [decode_eq MemoryMap.maskCompare_decodes]
    change some 6 = region a
    rcases (readTime_addr m t ht).2 with hnone | hhigh | hlow
    · rw [h.occurs] at hnone
      cases hnone
    · rw [h.occurs] at hhigh
      cases hhigh
      decide
    · rw [h.occurs] at hlow
      cases hlow
      decide
  bUnmapped m k t _ _ h := by cases h
  rUnmapped m k t _ _ h := by cases h

def readTimeSoc : Soc 12 where
  toParts := readTime
  sw _ := 0
  btn _ := 0
  wired := readTime_wired
  axilxbar := MemoryMap.maskCompare
  decodes := MemoryMap.maskCompare_decodes
  writes := readTimeRoutes
  reads := readTimeRoutes
  connects := readTime_connects
  holds := by
    refine ⟨?_, ?_, ?_⟩ <;> intro t _ hv <;> cases hv
  stable m := by
    intro t ht
    have hlt : t < 11 := by omega
    fin_cases m <;> interval_cases t <;> decide

theorem readTime_runs : Numbered (readTimeSoc.Performs 1) LedFirmware.readMtime 0 3 5 := by
  have hhigh : readTimeSoc.Performs 1 0 (.load LedFirmware.mtimeh 0) :=
    ⟨0, 3, ⟨false, 15, LedFirmware.mtimeh, 0⟩, ⟨0, false⟩,
      ⟨by decide, ⟨by decide, by decide⟩, ⟨by decide, by decide⟩⟩, rfl, rfl, rfl, rfl⟩
  have hlow : readTimeSoc.Performs 1 1 (.load LedFirmware.mtime 5) :=
    ⟨4, 7, ⟨false, 15, LedFirmware.mtime, 0⟩, ⟨5, false⟩,
      ⟨by decide, ⟨by decide, by decide⟩, ⟨by decide, by decide⟩⟩, rfl, rfl, rfl, rfl⟩
  have hagain : readTimeSoc.Performs 1 2 (.load LedFirmware.mtimeh 0) :=
    ⟨8, 11, ⟨false, 15, LedFirmware.mtimeh, 0⟩, ⟨0, false⟩,
      ⟨by decide, ⟨by decide, by decide⟩, ⟨by decide, by decide⟩⟩, rfl, rfl, rfl, rfl⟩
  have hpass : Numbered (readTimeSoc.Performs 1) LedFirmware.readMtimeOnce 0 3 (some (0, 5)) :=
    .load hhigh (.load hlow (.load hagain .ret))
  exact .done hpass .ret

theorem readTime_five : ∃ j te, 0 < j ∧ j + 2 = 3 ∧ readTimeSoc.Effect 1 j te ∧
    (5 : BitVec 64).toNat = te :=
  time_read readTimeSoc 1 (by decide) readTime_runs

end IbexAxi4l.IbexSoc
