import IbexAxi4l.CrossbarLiveness

set_option autoImplicit false

/-!
# When a port of the SoC hangs

On an interconnect that treats its ports fairly, each request of the data port, the
instruction port and the debug module ends, whatever is at its address, exactly if no write
to the debug module is passed by reads for ever: of the seven slaves, only `axi4l2core`
serves one kind of transaction first.
-/
namespace IbexAxi4l.IbexSoc
open EventLog ReadyValid AxiLite MemoryMap
open Crossbar (Routes Connects Fair Delivers delivers_of_silent)
open Core2axi4l (core2axi4l corePort)
open Axi4l2core (Attended WritesPass)
open NetworkLiveness (Ends serves_of_drives channel_quiet takes_quiet shows_quiet)

/-- The SoC in all cycles, with an interconnect that keeps nothing for ever. -/
structure FairSoc extends Parts where
  sw : ℕ → BitVec 4
  btn : ℕ → BitVec 4
  wired : ∀ n, Wired toParts sw btn n
  axilxbar : Axilxbar
  decodes : axilxbar.Decodes
  writes : Routes (Fin 3) (Fin 7)
  reads : Routes (Fin 3) (Fin 7)
  connects : ∀ n, Connects (decode axilxbar) writes reads
    (fun m => Core2axi4l.axiPort (axim m)) toParts.axis n
  fair : Fair writes reads (fun m => Core2axi4l.axiPort (axim m)) toParts.axis
  stable : ∀ m n, (corePort (axim m)).Stable n

namespace FairSoc
variable (F : FairSoc)

theorem dm_holds (n : ℕ) : (Axi4l2core.axiPort F.uDmTop).Stable n := F.fair.holds 1 n

def soc (n : ℕ) : Soc n where
  toParts := F.toParts
  sw := F.sw
  btn := F.btn
  wired := F.wired n
  axilxbar := F.axilxbar
  decodes := F.decodes
  writes := F.writes
  reads := F.reads
  connects := F.connects n
  holds := F.dm_holds n
  stable m := F.stable m n

/-- `dm_top` grants at once and answers at once. -/
theorem attended : Attended F.uDmTop where
  grants := .of_imp (fun t h => by
    rw [CorePort.grant, isSome_beat, h, Bool.true_and]
    exact (F.wired (t+1)).dm.gnt t (Nat.lt_succ_self t))
  answers t _ := ⟨t + 1, Nat.lt_succ_self t, (F.wired (t+2)).dm.rvalid (t+1) (Nat.lt_succ_self _)⟩
  b := F.fair.takesB 1
  r := F.fair.takesR 1

theorem lively (hpass : WritesPass F.uDmTop) (i : Fin 7) : (F.axis i).Lively := by
  have hregisters {σ : Type} {check : Addr → Resp} {store : WriteChannel.Write → σ → σ}
      {v : RegisterSlave.Trace σ} (h : RegisterSlave.Drives check store v) : v.port.Lively :=
    Crossbar.lively_of_serves
      (serves_of_drives h.write h.answers.writes h.read h.answers.reads)
  fin_cases i
  · exact Crossbar.lively_of_serves
      (serves_of_drives (Axi4lDpramx32.write_drives F.uDpram) (Axi4lDpramx32.write_once F.uDpram)
        (Axi4lDpramx32.read_drives F.uDpram) (Axi4lDpramx32.read_once F.uDpram))
  · exact Axi4l2core.lively F.attended F.dm_holds hpass
  · exact hregisters (Axi4lGpio.drives F.uSw)
  · exact hregisters (Axi4lGpio.drives F.uLedrgb)
  · exact hregisters (Axi4lGpio.drives F.uLedg)
  · exact hregisters (Axi4lGpio.drives F.uBtn)
  · exact hregisters (Axi4lTimer.drives F.uTimer)

theorem writes_pass (hends : ∀ m, Ends (F.axim m)) : WritesPass F.uDmTop := by
  intro t haw hw
  have hcounts := Axi4l2core.write_count (F.dm_holds t) (Nat.le_refl t)
  obtain ⟨u, hu⟩ := Crossbar.write_answered_of_ends F.connects F.fair F.stable
    (fun m n => (F.soc n).system.answers m) hends (i := 1) ⟨haw, rfl⟩
    ⟨hw, hcounts.2.trans hcounts.1.symm⟩
  rw [← Axi4l2core.write_accepted_iff F.attended F.dm_holds (Bool.and_eq_true_iff.2 ⟨haw, hw⟩)]
  -- the answered write has been accepted, after cycle `t`
  have hanswered : count (Axi4l2core.axiPort F.uDmTop).b.beat u ≤
      count (Axi4l2core.axiPort F.uDmTop).aw.beat u := by
    have hcounts' := Axi4l2core.write_count (F.dm_holds u) (Nat.le_refl u)
    have hopen := Axi4l2core.write_outstanding F.uDmTop u
    omega
  obtain ⟨v, -, x, hx⟩ := exists_nth (hu.trans_le hanswered)
  refine ⟨v, ?_, ?_⟩
  · by_contra hlt
    exact absurd (hx.lt_count (show v < t by omega)) (Nat.lt_irrefl _)
  · have hbeat : ((Axi4l2core.axiPort F.uDmTop).aw.beat v).isSome = true := by
      rw [hx.occurs]
      rfl
    refine (Axi4l2core.accepts_write F.dm_holds).2 ⟨hbeat, ?_⟩
    rw [← Axi4l2core.paired_beats (F.dm_holds (v+1)) (Nat.lt_succ_self v)]
    exact hbeat

/-- Every request of every port ends, exactly if the writes to the debug module pass. -/
theorem ends_iff : (∀ m, Ends (F.axim m)) ↔ WritesPass F.uDmTop := by
  constructor
  · exact F.writes_pass
  · intro hpass m
    exact NetworkLiveness.ends (F.stable m)
      (Crossbar.responsive F.connects F.fair (F.lively hpass) m)

end FairSoc

/-- The data port stores a word to the debug module, and the instruction port reads another
one there, which arrives with the store and goes first. -/
def debugStore : Parts :=
  let ask (we : Bool) (be : Strb) (addr : Addr) (wdata : Data) : CoreMaster :=
    { req := true, we, be, addr, wdata }
  let none : CoreMaster := { req := false, we := false, be := 0, addr := 0, wdata := 0 }
  let quiet : AxiSlave := BridgeRoundTrip.silent
  let idle : Run core2axi4l := ⟨.idle, ⟨none, quiet⟩, fun _ => ⟨none, quiet⟩⟩
  let store : Run core2axi4l :=
    { idle with
      input := fun
        | 0 => ⟨ask true 15 0x1a110100 7, { quiet with awready := true, wready := true }⟩
        | 5 => ⟨none, { quiet with bvalid := true }⟩
        | _ => ⟨none, quiet⟩ }
  let fetch : Run core2axi4l :=
    { idle with
      input := fun
        | 0 => ⟨ask false 0 0x1a110800 0, { quiet with arready := true }⟩
        | 3 => ⟨none, { quiet with rvalid := true, rdata := 0x13 }⟩
        | _ => ⟨none, quiet⟩ }
  let answer : CoreSlave := { gnt := true, rvalid := true, rdata := 0x13, err := false }
  let write : AxiMaster := (AxiMaster.idle.withAw 0x1a110100).withW 7 15
  { storeFetch with
    axim := fun
      | 0 => idle
      | 1 => store
      | 2 => fetch
    uDpram := { storeFetch.uDpram with input := fun _ => .idle }
    uDmTop :=
      { before := ⟨.idle, .okay, .okay, 0⟩
        resetInput := ⟨answer, .idle⟩
        input := fun
          | 1 => ⟨answer, write.withAr 0x1a110800⟩
          | 2 => ⟨answer, write⟩
          | 3 => ⟨answer, write⟩
          | _ => ⟨answer, .idle⟩ } }

theorem debugStore_wired (n : ℕ) : Wired debugStore (fun _ => 0) (fun _ => 0) n where
  instr t := by
    match t with
    | 0 | 1 | 2 | 3 | _ + 4 => exact ⟨rfl, rfl, rfl⟩
  dm := by
    refine ⟨fun t _ => ?_, fun t _ => ?_, fun t _ => ?_⟩ <;>
      match t with
      | 0 | 1 | 2 | 3 | _ + 4 => rfl
  sw _ := rfl
  ledrgb _ := rfl
  led t := LedReadback.gpioRun_wired _ t
  btn _ := rfl

def debugStoreMaster (m : Fin 3) : AxiPort := Core2axi4l.axiPort (debugStore.axim m)

/-- All traffic is with the debug module: the second master writes, the third one reads. -/
def debugStoreWrites : Routes (Fin 3) (Fin 7) :=
  ⟨fun _ _ => some ⟨1, by decide⟩, storeFetchWrites.source⟩

def debugStoreReads : Routes (Fin 3) (Fin 7) :=
  ⟨debugStoreWrites.target, fun _ _ => Fin.last 2⟩

-- cycles 0 to 7 are computed, and from then on nothing happens
theorem debugStore_masters (m : Fin 3) (t : ℕ) :
    let p := debugStoreMaster m
    (m ≠ 1 ∨ 8 ≤ t → p.aw.valid t = false ∧ p.w.valid t = false ∧ p.b.valid t = false) ∧
      (m ≠ 2 ∨ 8 ≤ t → p.ar.valid t = false ∧ p.r.valid t = false) := by
  by_cases ht : t < 8
  · fin_cases m <;> interval_cases t <;> decide
  · have hin (u : ℕ) (hu : u ≥ 8) :
        (debugStore.axim m).input u = (debugStore.axim m).resetInput := by
      obtain ⟨u, rfl⟩ := Nat.exists_eq_add_of_le' hu
      fin_cases m <;> rfl
    have hreset : (debugStore.axim m).resetInput.core.req = false ∧
        (debugStore.axim m).resetInput.axi.bvalid = false ∧
        (debugStore.axim m).resetInput.axi.rvalid = false := by
      fin_cases m <;> exact ⟨rfl, rfl, rfl⟩
    have hidle : (debugStore.axim m).state 8 = .idle := by
      fin_cases m <;> rfl
    obtain ⟨haw, hw, har⟩ := NetworkLiveness.core_quiet hidle
      (fun u hu => (congrArg (fun i : Core2axi4l.Input => i.core.req) (hin u hu)).trans hreset.1)
      (show 8 ≤ t by omega)
    have hb := congrArg (fun i : Core2axi4l.Input => i.axi.bvalid) (hin t (by omega))
    have hr := congrArg (fun i : Core2axi4l.Input => i.axi.rvalid) (hin t (by omega))
    exact ⟨fun _ => ⟨haw, hw, hb.trans hreset.2.1⟩, fun _ => ⟨har, hr.trans hreset.2.2⟩⟩

theorem debugStore_idle (i : Fin 7) (hi : i ≠ 1) (t : ℕ) :
    (debugStore.axis i).aw.valid t = false ∧ (debugStore.axis i).w.valid t = false ∧
      (debugStore.axis i).ar.valid t = false := by
  fin_cases i
  · exact ⟨rfl, rfl, rfl⟩
  · exact absurd rfl hi
  all_goals exact ⟨rfl, rfl, rfl⟩

theorem debugStore_mute (i : Fin 7) (hi : i ≠ 1) (t : ℕ) :
    (debugStore.axis i).b.valid t = false ∧ (debugStore.axis i).r.valid t = false := by
  by_cases h0 : i = 0
  · subst h0
    exact ⟨((Axi4lDpramx32.write_drives debugStore.uDpram).quiet (n := 0) (by decide)
      (fun _ _ => rfl) (Nat.zero_le t)).1,
      ((Axi4lDpramx32.read_drives debugStore.uDpram).quiet (n := 0) (by decide)
      (fun _ _ => rfl) (Nat.zero_le t)).1⟩
  · have hmute := storeFetch_mute i h0 t
    fin_cases i
    · exact absurd rfl h0
    · exact absurd rfl hi
    all_goals exact hmute

theorem debugStore_dm (t : ℕ) (ht : t ≥ 8) :
    let s := debugStore.axis 1
    (s.aw.valid t = false ∧ s.w.valid t = false ∧ s.b.valid t = false) ∧
      s.ar.valid t = false ∧ s.r.valid t = false := by
  obtain ⟨t, rfl⟩ := Nat.exists_eq_add_of_le' ht
  have hstate : debugStore.uDmTop.state (t+8) = debugStore.uDmTop.state 8 := by
    induction t with
    | zero => rfl
    | succ t ih =>
      rw [show t + 1 + 8 = (t + 8) + 1 by omega, Run.state_succ, ih (by omega)]
      rfl
  refine ⟨⟨rfl, rfl, ?_⟩, rfl, ?_⟩
  · change (Axi4l2core.comb (debugStore.uDmTop.state (t+8)) _).axi.bvalid = false
    rw [hstate]
    rfl
  · change (Axi4l2core.comb (debugStore.uDmTop.state (t+8)) _).axi.rvalid = false
    rw [hstate]
    rfl

/-- A channel in every cycle, which delivers what it is given. -/
def Joined {α : Type} (l l' : Link α) : Prop := (∀ n, Channel n l l') ∧ Delivers l l'

theorem joined_of_silent {α : Type} {l l' : Link α} (h : ∀ t, l.valid t = false)
    (h' : ∀ t, l'.valid t = false) : Joined l l' :=
  ⟨fun _ => .silent (fun t _ => h t) (fun t _ => h' t), delivers_of_silent h⟩

theorem joined_quiet {α : Type} {l l' : Link α} {n : ℕ} (hl : ∀ t ≥ n, l.valid t = false)
    (hl' : ∀ t ≥ n, l'.valid t = false) (hchannel : Channel n l l')
    (hdone : count l.beat n = count l'.beat n)
    (hshows : ∀ t ≤ n, count l'.beat t < count l.beat t → ∃ u < n, t ≤ u ∧ l'.valid u = true) :
    Joined l l' :=
  ⟨channel_quiet hchannel hl hl' hdone, shows_quiet hl hl' hshows⟩

theorem debugStore_aw (m : Fin 3) :
    Joined ((debugStoreMaster m).aw.part (debugStoreWrites.to m 1))
      ((debugStore.axis 1).aw.part (debugStoreWrites.from m 1)) := by
  by_cases hm : m = 1
  · subst hm
    refine joined_quiet (n := 8)
      (fun t ht => part_of_silent ((debugStore_masters 1 t).1 (.inr ht)).1)
      (fun t ht => part_of_silent (debugStore_dm t ht).1.1)
      ⟨fun t => if 1 ≤ t ∧ t ≤ 3 then [⟨0x1a110100, .zero⟩] else [], ⟨rfl, ?_⟩, ?_⟩
      (by decide) (by decide) <;>
      intro t ht <;> interval_cases t <;> decide
  · exact joined_of_silent
      (fun t => part_of_silent ((debugStore_masters m t).1 (.inl hm)).1)
      (fun t => part_silent fun j => decide_eq_false (fun h => hm h.symm))

theorem debugStore_w (m : Fin 3) :
    Joined ((debugStoreMaster m).w.part (debugStoreWrites.to m 1))
      ((debugStore.axis 1).w.part (debugStoreWrites.from m 1)) := by
  by_cases hm : m = 1
  · subst hm
    refine joined_quiet (n := 8)
      (fun t ht => part_of_silent ((debugStore_masters 1 t).1 (.inr ht)).2.1)
      (fun t ht => part_of_silent (debugStore_dm t ht).1.2.1)
      ⟨fun t => if 1 ≤ t ∧ t ≤ 3 then [⟨7, 15⟩] else [], ⟨rfl, ?_⟩, ?_⟩
      (by decide) (by decide) <;>
      intro t ht <;> interval_cases t <;> decide
  · exact joined_of_silent
      (fun t => part_of_silent ((debugStore_masters m t).1 (.inl hm)).2.1)
      (fun t => part_silent fun j => decide_eq_false (fun h => hm h.symm))

theorem debugStore_b (m : Fin 3) :
    Joined ((debugStore.axis 1).b.part (debugStoreWrites.from m 1))
      ((debugStoreMaster m).b.part (debugStoreWrites.to m 1)) := by
  by_cases hm : m = 1
  · subst hm
    refine joined_quiet (n := 8)
      (fun t ht => part_of_silent (debugStore_dm t ht).1.2.2)
      (fun t ht => part_of_silent ((debugStore_masters 1 t).1 (.inr ht)).2.2)
      ⟨fun t => if t = 5 then [.okay] else [], ⟨rfl, ?_⟩, ?_⟩
      (by decide) (by decide) <;>
      intro t ht <;> interval_cases t <;> decide
  · exact joined_of_silent
      (fun t => part_silent fun j => decide_eq_false (fun h => hm h.symm))
      (fun t => part_of_silent ((debugStore_masters m t).1 (.inl hm)).2.2)

theorem debugStore_ar (m : Fin 3) :
    Joined ((debugStoreMaster m).ar.part (debugStoreReads.to m 1))
      ((debugStore.axis 1).ar.part (debugStoreReads.from m 1)) := by
  by_cases hm : m = 2
  · subst hm
    refine joined_quiet (n := 8)
      (fun t ht => part_of_silent ((debugStore_masters 2 t).2 (.inr ht)).1)
      (fun t ht => part_of_silent (debugStore_dm t ht).2.1)
      ⟨fun t => if t = 1 then [⟨0x1a110800, .zero⟩] else [], ⟨rfl, ?_⟩, ?_⟩
      (by decide) (by decide) <;>
      intro t ht <;> interval_cases t <;> decide
  · exact joined_of_silent
      (fun t => part_of_silent ((debugStore_masters m t).2 (.inl hm)).1)
      (fun t => part_silent fun j => decide_eq_false (fun h => hm h.symm))

theorem debugStore_r (m : Fin 3) :
    Joined ((debugStore.axis 1).r.part (debugStoreReads.from m 1))
      ((debugStoreMaster m).r.part (debugStoreReads.to m 1)) := by
  by_cases hm : m = 2
  · subst hm
    refine joined_quiet (n := 8)
      (fun t ht => part_of_silent (debugStore_dm t ht).2.2)
      (fun t ht => part_of_silent ((debugStore_masters 2 t).2 (.inr ht)).2)
      ⟨fun t => if t = 3 then [⟨0x13, .okay⟩] else [], ⟨rfl, ?_⟩, ?_⟩
      (by decide) (by decide) <;>
      intro t ht <;> interval_cases t <;> decide
  · exact joined_of_silent
      (fun t => part_silent fun j => decide_eq_false (fun h => hm h.symm))
      (fun t => part_of_silent ((debugStore_masters m t).2 (.inl hm)).2)

theorem debugStore_addr (m : Fin 3) (t : ℕ) :
    ((debugStoreMaster m).awAddr t = none ∨ (debugStoreMaster m).awAddr t = some 0x1a110100) ∧
      ((debugStoreMaster m).arAddr t = none ∨
        (debugStoreMaster m).arAddr t = some 0x1a110800) := by
  by_cases ht : t < 8
  · fin_cases m <;> interval_cases t <;> decide
  · have hlow := debugStore_masters m t
    have hnone {α : Type} {l : Link α} (h : l.valid t = false) : l.beat t = none :=
      beat_none (by rw [h]; rfl)
    have haw := hnone (hlow.1 (.inr (by omega))).1
    have har := hnone (hlow.2 (.inr (by omega))).1
    exact ⟨.inl (congrArg (Option.map AddrBeat.addr) haw),
      .inl (congrArg (Option.map AddrBeat.addr) har)⟩

theorem debugStore_region {o : Option Addr} {a : Addr}
    (h : o = none ∨ o = some 0x1a110100 ∨ o = some 0x1a110800) (ha : o = some a) :
    decode maskCompare a = debugStoreWrites.target 0 0 := by
  rw [decode_eq maskCompare_decodes]
  rcases h with rfl | rfl | rfl <;> cases ha <;> decide

theorem debugStore_connects (n : ℕ) : Connects (decode maskCompare) debugStoreWrites
    debugStoreReads debugStoreMaster debugStore.axis n where
  aw := only_out (fun _ _ => rfl) (fun i hi t _ => (debugStore_idle i hi t).1) fun m =>
    (debugStore_aw m).1 n
  w := only_out (fun _ _ => rfl) (fun i hi t _ => (debugStore_idle i hi t).2.1) fun m =>
    (debugStore_w m).1 n
  b := only_back (fun _ _ => rfl) (fun i hi t _ => (debugStore_mute i hi t).1) fun m =>
    (debugStore_b m).1 n
  ar := only_out (fun _ _ => rfl) (fun i hi t _ => (debugStore_idle i hi t).2.2) fun m =>
    (debugStore_ar m).1 n
  r := only_back (fun _ _ => rfl) (fun i hi t _ => (debugStore_mute i hi t).2) fun m =>
    (debugStore_r m).1 n
  awDecode m k t a _ h :=
    (debugStore_region ((debugStore_addr m t).1.imp_right .inl) h.occurs).symm
  arDecode m k t a _ h :=
    (debugStore_region ((debugStore_addr m t).2.imp_right .inr) h.occurs).symm
  bUnmapped m k t _ _ h := by cases h
  rUnmapped m k t _ _ h := by cases h

theorem only_sends {α : Type} {x : Routes (Fin 3) (Fin 7)} {a : Fin 3 → Link α}
    {b : Fin 7 → Link α} {only : Fin 7} (hx : ∀ m k, x.target m k = some only)
    (honly : ∀ m, Delivers ((a m).part (x.to m only)) ((b only).part (x.from m only))) (m : Fin 3)
    (i : Fin 7) : Delivers ((a m).part (x.to m i)) ((b i).part (x.from m i)) := by
  by_cases hi : i = only
  · rw [hi]
    exact honly m
  · refine delivers_of_silent (fun t => part_silent fun k => ?_)
    exact decide_eq_false (fun h => hi (Option.some.inj ((hx m k).symm.trans h)).symm)

theorem only_returns {α : Type} {x : Routes (Fin 3) (Fin 7)} {a : Fin 3 → Link α}
    {b : Fin 7 → Link α} {only : Fin 7} (hb : ∀ i ≠ only, ∀ t, (b i).valid t = false)
    (honly : ∀ m, Delivers ((b only).part (x.from m only)) ((a m).part (x.to m only))) (m : Fin 3)
    (i : Fin 7) : Delivers ((b i).part (x.from m i)) ((a m).part (x.to m i)) := by
  by_cases hi : i = only
  · rw [hi]
    exact honly m
  · exact delivers_of_silent (fun t => part_of_silent (hb i hi t))

theorem holds_of_silent {α : Type} {l : Link α} {keep : α → α → Prop} {n : ℕ}
    (h : ∀ t, l.valid t = false) : l.Holds keep n :=
  fun t _ hv => absurd ((h t).symm.trans hv) (by decide)

/-- The store waits for two cycles, and the debug module is offered the same all the time. -/
theorem debugStore_holds (i : Fin 7) (n : ℕ) : (debugStore.axis i).Stable n := by
  by_cases hi : i = 1
  · subst hi
    have hholds {α : Type} {l : Link α} (hquiet : ∀ t ≥ 8, l.valid t = false)
        (h : ∀ t < 8, l.valid t = true → l.ready t = false →
          l.valid (t+1) = true ∧ l.data (t+1) = l.data t) : l.Holds (fun x y => y = x) n := by
      intro t _ hv hr
      refine h t ?_ hv hr
      by_contra ht
      exact absurd ((hquiet t (by omega)).symm.trans hv) (by decide)
    exact ⟨hholds (fun t ht => (debugStore_dm t ht).1.1) (by decide),
      hholds (fun t ht => (debugStore_dm t ht).1.2.1) (by decide),
      hholds (fun t ht => (debugStore_dm t ht).2.1) (by decide)⟩
  · have hidle := debugStore_idle i hi
    exact ⟨holds_of_silent (fun t => (hidle t).1), holds_of_silent (fun t => (hidle t).2.1),
      holds_of_silent (fun t => (hidle t).2.2)⟩

theorem debugStore_fair :
    Fair debugStoreWrites debugStoreReads debugStoreMaster debugStore.axis where
  takesAw m := takes_quiet (fun t ht => ((debugStore_masters m t).1 (.inr ht)).1)
    (by fin_cases m <;> decide)
  takesW m := takes_quiet (fun t ht => ((debugStore_masters m t).1 (.inr ht)).2.1)
    (by fin_cases m <;> decide)
  takesAr m := takes_quiet (fun t ht => ((debugStore_masters m t).2 (.inr ht)).1)
    (by fin_cases m <;> decide)
  takesB i := by
    by_cases hi : i = 1
    · subst hi
      exact takes_quiet (fun t ht => (debugStore_dm t ht).1.2.2) (by decide)
    · exact takes_quiet (n := 0) (fun t _ => (debugStore_mute i hi t).1) nofun
  takesR i := by
    by_cases hi : i = 1
    · subst hi
      exact takes_quiet (fun t ht => (debugStore_dm t ht).2.2) (by decide)
    · exact takes_quiet (n := 0) (fun t _ => (debugStore_mute i hi t).2) nofun
  aw := only_sends (fun _ _ => rfl) fun m => (debugStore_aw m).2
  w := only_sends (fun _ _ => rfl) fun m => (debugStore_w m).2
  b := only_returns (fun i hi t => (debugStore_mute i hi t).1) fun m => (debugStore_b m).2
  ar := only_sends (fun _ _ => rfl) fun m => (debugStore_ar m).2
  r := only_returns (fun i hi t => (debugStore_mute i hi t).2) fun m => (debugStore_r m).2
  bUnmapped m t ht := by cases ht.1
  rUnmapped m t ht := by cases ht.1
  holds := debugStore_holds

-- every request is granted in the cycle it comes in
theorem debugStore_stable (m : Fin 3) (n : ℕ) : (corePort (debugStore.axim m)).Stable n := by
  intro t _ hreq hgnt
  fin_cases m
  · exact absurd hreq Bool.false_ne_true
  all_goals
    match t with
    | 0 => exact absurd hgnt (by decide)
    | 1 | 2 | 3 | 4 | 5 | _ + 6 => exact absurd hreq Bool.false_ne_true

def debugStoreFair : FairSoc where
  toParts := debugStore
  sw _ := 0
  btn _ := 0
  wired := debugStore_wired
  axilxbar := maskCompare
  decodes := maskCompare_decodes
  writes := debugStoreWrites
  reads := debugStoreReads
  connects := debugStore_connects
  fair := debugStore_fair
  stable := debugStore_stable

/-- The store to the debug module is passed by the read, and then it goes on. -/
theorem debugStore_ends : ∀ m, Ends (debugStore.axim m) := by
  have hpass : WritesPass debugStoreFair.uDmTop := by
    intro t haw _
    refine .inr ⟨3, ?_, rfl, by decide⟩
    by_contra ht
    match t with
    | 0 | 1 | 2 | 3 => omega
    | t + 4 => exact absurd haw Bool.false_ne_true
  exact (FairSoc.ends_iff debugStoreFair).2 hpass

end IbexAxi4l.IbexSoc
