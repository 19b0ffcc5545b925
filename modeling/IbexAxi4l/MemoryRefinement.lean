import IbexAxi4l.Core2axi4lContract
import IbexAxi4l.Axi4lDpramx32Contract

set_option autoImplicit false

/-!
# The converter and the RAM, over any network

`core2axi4l` and `axi4l_dpramx32` connected through five channels of which nothing is
assumed but that they lose, invent and reorder nothing. The core sees a memory whose
requests take effect one by one, in the order of their grants.
-/
namespace IbexAxi4l.MemoryRefinement
open EventLog ReadyValid AxiLite ByteLanes StrobedStore
open Axi4lDpramx32 (RamSize axi4lDpramx32)
open Core2axi4l (core2axi4l)

/-- In the first `n` cycles the converter `r` and the RAM `m` are connected by five channels
of arbitrary delays. -/
structure Network {size : ℕ} (r : Run core2axi4l) (m : Run (axi4lDpramx32 size)) (n : ℕ) :
    Prop where
  aw : Channel n (Core2axi4l.axiPort r).aw (Axi4lDpramx32.axiPort m).aw
  w : Channel n (Core2axi4l.axiPort r).w (Axi4lDpramx32.axiPort m).w
  b : Channel n (Axi4lDpramx32.axiPort m).b (Core2axi4l.axiPort r).b
  ar : Channel n (Core2axi4l.axiPort r).ar (Axi4lDpramx32.axiPort m).ar
  r : Channel n (Axi4lDpramx32.axiPort m).r (Core2axi4l.axiPort r).r

def writeOf (z : RamSize) (q : Request) : Commit := ⟨z.cell q.addr, q.wdata, q.be⟩

def written (z : RamSize) (r : Run core2axi4l) (t : ℕ) : List Commit :=
  (log (Core2axi4l.corePort r).write t).map (writeOf z)

/-- Every response answers the request of its number without an error, and a read gets for
each byte what the last write granted before it put there, or the initial content. -/
def MemoryRefined (z : RamSize) (r : Run core2axi4l) (m : Run (axi4lDpramx32 z.size)) (n : ℕ) :
    Prop :=
  ∀ k t x, t < n → Nth (Core2axi4l.corePort r).response k t x →
    ∃ tg < t, ∃ q, Nth (Core2axi4l.corePort r).grant k tg q ∧ x.err = false ∧
      (q.we = false → ∀ b < 4, byte x.rdata b =
        (latest (written z r tg) (z.cell q.addr) b).getD
          (byte (Axi4lDpramx32.mem m 0 (z.cell q.addr)) b))

section Network
variable {z : RamSize} {r : Run core2axi4l} {m : Run (axi4lDpramx32 z.size)} {n : ℕ}
  (hnet : Network r m n)
include hnet

theorem commits_le_sent {t : ℕ} (ht : t ≤ n) :
    count (Axi4lDpramx32.commits m) t ≤ count (Core2axi4l.axiPort r).aw.beat t ∧
      count (Axi4lDpramx32.commits m) t ≤ count (Core2axi4l.axiPort r).w.beat t := by
  have honce := Axi4lDpramx32.write_once m
  have haw := honce.addressCount t
  have hw := honce.dataCount t
  have hsent := hnet.aw.count_le ht
  have hsent' := hnet.w.count_le ht
  unfold Axi4lDpramx32.commits
  constructor <;> omega

theorem answered_le_commits {t : ℕ} (ht : t ≤ n) :
    count (Core2axi4l.axiPort r).b.beat t ≤ count (Axi4lDpramx32.commits m) t := by
  have honce := Axi4lDpramx32.write_once m
  have hb := honce.responseCount t
  have htaken := hnet.b.count_le ht
  unfold Axi4lDpramx32.commits
  omega

theorem network_answers : (Core2axi4l.axiPort r).Answers n := by
  constructor
  · intro t ht hv
    rcases hnet.b.shown ht ⟨hv, rfl⟩ with ⟨s, hs, hshown, -⟩
    have hcommitted := Axi4lDpramx32.shown_committed hshown
    have hsent := commits_le_sent hnet (show s ≤ n by omega)
    have haw := count_mono (Core2axi4l.axiPort r).aw.beat hs
    have hw := count_mono (Core2axi4l.axiPort r).w.beat hs
    constructor <;> omega
  · intro t ht hv
    rcases hnet.r.shown ht ⟨hv, rfl⟩ with ⟨s, hs, hshown, -⟩
    have honce := Axi4lDpramx32.read_once m
    rcases honce.response _ s hshown with ⟨ts, hts, a, ha, -⟩
    rcases honce.address _ ts a ha with ⟨ta, hta, haddr⟩
    have hlt := haddr.lt_count (show ta < s by omega)
    rw [count_arAddr] at hlt
    have hsent := hnet.ar.count_le (show s ≤ n by omega)
    have har := count_mono (Core2axi4l.axiPort r).ar.beat hs
    omega

theorem okay_of_b {t : ℕ} {resp : Resp} (ht : t < n)
    (hbeat : (Core2axi4l.axiPort r).b.beat t = some resp) : resp = .okay := by
  rcases hnet.b.nth ⟨hbeat, rfl⟩ ht with ⟨s, -, hs⟩
  exact (beat_eq_some.1 hs.occurs).2.2.symm

variable (hstable : (Core2axi4l.corePort r).Stable n)
include hstable

theorem commit_is_write {k tc t : ℕ} {c : WriteChannel.Write} {q : Request} (htc : tc < n)
    (hc : Nth (Axi4lDpramx32.commits m) k tc c) (ht : t < n)
    (hq : Nth (Core2axi4l.corePort r).write k t q) :
    Axi4lDpramx32.store z.size c = writeOf z q := by
  have honce := Axi4lDpramx32.write_once m
  rcases Core2axi4l.write_beats hstable ht hq with ⟨_, _, hqaddr, hqdata, -⟩
  have haddr : c.addr = q.addr := by
    rcases honce.address k tc c hc with ⟨ta, hta, ha⟩
    rcases nth_map_iff.1 ha with ⟨x, hx, hxa⟩
    rcases hnet.aw.nth hx (by omega) with ⟨s, -, hs⟩
    rw [← hxa]
    exact (hs.map AddrBeat.addr).value_unique hqaddr
  have hdata : (⟨c.data, c.strb⟩ : WriteBeat) = ⟨q.wdata, q.be⟩ := by
    rcases honce.data k tc c hc with ⟨td, htd, hd⟩
    rcases hnet.w.nth hd (by omega) with ⟨s, -, hs⟩
    exact hs.value_unique hqdata
  unfold Axi4lDpramx32.store writeOf
  rw [haddr, z.index_eq, (WriteBeat.mk.inj hdata).1, (WriteBeat.mk.inj hdata).2]

theorem mem_of_count {s t : ℕ} (hs : s ≤ n) (ht : t ≤ n)
    (hcount : count (Axi4lDpramx32.commits m) s = count (Core2axi4l.corePort r).write t) :
    Axi4lDpramx32.mem m s = replay (Axi4lDpramx32.mem m 0) (written z r t) := by
  rw [Axi4lDpramx32.mem_eq]
  refine congrArg (replay _) (map_log_eq hcount ?_)
  intro k a x b y hx ha hy hb
  exact commit_is_write hnet hstable (by omega) hx (by omega) hy

end Network

section Outstanding
variable {r : Run core2axi4l} {n : ℕ} (hstable : (Core2axi4l.corePort r).Stable n)
include hstable

theorem nothing_else {k tg t : ℕ} {q : Request} {x : Response} (ht : t < n) (htg : tg < t)
    (hq : Nth (Core2axi4l.corePort r).grant k tg q)
    (hx : Nth (Core2axi4l.corePort r).response k t x) :
    count (Core2axi4l.corePort r).write (tg+1) = count (Core2axi4l.corePort r).write t ∧
      count (Core2axi4l.corePort r).read (tg+1) = count (Core2axi4l.corePort r).read t := by
  have ho := Core2axi4l.outstanding hstable (Nat.le_of_lt ht)
  rw [Core2axi4l.unanswered_length, hx.index] at ho
  have hk := hq.count_succ
  have hw := count_mono (Core2axi4l.corePort r).write (show tg + 1 ≤ t from htg)
  have hr := count_mono (Core2axi4l.corePort r).read (show tg + 1 ≤ t from htg)
  have hsum := grant_count (Core2axi4l.corePort r) (tg+1)
  have hsum' := grant_count (Core2axi4l.corePort r) t
  split_ifs at ho <;> omega

theorem idle_of_read {k tg : ℕ} {q : Request} (ht : tg < n)
    (hq : Nth (Core2axi4l.corePort r).grant k tg q) (hwe : q.we = false) :
    r.state tg = .idle := by
  rcases Core2axi4l.does r tg with ⟨a, ha⟩
  have hread : (Core2axi4l.corePort r).read tg = some q := read_eq_some.2 ⟨hq.occurs, hwe⟩
  rw [ha.read hstable ht] at hread
  cases a with
  | sendRead => exact ha.pre
  | stay | sendAddr | sendData | sendBoth | finishData | finishAddr | writeDone | readDone =>
    simp at hread

end Outstanding

section Refinement
variable {z : RamSize} {r : Run core2axi4l} {m : Run (axi4lDpramx32 z.size)} {n : ℕ}
  (hnet : Network r m n) (hstable : (Core2axi4l.corePort r).Stable n)
include hnet hstable

theorem read_sample {j tg t : ℕ} {q : Request} {beat : ReadBeat} (ht : t < n) (htg : tg < t)
    (hq : Nth (Core2axi4l.corePort r).read j tg q)
    (hbeat : Nth (Core2axi4l.axiPort r).r.beat j t beat) :
    ∃ ts, tg ≤ ts ∧ ts < t ∧ beat = ⟨Axi4lDpramx32.mem m ts (z.cell q.addr), .okay⟩ := by
  rcases hnet.r.nth hbeat ht with ⟨s, hs, hram⟩
  rcases Axi4lDpramx32.sample_value (shown_of_nth hram) with ⟨ts, hts, a, ha, hdata⟩
  rcases (Axi4lDpramx32.read_once m).address j ts a ha with ⟨ta, hta, haddr⟩
  rcases nth_map_iff.1 haddr with ⟨y, hy, hya⟩
  rcases hnet.ar.nth hy (by omega) with ⟨s', hs', hsent⟩
  have hgranted := Core2axi4l.read_beat hstable (show tg < n by omega) hq
  have hsent' := hsent.map AddrBeat.addr
  have htime := hsent'.time_unique hgranted
  have hvalue : a = q.addr := hya.symm.trans (hsent'.value_unique hgranted)
  refine ⟨ts, by omega, by omega, ?_⟩
  rw [← (beat_eq_some.1 hram.occurs).2.2, ← hvalue, ← hdata]
  rfl

/-- At a sample between the grant of a read and its response the memory holds exactly the
writes granted before. -/
theorem mem_at_sample {k tg ts t : ℕ} {q : Request} {x : Response} (ht : t < n) (hts : tg ≤ ts)
    (hts' : ts < t) (hq : Nth (Core2axi4l.corePort r).grant k tg q) (hwe : q.we = false)
    (hx : Nth (Core2axi4l.corePort r).response k t x) (hstate : r.state t = .readWait) :
    Axi4lDpramx32.mem m ts = replay (Axi4lDpramx32.mem m 0) (written z r tg) := by
  have htg : tg < n := by omega
  have hnone : (Core2axi4l.corePort r).write tg = none := by
    cases hw : (Core2axi4l.corePort r).write tg with
    | none => rfl
    | some q' =>
      have hq' := write_eq_some.1 hw
      have hqq : q' = q := Option.some.inj (hq'.1.symm.trans hq.occurs)
      rw [hqq, hwe] at hq'
      exact absurd hq'.2 (by decide)
  have hsame := (nothing_else hstable ht (by omega) hq hx).1
  rw [count_succ_none hnone] at hsame
  -- no write is made that was not granted
  have hupper : count (Axi4lDpramx32.commits m) ts ≤ count (Core2axi4l.corePort r).write tg := by
    have hmade := (commits_le_sent hnet (show ts ≤ n by omega)).1
    have hmono := count_mono (Core2axi4l.axiPort r).aw.beat (show ts ≤ t by omega)
    have hsent := Core2axi4l.addr_count hstable (show t ≤ n by omega)
    rw [count_awAddr, hstate] at hsent
    simp only [reduceCtorEq, if_false] at hsent
    omega
  -- all granted writes were answered before the read was granted
  have hlower : count (Core2axi4l.corePort r).write tg ≤ count (Axi4lDpramx32.commits m) ts := by
    have hanswered := Core2axi4l.write_count hstable (show tg ≤ n by omega)
    rw [idle_of_read hstable htg hq hwe] at hanswered
    have hmade := answered_le_commits hnet (show tg ≤ n by omega)
    have hmono := count_mono (Axi4lDpramx32.commits m) hts
    simp only [reduceCtorEq, if_false] at hanswered
    omega
  exact mem_of_count hnet hstable (by omega) (by omega) (by omega)

theorem read_refined {k tg t : ℕ} {q : Request} {x : Response} {beat : ReadBeat} (ht : t < n)
    (htg : tg < t) (hq : Nth (Core2axi4l.corePort r).grant k tg q) (hwe : q.we = false)
    (hx : Nth (Core2axi4l.corePort r).response k t x)
    (hbeat : (Core2axi4l.axiPort r).r.beat t = some beat) :
    beat = ⟨replay (Axi4lDpramx32.mem m 0) (written z r tg) (z.cell q.addr), .okay⟩ := by
  have hstate : r.state t = .readWait := by
    rcases Core2axi4l.does r t with ⟨a, ha⟩
    have hrd := ha.rd
    rw [← isSome_beat, hbeat] at hrd
    cases a with
    | readDone => exact ha.pre
    | stay | sendAddr | sendData | sendBoth | sendRead | finishData | finishAddr | writeDone =>
      simp at hrd
  have hread : (Core2axi4l.corePort r).read tg = some q := read_eq_some.2 ⟨hq.occurs, hwe⟩
  have hsame := (nothing_else hstable ht htg hq hx).2
  have hcount := Core2axi4l.read_count hstable (Nat.le_of_lt ht)
  rw [count_succ_some hread] at hsame
  rw [hstate, if_pos rfl] at hcount
  have hindex : count (Core2axi4l.corePort r).read tg = count (Core2axi4l.axiPort r).r.beat t := by
    omega
  rcases read_sample hnet hstable ht htg ⟨hread, hindex⟩ ⟨hbeat, rfl⟩ with
    ⟨ts, hts, hts', hvalue⟩
  rw [hvalue, mem_at_sample hnet hstable ht hts hts' hq hwe hx hstate]

end Refinement

/-- The converter and the RAM implement the memory that the core expects. -/
theorem memory_refined (z : RamSize) (r : Run core2axi4l) (m : Run (axi4lDpramx32 z.size))
    (n : ℕ) (hnet : Network r m n) (hstable : (Core2axi4l.corePort r).Stable n) :
    MemoryRefined z r m n := by
  intro k t x ht hx
  have hanswers := network_answers hnet
  rcases Core2axi4l.answered hstable hanswers ht hx with ⟨tg, q, htg, hq, hpass⟩
  refine ⟨tg, htg, q, hq, ?_⟩
  unfold Core2axi4l.PassesOn at hpass
  cases hwe : q.we with
  | true =>
    rw [hwe, if_pos rfl] at hpass
    rcases hpass with ⟨resp, hbeat, herr⟩
    have hokay := okay_of_b hnet ht hbeat
    refine ⟨?_, fun h => absurd h (by decide)⟩
    rw [hokay] at herr
    simpa using herr
  | false =>
    rw [hwe] at hpass
    rcases hpass with ⟨beat, hbeat, herr, hdata⟩
    have hvalue := read_refined hnet hstable ht htg hq hwe hx hbeat
    constructor
    · rw [hvalue] at herr
      simpa using herr
    · intro _ b hb
      rw [hdata, hvalue]
      exact byte_replay _ _ _ hb

/-- A core that stores two bytes of a word and loads the word, seen from the converter. -/
def storeLoad : Run core2axi4l :=
  let none : CoreMaster := { req := false, we := false, be := 0, addr := 0, wdata := 0 }
  let store : CoreMaster :=
    { req := true, we := true, be := 5, addr := 0x40, wdata := 0x12345678 }
  let load : CoreMaster := { req := true, we := false, be := 15, addr := 0x40, wdata := 0 }
  let quiet : AxiSlave :=
    { awready := false, wready := false, bvalid := false, bresp := .okay,
      arready := false, rvalid := false, rdata := 0, rresp := .okay }
  { before := .writeData
    resetInput := ⟨none, quiet⟩
    input := fun
      | 0 => ⟨store, { quiet with awready := true, wready := true }⟩
      | 4 => ⟨none, { quiet with bvalid := true }⟩
      | 5 => ⟨load, { quiet with arready := true }⟩
      | 7 => ⟨none, { quiet with rvalid := true, rdata := 0x11341178 }⟩
      | _ => ⟨none, quiet⟩ }

def smallRam : RamSize := ⟨0x80, by decide, 7, by decide⟩

def storeLoadRam : Run (axi4lDpramx32 smallRam.size) :=
  let quiet : AxiMaster :=
    { awvalid := false, awaddr := 0, awprot := .zero, wvalid := false, wdata := 0, wstrb := 0,
      bready := false, arvalid := false, araddr := 0, arprot := .zero, rready := false }
  { before :=
      { write := ⟨false, false, true, 0, 0, 0⟩, read := ⟨false, true, 0⟩,
        mem := fun _ => 0x11111111, rdata := 0 }
    resetInput := quiet
    input := fun
      | 1 => { quiet with awvalid := true, awaddr := 0x40 }
      | 2 => { quiet with wvalid := true, wdata := 0x12345678, wstrb := 5 }
      | 3 => { quiet with bready := true }
      | 5 => { quiet with arvalid := true, araddr := 0x40 }
      | 6 => { quiet with rready := true }
      | _ => quiet }

theorem storeLoad_network : Network storeLoad storeLoadRam 8 where
  aw := by
    refine ⟨fun t => if t = 1 then [⟨0x40, .zero⟩] else [], ⟨rfl, ?_⟩, ?_⟩ <;>
      intro t ht <;> interval_cases t <;> decide
  w := by
    refine ⟨fun t => if t = 1 ∨ t = 2 then [⟨0x12345678, 5⟩] else [], ⟨rfl, ?_⟩, ?_⟩ <;>
      intro t ht <;> interval_cases t <;> decide
  b := by
    refine ⟨fun t => if t = 4 then [.okay] else [], ⟨rfl, ?_⟩, ?_⟩ <;>
      intro t ht <;> interval_cases t <;> decide
  ar := by
    refine ⟨fun _ => [], ⟨rfl, ?_⟩, ?_⟩ <;> intro t ht <;> interval_cases t <;> decide
  r := by
    refine ⟨fun t => if t = 7 then [⟨0x11341178, .okay⟩] else [], ⟨rfl, ?_⟩, ?_⟩ <;>
      intro t ht <;> interval_cases t <;> decide

theorem storeLoad_stable : (Core2axi4l.corePort storeLoad).Stable 8 := by
  intro t ht
  have hlt : t < 7 := by omega
  interval_cases t <;> decide

theorem storeLoad_refined : MemoryRefined smallRam storeLoad storeLoadRam 8 :=
  memory_refined smallRam storeLoad storeLoadRam 8 storeLoad_network storeLoad_stable

end IbexAxi4l.MemoryRefinement
