import Mathlib.Tactic.IntervalCases
import IbexAxi4l.Core2axi4lHistory

set_option autoImplicit false

/-!
# What the converter promises

Towards the bus it forwards each request exactly once and is a legal AXI4-Lite master;
towards the core it returns each answer exactly once, in order and unaltered.
-/
namespace IbexAxi4l.Core2axi4l
open EventLog ReadyValid AxiLite

section Signals
variable (r : Run core2axi4l) (t : ℕ)

theorem awvalid_iff : ((axiPort r).master t).awvalid = true ↔
    (r.state t = .idle ∧ ((corePort r).master t).req = true ∧
      ((corePort r).master t).we = true) ∨ r.state t = .writeAddr := by
  change (fsm (r.state t) (r.input t).core (r.input t).axi).awvalid = true ↔
    (r.state t = .idle ∧ (r.input t).core.req = true ∧ (r.input t).core.we = true) ∨ _
  cases r.state t <;> simp [fsm]
  all_goals split_ifs <;> simp_all

theorem wvalid_iff : ((axiPort r).master t).wvalid = true ↔
    (r.state t = .idle ∧ ((corePort r).master t).req = true ∧
      ((corePort r).master t).we = true) ∨ r.state t = .writeData := by
  change (fsm (r.state t) (r.input t).core (r.input t).axi).wvalid = true ↔
    (r.state t = .idle ∧ (r.input t).core.req = true ∧ (r.input t).core.we = true) ∨ _
  cases r.state t <;> simp [fsm]
  all_goals split_ifs <;> simp_all

theorem arvalid_iff : ((axiPort r).master t).arvalid = true ↔
    r.state t = .idle ∧ ((corePort r).master t).req = true ∧
      ((corePort r).master t).we = false := by
  change (fsm (r.state t) (r.input t).core (r.input t).axi).arvalid = true ↔
    r.state t = .idle ∧ (r.input t).core.req = true ∧ (r.input t).core.we = false
  cases r.state t <;> simp [fsm]
  all_goals split_ifs <;> simp_all

end Signals

/-- A write whose data is taken two cycles after its address and answered with an error,
then a read. -/
def splitWrite : Run core2axi4l :=
  let none : CoreMaster := { req := false, we := false, be := 0, addr := 0, wdata := 0 }
  let store : CoreMaster := { req := true, we := true, be := 5, addr := 0x40, wdata := 0x1234 }
  let load : CoreMaster := { req := true, we := false, be := 15, addr := 0x44, wdata := 0 }
  let quiet : AxiSlave :=
    { awready := false, wready := false, bvalid := false, bresp := .okay,
      arready := false, rvalid := false, rdata := 0, rresp := .okay }
  { before := .readWait
    resetInput := ⟨none, quiet⟩
    input := fun
      | 0 => ⟨store, { quiet with awready := true }⟩
      | 1 => ⟨store, quiet⟩
      | 2 => ⟨store, { quiet with wready := true }⟩
      | 3 => ⟨none, { quiet with bvalid := true, bresp := .slverr }⟩
      | 4 => ⟨load, { quiet with arready := true }⟩
      | 5 => ⟨none, { quiet with rvalid := true, rdata := 0x2a }⟩
      | _ => ⟨none, quiet⟩ }

theorem splitWrite_stable : (corePort splitWrite).Stable 7 := by
  intro t ht
  have hlt : t < 6 := by omega
  interval_cases t <;> decide

theorem splitWrite_answers : (axiPort splitWrite).Answers 7 := by
  constructor <;> intro t ht <;> interval_cases t <;> decide

section Contract
variable {r : Run core2axi4l} {n : ℕ}

theorem response_count {t : ℕ} (ht : t ≤ n) :
    count (corePort r).response t = count (answer r) t := by
  refine count_congr (n := n) ?_ ht
  intro s _
  obtain ⟨a, h⟩ := does r s
  rw [response_isSome, h.rvalid, h.answer]
  cases a <;> rfl

theorem outstanding (hstable : (corePort r).Stable n) {t : ℕ} (ht : t ≤ n) :
    count (corePort r).grant t = count (corePort r).response t + (unanswered r t).length := by
  have hc := (answer_fifo hstable).count_eq ht
  rw [count_map] at hc
  rw [hc, response_count ht]

theorem unanswered_length (t : ℕ) : (unanswered r t).length =
    if r.state t = .writeWait ∨ r.state t = .readWait then 1 else 0 := by
  unfold unanswered
  cases r.state t <;> rfl

theorem addr_count (hstable : (corePort r).Stable n) {t : ℕ} (ht : t ≤ n) :
    count (axiPort r).awAddr t =
      count (corePort r).write t + if r.state t = .writeData then 1 else 0 := by
  have hc := (addr_fifo hstable).count_eq ht
  rw [count_map] at hc
  rw [hc, heldAddr, slot_length]
  simp

theorem data_count (hstable : (corePort r).Stable n) {t : ℕ} (ht : t ≤ n) :
    count (axiPort r).w.beat t =
      count (corePort r).write t + if r.state t = .writeAddr then 1 else 0 := by
  have hc := (data_fifo hstable).count_eq ht
  rw [count_map] at hc
  rw [hc, heldData, slot_length]
  simp

end Contract

/-! ## Requests -/

/-- The last handshake that the request on the core port still needed happens in cycle `t`:
the AR beat of a read, or a beat of a write after which both its halves are out. -/
def LastHandshake (r : Run core2axi4l) (t : ℕ) : Prop :=
  ((axiPort r).ar.beat t).isSome = true ∨
    ((((axiPort r).aw.beat t).isSome = true ∨ ((axiPort r).w.beat t).isSome = true) ∧
      count (axiPort r).aw.beat (t+1) = count (corePort r).write t + 1 ∧
      count (axiPort r).w.beat (t+1) = count (corePort r).write t + 1)

/-- Every request is forwarded exactly once, in the first `n` cycles. -/
structure ForwardsOnce (r : Run core2axi4l) (n : ℕ) : Prop where
  write : ∀ k t q, t < n → Nth (corePort r).write k t q →
    ∃ ta tw, Nth (axiPort r).awAddr k ta q.addr ∧
      Nth (axiPort r).w.beat k tw ⟨q.wdata, q.be⟩ ∧ ta ≤ t ∧ tw ≤ t ∧ (ta = t ∨ tw = t)
  read : ∀ k t q, t < n → Nth (corePort r).read k t q → Nth (axiPort r).arAddr k t q.addr
  writeCounts : ∀ t ≤ n, ∃ addrOut dataOut,
    count (axiPort r).aw.beat t = count (corePort r).write t + addrOut ∧
    count (axiPort r).w.beat t = count (corePort r).write t + dataOut ∧ addrOut + dataOut ≤ 1
  readCounts : ∀ t ≤ n, count (axiPort r).ar.beat t = count (corePort r).read t
  half : ∀ t ≤ n, count (corePort r).write t < count (axiPort r).aw.beat t ∨
      count (corePort r).write t < count (axiPort r).w.beat t →
    ∃ s, t = s + 1 ∧ ((corePort r).master s).req = true ∧
      ((corePort r).master s).we = true ∧ ((corePort r).slave s).gnt = false
  gntRequest : ∀ t < n, ((corePort r).slave t).gnt = true → ((corePort r).master t).req = true
  gntLast : ∀ t < n, ((corePort r).slave t).gnt = true ↔ LastHandshake r t
  quiet : ∀ t < n, count (corePort r).response t < count (corePort r).grant t →
    (axiPort r).aw.beat t = none ∧ (axiPort r).w.beat t = none ∧ (axiPort r).ar.beat t = none

section Forwards
variable {r : Run core2axi4l} {n : ℕ} (hstable : (corePort r).Stable n)
include hstable

theorem write_beats {k t : ℕ} {q : Request} (ht : t < n) (h : Nth (corePort r).write k t q) :
    ∃ ta tw, Nth (axiPort r).awAddr k ta q.addr ∧
      Nth (axiPort r).w.beat k tw ⟨q.wdata, q.be⟩ ∧ ta ≤ t ∧ tw ≤ t ∧ (ta = t ∨ tw = t) := by
  obtain ⟨ta, hta, haddr⟩ := (addr_fifo hstable).nth (h.map Request.addr) ht
  obtain ⟨tw, htw, hdata⟩ := (data_fifo hstable).nth (h.map _) ht
  refine ⟨ta, tw, haddr, hdata, hta, htw, ?_⟩
  obtain ⟨a, ha⟩ := does r t
  have hw := h.occurs
  have hac := addr_count hstable (Nat.le_of_lt ht)
  have hdc := data_count hstable (Nat.le_of_lt ht)
  rw [h.index, ha.pre] at hac hdc
  rw [ha.write hstable ht] at hw
  cases a with
  | sendBoth | finishAddr =>
    exact .inl (haddr.time_unique ⟨ha.awAddr, by simpa using hac⟩)
  | finishData => exact .inr (hdata.time_unique ⟨ha.wBeat, by simpa using hdc⟩)
  | stay | sendAddr | sendData | sendRead | writeDone | readDone => simp at hw

theorem read_beat {k t : ℕ} {q : Request} (ht : t < n) (h : Nth (corePort r).read k t q) :
    Nth (axiPort r).arAddr k t q.addr := by
  have hlog := log_congr (fun s hs => arAddr_eq hstable (r := r) (n := n) hs) (Nat.le_of_lt ht)
  have hm := h.map Request.addr
  refine ⟨(arAddr_eq hstable ht).trans hm.occurs, ?_⟩
  rw [count, hlog]
  exact hm.index

theorem gnt_last {t : ℕ} (ht : t < n) :
    ((corePort r).slave t).gnt = true ↔ LastHandshake r t := by
  obtain ⟨a, h⟩ := does r t
  have hac := addr_count hstable (Nat.le_of_lt ht)
  have hdc := data_count hstable (Nat.le_of_lt ht)
  rw [count_awAddr, h.pre] at hac
  rw [h.pre] at hdc
  unfold LastHandshake
  rw [h.gnt, isSome_beat, isSome_beat, isSome_beat, h.ar, h.aw, h.w, count_succ, count_succ,
    isSome_beat, isSome_beat, h.aw, h.w, hac, hdc]
  cases a with
  | stay s => simp
  | _ => simp

theorem quiet_outstanding {t : ℕ} (ht : t < n)
    (ho : count (corePort r).response t < count (corePort r).grant t) :
    (axiPort r).aw.beat t = none ∧ (axiPort r).w.beat t = none ∧
      (axiPort r).ar.beat t = none := by
  have hc := outstanding hstable (Nat.le_of_lt ht)
  obtain ⟨a, h⟩ := does r t
  rw [unanswered_length, h.pre] at hc
  have hb : a.aw = false ∧ a.w = false ∧ a.ar = false := by
    cases a with
    | stay | writeDone | readDone => exact ⟨rfl, rfl, rfl⟩
    | sendAddr | sendData | sendBoth | sendRead | finishData | finishAddr =>
      simp at hc
      omega
  exact ⟨beat_none (h.aw.trans hb.1), beat_none (h.w.trans hb.2.1), beat_none (h.ar.trans hb.2.2)⟩

end Forwards

theorem forwards_once (r : Run core2axi4l) (n : ℕ) (hstable : (corePort r).Stable n) :
    ForwardsOnce r n where
  write k t q ht h := write_beats hstable ht h
  read k t q ht h := read_beat hstable ht h
  writeCounts t ht := by
    refine ⟨_, _, (count_awAddr _ _).symm.trans (addr_count hstable ht), data_count hstable ht, ?_⟩
    cases r.state t <;> simp
  readCounts t ht := by
    rw [← count_arAddr]
    refine count_congr (n := n) ?_ ht
    intro s hs
    rw [arAddr_eq hstable hs, Option.isSome_map]
  half t ht h := by
    rw [← count_awAddr, addr_count hstable ht, data_count hstable ht] at h
    have hs : r.state t = .writeData ∨ r.state t = .writeAddr := by
      cases hst : r.state t <;> simp [hst] at h ⊢
    obtain ⟨s, hts, hreq, hgnt, hwe⟩ := half_pending hstable ht hs
    exact ⟨s, hts, hreq, hwe, hgnt⟩
  gntRequest t ht hg := by
    obtain ⟨a, h⟩ := does r t
    exact (request_of_gnt hstable ht h (h.gnt.symm.trans hg)).1
  gntLast t ht := gnt_last hstable ht
  quiet t ht ho := quiet_outstanding hstable ht ho

theorem splitWrite_forwards : ForwardsOnce splitWrite 7 :=
  forwards_once splitWrite 7 splitWrite_stable

/-! ## Responses -/

/-- The response `x` of cycle `t` passes on what the bus says in that cycle: the B beat of
a write, the R beat of a read. -/
def PassesOn (r : Run core2axi4l) (t : ℕ) (we : Bool) (x : Response) : Prop :=
  if we then ∃ resp, (axiPort r).b.beat t = some resp ∧ (x.err = true ↔ resp ≠ .okay)
  else ∃ beat, (axiPort r).r.beat t = some beat ∧ (x.err = true ↔ beat.resp ≠ .okay) ∧
    x.rdata = beat.data

/-- Every response is returned exactly once, in order and unaltered. -/
structure AnswersOnce (r : Run core2axi4l) (n : ℕ) : Prop where
  counts : ∀ t ≤ n, count (corePort r).grant t = count (corePort r).response t ∨
    count (corePort r).grant t = count (corePort r).response t + 1
  later : ∀ t < n, ((corePort r).slave t).gnt = true → ((corePort r).slave t).rvalid = false
  pulses : ∀ t < n, ((corePort r).slave t).rvalid = true ↔
    ((axiPort r).b.beat t).isSome = true ∨ ((axiPort r).r.beat t).isSome = true
  single : ∀ t < n, ((axiPort r).b.beat t).isSome = true → (axiPort r).r.beat t = none
  answers : ∀ k t x, t < n → Nth (corePort r).response k t x →
    ∃ s q, s < t ∧ Nth (corePort r).grant k s q ∧ PassesOn r t q.we x

section Answers
variable {r : Run core2axi4l} {n : ℕ} (hstable : (corePort r).Stable n)
  (hanswers : (axiPort r).Answers n)
include hstable hanswers

theorem silent_b {t : ℕ} (ht : t < n) (hs : r.state t = .readWait) :
    ((axiPort r).slave t).bvalid = false := by
  by_contra hv
  have hb := (hanswers.b t ht (by simpa using hv)).1
  have hac := addr_count hstable (Nat.le_of_lt ht)
  have hwc := write_count hstable (Nat.le_of_lt ht)
  simp only [count_awAddr, hs, reduceCtorEq, ↓reduceIte] at hac hwc
  omega

theorem silent_r {t : ℕ} (ht : t < n) (hs : r.state t = .writeWait) :
    ((axiPort r).slave t).rvalid = false := by
  by_contra hv
  have hr := hanswers.r t ht (by simpa using hv)
  have hlog := log_congr (fun s hs => arAddr_eq hstable (r := r) (n := n) hs) (Nat.le_of_lt ht)
  have harc : count (axiPort r).arAddr t = count (corePort r).read t := by
    rw [count, hlog, ← count, count_map]
  have hrc := read_count hstable (Nat.le_of_lt ht)
  simp only [hs, reduceCtorEq, ↓reduceIte] at hrc
  rw [count_arAddr] at harc
  omega

theorem answered {k t : ℕ} {x : Response} (ht : t < n) (h : Nth (corePort r).response k t x) :
    ∃ s q, s < t ∧ Nth (corePort r).grant k s q ∧ PassesOn r t q.we x := by
  obtain ⟨a, ha⟩ := does r t
  have hv : a.rvalid = true := by
    rw [← ha.rvalid, ← response_isSome, h.occurs]
    rfl
  have hx : x = ⟨((axiPort r).slave t).rdata, ((corePort r).slave t).err⟩ := by
    have ho := h.occurs
    rw [CorePort.response, ha.rvalid, hv] at ho
    exact (Option.some.inj ho).symm
  have hk := response_count (r := r) (Nat.le_of_lt ht)
  rw [h.index] at hk
  -- the answer taken now is the one the oldest granted request waits for
  have hans : Nth (answer r) k t a.b := by
    refine ⟨?_, hk.symm⟩
    rw [ha.answer]
    cases a <;> simp at hv ⊢
  obtain ⟨s, hs, hn⟩ := (answer_fifo hstable).nth hans ht
  obtain ⟨q, hq, hwe⟩ := nth_map_iff.1 hn
  have hne : s ≠ t := by
    rintro rfl
    have hg := hq.occurs
    rw [ha.grant hstable ht] at hg
    cases a <;> simp at hv hg
  refine ⟨s, q, by omega, hq, ?_⟩
  rw [hwe]
  have herr : ((corePort r).slave t).err =
      ((((axiPort r).slave t).rvalid && ((axiPort r).slave t).rresp != .okay) ||
        (((axiPort r).slave t).bvalid && ((axiPort r).slave t).bresp != .okay)) := rfl
  cases a with
  | writeDone =>
    have hsilent := silent_r hstable hanswers ht ha.pre
    have hbeat := beat_some ha.b
    have hbv := (beat_eq_some.1 hbeat).1
    change ((axiPort r).slave t).bvalid = true at hbv
    refine ⟨_, hbeat, ?_⟩
    rw [hx, herr, hsilent, hbv]
    change _ ↔ ((axiPort r).slave t).bresp ≠ .okay
    simp
  | readDone =>
    have hsilent := silent_b hstable hanswers ht ha.pre
    have hbeat := beat_some ha.rd
    have hrv := (beat_eq_some.1 hbeat).1
    change ((axiPort r).slave t).rvalid = true at hrv
    refine ⟨_, hbeat, ?_, by rw [hx]; rfl⟩
    rw [hx, herr, hsilent, hrv]
    change _ ↔ ((axiPort r).slave t).rresp ≠ .okay
    simp
  | stay | sendAddr | sendData | sendBoth | sendRead | finishData | finishAddr => simp at hv

end Answers

theorem answers_once (r : Run core2axi4l) (n : ℕ) (hstable : (corePort r).Stable n)
    (hanswers : (axiPort r).Answers n) : AnswersOnce r n where
  counts t ht := by
    have ho := outstanding hstable ht
    rw [unanswered_length] at ho
    split_ifs at ho
    · exact .inr ho
    · exact .inl ho
  later t ht hg := by
    obtain ⟨a, h⟩ := does r t
    rw [h.gnt] at hg
    rw [h.rvalid]
    cases a <;> simp at hg ⊢
  pulses t ht := by
    obtain ⟨a, h⟩ := does r t
    rw [h.rvalid, isSome_beat, isSome_beat, h.b, h.rd]
    cases a <;> simp
  single t ht hb := by
    obtain ⟨a, h⟩ := does r t
    rw [isSome_beat, h.b] at hb
    apply beat_none
    rw [h.rd]
    cases a <;> simp at hb ⊢
  answers k t x ht h := answered hstable hanswers ht h

theorem splitWrite_answered : AnswersOnce splitWrite 7 :=
  answers_once splitWrite 7 splitWrite_stable splitWrite_answers

/-! ## Bus rules -/

/-- In the first `n` cycles the converter keeps the rules of an AXI4-Lite master. -/
structure LegalMaster (r : Run core2axi4l) (n : ℕ) : Prop where
  stable : (axiPort r).Stable n
  exclusive : ∀ t < n, ((axiPort r).master t).arvalid = true →
    ((axiPort r).master t).awvalid = false ∧ ((axiPort r).master t).wvalid = false
  addrOnce : ∀ k s x t, Nth (axiPort r).aw.beat k s x → s < t → t < n →
    count (axiPort r).b.beat t ≤ k → ((axiPort r).master t).awvalid = false
  dataOnce : ∀ k s x t, Nth (axiPort r).w.beat k s x → s < t → t < n →
    count (axiPort r).b.beat t ≤ k → ((axiPort r).master t).wvalid = false

section Legal
variable {r : Run core2axi4l} {n : ℕ} (hstable : (corePort r).Stable n)
include hstable

theorem held_request {t : ℕ} {a : Act} (ht : t + 1 < n) (h : Does r t a) (hg : a.gnt = false)
    (hreq : ((corePort r).master t).req = true) :
    ((corePort r).master (t+1)).req = true ∧
      Request.Keeps ((corePort r).request.data t) ((corePort r).request.data (t+1)) :=
  hstable t ht hreq (h.gnt.trans hg)

theorem half_holds {t : ℕ} {a : Act} {half : State} (ht : t + 1 < n) (h : Does r t a)
    (hhalf : (half = .writeData ∧ a.w = false) ∨ (half = .writeAddr ∧ a.aw = false))
    (hv : (r.state t = .idle ∧ ((corePort r).master t).req = true ∧
      ((corePort r).master t).we = true) ∨ r.state t = half) :
    ((r.state (t+1) = .idle ∧ ((corePort r).master (t+1)).req = true ∧
      ((corePort r).master (t+1)).we = true) ∨ r.state (t+1) = half) ∧
    ((corePort r).master t).we = true ∧
    Request.Keeps ((corePort r).request.data t) ((corePort r).request.data (t+1)) := by
  have hup : ((corePort r).master t).req = true ∧ ((corePort r).master t).we = true := by
    rcases hv with ⟨_, hreq, hwe⟩ | hs
    · exact ⟨hreq, hwe⟩
    · have hpending : r.state t = .writeData ∨ r.state t = .writeAddr := by
        rw [hs]
        exact hhalf.imp And.left And.left
      have hh := half_request hstable (by omega) hpending
      exact ⟨hh.1, hh.2.1⟩
  -- the other half may be sent, but not the last one
  have hpost : a.gnt = false ∧ (a.post = .idle ∨ a.post = half) := by
    rw [h.pre] at hv
    have hkind := h.request
    rw [hup.2] at hkind
    rcases hhalf with ⟨rfl, hfree⟩ | ⟨rfl, hfree⟩ <;> cases a <;> simp at hv hfree hkind ⊢
    all_goals exact hv.imp And.left id
  have hkept := held_request hstable ht h hpost.1 hup.1
  refine ⟨?_, hup.2, hkept.2⟩
  rw [h.post]
  exact hpost.2.imp (fun hs => ⟨hs, hkept.1, hkept.2.2.1.trans hup.2⟩) id

theorem aw_holds : (axiPort r).aw.Holds (fun x y => y = x) n := by
  intro t ht hv hready
  obtain ⟨a, h⟩ := does r t
  have haw := h.aw
  rw [hready, Bool.and_false] at haw
  have hheld := half_holds hstable ht h (.inr ⟨rfl, haw.symm⟩) ((awvalid_iff r t).1 hv)
  exact ⟨(awvalid_iff r (t+1)).2 hheld.1, congrArg (AddrBeat.mk · .zero) hheld.2.2.1⟩

theorem w_holds : (axiPort r).w.Holds (fun x y => y = x) n := by
  intro t ht hv hready
  obtain ⟨a, h⟩ := does r t
  have hw := h.w
  rw [hready, Bool.and_false] at hw
  have hheld := half_holds hstable ht h (.inl ⟨rfl, hw.symm⟩) ((wvalid_iff r t).1 hv)
  obtain ⟨hbe, hwdata⟩ := hheld.2.2.2.2 hheld.2.1
  exact ⟨(wvalid_iff r (t+1)).2 hheld.1, congrArg₂ WriteBeat.mk hwdata hbe⟩

theorem ar_holds : (axiPort r).ar.Holds (fun x y => y = x) n := by
  intro t ht hv hready
  change ((axiPort r).master t).arvalid = true at hv
  change ((axiPort r).master (t+1)).arvalid = true ∧ _
  obtain ⟨a, h⟩ := does r t
  have har := h.ar
  rw [hready, Bool.and_false] at har
  rw [arvalid_iff, h.pre] at hv
  rw [arvalid_iff, h.post]
  obtain ⟨hs, hreq, hwe⟩ := hv
  have ha : a = .stay .idle := by
    have hr := h.request
    rw [hreq, hwe] at hr
    cases a <;> simp at hs har hr ⊢
    exact hs
  subst ha
  obtain ⟨hreq', haddr, hwe', _⟩ := held_request hstable ht h rfl hreq
  exact ⟨⟨rfl, hreq', hwe'.trans hwe⟩, congrArg (AddrBeat.mk · .zero) haddr⟩

theorem sent_low {k t sent : ℕ} {half other : State} (ht : t ≤ n)
    (hhalf : (half = .writeData ∧ other = .writeAddr) ∨ (half = .writeAddr ∧ other = .writeData))
    (hsent : sent = count (corePort r).write t + if r.state t = half then 1 else 0)
    (hk : k < sent) (hb : count (axiPort r).b.beat t ≤ k) :
    r.state t ≠ .idle ∧ r.state t ≠ other := by
  have hwc := write_count hstable ht
  constructor <;> intro hs <;> rw [hs] at hsent hwc <;>
    rcases hhalf with ⟨rfl, rfl⟩ | ⟨rfl, rfl⟩ <;> simp at hsent hwc <;> omega

theorem aw_low {k s t : ℕ} {x : AddrBeat} (h : Nth (axiPort r).aw.beat k s x) (hst : s < t)
    (ht : t < n) (hb : count (axiPort r).b.beat t ≤ k) :
    ((axiPort r).master t).awvalid = false := by
  have hac := addr_count hstable (Nat.le_of_lt ht)
  rw [count_awAddr] at hac
  have hlow := sent_low hstable (Nat.le_of_lt ht) (.inl ⟨rfl, rfl⟩) hac (h.lt_count hst) hb
  by_contra hv
  rcases (awvalid_iff r t).1 (by simpa using hv) with hs | hs
  · exact hlow.1 hs.1
  · exact hlow.2 hs

theorem w_low {k s t : ℕ} {x : WriteBeat} (h : Nth (axiPort r).w.beat k s x) (hst : s < t)
    (ht : t < n) (hb : count (axiPort r).b.beat t ≤ k) :
    ((axiPort r).master t).wvalid = false := by
  have hdc := data_count hstable (Nat.le_of_lt ht)
  have hlow := sent_low hstable (Nat.le_of_lt ht) (.inr ⟨rfl, rfl⟩) hdc (h.lt_count hst) hb
  by_contra hv
  rcases (wvalid_iff r t).1 (by simpa using hv) with hs | hs
  · exact hlow.1 hs.1
  · exact hlow.2 hs

end Legal

theorem legal_master (r : Run core2axi4l) (n : ℕ) (hstable : (corePort r).Stable n) :
    LegalMaster r n where
  stable := ⟨aw_holds hstable, w_holds hstable, ar_holds hstable⟩
  exclusive t ht har := by
    obtain ⟨hs, _, hwe⟩ := (arvalid_iff r t).1 har
    constructor
    · by_contra hv
      have := (awvalid_iff r t).1 (by simpa using hv)
      simp [hs, hwe] at this
    · by_contra hv
      have := (wvalid_iff r t).1 (by simpa using hv)
      simp [hs, hwe] at this
  addrOnce k s x t h hst ht hb := aw_low hstable h hst ht hb
  dataOnce k s x t h hst ht hb := w_low hstable h hst ht hb

theorem splitWrite_legal : LegalMaster splitWrite 7 :=
  legal_master splitWrite 7 splitWrite_stable

end IbexAxi4l.Core2axi4l
