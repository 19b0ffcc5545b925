import Mathlib.Tactic.IntervalCases
import IbexAxi4l.Axi4l2coreHistory

set_option autoImplicit false

/-!
# What the AXI4-Lite to core converter promises

Each AXI transaction is one core request and gets one response of its own; both ports keep
their rules, whatever the core side does and whenever `rvalid` is high.
-/
namespace IbexAxi4l.Axi4l2core
open EventLog ReadyValid AxiLite

/-- A write that waits for its grant while a read arrives, with `rvalid` high throughout;
the master lets both responses wait. -/
def busyBridge : Run axi4l2core :=
  let none : AxiMaster :=
    { awvalid := false, awaddr := 0, awprot := .zero, wvalid := false, wdata := 0, wstrb := 0,
      bready := false, arvalid := false, araddr := 0, arprot := .zero, rready := false }
  let store : AxiMaster :=
    { none with awvalid := true, awaddr := 0x40, wvalid := true, wdata := 7, wstrb := 3 }
  let load : AxiMaster := { none with arvalid := true, araddr := 0x44 }
  let both : AxiMaster := { store with arvalid := true, araddr := 0x44 }
  let deny : CoreSlave := { gnt := false, rvalid := true, rdata := 1, err := false }
  let grant : CoreSlave := { gnt := true, rvalid := true, rdata := 2, err := true }
  { before := ⟨.readWait1, .decerr, .decerr, 0⟩
    resetInput := ⟨deny, none⟩
    input := fun
      | 0 => ⟨deny, store⟩
      | 1 => ⟨deny, both⟩
      | 2 => ⟨grant, both⟩
      | 3 => ⟨grant, load⟩
      | 4 => ⟨deny, { load with bready := true }⟩
      | 5 => ⟨grant, load⟩
      | 6 => ⟨deny, none⟩
      | _ => ⟨deny, { none with rready := true }⟩ }

theorem busyBridge_stable : (axiPort busyBridge).Stable 9 := by
  constructor <;> intro t ht <;> have hlt : t < 8 := by omega
  all_goals interval_cases t <;> decide

theorem beat_of_accepts {α : Type} {l : Link α} {t : ℕ} {a : Act} {we : Bool}
    (hready : l.ready t = decide (a.accepts = some we))
    (hvalid : a.requests = some we → l.valid t = true) :
    l.beat t = if a.accepts = some we then some (l.data t) else none := by
  by_cases ha : a.accepts = some we
  · have hr : a.requests = some we := by cases a <;> first | exact ha | cases ha
    rw [if_pos ha]
    apply beat_some
    rw [hvalid hr, hready, ha]
    exact decide_eq_true rfl
  · rw [if_neg ha]
    apply beat_none
    rw [hready, decide_eq_false ha, Bool.and_false]

section Beats
variable {r : Run axi4l2core} {n : ℕ} (hstable : (axiPort r).Stable n) {t : ℕ} (ht : t < n)
  {a : Act} (h : Does r t a)
include hstable ht h

theorem ar_beat : (axiPort r).ar.beat t =
    if a.accepts = some false then some ((axiPort r).ar.data t) else none :=
  beat_of_accepts h.arready (channels_valid hstable ht h)

theorem aw_beat : (axiPort r).aw.beat t =
    if a.accepts = some true then some ((axiPort r).aw.data t) else none :=
  beat_of_accepts h.awready
    (fun hr => (Bool.and_eq_true_iff.1 (channels_valid hstable ht h hr)).1)

theorem w_beat : (axiPort r).w.beat t =
    if a.accepts = some true then some ((axiPort r).w.data t) else none :=
  beat_of_accepts h.wready
    (fun hr => (Bool.and_eq_true_iff.1 (channels_valid hstable ht h hr)).2)

end Beats

/-! ## Transactions -/

/-- In the first `n` cycles every AXI transaction is performed exactly once and gets its own
result. -/
structure PerformsOnce (r : Run axi4l2core) (n : ℕ) : Prop where
  paired : ∀ t < n, ((axiPort r).aw.beat t).isSome = ((axiPort r).w.beat t).isSome
  exclusive : ∀ t < n, ((axiPort r).ar.beat t).isSome = true →
    (axiPort r).aw.beat t = none ∧ (axiPort r).w.beat t = none
  readAccepted : ∀ t < n, ∀ x, (axiPort r).ar.beat t = some x →
    ∃ q, (corePort r).grant t = some q ∧ q.we = false ∧ q.addr = x.addr
  writeAccepted : ∀ t < n, ∀ x y, (axiPort r).aw.beat t = some x → (axiPort r).w.beat t = some y →
    (corePort r).grant t = some ⟨true, y.strb, x.addr, y.data⟩
  granted : ∀ t < n, ∀ q, (corePort r).grant t = some q →
    if q.we then ((axiPort r).aw.beat t).isSome = true else ((axiPort r).ar.beat t).isSome = true
  answered : ∀ k t we, t < n → Nth (reply r) k t we →
    ∃ s q, s < t ∧ Nth (corePort r).grant k s q ∧ q.we = we
  single : ∀ t < n, ((axiPort r).b.beat t).isSome = true → (axiPort r).r.beat t = none
  oneAtATime : ∀ k t q, t < n → Nth (corePort r).grant k t q → count (reply r) t = k
  readValue : ∀ k t, t < n → (axiPort r).r.valid t = true → count (reply r) t = k →
    ∃ s q c, Nth (corePort r).grant k s q ∧ q.we = false ∧ FirstAnswer r s c ∧ c ≤ t ∧
      (axiPort r).r.data t = ⟨((corePort r).slave c).rdata,
        if ((corePort r).slave c).err then .slverr else .okay⟩
  writeValue : ∀ k t, t < n → (axiPort r).b.valid t = true → count (reply r) t = k →
    ∃ s q c, Nth (corePort r).grant k s q ∧ q.we = true ∧ FirstAnswer r s c ∧ c ≤ t ∧
      (axiPort r).b.data t = if ((corePort r).slave c).err then .slverr else .okay
  prompt : ∀ k s c q t, t < n → Nth (corePort r).grant k s q → FirstAnswer r s c → c ≤ t →
    count (reply r) t ≤ k →
    if q.we then (axiPort r).b.valid t = true else (axiPort r).r.valid t = true

theorem b_valid {r : Run axi4l2core} {t : ℕ} {a : Act} (h : Does r t a) :
    (axiPort r).b.valid t = true ↔ a.shows = some true := by
  change ((axiPort r).slave t).bvalid = true ↔ _
  rw [h.bvalid, decide_eq_true_iff]

theorem r_valid {r : Run axi4l2core} {t : ℕ} {a : Act} (h : Does r t a) :
    (axiPort r).r.valid t = true ↔ a.shows = some false := by
  change ((axiPort r).slave t).rvalid = true ↔ _
  rw [h.rvalid, decide_eq_true_iff]

theorem reply_nth {r : Run axi4l2core} {k t : ℕ} {we : Bool} (h : Nth (reply r) k t we) :
    ∃ s q, s < t ∧ Nth (corePort r).grant k s q ∧ q.we = we := by
  obtain ⟨a, ha⟩ := does r t
  have ho := h.occurs
  rw [ha.reply] at ho
  have hs : a.shows = some we := by cases a <;> first | exact ho | cases ho
  obtain ⟨s, q, c, hn, hwe, hfirst, hct, _⟩ := shown_value ha hs
  rw [h.index] at hn
  exact ⟨s, q, Nat.lt_of_lt_of_le hfirst.after hct, hn, hwe⟩

theorem grant_idle {r : Run axi4l2core} {k t : ℕ} {q : Request}
    (h : Nth (corePort r).grant k t q) : count (reply r) t = k := by
  obtain ⟨a, ha⟩ := does r t
  have ho := h.occurs
  rw [ha.grant] at ho
  rw [← h.index]
  cases a with
  | accept early we =>
    cases early
    · exact ((tracks r t).at_rest ha.pre (wants_ne we)).symm
    · exact ((tracks r t).at_rest ha.pre idle_ne).symm
  | rest | want | ungranted | await | pass | buffer | hold | drain => cases ho

theorem single_reply (r : Run axi4l2core) (t : ℕ)
    (hb : ((axiPort r).b.beat t).isSome = true) : (axiPort r).r.beat t = none := by
  obtain ⟨a, h⟩ := does r t
  rw [isSome_beat, Bool.and_eq_true] at hb
  have hs := (b_valid h).1 hb.1
  apply beat_eq_none.2
  rintro ⟨hr, _⟩
  rw [(r_valid h).1 hr] at hs
  cases hs

theorem paired_beats {r : Run axi4l2core} {n t : ℕ} (hstable : (axiPort r).Stable n)
    (ht : t < n) : ((axiPort r).aw.beat t).isSome = ((axiPort r).w.beat t).isSome := by
  obtain ⟨a, h⟩ := does r t
  rw [aw_beat hstable ht h, w_beat hstable ht h]
  split_ifs <;> rfl

theorem performs_once (r : Run axi4l2core) (n : ℕ) (hstable : (axiPort r).Stable n) :
    PerformsOnce r n where
  paired t ht := paired_beats hstable ht
  exclusive t ht hbeat := by
    obtain ⟨a, h⟩ := does r t
    rw [ar_beat hstable ht h] at hbeat
    rw [aw_beat hstable ht h, w_beat hstable ht h]
    split_ifs at hbeat with ha
    · rw [ha]
      exact ⟨rfl, rfl⟩
    · cases hbeat
  readAccepted t ht x hx := by
    obtain ⟨a, h⟩ := does r t
    rw [ar_beat hstable ht h] at hx
    rw [h.grant]
    split_ifs at hx with ha
    cases hx
    exact ⟨_, by rw [ha]; rfl, rfl, rfl⟩
  writeAccepted t ht x y hx hy := by
    obtain ⟨a, h⟩ := does r t
    rw [aw_beat hstable ht h] at hx
    rw [w_beat hstable ht h] at hy
    rw [h.grant]
    split_ifs at hx hy with ha
    cases hx
    cases hy
    rw [ha]
    rfl
  granted t ht q hq := by
    obtain ⟨a, h⟩ := does r t
    rw [h.grant] at hq
    rw [aw_beat hstable ht h, ar_beat hstable ht h]
    obtain ⟨we, ha, rfl⟩ := Option.map_eq_some_iff.1 hq
    change if we = true then _ else _
    cases we <;> rw [ha] <;> rfl
  answered k t we ht h := reply_nth h
  single t _ hb := single_reply r t hb
  oneAtATime k t q ht h := grant_idle h
  readValue k t ht hv hk := by
    obtain ⟨a, h⟩ := does r t
    obtain ⟨s, q, c, hn, hwe, hfirst, hct, hval⟩ := shown_value h ((r_valid h).1 hv)
    rw [hk] at hn
    refine ⟨s, q, c, hn, hwe, hfirst, hct, ?_⟩
    obtain ⟨hd, he⟩ := Prod.mk.inj hval
    exact congrArg₂ ReadBeat.mk (Option.some.inj hd) he
  writeValue k t ht hv hk := by
    obtain ⟨a, h⟩ := does r t
    obtain ⟨s, q, c, hn, hwe, hfirst, hct, hval⟩ := shown_value h ((b_valid h).1 hv)
    rw [hk] at hn
    exact ⟨s, q, c, hn, hwe, hfirst, hct, (Prod.mk.inj hval).2⟩
  prompt k s c q t ht hn hfirst hct hopen := by
    obtain ⟨a, h⟩ := does r t
    have hs := shown_promptly h hn hfirst hct hopen
    cases hwe : q.we with
    | false => exact (r_valid h).2 (by rw [hs, hwe])
    | true => exact (b_valid h).2 (by rw [hs, hwe])

theorem busyBridge_performs : PerformsOnce busyBridge 9 :=
  performs_once busyBridge 9 busyBridge_stable

/-! ## Bus rules -/

/-- In the first `n` cycles both ports keep their rules: the requests to the core are held
until granted, the responses to the bus until taken, and there is no response without an
unanswered transaction. -/
structure LegalBridge (r : Run axi4l2core) (n : ℕ) : Prop where
  core : (corePort r).Stable n
  read : (axiPort r).r.Holds (fun x y => y = x) n
  write : (axiPort r).b.Holds (fun x y => y = x) n
  exclusive : ∀ t < n, ¬ ((axiPort r).r.valid t = true ∧ (axiPort r).b.valid t = true)
  answers : (axiPort r).Answers n

/-- The kind of the transaction that is accepted and not yet answered. -/
def pending (r : Run axi4l2core) (t : ℕ) : List Bool :=
  match (r.state t).state with
  | .readWait0 | .readWait1 => [false]
  | .writeWait0 | .writeWait1 => [true]
  | .idle | .read | .write => []

theorem kind_fifo (r : Run axi4l2core) (n : ℕ) :
    Fifo n (fun t => ((corePort r).grant t).map Request.we) (reply r) (pending r) := by
  constructor
  · rfl
  intro t _
  obtain ⟨a, h⟩ := does r t
  unfold pending
  rw [h.grant, h.reply, h.pre, h.post]
  cases a with
  | accept early we => cases early <;> cases we <;> rfl
  | rest => rfl
  | want we | ungranted we | await we | pass we | buffer we | hold we | drain we =>
    cases we <;> rfl

theorem kind_count (r : Run axi4l2core) (t : ℕ) (p : Bool → Bool) :
    count (fun s => (((corePort r).grant s).map Request.we).filter p) t =
      count (fun s => (reply r s).filter p) t + ((pending r t).filter p).length :=
  ((kind_fifo r t).filter p).count_eq (Nat.le_refl t)

theorem shown_held {r : Run axi4l2core} {t : ℕ} {a : Act} {we : Bool} (h : Does r t a)
    (ha : a.shows = some we) (hk : a.takes = none) :
    ∃ b, Does r (t+1) b ∧ b.shows = some we ∧ shownPayload r (t+1) we = shownPayload r t we := by
  have hpost : (r.state (t+1)).state = wait1 we ∧ bufPayload r (t+1) we = shownPayload r t we := by
    cases a with
    | buffer we' =>
      cases ha
      exact ⟨h.post, (buffer_fills h rfl).trans (shown_direct h (by simp)).symm⟩
    | hold we' =>
      cases ha
      exact ⟨h.post, (buffer_kept h rfl).trans (shown_buffered h (by simp)).symm⟩
    | pass | drain => cases hk
    | rest | want | ungranted | accept | await => cases ha
  obtain ⟨b, hb⟩ := does r (t+1)
  have hact : b = .hold we ∨ b = .drain we := by
    have hp := hb.pre
    rw [hpost.1] at hp
    cases b with
    | hold we' => exact .inl (congrArg _ (wait1_inj hp).symm)
    | drain we' => exact .inr (congrArg _ (wait1_inj hp).symm)
    | await we' | pass we' | buffer we' => exact absurd hp.symm (wait_ne _ _)
    | rest | want => exact absurd hp.symm (idle_ne we).2
    | ungranted we' => exact absurd hp.symm (wants_ne we' we).2
    | accept early we' =>
      cases early
      · exact absurd hp.symm (wants_ne we' we).2
      · exact absurd hp.symm (idle_ne we).2
  refine ⟨b, hb, ?_, (shown_buffered hb hact).trans hpost.2⟩
  rcases hact with rfl | rfl <;> rfl

theorem not_taken {r : Run axi4l2core} {t : ℕ} {a : Act} {we : Bool} (h : Does r t a)
    (ha : a.shows = some we)
    (hready : (if we then ((axiPort r).master t).bready else ((axiPort r).master t).rready) =
      false) : a.takes = none := by
  have hnone : a.takes.isSome = false := by
    cases we with
    | false => exact (h.rready ha).symm.trans hready
    | true => exact (h.bready ha).symm.trans hready
  simpa using hnone

section Legal
variable {r : Run axi4l2core} {n : ℕ}

theorem r_holds : (axiPort r).r.Holds (fun x y => y = x) n := by
  intro t _ hv hready
  obtain ⟨a, h⟩ := does r t
  have ha := (r_valid h).1 hv
  obtain ⟨b, hb, hs, hval⟩ := shown_held h ha (not_taken h ha hready)
  obtain ⟨hd, he⟩ := Prod.mk.inj hval
  exact ⟨(r_valid hb).2 hs, congrArg₂ ReadBeat.mk (Option.some.inj hd) he⟩

theorem b_holds : (axiPort r).b.Holds (fun x y => y = x) n := by
  intro t _ hv hready
  obtain ⟨a, h⟩ := does r t
  have ha := (b_valid h).1 hv
  obtain ⟨b, hb, hs, hval⟩ := shown_held h ha (not_taken h ha hready)
  exact ⟨(b_valid hb).2 hs, (Prod.mk.inj hval).2⟩

variable (hstable : (axiPort r).Stable n)
include hstable

theorem core_holds : (corePort r).Stable n := by
  intro t ht hv hready
  obtain ⟨a, h⟩ := does r t
  have ho := h.request
  rw [offer_eq_some.2 ⟨hv, rfl⟩] at ho
  obtain ⟨we, hreq, hdata⟩ := Option.map_eq_some_iff.1 ho.symm
  have hg : a.accepts = none := by
    have hgnt := h.gnt (by rw [hreq]; exact nofun)
    have hnone : a.accepts.isSome = false := hgnt.symm.trans hready
    simpa using hnone
  have hpost : (r.state (t+1)).state = wants we := by
    have hp := h.post
    cases a with
    | want we' | ungranted we' => cases hreq; exact hp
    | accept => cases hg
    | rest | await | pass | buffer | hold | drain => cases hreq
  obtain ⟨b, hb⟩ := does r (t+1)
  have hreq' := requests_of_wants hb hpost
  have ho' := hb.request
  rw [hreq', Option.map_some] at ho'
  obtain ⟨hv', hdata'⟩ := offer_eq_some.1 ho'
  refine ⟨hv', ?_⟩
  rw [← hdata, hdata']
  exact (channels_held hstable ht h hg (channels_valid hstable (by omega) h hreq)).2

theorem write_beats {t : ℕ} (ht : t ≤ n) (hopen : pending r t = [true]) :
    count (axiPort r).b.beat t < count (axiPort r).aw.beat t ∧
      count (axiPort r).b.beat t < count (axiPort r).w.beat t := by
  have hc := kind_count r t id
  have haw : count (fun s => (((corePort r).grant s).map Request.we).filter id) t =
      count (axiPort r).aw.beat t := by
    refine count_congr (n := n) (fun s hs => ?_) ht
    obtain ⟨a, h⟩ := does r s
    rw [aw_beat hstable hs h, h.grant]
    rcases a.accepts with _ | _ | _ <;> rfl
  have hw : count (axiPort r).aw.beat t = count (axiPort r).w.beat t :=
    count_congr (n := n) (fun s hs => paired_beats hstable hs) ht
  have hb : count (fun s => (reply r s).filter id) t = count (axiPort r).b.beat t := by
    refine count_congr (n := t) (fun s _ => ?_) (Nat.le_refl t)
    unfold reply
    cases ((axiPort r).b.beat s).isSome <;> cases ((axiPort r).r.beat s).isSome <;> rfl
  rw [haw, hb, hopen] at hc
  have hlen : ([true].filter id).length = 1 := rfl
  omega

theorem read_beats {t : ℕ} (ht : t ≤ n) (hopen : pending r t = [false]) :
    count (axiPort r).r.beat t < count (axiPort r).ar.beat t := by
  have hc := kind_count r t (!·)
  have har : count (fun s => (((corePort r).grant s).map Request.we).filter (!·)) t =
      count (axiPort r).ar.beat t := by
    refine count_congr (n := n) (fun s hs => ?_) ht
    obtain ⟨a, h⟩ := does r s
    rw [ar_beat hstable hs h, h.grant]
    rcases a.accepts with _ | _ | _ <;> rfl
  have hr : count (fun s => (reply r s).filter (!·)) t = count (axiPort r).r.beat t := by
    refine count_congr (n := t) (fun s _ => ?_) (Nat.le_refl t)
    have hone := single_reply r s
    unfold reply
    cases hb : ((axiPort r).b.beat s).isSome
    · cases ((axiPort r).r.beat s).isSome <;> rfl
    · rw [hone hb]; rfl
  rw [har, hr, hopen] at hc
  have hlen : ([false].filter (!·)).length = 1 := rfl
  omega

theorem answers_open : (axiPort r).Answers n := by
  have hopen {t : ℕ} {a : Act} {we : Bool} (h : Does r t a) (hs : a.shows = some we) :
      pending r t = [we] := by
    have hp := h.pre
    unfold pending
    rw [hp]
    cases a with
    | pass we' | buffer we' | hold we' | drain we' => cases hs; cases we <;> rfl
    | rest | want | ungranted | accept | await => cases hs
  constructor
  · intro t ht hv
    obtain ⟨a, h⟩ := does r t
    exact write_beats hstable (Nat.le_of_lt ht) (hopen h ((b_valid h).1 hv))
  · intro t ht hv
    obtain ⟨a, h⟩ := does r t
    exact read_beats hstable (Nat.le_of_lt ht) (hopen h ((r_valid h).1 hv))

end Legal

theorem legal_bridge (r : Run axi4l2core) (n : ℕ) (hstable : (axiPort r).Stable n) :
    LegalBridge r n where
  core := core_holds hstable
  read := r_holds
  write := b_holds
  exclusive t _ hboth := by
    obtain ⟨a, h⟩ := does r t
    have hr := (r_valid h).1 hboth.1
    rw [(b_valid h).1 hboth.2] at hr
    cases hr
  answers := answers_open hstable

theorem busyBridge_legal : LegalBridge busyBridge 9 :=
  legal_bridge busyBridge 9 busyBridge_stable

end IbexAxi4l.Axi4l2core
