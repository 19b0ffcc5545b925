import IbexAxi4l.Axi4l2coreBeats
import IbexAxi4l.Core2axi4lBeats

set_option autoImplicit false

/-!
# From the core interface to AXI4-Lite and back, over any network

`core2axi4l` and `axi4l2core` connected through five channels of arbitrary delays: the way
from the ports of the core to the slave port of the debug module. Requests go through one by
one and in order, although reads and writes use different channels.
-/
namespace IbexAxi4l.DelayedBridges
open EventLog ReadyValid AxiLite
open Core2axi4l (core2axi4l)
open Axi4l2core (axi4l2core FirstAnswer)

/-- In the first `n` cycles the two bridges are connected by five channels, which hold what
they offer to `axi4l2core`. -/
structure Network (u : Run core2axi4l) (d : Run axi4l2core) (n : ℕ) : Prop where
  aw : Channel n (Core2axi4l.axiPort u).aw (Axi4l2core.axiPort d).aw
  w : Channel n (Core2axi4l.axiPort u).w (Axi4l2core.axiPort d).w
  b : Channel n (Axi4l2core.axiPort d).b (Core2axi4l.axiPort u).b
  ar : Channel n (Core2axi4l.axiPort u).ar (Axi4l2core.axiPort d).ar
  r : Channel n (Axi4l2core.axiPort d).r (Core2axi4l.axiPort u).r
  holds : (Axi4l2core.axiPort d).Stable n

/-- Request `k` of the core is granted in cycle `tg`, as `q`, and request `k` on the other
side in cycle `td`, as `q'`. -/
structure Forwarded (u : Run core2axi4l) (d : Run axi4l2core) (k tg td : ℕ) (q q' : Request) :
    Prop where
  up : Nth (Core2axi4l.corePort u).grant k tg q
  down : Nth (Axi4l2core.corePort d).grant k td q'
  later : tg ≤ td
  keeps : q.Keeps q'

structure Relays (u : Run core2axi4l) (d : Run axi4l2core) (n : ℕ) : Prop where
  requests : ∀ k td q', td < n → Nth (Axi4l2core.corePort d).grant k td q' →
    ∃ tg q, Forwarded u d k tg td q q'
  responses : ∀ k t x, t < n → Nth (Core2axi4l.corePort u).response k t x →
    ∃ tg td q q' c, Forwarded u d k tg td q q' ∧ FirstAnswer d td c ∧ c ≤ t ∧
      x.err = ((Axi4l2core.corePort d).slave c).err ∧
      (q.we = false → x.rdata = ((Axi4l2core.corePort d).slave c).rdata)
  behind : ∀ t ≤ n,
    count (Core2axi4l.corePort u).response t ≤ count (Axi4l2core.corePort d).grant t ∧
      count (Axi4l2core.corePort d).grant t ≤ count (Core2axi4l.corePort u).grant t ∧
      count (Core2axi4l.corePort u).grant t ≤ count (Core2axi4l.corePort u).response t + 1

/-- Requests of two kinds are sent (`sx`, `sy`), arrive (`rx`, `ry`) and are answered (`bx`,
`by'`), and one of kind `y` is only sent when all of kind `x` are answered. A request of
kind `x` then arrives after as many of kind `y` as were sent before it. -/
theorem aligned {sx sy rx ry bx by' : ℕ → ℕ} {n tg td : ℕ}
    (hry : ∀ t ≤ n, ry t ≤ sy t) (hbx : ∀ t ≤ n, bx t ≤ rx t) (hby : ∀ t ≤ n, by' t ≤ ry t)
    (hmono : Monotone sx) (hmono' : Monotone ry) (hmono'' : Monotone bx)
    (hone : ∀ t < n, sy (t+1) ≠ sy t → sx t = bx t ∧ sx (t+1) = sx t) (htd : td < n) (hle : tg ≤ td)
    (hsent : sx (tg+1) = sx tg + 1) (hidle : sy tg = by' tg) (harrives : rx td = sx tg) :
    ry td = sy tg := by
  apply Nat.le_antisymm
  · have hsame : ∀ t, tg ≤ t → t ≤ td → sy t = sy tg := by
      intro t ht
      induction t, ht using Nat.le_induction with
      | base => exact fun _ => rfl
      | succ t ht ih =>
        intro htd'
        rw [← ih (by omega)]
        by_contra hne
        obtain ⟨hanswered, halone⟩ := hone t (by omega) hne
        have hlow := hmono'' (show t ≤ td by omega)
        have hfew := hbx td (by omega)
        rcases Nat.eq_or_lt_of_le ht with rfl | hlt
        · omega
        · have hmany := hmono (show tg + 1 ≤ t from hlt)
          omega
    have harrived := hry td (by omega)
    rw [hsame td hle (Nat.le_refl td)] at harrived
    exact harrived
  · rw [hidle]
    exact (hby tg (by omega)).trans (hmono' hle)

theorem resp_err (err : Bool) : Axi4l2core.resp err ≠ .okay ↔ err = true := by
  cases err <;> decide

section Network
variable {u : Run core2axi4l} {d : Run axi4l2core} {n : ℕ} (hnet : Network u d n)
include hnet

theorem write_back {j t : ℕ} {resp : Resp} (ht : t < n)
    (h : Nth (Core2axi4l.axiPort u).b.beat j t resp) :
    ∃ td q c, Nth (Axi4l2core.corePort d).write j td q ∧ FirstAnswer d td c ∧ c ≤ t ∧
      resp = Axi4l2core.resp ((Axi4l2core.corePort d).slave c).err := by
  obtain ⟨s, hs, hback⟩ := hnet.b.nth h ht
  obtain ⟨td, q, c, hq, hfirst, hct, hdata⟩ := Axi4l2core.write_answered (shown_of_nth hback)
  exact ⟨td, q, c, hq, hfirst, by omega, (beat_eq_some.1 hback.occurs).2.2.symm.trans hdata⟩

theorem read_back {j t : ℕ} {y : ReadBeat} (ht : t < n)
    (h : Nth (Core2axi4l.axiPort u).r.beat j t y) :
    ∃ td q c, Nth (Axi4l2core.corePort d).read j td q ∧ FirstAnswer d td c ∧ c ≤ t ∧
      y = ⟨((Axi4l2core.corePort d).slave c).rdata,
        Axi4l2core.resp ((Axi4l2core.corePort d).slave c).err⟩ := by
  obtain ⟨s, hs, hback⟩ := hnet.r.nth h ht
  obtain ⟨td, q, c, hq, hfirst, hct, hdata⟩ := Axi4l2core.read_answered (shown_of_nth hback)
  exact ⟨td, q, c, hq, hfirst, by omega, (beat_eq_some.1 hback.occurs).2.2.symm.trans hdata⟩

variable (hstable : (Core2axi4l.corePort u).Stable n)
include hstable

theorem write_through {j td : ℕ} {q' : Request} (ht : td < n)
    (h : Nth (Axi4l2core.corePort d).write j td q') :
    ∃ tg ≤ td, ∃ q, Nth (Core2axi4l.corePort u).write j tg q ∧ q.Keeps q' := by
  obtain ⟨haw, hw⟩ := Axi4l2core.nth_of_write hnet.holds ht h
  obtain ⟨x, hx, hxa⟩ := nth_map_iff.1 haw
  obtain ⟨ta, hta, hsent⟩ := hnet.aw.nth hx ht
  obtain ⟨tw, htw, hsent'⟩ := hnet.w.nth hw ht
  obtain ⟨tg, htg, q, hq, -, -, hqa, hqd⟩ :=
    Core2axi4l.write_of_beats hstable ht (hsent.map AddrBeat.addr) hsent' hta htw
  obtain ⟨hdata, hstrb⟩ := WriteBeat.mk.inj hqd
  refine ⟨tg, htg, q, hq, hxa.symm.trans hqa, ?_, fun _ => ⟨hstrb, hdata⟩⟩
  rw [(write_eq_some.1 h.occurs).2, (write_eq_some.1 hq.occurs).2]

theorem read_through {j td : ℕ} {q' : Request} (ht : td < n)
    (h : Nth (Axi4l2core.corePort d).read j td q') :
    ∃ tg ≤ td, ∃ q, Nth (Core2axi4l.corePort u).read j tg q ∧ q.Keeps q' := by
  obtain ⟨x, hx, hxa⟩ := nth_map_iff.1 (Axi4l2core.nth_of_read hnet.holds ht h)
  obtain ⟨tg, htg, hsent⟩ := hnet.ar.nth hx ht
  obtain ⟨q, hq, hqa⟩ := Core2axi4l.read_of_beat hstable (by omega) (hsent.map AddrBeat.addr)
  refine ⟨tg, htg, q, hq, hxa.symm.trans hqa, ?_, fun hwe => ?_⟩
  · rw [(read_eq_some.1 h.occurs).2, (read_eq_some.1 hq.occurs).2]
  · rw [(read_eq_some.1 hq.occurs).2] at hwe
    cases hwe

theorem arrived_le {t : ℕ} (ht : t ≤ n) :
    count (Axi4l2core.corePort d).write t ≤ count (Core2axi4l.corePort u).write t ∧
      count (Axi4l2core.corePort d).read t ≤ count (Core2axi4l.corePort u).read t := by
  constructor
  · refine count_le_of_nth (n := n) (fun k s q' hs h => ?_) ht
    obtain ⟨tg, htg, q, hq, -⟩ := write_through hnet hstable hs h
    exact ⟨tg, htg, q, hq⟩
  · refine count_le_of_nth (n := n) (fun k s q' hs h => ?_) ht
    obtain ⟨tg, htg, q, hq, -⟩ := read_through hnet hstable hs h
    exact ⟨tg, htg, q, hq⟩

omit hstable in
theorem answered_le {t : ℕ} (ht : t ≤ n) :
    count (Core2axi4l.axiPort u).b.beat t ≤ count (Axi4l2core.corePort d).write t ∧
      count (Core2axi4l.axiPort u).r.beat t ≤ count (Axi4l2core.corePort d).read t := by
  constructor
  · refine count_le_of_nth (n := n) (fun k s resp hs h => ?_) ht
    obtain ⟨td, q, c, hq, hfirst, hct, -⟩ := write_back hnet hs h
    exact ⟨td, (Nat.le_of_lt hfirst.after).trans hct, q, hq⟩
  · refine count_le_of_nth (n := n) (fun k s y hs h => ?_) ht
    obtain ⟨td, q, c, hq, hfirst, hct, -⟩ := read_back hnet hs h
    exact ⟨td, (Nat.le_of_lt hfirst.after).trans hct, q, hq⟩

omit hnet in
theorem granted_alone {t : ℕ} (ht : t < n) :
    (count (Core2axi4l.corePort u).write (t+1) ≠ count (Core2axi4l.corePort u).write t →
      count (Core2axi4l.corePort u).read t = count (Core2axi4l.axiPort u).r.beat t ∧
        count (Core2axi4l.corePort u).read (t+1) = count (Core2axi4l.corePort u).read t) ∧
    (count (Core2axi4l.corePort u).read (t+1) ≠ count (Core2axi4l.corePort u).read t →
      count (Core2axi4l.corePort u).write t = count (Core2axi4l.axiPort u).b.beat t ∧
        count (Core2axi4l.corePort u).write (t+1) = count (Core2axi4l.corePort u).write t) := by
  have hsum := grant_count (Core2axi4l.corePort u) t
  have hsum' := grant_count (Core2axi4l.corePort u) (t+1)
  have hwrite := count_mono (Core2axi4l.corePort u).write (show t ≤ t + 1 by omega)
  have hread := count_mono (Core2axi4l.corePort u).read (show t ≤ t + 1 by omega)
  cases hg : (Core2axi4l.corePort u).grant t with
  | none =>
    rw [count_succ_none hg] at hsum'
    constructor <;> intro hne <;> omega
  | some q =>
    have hall := Core2axi4l.kinds_answered_at_grant hstable ht hg
    rw [count_succ_some hg] at hsum'
    exact ⟨fun _ => ⟨hall.2, by omega⟩, fun _ => ⟨hall.1, by omega⟩⟩

theorem forwarded_write {j td : ℕ} {q' : Request} (ht : td < n)
    (h : Nth (Axi4l2core.corePort d).write j td q') :
    ∃ k tg q, Forwarded u d k tg td q q' ∧ Nth (Core2axi4l.corePort u).write j tg q := by
  obtain ⟨tg, htg, q, hq, hkeeps⟩ := write_through hnet hstable ht h
  have hgrant := (write_eq_some.1 hq.occurs).1
  have hall := Core2axi4l.kinds_answered_at_grant hstable (show tg < n by omega) hgrant
  have hother := aligned (fun t ht => (arrived_le hnet hstable ht).2)
    (fun t ht => (answered_le hnet ht).1) (fun t ht => (answered_le hnet ht).2)
    (fun _ _ h => count_mono _ h) (fun _ _ h => count_mono _ h) (fun _ _ h => count_mono _ h)
    (fun t ht => (granted_alone hstable ht).2) ht htg (count_succ_some hq.occurs) hall.2
    (h.index.trans hq.index.symm)
  refine ⟨_, tg, q, ⟨⟨hgrant, rfl⟩, ⟨(write_eq_some.1 h.occurs).1, ?_⟩, htg, hkeeps⟩, hq⟩
  rw [grant_count, grant_count, hother, h.index, hq.index]

theorem forwarded_read {j td : ℕ} {q' : Request} (ht : td < n)
    (h : Nth (Axi4l2core.corePort d).read j td q') :
    ∃ k tg q, Forwarded u d k tg td q q' ∧ Nth (Core2axi4l.corePort u).read j tg q := by
  obtain ⟨tg, htg, q, hq, hkeeps⟩ := read_through hnet hstable ht h
  have hgrant := (read_eq_some.1 hq.occurs).1
  have hall := Core2axi4l.kinds_answered_at_grant hstable (show tg < n by omega) hgrant
  have hother := aligned (fun t ht => (arrived_le hnet hstable ht).1)
    (fun t ht => (answered_le hnet ht).2) (fun t ht => (answered_le hnet ht).1)
    (fun _ _ h => count_mono _ h) (fun _ _ h => count_mono _ h) (fun _ _ h => count_mono _ h)
    (fun t ht => (granted_alone hstable ht).1) ht htg (count_succ_some hq.occurs) hall.1
    (h.index.trans hq.index.symm)
  refine ⟨_, tg, q, ⟨⟨hgrant, rfl⟩, ⟨(read_eq_some.1 h.occurs).1, ?_⟩, htg, hkeeps⟩, hq⟩
  rw [grant_count, grant_count, hother, h.index, hq.index]

theorem forwarded {k td : ℕ} {q' : Request} (ht : td < n)
    (h : Nth (Axi4l2core.corePort d).grant k td q') : ∃ tg q, Forwarded u d k tg td q q' := by
  cases hwe : q'.we with
  | true =>
    obtain ⟨k', tg, q, hf, -⟩ := forwarded_write hnet hstable ht
      ⟨write_eq_some.2 ⟨h.occurs, hwe⟩, rfl⟩
    rw [← hf.down.index, h.index] at hf
    exact ⟨tg, q, hf⟩
  | false =>
    obtain ⟨k', tg, q, hf, -⟩ := forwarded_read hnet hstable ht
      ⟨read_eq_some.2 ⟨h.occurs, hwe⟩, rfl⟩
    rw [← hf.down.index, h.index] at hf
    exact ⟨tg, q, hf⟩

theorem bridge_answers : (Core2axi4l.axiPort u).Answers n := by
  constructor
  · intro t ht hv
    obtain ⟨s, hs, hshown, -⟩ := hnet.b.shown ht ⟨hv, rfl⟩
    obtain ⟨td, q', c, hq', hfirst, hct, -⟩ := Axi4l2core.write_answered hshown
    have htd := hfirst.after
    obtain ⟨tg, htg, q, hq, -⟩ := write_through hnet hstable (show td < n by omega) hq'
    obtain ⟨ta, tw, haw, hw, hta, htw, -⟩ :=
      Core2axi4l.write_beats hstable (show tg < n by omega) hq
    have hacount := haw.lt_count (show ta < t by omega)
    rw [count_awAddr] at hacount
    exact ⟨hacount, hw.lt_count (show tw < t by omega)⟩
  · intro t ht hv
    obtain ⟨s, hs, hshown, -⟩ := hnet.r.shown ht ⟨hv, rfl⟩
    obtain ⟨td, q', c, hq', hfirst, hct, -⟩ := Axi4l2core.read_answered hshown
    have htd := hfirst.after
    obtain ⟨tg, htg, q, hq, -⟩ := read_through hnet hstable (show td < n by omega) hq'
    have hrcount := (Core2axi4l.read_beat hstable (show tg < n by omega) hq).lt_count
      (show tg < t by omega)
    rw [count_arAddr] at hrcount
    exact hrcount

theorem returned {k t : ℕ} {x : Response} (ht : t < n)
    (h : Nth (Core2axi4l.corePort u).response k t x) :
    ∃ tg td q q' c, Forwarded u d k tg td q q' ∧ FirstAnswer d td c ∧ c ≤ t ∧
      x.err = ((Axi4l2core.corePort d).slave c).err ∧
      (q.we = false → x.rdata = ((Axi4l2core.corePort d).slave c).rdata) := by
  obtain ⟨tg, htg, q, hq, hwrite, hread⟩ :=
    Core2axi4l.answered_beats hstable (bridge_answers hnet hstable) ht h
  cases hwe : q.we with
  | true =>
    obtain ⟨j, resp, ha⟩ := hwrite hwe
    obtain ⟨td, q', c, hq', hfirst, hct, hresp⟩ := write_back hnet ht ha.beat
    have htd := hfirst.after
    obtain ⟨k', tg', q'', hf, hq''⟩ := forwarded_write hnet hstable (show td < n by omega) hq'
    have htime := hq''.time_unique ha.request
    have hvalue := hq''.value_unique ha.request
    subst htime hvalue
    rw [← hf.up.index, hq.index] at hf
    refine ⟨tg', td, q'', q', c, hf, hfirst, hct, ?_, fun h => absurd (hwe.symm.trans h) nofun⟩
    rw [Bool.eq_iff_iff, ha.err, hresp]
    exact resp_err _
  | false =>
    obtain ⟨j, y, ha⟩ := hread hwe
    obtain ⟨td, q', c, hq', hfirst, hct, hy⟩ := read_back hnet ht ha.beat
    have htd := hfirst.after
    obtain ⟨k', tg', q'', hf, hq''⟩ := forwarded_read hnet hstable (show td < n by omega) hq'
    have htime := hq''.time_unique ha.request
    have hvalue := hq''.value_unique ha.request
    subst htime hvalue
    rw [← hf.up.index, hq.index] at hf
    refine ⟨tg', td, q'', q', c, hf, hfirst, hct, ?_, fun _ => by rw [ha.rdata, hy]⟩
    rw [Bool.eq_iff_iff, ha.err, hy]
    exact resp_err _

end Network

/-- The two bridges pass on every request once, in order and unchanged, and every response
to the request it answers. -/
theorem relays (u : Run core2axi4l) (d : Run axi4l2core) (n : ℕ) (hnet : Network u d n)
    (hstable : (Core2axi4l.corePort u).Stable n) : Relays u d n where
  requests k td q' ht h := forwarded hnet hstable ht h
  responses k t x ht h := returned hnet hstable ht h
  behind t ht := by
    have harrived := arrived_le hnet hstable ht
    refine ⟨?_, ?_, ?_⟩
    · refine count_le_of_nth (n := n) (fun k s x hs hx => ?_) ht
      obtain ⟨tg, td, q, q', c, hf, hfirst, hct, -⟩ := returned hnet hstable hs hx
      exact ⟨td, (Nat.le_of_lt hfirst.after).trans hct, q', hf.down⟩
    · rw [grant_count, grant_count]
      exact Nat.add_le_add harrived.1 harrived.2
    · exact Core2axi4l.grants_le hstable ht

/-! ## An instance -/

/-- A store whose address arrives before its data, and which fails. -/
def failedStore : Run core2axi4l :=
  let none : CoreMaster := { req := false, we := false, be := 0, addr := 0, wdata := 0 }
  let store : CoreMaster := { req := true, we := true, be := 5, addr := 0x40, wdata := 0x1234 }
  let quiet : AxiSlave :=
    { awready := false, wready := false, bvalid := false, bresp := .okay,
      arready := false, rvalid := false, rdata := 0, rresp := .okay }
  { before := .writeWait
    resetInput := ⟨none, quiet⟩
    input := fun
      | 0 => ⟨store, { quiet with awready := true, wready := true }⟩
      | 5 => ⟨none, { quiet with bvalid := true, bresp := .slverr }⟩
      | _ => ⟨none, quiet⟩ }

def failedStoreBelow : Run axi4l2core :=
  let deny : CoreSlave := { gnt := false, rvalid := false, rdata := 0, err := false }
  let addr : AxiMaster := AxiMaster.idle.withAw 0x40
  { before := ⟨.readWait1, .decerr, .decerr, 0⟩
    resetInput := ⟨deny, .idle⟩
    input := fun
      | 1 => ⟨deny, addr⟩
      | 2 => ⟨deny, addr.withW 0x1234 5⟩
      | 3 => ⟨{ deny with gnt := true }, addr.withW 0x1234 5⟩
      | 4 => ⟨{ deny with rvalid := true, err := true }, .idle⟩
      | _ => ⟨deny, .idle⟩ }

theorem failedStore_network : Network failedStore failedStoreBelow 7 where
  aw := by
    refine ⟨fun t => if t = 1 ∨ t = 2 ∨ t = 3 then [⟨0x40, .zero⟩] else [], ⟨rfl, ?_⟩, ?_⟩ <;>
      intro t ht <;> interval_cases t <;> decide
  w := by
    refine ⟨fun t => if t = 1 ∨ t = 2 ∨ t = 3 then [⟨0x1234, 5⟩] else [], ⟨rfl, ?_⟩, ?_⟩ <;>
      intro t ht <;> interval_cases t <;> decide
  b := by
    refine ⟨fun t => if t = 5 then [.slverr] else [], ⟨rfl, ?_⟩, ?_⟩ <;>
      intro t ht <;> interval_cases t <;> decide
  ar := by
    refine ⟨fun _ => [], ⟨rfl, ?_⟩, ?_⟩ <;> intro t ht <;> interval_cases t <;> decide
  r := by
    refine ⟨fun _ => [], ⟨rfl, ?_⟩, ?_⟩ <;> intro t ht <;> interval_cases t <;> decide
  holds := by
    constructor <;> intro t ht <;> have hlt : t < 6 := by omega
    all_goals interval_cases t <;> decide

theorem failedStore_stable : (Core2axi4l.corePort failedStore).Stable 7 := by
  intro t ht
  have hlt : t < 6 := by omega
  interval_cases t <;> decide

theorem failedStore_relayed : Relays failedStore failedStoreBelow 7 :=
  relays failedStore failedStoreBelow 7 failedStore_network failedStore_stable

end IbexAxi4l.DelayedBridges
