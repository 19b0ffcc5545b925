import IbexAxi4l.RoutedLink
import IbexAxi4l.BusDevice
import IbexAxi4l.Core2axi4lBeats

set_option autoImplicit false

/-!
# Several cores and several slaves on one interconnect

`axilxbar` is not part of the repository. What is assumed of it is that each beat goes where
its address says and comes back to its sender, in order and after any time; which sender a
slave serves next is left open. Then every request takes effect at one slave, in one cycle
between its grant and its response.
-/
namespace IbexAxi4l.Crossbar
open EventLog ReadyValid AxiLite
open BusDevice (Device writeOf)
open Core2axi4l (core2axi4l corePort)

variable {μ ι : Type} [DecidableEq μ] [DecidableEq ι]

/-- The slave that write (or read) `k` of a master goes to, and the master that write `j` of
a slave comes from. -/
structure Routes (μ ι : Type) where
  target : μ → ℕ → Option ι
  source : ι → ℕ → μ

def Routes.to (x : Routes μ ι) (m : μ) (i : ι) (k : ℕ) : Bool := decide (x.target m k = some i)

def Routes.from (x : Routes μ ι) (m : μ) (i : ι) (j : ℕ) : Bool := decide (x.source i j = m)

def Routes.Carries (x : Routes μ ι) (m : μ) (k : ℕ) (i : ι) (j : ℕ) : Prop :=
  Paired (x.to m i) (x.from m i) k j

/-- In the first `n` cycles the interconnect joins the masters to the slaves. A transaction
whose address no slave has gets `DECERR`. -/
structure Connects (decode : Addr → Option ι) (writes reads : Routes μ ι)
    (master : μ → AxiPort) (slave : ι → AxiPort) (n : ℕ) : Prop where
  aw : ∀ m i, Channel n ((master m).aw.part (writes.to m i)) ((slave i).aw.part (writes.from m i))
  w : ∀ m i, Channel n ((master m).w.part (writes.to m i)) ((slave i).w.part (writes.from m i))
  b : ∀ m i, Channel n ((slave i).b.part (writes.from m i)) ((master m).b.part (writes.to m i))
  ar : ∀ m i, Channel n ((master m).ar.part (reads.to m i)) ((slave i).ar.part (reads.from m i))
  r : ∀ m i, Channel n ((slave i).r.part (reads.from m i)) ((master m).r.part (reads.to m i))
  awDecode : ∀ m k t a, t < n → Nth (master m).awAddr k t a → writes.target m k = decode a
  arDecode : ∀ m k t a, t < n → Nth (master m).arAddr k t a → reads.target m k = decode a
  bUnmapped : ∀ m k t, t < n → (master m).b.Shown k t → writes.target m k = none →
    (master m).b.data t = .decerr ∧
      k < count (master m).aw.beat t ∧ k < count (master m).w.beat t
  rUnmapped : ∀ m k t, t < n → (master m).r.Shown k t → reads.target m k = none →
    ((master m).r.data t).resp = .decerr ∧ k < count (master m).ar.beat t

structure System (μ ι : Type) [DecidableEq μ] [DecidableEq ι] (n : ℕ) where
  core : μ → Run core2axi4l
  device : ι → Device n
  decode : Addr → Option ι
  writes : Routes μ ι
  reads : Routes μ ι
  connects : Connects decode writes reads (fun m => Core2axi4l.axiPort (core m))
    (fun i => (device i).port) n
  stable : ∀ m, (corePort (core m)).Stable n

theorem Routes.target_of_carries {x : Routes μ ι} {m : μ} {k : ℕ} {i : ι} {j : ℕ}
    (h : x.Carries m k i j) : x.target m k = some i :=
  of_decide_eq_true h.left

theorem Routes.source_of_carries {x : Routes μ ι} {m : μ} {k : ℕ} {i : ι} {j : ℕ}
    (h : x.Carries m k i j) : x.source i j = m :=
  of_decide_eq_true h.right

theorem Routes.carried_once {x : Routes μ ι} {m : μ} {k : ℕ} {i i' : ι} {j j' : ℕ}
    (h : x.Carries m k i j) (h' : x.Carries m k i' j') : i = i' ∧ j = j' := by
  have hi : i = i' :=
    Option.some.inj ((target_of_carries h).symm.trans (target_of_carries h'))
  subst hi
  exact ⟨rfl, Paired.right_unique h h'⟩

theorem Routes.carries_one {x : Routes μ ι} {m m' : μ} {k k' : ℕ} {i : ι} {j : ℕ}
    (h : x.Carries m k i j) (h' : x.Carries m' k' i j) : m = m' ∧ k = k' := by
  have hm : m = m' := (source_of_carries h).symm.trans (source_of_carries h')
  subst hm
  exact ⟨rfl, Paired.left_unique h h'⟩

/-- Each transaction is carried to one slave under one number, and what a slave serves belongs
to one transaction. -/
structure Routes.OneToOne (x : Routes μ ι) : Prop where
  once : ∀ m k i j i' j', x.Carries m k i j → x.Carries m k i' j' → i = i' ∧ j = j'
  owner : ∀ i j m k m' k', x.Carries m k i j → x.Carries m' k' i j → m = m' ∧ k = k'

theorem Routes.oneToOne (x : Routes μ ι) : x.OneToOne where
  once _ _ _ _ _ _ h h' := carried_once h h'
  owner _ _ _ _ _ _ h h' := carries_one h h'

namespace System
variable {n : ℕ} (S : System μ ι n)

/-- What response `x` to request `q` says, for a request granted in cycle `tg` and answered
in cycle `t`: the slave has made the write, or taken the sample, in a cycle between. -/
def Explains (m : μ) (tg t : ℕ) (q : Request) (x : Response) : Prop :=
  match S.decode q.addr with
  | none => x.err = true
  | some i => (x.err = true ↔ (S.device i).status q.addr ≠ .okay) ∧
    ∃ te, tg ≤ te ∧ te < t ∧
      if q.we then ∃ k j, S.writes.Carries m k i j ∧ Nth (corePort (S.core m)).write k tg q ∧
        Nth (S.device i).commits j te (writeOf q)
      else ∃ k j, S.reads.Carries m k i j ∧ Nth (corePort (S.core m)).read k tg q ∧
        Nth (S.device i).samples j te q.addr ∧ x.rdata = (S.device i).load te q.addr

/-- The write that slave `i` makes in cycle `tc` has been granted to master `m` as its
write `k`. -/
def Granted (i : ι) (j tc : ℕ) (c : WriteChannel.Write) (m : μ) (k : ℕ) : Prop :=
  S.writes.Carries m k i j ∧ ∃ tg ≤ tc, ∃ q,
    Nth (corePort (S.core m)).write k tg q ∧ S.decode q.addr = some i ∧ c = writeOf q

/-- The address that slave `i` samples in cycle `ts` is the one of read `k` of master `m`,
which has been granted. -/
def Fetched (i : ι) (j ts : ℕ) (a : Addr) (m : μ) (k : ℕ) : Prop :=
  S.reads.Carries m k i j ∧ ∃ tg ≤ ts, ∃ q,
    Nth (corePort (S.core m)).read k tg q ∧ S.decode q.addr = some i ∧ a = q.addr

/-- Every request takes effect at the slave of its address, in one cycle between its grant
and its response. Whatever a slave writes or samples is the effect of one granted request, no
request has two, and each core is answered before it goes on. -/
structure Linearizes : Prop where
  answered : ∀ m k t x, t < n → Nth (corePort (S.core m)).response k t x →
    ∃ tg < t, ∃ q, Nth (corePort (S.core m)).grant k tg q ∧ S.Explains m tg t q x
  made : ∀ i j tc c, tc < n → Nth (S.device i).commits j tc c → ∃ m k, S.Granted i j tc c m k
  sampled : ∀ i j ts a, ts < n → Nth (S.device i).samples j ts a → ∃ m k, S.Fetched i j ts a m k
  writes : S.writes.OneToOne
  reads : S.reads.OneToOne
  inOrder : ∀ m k tg q, tg < n → Nth (corePort (S.core m)).grant (k+1) tg q →
    ∃ t < tg, ∃ x, Nth (corePort (S.core m)).response k t x

variable {S}

theorem commit_granted {i : ι} {j tc : ℕ} {c : WriteChannel.Write} (htc : tc < n)
    (hc : Nth (S.device i).commits j tc c) :
    ∃ k, S.Granted i j tc c (S.writes.source i j) k := by
  obtain ⟨ta, hta, haddr⟩ := (S.device i).commit_addr j tc c htc hc
  obtain ⟨tw, htw, hdata⟩ := (S.device i).commit_data j tc c htc hc
  obtain ⟨x, hx, hxa⟩ := nth_map_iff.1 haddr
  have hfrom : S.writes.from (S.writes.source i j) i j = true := decide_eq_true rfl
  obtain ⟨k, hk, s, hs, hsent⟩ := (S.connects.aw _ i).nth_paired (by omega) hx hfrom
  obtain ⟨k', hk', s', hs', hsent'⟩ := (S.connects.w _ i).nth_paired (by omega) hdata hfrom
  have hkk := hk.left_unique hk'
  subst hkk
  have hout := hsent.map AddrBeat.addr
  obtain ⟨tg, htg, q, hq, -, -, hqa, hqd⟩ :=
    Core2axi4l.write_of_beats (S.stable _) htc hout hsent' (by omega) (by omega)
  have hdecode := S.connects.awDecode _ k s _ (by omega) hout
  rw [hqa] at hdecode
  refine ⟨k, hk, tg, htg, q, hq, hdecode.symm.trans (Routes.target_of_carries hk), ?_⟩
  obtain ⟨hd, hb⟩ := WriteBeat.mk.inj hqd
  cases c with
  | mk addr data strb =>
    change (⟨addr, data, strb⟩ : WriteChannel.Write) = ⟨q.addr, q.wdata, q.be⟩
    rw [← hqa, hxa, ← hd, ← hb]

theorem sample_granted {i : ι} {j ts : ℕ} {a : Addr} (hts : ts < n)
    (ha : Nth (S.device i).samples j ts a) : ∃ k, S.Fetched i j ts a (S.reads.source i j) k := by
  obtain ⟨ta, hta, haddr⟩ := (S.device i).sample_addr j ts a hts ha
  obtain ⟨x, hx, hxa⟩ := nth_map_iff.1 haddr
  have hfrom : S.reads.from (S.reads.source i j) i j = true := decide_eq_true rfl
  obtain ⟨k, hk, s, hs, hsent⟩ := (S.connects.ar _ i).nth_paired (by omega) hx hfrom
  have hout := hsent.map AddrBeat.addr
  obtain ⟨q, hq, hqa⟩ := Core2axi4l.read_of_beat (S.stable _) (by omega) hout
  have hdecode := S.connects.arDecode _ k s _ (by omega) hout
  rw [hqa] at hdecode
  exact ⟨k, hk, s, by omega, q, hq, hdecode.symm.trans (Routes.target_of_carries hk),
    hxa.symm.trans hqa⟩

theorem b_commit {m : μ} {k t : ℕ} {i : ι} (ht : t < n)
    (hs : (Core2axi4l.axiPort (S.core m)).b.Shown k t) (hi : S.writes.target m k = some i) :
    ∃ j, ∃ tc < t, ∃ c, Nth (S.device i).commits j tc c ∧ S.Granted i j tc c m k ∧
      (Core2axi4l.axiPort (S.core m)).b.data t = (S.device i).status c.addr := by
  obtain ⟨j, hj, s, hst, hshown, hdata⟩ :=
    (S.connects.b m i).shown_paired ht hs (decide_eq_true hi)
  obtain ⟨tc, htc, c, hc, hstatus⟩ := (S.device i).b_shown j s (by omega) hshown
  obtain ⟨k', hgranted⟩ := commit_granted (by omega) hc
  obtain ⟨hm, hk⟩ := Routes.carries_one hgranted.1 hj.symm
  rw [hm, hk] at hgranted
  exact ⟨j, tc, by omega, c, hc, hgranted, hdata.symm.trans hstatus⟩

theorem r_sample {m : μ} {k t : ℕ} {i : ι} (ht : t < n)
    (hs : (Core2axi4l.axiPort (S.core m)).r.Shown k t) (hi : S.reads.target m k = some i) :
    ∃ j, ∃ ts < t, ∃ a, Nth (S.device i).samples j ts a ∧ S.Fetched i j ts a m k ∧
      (Core2axi4l.axiPort (S.core m)).r.data t =
        ⟨(S.device i).load ts a, (S.device i).status a⟩ := by
  obtain ⟨j, hj, s, hst, hshown, hdata⟩ :=
    (S.connects.r m i).shown_paired ht hs (decide_eq_true hi)
  obtain ⟨ts, hts, a, ha, hbeat⟩ := (S.device i).r_shown j s (by omega) hshown
  obtain ⟨k', hfetched⟩ := sample_granted (by omega) ha
  obtain ⟨hm, hk⟩ := Routes.carries_one hfetched.1 hj.symm
  rw [hm, hk] at hfetched
  exact ⟨j, ts, by omega, a, ha, hfetched, hdata.symm.trans hbeat⟩

theorem answers (m : μ) : (Core2axi4l.axiPort (S.core m)).Answers n := by
  constructor
  · intro t ht hv
    cases hi : S.writes.target m (count (Core2axi4l.axiPort (S.core m)).b.beat t) with
    | none => exact (S.connects.bUnmapped m _ t ht ⟨hv, rfl⟩ hi).2
    | some i =>
      obtain ⟨j, tc, htc, c, -, ⟨-, tg, htg, q, hq, -⟩, -⟩ := b_commit ht ⟨hv, rfl⟩ hi
      obtain ⟨ta, tw, haw, hw, hta, htw, -⟩ :=
        Core2axi4l.write_beats (S.stable m) (show tg < n by omega) hq
      have hacount := haw.lt_count (show ta < t by omega)
      rw [count_awAddr] at hacount
      exact ⟨hacount, hw.lt_count (show tw < t by omega)⟩
  · intro t ht hv
    cases hi : S.reads.target m (count (Core2axi4l.axiPort (S.core m)).r.beat t) with
    | none => exact (S.connects.rUnmapped m _ t ht ⟨hv, rfl⟩ hi).2
    | some i =>
      obtain ⟨j, ts, hts, a, -, ⟨-, tg, htg, q, hq, -⟩, -⟩ := r_sample ht ⟨hv, rfl⟩ hi
      have hrcount := (Core2axi4l.read_beat (S.stable m) (show tg < n by omega) hq).lt_count
        (show tg < t by omega)
      rw [count_arAddr] at hrcount
      exact hrcount

theorem write_target {m : μ} {k tg : ℕ} {q : Request} (htg : tg < n)
    (hq : Nth (corePort (S.core m)).write k tg q) : S.writes.target m k = S.decode q.addr := by
  obtain ⟨ta, -, haw, -, hta, -, -⟩ := Core2axi4l.write_beats (S.stable m) htg hq
  exact S.connects.awDecode m k ta _ (by omega) haw

theorem read_target {m : μ} {k tg : ℕ} {q : Request} (htg : tg < n)
    (hq : Nth (corePort (S.core m)).read k tg q) : S.reads.target m k = S.decode q.addr :=
  S.connects.arDecode m k tg _ htg (Core2axi4l.read_beat (S.stable m) htg hq)

theorem explains_write {m : μ} {k tg t : ℕ} {q : Request} {x : Response} {resp : Resp}
    (ht : t < n) (htg : tg < t) (hwe : q.we = true)
    (h : Core2axi4l.AnsweredWrite (S.core m) tg t k q x resp) : S.Explains m tg t q x := by
  have hshown := shown_of_nth h.beat
  have hresp := (beat_eq_some.1 h.beat.occurs).2.2
  have htarget := write_target (by omega) h.request
  unfold Explains
  cases hi : S.decode q.addr with
  | none =>
    have hdec := (S.connects.bUnmapped m k t ht hshown (htarget.trans hi)).1
    change x.err = true
    rw [h.err, ← hresp, hdec]
    decide
  | some i =>
    obtain ⟨j, tc, htc, c, hc, ⟨hcarries, tg', htg', q', hq', -, rfl⟩, hdata⟩ :=
      b_commit ht hshown (htarget.trans hi)
    have htime := hq'.time_unique h.request
    have hvalue := hq'.value_unique h.request
    subst htime hvalue
    refine ⟨by rw [h.err, ← hresp, hdata]; rfl, tc, htg', htc, ?_⟩
    rw [if_pos hwe]
    exact ⟨k, j, hcarries, h.request, hc⟩

theorem explains_read {m : μ} {k tg t : ℕ} {q : Request} {x : Response} {y : ReadBeat}
    (ht : t < n) (htg : tg < t) (hwe : q.we = false)
    (h : Core2axi4l.AnsweredRead (S.core m) tg t k q x y) : S.Explains m tg t q x := by
  have hshown := shown_of_nth h.beat
  have hresp := (beat_eq_some.1 h.beat.occurs).2.2
  have htarget := read_target (by omega) h.request
  unfold Explains
  cases hi : S.decode q.addr with
  | none =>
    have hdec := (S.connects.rUnmapped m k t ht hshown (htarget.trans hi)).1
    change x.err = true
    rw [h.err, ← hresp, hdec]
    decide
  | some i =>
    obtain ⟨j, ts, hts, a, ha, ⟨hcarries, tg', htg', q', hq', -, rfl⟩, hdata⟩ :=
      r_sample ht hshown (htarget.trans hi)
    have htime := hq'.time_unique h.request
    have hvalue := hq'.value_unique h.request
    subst htime hvalue
    rw [hresp] at hdata
    refine ⟨by rw [h.err, hdata], ts, htg', hts, ?_⟩
    rw [if_neg (by simp [hwe])]
    exact ⟨k, j, hcarries, h.request, ha, by rw [h.rdata, hdata]⟩

theorem explained {m : μ} {k t : ℕ} {x : Response} (ht : t < n)
    (hx : Nth (corePort (S.core m)).response k t x) :
    ∃ tg < t, ∃ q, Nth (corePort (S.core m)).grant k tg q ∧ S.Explains m tg t q x := by
  obtain ⟨tg, htg, q, hq, hwrite, hread⟩ :=
    Core2axi4l.answered_beats (S.stable m) (answers m) ht hx
  refine ⟨tg, htg, q, hq, ?_⟩
  cases hwe : q.we with
  | true =>
    obtain ⟨j, resp, h⟩ := hwrite hwe
    exact explains_write ht htg hwe h
  | false =>
    obtain ⟨j, y, h⟩ := hread hwe
    exact explains_read ht htg hwe h

theorem linearizes (S : System μ ι n) : S.Linearizes where
  answered m k t x ht hx := explained ht hx
  made i j tc c htc hc := by
    obtain ⟨k, hk⟩ := commit_granted htc hc
    exact ⟨_, k, hk⟩
  sampled i j ts a hts ha := by
    obtain ⟨k, hk⟩ := sample_granted hts ha
    exact ⟨_, k, hk⟩
  writes := S.writes.oneToOne
  reads := S.reads.oneToOne
  inOrder m k tg q htg hq := by
    have hall := Core2axi4l.answered_at_grant (S.stable m) htg hq
    exact exists_nth (show k < count (corePort (S.core m)).response tg by omega)

end System

end IbexAxi4l.Crossbar
