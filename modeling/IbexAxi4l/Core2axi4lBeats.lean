import IbexAxi4l.MemoryRefinement

set_option autoImplicit false

/-!
# The beats of each request

Write `j` of the core is beat `j` of AW, W and B, and read `j` beat `j` of AR and R, in both
directions: a beat is out only for a request, and a request is answered by its own beat.
-/
namespace IbexAxi4l.Core2axi4l
open EventLog ReadyValid AxiLite

variable {r : Run core2axi4l} {n : ℕ} (hstable : (corePort r).Stable n)
include hstable

theorem write_of_beats {j ta tw t : ℕ} {a : Addr} {d : WriteBeat} (ht : t < n)
    (ha : Nth (axiPort r).awAddr j ta a) (hd : Nth (axiPort r).w.beat j tw d) (hta : ta ≤ t)
    (htw : tw ≤ t) : ∃ tg ≤ t, ∃ q, Nth (corePort r).write j tg q ∧
      ta ≤ tg ∧ tw ≤ tg ∧ a = q.addr ∧ d = ⟨q.wdata, q.be⟩ := by
  have hac := addr_count hstable (show t + 1 ≤ n from ht)
  have hdc := data_count hstable (show t + 1 ≤ n from ht)
  have halt := ha.lt_count (show ta < t + 1 by omega)
  have hdlt := hd.lt_count (show tw < t + 1 by omega)
  have hgranted : j < count (corePort r).write (t+1) := by
    cases hs : r.state (t+1) <;> simp only [hs, reduceCtorEq, if_true, if_false] at hac hdc <;>
      omega
  obtain ⟨tg, htg, q, hq⟩ := exists_nth hgranted
  obtain ⟨ta', tw', ha', hd', hle, hle', -⟩ := write_beats hstable (by omega) hq
  have htime := ha.time_unique ha'
  have htime' := hd.time_unique hd'
  exact ⟨tg, by omega, q, hq, by omega, by omega, ha.value_unique ha', hd.value_unique hd'⟩

theorem read_of_beat {j t : ℕ} {a : Addr} (ht : t < n) (ha : Nth (axiPort r).arAddr j t a) :
    ∃ q, Nth (corePort r).read j t q ∧ a = q.addr := by
  have hread : Nth (fun s => ((corePort r).read s).map Request.addr) j t a :=
    ha.congr (fun s hs => (arAddr_eq hstable hs).symm) ht
  obtain ⟨q, hq, rfl⟩ := nth_map_iff.1 hread
  exact ⟨q, hq, rfl⟩

theorem ar_count {t : ℕ} (ht : t ≤ n) :
    count (axiPort r).ar.beat t = count (corePort r).read t := by
  rw [← count_arAddr]
  refine count_congr (n := n) (fun s hs => ?_) ht
  rw [arAddr_eq hstable hs, Option.isSome_map]

theorem grants_le {t : ℕ} (ht : t ≤ n) :
    count (corePort r).grant t ≤ count (corePort r).response t + 1 := by
  rw [outstanding hstable ht, unanswered_length]
  split_ifs <;> omega

/-- A core that is granted a request has been answered all earlier ones. -/
theorem answered_at_grant {k tg : ℕ} {q : Request} (htg : tg < n)
    (hq : Nth (corePort r).grant k tg q) : count (corePort r).response tg = k := by
  obtain ⟨a, ha⟩ := does r tg
  have ho := outstanding hstable (Nat.le_of_lt htg)
  rw [unanswered_length, hq.index, ha.pre] at ho
  have hg := hq.occurs
  rw [ha.grant hstable htg] at hg
  cases a with
  | sendBoth | sendRead | finishData | finishAddr => simpa using ho.symm
  | stay | sendAddr | sendData | writeDone | readDone => simp at hg

theorem kinds_answered_at_grant {tg : ℕ} {q : Request} (htg : tg < n)
    (hq : (corePort r).grant tg = some q) :
    count (corePort r).write tg = count (axiPort r).b.beat tg ∧
      count (corePort r).read tg = count (axiPort r).r.beat tg := by
  obtain ⟨a, ha⟩ := does r tg
  have hwrites := write_count hstable (Nat.le_of_lt htg)
  have hreads := read_count hstable (Nat.le_of_lt htg)
  rw [ha.pre] at hwrites hreads
  rw [ha.grant hstable htg] at hq
  cases a with
  | sendBoth | sendRead | finishData | finishAddr => exact ⟨hwrites, hreads⟩
  | stay | sendAddr | sendData | writeDone | readDone => simp at hq

theorem answered_before {k t tg : ℕ} {x : Response} {q : Request} (htg : tg < n)
    (hx : Nth (corePort r).response k t x) (hq : Nth (corePort r).grant (k+1) tg q) : t < tg := by
  by_contra hle
  have hall := answered_at_grant hstable htg hq
  have hfew := count_mono (corePort r).response (show tg ≤ t by omega)
  rw [hx.index] at hfew
  omega

/-- What answers request `q` on the bus in cycle `t`: the beat that has its number. -/
structure AnsweredWrite (r : Run core2axi4l) (tg t j : ℕ) (q : Request) (x : Response)
    (resp : Resp) : Prop where
  request : Nth (corePort r).write j tg q
  beat : Nth (axiPort r).b.beat j t resp
  err : x.err = true ↔ resp ≠ .okay

structure AnsweredRead (r : Run core2axi4l) (tg t j : ℕ) (q : Request) (x : Response)
    (y : ReadBeat) : Prop where
  request : Nth (corePort r).read j tg q
  beat : Nth (axiPort r).r.beat j t y
  err : x.err = true ↔ y.resp ≠ .okay
  rdata : x.rdata = y.data

theorem write_index {k tg t : ℕ} {q : Request} {x : Response} {resp : Resp} (ht : t < n)
    (htg : tg < t) (hq : Nth (corePort r).grant k tg q) (hwe : q.we = true)
    (hx : Nth (corePort r).response k t x) (hbeat : (axiPort r).b.beat t = some resp) :
    count (axiPort r).b.beat t = count (corePort r).write tg := by
  have hstate : r.state t = .writeWait := by
    obtain ⟨a, ha⟩ := does r t
    have hb := ha.b
    rw [← isSome_beat, hbeat] at hb
    cases a with
    | writeDone => exact ha.pre
    | stay | sendAddr | sendData | sendBoth | sendRead | finishData | finishAddr | readDone =>
      simp at hb
  have hw : (corePort r).write tg = some q := write_eq_some.2 ⟨hq.occurs, hwe⟩
  have hsame := (MemoryRefinement.nothing_else hstable ht htg hq hx).1
  have hcount := write_count hstable (Nat.le_of_lt ht)
  rw [hstate, if_pos rfl] at hcount
  rw [count_succ_some hw] at hsame
  omega

theorem read_index {k tg t : ℕ} {q : Request} {x : Response} {beat : ReadBeat} (ht : t < n)
    (htg : tg < t) (hq : Nth (corePort r).grant k tg q) (hwe : q.we = false)
    (hx : Nth (corePort r).response k t x) (hbeat : (axiPort r).r.beat t = some beat) :
    count (axiPort r).r.beat t = count (corePort r).read tg := by
  have hstate : r.state t = .readWait := by
    obtain ⟨a, ha⟩ := does r t
    have hrd := ha.rd
    rw [← isSome_beat, hbeat] at hrd
    cases a with
    | readDone => exact ha.pre
    | stay | sendAddr | sendData | sendBoth | sendRead | finishData | finishAddr | writeDone =>
      simp at hrd
  have hr : (corePort r).read tg = some q := read_eq_some.2 ⟨hq.occurs, hwe⟩
  have hsame := (MemoryRefinement.nothing_else hstable ht htg hq hx).2
  have hcount := read_count hstable (Nat.le_of_lt ht)
  rw [hstate, if_pos rfl] at hcount
  rw [count_succ_some hr] at hsame
  omega

theorem answered_beats (hanswers : (axiPort r).Answers n) {k t : ℕ} {x : Response} (ht : t < n)
    (hx : Nth (corePort r).response k t x) :
    ∃ tg < t, ∃ q, Nth (corePort r).grant k tg q ∧
      (q.we = true → ∃ j resp, AnsweredWrite r tg t j q x resp) ∧
      (q.we = false → ∃ j y, AnsweredRead r tg t j q x y) := by
  obtain ⟨tg, q, htg, hq, hpass⟩ := answered hstable hanswers ht hx
  refine ⟨tg, htg, q, hq, ?_, ?_⟩
  · intro hwe
    unfold PassesOn at hpass
    rw [if_pos hwe] at hpass
    obtain ⟨resp, hbeat, herr⟩ := hpass
    have hindex := write_index hstable ht htg hq hwe hx hbeat
    exact ⟨_, resp, ⟨write_eq_some.2 ⟨hq.occurs, hwe⟩, rfl⟩, ⟨hbeat, hindex⟩, herr⟩
  · intro hwe
    unfold PassesOn at hpass
    rw [if_neg (by simp [hwe])] at hpass
    obtain ⟨beat, hbeat, herr, hdata⟩ := hpass
    have hindex := read_index hstable ht htg hq hwe hx hbeat
    exact ⟨_, beat, ⟨read_eq_some.2 ⟨hq.occurs, hwe⟩, rfl⟩, ⟨hbeat, hindex⟩, herr, hdata⟩

end IbexAxi4l.Core2axi4l
