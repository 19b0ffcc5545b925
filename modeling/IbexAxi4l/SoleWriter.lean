import IbexAxi4l.Crossbar

set_option autoImplicit false

/-!
# A slave that one core writes

While no other core writes to a slave, the core that does sees it as its own: each read
finds the state after exactly the writes that the core was granted before, in their order,
however long any beat took. The other cores see its writes in the same order.
-/
namespace IbexAxi4l.Crossbar
open EventLog ReadyValid AxiLite Journal
open BusDevice (Device writeOf)
open Core2axi4l (core2axi4l corePort)

variable {μ ι : Type} [DecidableEq μ] [DecidableEq ι]

namespace System
variable {n : ℕ} (S : System μ ι n)

def writesTo (m : μ) (i : ι) (t : ℕ) : Option Request :=
  ((corePort (S.core m)).write t).filter (fun q => decide (S.decode q.addr = some i))

/-- In the first `n` cycles no core but `m` is granted a write to slave `i`. -/
def SoleWriter (m : μ) (i : ι) : Prop :=
  ∀ m' t q, t < n → (corePort (S.core m')).write t = some q → S.decode q.addr = some i → m' = m

/-- The first `c` writes of core `m` to slave `i` are all that were answered by cycle `tg`,
and none that were granted after cycle `te`. -/
structure Covers (m : μ) (i : ι) (tg te c : ℕ) : Prop where
  answered : ∀ j k tw t q y, Nth (S.writesTo m i) j tw q → Nth (corePort (S.core m)).grant k tw q →
    Nth (corePort (S.core m)).response k t y → t ≤ tg → j < c
  granted : c ≤ count (S.writesTo m i) (te+1)

/-- What core `m'` gets for a read of slave `i`, in a run in which the state `x` of the slave
follows its writes and core `m` makes all of them. -/
def Sequential {σ : Type} (store : WriteChannel.Write → σ → σ) (x : ℕ → σ) (m m' : μ) (i : ι)
    (tg t : ℕ) (q : Request) (y : Response) : Prop :=
  ∃ te c, tg ≤ te ∧ te < t ∧ y.rdata = (S.device i).load te q.addr ∧
    x te = fold store (x 0) (((log (S.writesTo m i) (te+1)).take c).map writeOf) ∧
    S.Covers m i tg te c ∧ (m' = m → c = count (S.writesTo m i) tg)

variable {S} {m : μ} {i : ι}

theorem writesTo_eq_some {t : ℕ} {q : Request} : S.writesTo m i t = some q ↔
    (corePort (S.core m)).write t = some q ∧ S.decode q.addr = some i := by
  simp [writesTo, Option.filter_eq_some_iff]

theorem count_writesTo {t : ℕ} (ht : t ≤ n) : count (S.writesTo m i) t =
    rank (S.writes.to m i) (count (corePort (S.core m)).write t) := by
  induction t with
  | zero => exact (rank_zero _).symm
  | succ t ih =>
    rw [count_succ, count_succ, ih (by omega)]
    unfold writesTo
    cases hw : (corePort (S.core m)).write t with
    | none => simp
    | some q =>
      have htarget := write_target (show t < n by omega) ⟨hw, rfl⟩
      rw [Option.isSome_some, if_pos rfl, rank_succ]
      unfold Routes.to
      rw [htarget]
      by_cases hi : S.decode q.addr = some i
      · simp [Option.filter, hi]
      · simp [Option.filter, hi]

theorem nth_writesTo {j k tg : ℕ} {q : Request} (htg : tg < n)
    (hq : Nth (corePort (S.core m)).write k tg q) (hi : S.decode q.addr = some i)
    (hj : rank (S.writes.to m i) k = j) : Nth (S.writesTo m i) j tg q :=
  ⟨writesTo_eq_some.2 ⟨hq.occurs, hi⟩, by rw [count_writesTo (Nat.le_of_lt htg), hq.index, hj]⟩

variable (hsole : S.SoleWriter m i)
include hsole

theorem source_of_commit {j tc : ℕ} {c : WriteChannel.Write} (htc : tc < n)
    (hc : Nth (S.device i).commits j tc c) : S.writes.source i j = m := by
  obtain ⟨k, -, tg, htg, q, hq, hi, -⟩ := commit_granted htc hc
  exact hsole _ tg q (by omega) hq.occurs hi

theorem rank_of_commit {j tc : ℕ} {c : WriteChannel.Write} (htc : tc < n)
    (hc : Nth (S.device i).commits j tc c) : rank (S.writes.from m i) j = j := by
  apply rank_eq_self
  intro b hb
  obtain ⟨tb, htb, c', hc'⟩ := exists_nth (hc.index ▸ hb : b < count (S.device i).commits tc)
  exact decide_eq_true (source_of_commit hsole (by omega) hc')

theorem commit_writesTo {j tc : ℕ} {c : WriteChannel.Write} (htc : tc < n)
    (hc : Nth (S.device i).commits j tc c) :
    ∃ tg ≤ tc, ∃ q, Nth (S.writesTo m i) j tg q ∧ c = writeOf q := by
  have hsource := source_of_commit hsole htc hc
  obtain ⟨k, hcarries, tg, htg, q, hq, hi, hcq⟩ := commit_granted htc hc
  rw [hsource] at hcarries hq
  have hplace := hcarries.place.trans (rank_of_commit hsole htc hc)
  exact ⟨tg, htg, q, nth_writesTo (by omega) hq hi hplace, hcq⟩

theorem answered_made {j k tg t : ℕ} {q : Request} {y : Response} (ht : t < n)
    (hq : Nth (S.writesTo m i) j tg q) (hk : Nth (corePort (S.core m)).grant k tg q)
    (hy : Nth (corePort (S.core m)).response k t y) : j < count (S.device i).commits t := by
  obtain ⟨hw, hi⟩ := writesTo_eq_some.1 hq.occurs
  obtain ⟨tg', htg', q', hq', hexplains⟩ := explained ht hy
  have htime := hq'.time_unique hk
  have hvalue := hq'.value_unique hk
  subst htime hvalue
  unfold Explains at hexplains
  rw [hi] at hexplains
  obtain ⟨-, te, -, hte, heffect⟩ := hexplains
  rw [if_pos (write_eq_some.1 hw).2] at heffect
  obtain ⟨k', j', hcarries, hw', hc⟩ := heffect
  have hjj : j' = j := by
    calc
      j' = rank (S.writes.from m i) j' := (rank_of_commit hsole (by omega) hc).symm
      _ = rank (S.writes.to m i) k' := hcarries.place.symm
      _ = count (S.writesTo m i) tg' := by rw [count_writesTo (by omega), hw'.index]
      _ = j := hq.index
  rw [← hjj]
  exact hc.lt_count hte

theorem commits_at_read {k tg te t : ℕ} {q : Request} {y : Response} (ht : t < n) (hte : tg ≤ te)
    (hte' : te < t) (hq : Nth (corePort (S.core m)).grant k tg q) (hwe : q.we = false)
    (hy : Nth (corePort (S.core m)).response k t y) :
    count (S.device i).commits te = count (S.writesTo m i) tg := by
  apply Nat.le_antisymm
  · by_contra hlt
    obtain ⟨tc, htc, c, hc⟩ := exists_nth (Nat.lt_of_not_le hlt)
    obtain ⟨tw, htw, q', hq', -⟩ := commit_writesTo hsole (show tc < n by omega) hc
    have hw := (writesTo_eq_some.1 hq'.occurs).1
    rcases Nat.lt_trichotomy tw tg with hbefore | rfl | hafter
    · exact absurd (hq'.lt_count hbefore) (Nat.lt_irrefl _)
    · have hsame := Option.some.inj ((write_eq_some.1 hw).1.symm.trans hq.occurs)
      rw [← hsame, (write_eq_some.1 hw).2] at hwe
      exact absurd hwe (by decide)
    · -- a second request would be outstanding
      have hnone := (MemoryRefinement.nothing_else (S.stable m) ht (by omega) hq hy).1
      have hmade := count_succ_some hw
      have hlow := count_mono (corePort (S.core m)).write (show tg + 1 ≤ tw from hafter)
      have hhigh := count_mono (corePort (S.core m)).write (show tw + 1 ≤ t by omega)
      omega
  · by_contra hlt
    obtain ⟨tw, htw, q', hq'⟩ := exists_nth (Nat.lt_of_not_le hlt)
    have hgrant := (write_eq_some.1 (writesTo_eq_some.1 hq'.occurs).1).1
    have hall := Core2axi4l.answered_at_grant (S.stable m) (show tg < n by omega) hq
    have hearlier := Nth.lt_count ⟨hgrant, rfl⟩ htw
    rw [hq.index, ← hall] at hearlier
    obtain ⟨ty, hty, y', hy'⟩ := exists_nth hearlier
    have hmade := answered_made hsole (show ty < n by omega) hq' ⟨hgrant, rfl⟩ hy'
    have hmono := count_mono (S.device i).commits (show ty ≤ te by omega)
    omega

theorem commits_eq_take {te : ℕ} (hte : te < n) : log (S.device i).commits te =
    ((log (S.writesTo m i) (te+1)).take (count (S.device i).commits te)).map writeOf := by
  apply List.ext_getElem?
  intro j
  rw [List.getElem?_map, List.getElem?_take]
  by_cases hj : j < count (S.device i).commits te
  · obtain ⟨tc, htc, c, hc⟩ := exists_nth hj
    obtain ⟨tg, htg, q, hq, hcq⟩ := commit_writesTo hsole (by omega) hc
    rw [if_pos hj, hc.get htc, hq.get (by omega), hcq]
    rfl
  · rw [if_neg hj, List.getElem?_eq_none (Nat.le_of_not_lt hj)]
    rfl

theorem covers {tg te : ℕ} (hte : te < n) (htg : tg ≤ te) :
    S.Covers m i tg te (count (S.device i).commits te) where
  answered j k tw t q y hq hk hy ht := by
    have hmade := answered_made hsole (by omega) hq hk hy
    have hmono := count_mono (S.device i).commits (show t ≤ te by omega)
    omega
  granted := by
    by_contra hlt
    obtain ⟨tc, htc, c, hc⟩ := exists_nth (Nat.lt_of_not_le hlt)
    obtain ⟨tg', htg', q, hq, -⟩ := commit_writesTo hsole (by omega) hc
    exact absurd (hq.lt_count (show tg' < te + 1 by omega)) (Nat.lt_irrefl _)

omit hsole

end System

end IbexAxi4l.Crossbar
