import IbexAxi4l.NetworkLiveness
import IbexAxi4l.Axi4l2coreLiveness
import IbexAxi4l.IbexSoc

set_option autoImplicit false

/-!
# No request hangs behind the interconnect

An interconnect that takes every offer and keeps no beat for ever, in front of slaves that
are lively, brings every response that is due. The other way round, if every request ends,
then no slave is left with a write that it is offered.
-/
namespace IbexAxi4l.Crossbar
open EventLog ReadyValid AxiLite Progress
open Core2axi4l (core2axi4l corePort Responsive)
open NetworkLiveness (Serves Ends)

variable {μ ι : Type} [DecidableEq μ] [DecidableEq ι]

def Takes {α : Type} (l : Link α) : Prop :=
  LeadsTo (fun t => l.valid t = true) (fun t => (l.beat t).isSome = true)

/-- What has been sent and has not arrived is offered to its receiver at some time. -/
def Delivers {α : Type} (sender receiver : Link α) : Prop :=
  LeadsTo (fun t => count receiver.beat t < count sender.beat t)
    (fun t => receiver.valid t = true)

/-- The interconnect keeps nothing for ever, and holds what it offers to a slave. -/
structure Fair (writes reads : Routes μ ι) (master : μ → AxiPort) (slave : ι → AxiPort) :
    Prop where
  takesAw : ∀ m, Takes (master m).aw
  takesW : ∀ m, Takes (master m).w
  takesAr : ∀ m, Takes (master m).ar
  takesB : ∀ i, Takes (slave i).b
  takesR : ∀ i, Takes (slave i).r
  aw : ∀ m i, Delivers ((master m).aw.part (writes.to m i)) ((slave i).aw.part (writes.from m i))
  w : ∀ m i, Delivers ((master m).w.part (writes.to m i)) ((slave i).w.part (writes.from m i))
  b : ∀ m i, Delivers ((slave i).b.part (writes.from m i)) ((master m).b.part (writes.to m i))
  ar : ∀ m i, Delivers ((master m).ar.part (reads.to m i)) ((slave i).ar.part (reads.from m i))
  r : ∀ m i, Delivers ((slave i).r.part (reads.from m i)) ((master m).r.part (reads.to m i))
  bUnmapped : ∀ m, LeadsTo (fun t => writes.target m (count (master m).b.beat t) = none ∧
    count (master m).b.beat t < count (master m).aw.beat t ∧
    count (master m).b.beat t < count (master m).w.beat t) (fun t => (master m).b.valid t = true)
  rUnmapped : ∀ m, LeadsTo (fun t => reads.target m (count (master m).r.beat t) = none ∧
    count (master m).r.beat t < count (master m).ar.beat t) (fun t => (master m).r.valid t = true)
  holds : ∀ i n, (slave i).Stable n

section Beat
variable {α : Type} {l l' : Link α} {p q : ℕ → Bool}

theorem Delivers.reaches (h : Delivers (l.part p) (l'.part q)) {k t : ℕ} (hp : p k = true)
    (hsent : k < count l.beat t) (hnext : rank p k ≤ count (l'.part q).beat t) :
    ∃ u ≥ t, ∃ j, Paired p q k j ∧ l'.Reached j u := by
  have harrived {u : ℕ} (hu : rank p k < count (l'.part q).beat u) :
      ∃ j, Paired p q k j ∧ l'.Reached j u := by
    obtain ⟨s, hs, x, hx⟩ := exists_nth hu
    obtain ⟨j, hj, hq, hr⟩ := nth_part_iff.1 hx
    exact ⟨j, ⟨hp, hq, hr.symm⟩, .inl (hj.lt_count hs)⟩
  by_cases hdone : rank p k < count (l'.part q).beat t
  · obtain ⟨j, hj, hreached⟩ := harrived hdone
    exact ⟨t, Nat.le_refl t, j, hj, hreached⟩
  · have hmissing : count (l'.part q).beat t < count (l.part p).beat t := by
      rw [count_part (l := l)]
      have hlt := rank_lt hp hsent
      omega
    obtain ⟨u, hu, hv⟩ := h t hmissing
    by_cases hdone' : rank p k < count (l'.part q).beat u
    · obtain ⟨j, hj, hreached⟩ := harrived hdone'
      exact ⟨u, hu, j, hj, hreached⟩
    · have hcount : count (l'.part q).beat u = rank p k := by
        have hmono := count_mono (l'.part q).beat hu
        omega
      obtain ⟨j, hs, hq, hr⟩ := shown_part_iff.1 ⟨hv, hcount⟩
      exact ⟨u, hu, j, ⟨hp, hq, hr.symm⟩, .inr hs⟩

theorem Delivers.returns (h : Delivers (l'.part q) (l.part p)) {k j t u : ℕ}
    (hpair : Paired p q k j) (hk : count l.beat t = k) (hu : t ≤ u)
    (hsent : j < count l'.beat u) : ∃ v ≥ t, l.valid v = true := by
  by_cases hdone : k < count l.beat u
  · obtain ⟨v, hv, x, hx⟩ := exists_nth hdone
    refine ⟨v, ?_, (beat_eq_some.1 hx.occurs).1⟩
    by_contra hlt
    exact absurd (hx.lt_count (show v < t by omega)) (by omega)
  · have hcount : count l.beat u = k := by
      have hmono := count_mono l.beat hu
      omega
    have hmissing : count (l.part p).beat u < count (l'.part q).beat u := by
      rw [count_part, count_part, hcount, hpair.place]
      exact rank_lt hpair.right hsent
    obtain ⟨v, hv, hvalid⟩ := h u hmissing
    exact ⟨v, hu.trans hv, (Bool.and_eq_true_iff.1 hvalid).1⟩

end Beat

theorem delivers_of_silent {α : Type} {l l' : Link α} (h : ∀ t, l.valid t = false) :
    Delivers l l' := by
  intro t ht
  obtain ⟨s, -, x, hx⟩ := exists_nth ht
  exact absurd ((h s).symm.trans (beat_eq_some.1 hx.occurs).1) (by decide)

section Responses
variable {decode : Addr → Option ι} {writes reads : Routes μ ι} {master : μ → AxiPort}
  {slave : ι → AxiPort} (hconnects : ∀ n, Connects decode writes reads master slave n)
  (hfair : Fair writes reads master slave) (hlively : ∀ i, (slave i).Lively)
include hconnects hfair hlively

theorem b_shows (m : μ) : LeadsTo (fun t => count (master m).b.beat t < count (master m).aw.beat t ∧
    count (master m).b.beat t < count (master m).w.beat t)
    (fun t => (master m).b.valid t = true) := by
  rintro t ⟨haw, hw⟩
  cases hi : writes.target m (count (master m).b.beat t) with
  | none => exact hfair.bUnmapped m t ⟨hi, haw, hw⟩
  | some i =>
    have hto : writes.to m i (count (master m).b.beat t) = true := decide_eq_true hi
    -- the responses before this one are back, so their beats have arrived
    have hback := ((hconnects t).b m i).count_le (Nat.le_refl t)
    rw [count_part, count_part] at hback
    have hle := (hlively i).writes t
    obtain ⟨u, hu, j, hj, haw'⟩ := (hfair.aw m i).reaches hto haw
      (by rw [count_part]; exact hback.trans (rank_mono _ hle.1))
    obtain ⟨v, hv, j', hj', hw'⟩ := (hfair.w m i).reaches hto hw
      (by rw [count_part]; exact hback.trans (rank_mono _ hle.2))
    rw [← hj.right_unique hj'] at hw'
    have haw'' := haw'.mono (fun n => (hfair.holds i n).aw) (Nat.le_max_left u v)
    have hw'' := hw'.mono (fun n => (hfair.holds i n).w) (Nat.le_max_right u v)
    obtain ⟨x, hx, hsent⟩ := (hlively i).write_answered (hfair.holds i) (hfair.takesB i) haw'' hw''
    exact (hfair.b m i).returns hj rfl (by omega) hsent

theorem r_shows (m : μ) : LeadsTo (fun t => count (master m).r.beat t < count (master m).ar.beat t)
    (fun t => (master m).r.valid t = true) := by
  intro t har
  cases hi : reads.target m (count (master m).r.beat t) with
  | none => exact hfair.rUnmapped m t ⟨hi, har⟩
  | some i =>
    have hto : reads.to m i (count (master m).r.beat t) = true := decide_eq_true hi
    have hback := ((hconnects t).r m i).count_le (Nat.le_refl t)
    rw [count_part, count_part] at hback
    have hle := (hlively i).reads t
    obtain ⟨u, hu, j, hj, har'⟩ := (hfair.ar m i).reaches hto har
      (by rw [count_part]; exact hback.trans (rank_mono _ hle))
    obtain ⟨x, hx, hsent⟩ := (hlively i).read_answered (hfair.holds i) (hfair.takesR i) har'
    exact (hfair.r m i).returns hj rfl (by omega) hsent

theorem responsive (m : μ) : Responsive (master m) where
  aw := hfair.takesAw m
  w := hfair.takesW m
  ar := hfair.takesAr m
  b := b_shows hconnects hfair hlively m
  r := r_shows hconnects hfair hlively m

end Responses

section Ended
variable {decode : Addr → Option ι} {writes reads : Routes μ ι} {core : μ → Run core2axi4l}
  {slave : ι → AxiPort}

/-- A core whose requests all end has had an answer to each write that a slave is offered. -/
theorem write_answered_of_ends
    (hconnects : ∀ n, Connects decode writes reads (fun m => Core2axi4l.axiPort (core m)) slave n)
    (hfair : Fair writes reads (fun m => Core2axi4l.axiPort (core m)) slave)
    (hstable : ∀ m n, (corePort (core m)).Stable n)
    (hanswers : ∀ m n, (Core2axi4l.axiPort (core m)).Answers n) (hends : ∀ m, Ends (core m))
    {i : ι} {j t : ℕ} (haw : (slave i).aw.Shown j t) (hw : (slave i).w.Shown j t) :
    ∃ u, j < count (slave i).b.beat u := by
  have hfrom : writes.from (writes.source i j) i j = true := decide_eq_true rfl
  obtain ⟨k, hk, s, hs, hsent, -⟩ :=
    ((hconnects (t+1)).aw _ i).shown_paired (Nat.lt_succ_self t) haw hfrom
  obtain ⟨k', hk', s', hs', hsent', -⟩ :=
    ((hconnects (t+1)).w _ i).shown_paired (Nat.lt_succ_self t) hw hfrom
  rw [← hk.left_unique hk'] at hsent'
  -- both halves leave the master, so the core is granted the write
  obtain ⟨u, hu, hbeat⟩ := hfair.takesAw _ s hsent.1
  obtain ⟨v, hv, hbeat'⟩ := hfair.takesW _ s' hsent'.1
  have hcount := exceeds_of_occurs hsent.2.ge hu hbeat
  rw [← count_awAddr] at hcount
  obtain ⟨ta, -, a, ha⟩ := exists_nth hcount
  obtain ⟨tw, -, d, hd⟩ := exists_nth (exceeds_of_occurs hsent'.2.ge hv hbeat')
  obtain ⟨tg, -, q, hq, -⟩ := Core2axi4l.write_of_beats (hstable _ (max ta tw + 1))
    (Nat.lt_succ_self _) ha hd (Nat.le_max_left ta tw) (Nat.le_max_right ta tw)
  obtain ⟨hgrant, hwe⟩ := write_eq_some.1 hq.occurs
  -- the answer to it carries its number
  obtain ⟨x, -, y, hy⟩ := (hends _).answered _ tg q ⟨hgrant, rfl⟩
  obtain ⟨tg', -, q', hq', hwrite, -⟩ := Core2axi4l.answered_beats (hstable _ (x+1))
    (hanswers _ (x+1)) (Nat.lt_succ_self x) hy
  have htime : tg' = tg := hq'.time_unique ⟨hgrant, rfl⟩
  subst htime
  have hvalue : q' = q := Option.some.inj (hq'.occurs.symm.trans hgrant)
  subst hvalue
  obtain ⟨k₁, resp, hanswered⟩ := hwrite hwe
  have hnumber : k₁ = k := hanswered.request.index.symm.trans hq.index
  subst hnumber
  obtain ⟨j', hj', s₁, -, hb⟩ :=
    ((hconnects (x+1)).b _ i).nth_paired (Nat.lt_succ_self x) hanswered.beat hk.left
  rw [← hj'.left_unique hk.symm]
  exact ⟨s₁ + 1, hb.lt_count (Nat.lt_succ_self s₁)⟩

end Ended

theorem lively_of_serves {s : AxiPort} {commits samples : ℕ → ℕ} (h : Serves s commits samples) :
    s.Lively where
  writes t := by
    have hcommits := h.commits t
    omega
  reads t := (h.samples t).1.trans (h.samples t).2
  write j t := by
    rintro ⟨hcount, haw, hw⟩
    by_cases hv : s.b.valid t = true
    · exact ⟨t, Nat.le_refl t, hv⟩
    -- both beats are taken in this cycle at the latest
    have hcommits := (h.commits t).1
    have haw' := haw.taken (fun hle => h.aw t (by omega))
    have hw' := hw.taken (fun hle => h.w t (by omega))
    have hcount' : count s.b.beat (t+1) = j := by
      rw [count_succ_none (beat_none (by simp [hv])), hcount]
    rcases h.commit (t+1) (by omega) (by omega) with hv' | hv'
    · exact ⟨t + 1, by omega, hv'⟩
    · exact ⟨t + 2, by omega, hv'⟩
  read j t := by
    rintro ⟨hcount, har⟩
    by_cases hv : s.r.valid t = true
    · exact ⟨t, Nat.le_refl t, hv⟩
    have hsamples := (h.samples t).1
    have har' := har.taken (fun hle => h.ar t (by omega))
    have hcount' : count s.r.beat (t+1) = j := by
      rw [count_succ_none (beat_none (by simp [hv])), hcount]
    rcases h.sample (t+1) (by omega) with hv' | hv'
    · exact ⟨t + 1, by omega, hv'⟩
    · exact ⟨t + 2, by omega, hv'⟩

end IbexAxi4l.Crossbar
