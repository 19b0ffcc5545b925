import IbexAxi4l.Core2axi4lLiveness
import IbexAxi4l.RegisterSlave

set_option autoImplicit false

/-!
# No request hangs behind the network

The bus slaves answer every transaction as soon as both its halves are there and no earlier
response is in the way. Behind five channels that keep nothing for ever, this makes every
request of the core end.
-/
namespace IbexAxi4l.NetworkLiveness
open EventLog ReadyValid AxiLite Progress
open Core2axi4l (core2axi4l corePort Responsive Asks)

/-- The channel takes every offer, and does not keep a beat from its receiver for ever. -/
structure Fair {α : Type} (sender receiver : Link α) : Prop where
  takes : LeadsTo (fun t => sender.valid t = true) (fun t => (sender.beat t).isSome = true)
  shows : LeadsTo (fun t => count receiver.beat t < count sender.beat t)
    (fun t => receiver.valid t = true)

structure Network (p s : AxiPort) : Prop where
  aw : ∀ n, Channel n p.aw s.aw
  w : ∀ n, Channel n p.w s.w
  b : ∀ n, Channel n s.b p.b
  ar : ∀ n, Channel n p.ar s.ar
  r : ∀ n, Channel n s.r p.r
  fairAw : Fair p.aw s.aw
  fairW : Fair p.w s.w
  fairB : Fair s.b p.b
  fairAr : Fair p.ar s.ar
  fairR : Fair s.r p.r

/-- A slave that is ready unless it has taken more than it has served, that serves what it
has taken all parts of as soon as nothing is left to answer, and that shows its answers. -/
structure Serves (s : AxiPort) (commits samples : ℕ → ℕ) : Prop where
  aw : ∀ t, count s.aw.beat t ≤ commits t → s.aw.ready t = true
  w : ∀ t, count s.w.beat t ≤ commits t → s.w.ready t = true
  ar : ∀ t, count s.ar.beat t ≤ samples t → s.ar.ready t = true
  commit : ∀ t, count s.b.beat t < count s.aw.beat t → count s.b.beat t < count s.w.beat t →
    s.b.valid t = true ∨ s.b.valid (t+1) = true
  sample : ∀ t, count s.r.beat t < count s.ar.beat t →
    s.r.valid t = true ∨ s.r.valid (t+1) = true
  commits : ∀ t, count s.b.beat t ≤ commits t ∧ commits t ≤ count s.aw.beat t ∧
    commits t ≤ count s.w.beat t
  samples : ∀ t, count s.r.beat t ≤ samples t ∧ samples t ≤ count s.ar.beat t

theorem ready_iff {taken served : ℕ} {ready : Bool}
    (h : taken = served + if ready then 0 else 1) : ready = true ↔ taken ≤ served := by
  cases ready <;> simp [h]

theorem served_write {regs : ℕ → WriteChannel.Regs} {p : AxiPort}
    (h : WriteChannel.Drives regs p) (honce : WriteChannel.ExactlyOnce regs p) {t : ℕ}
    (haw : count p.b.beat t < count p.aw.beat t) (hw : count p.b.beat t < count p.w.beat t) :
    p.b.valid t = true ∨ p.b.valid (t+1) = true := by
  have hb := honce.responseCount t
  cases hv : (p.slave t).bvalid with
  | true => exact .inl hv
  | false =>
    rw [hv] at hb
    simp only [Bool.false_eq_true, if_false] at hb
    -- both halves are in the skid buffers
    have hskid : (p.slave t).awready = false := by
      rw [← Bool.not_eq_true, ready_iff (honce.addressCount t)]
      omega
    have hskid' : (p.slave t).wready = false := by
      rw [← Bool.not_eq_true, ready_iff (honce.dataCount t)]
      omega
    right
    change (p.slave (t+1)).bvalid = true
    rw [h.bvalid] at hv
    rw [h.awready] at hskid
    rw [h.wready] at hskid'
    rw [h.bvalid, h.step, WriteChannel.posedge_bvalid]
    simp [WriteChannel.writeEnable, WriteChannel.writeResponseStall,
      WriteChannel.validWriteAddress, WriteChannel.validWriteData, hv, hskid, hskid']

theorem served_read {regs : ℕ → ReadChannel.Regs} {p : AxiPort} (h : ReadChannel.Drives regs p)
    (honce : ReadChannel.ExactlyOnce regs p) {t : ℕ}
    (har : count p.r.beat t < count p.ar.beat t) :
    p.r.valid t = true ∨ p.r.valid (t+1) = true := by
  have hr := honce.responseCount t
  cases hv : (p.slave t).rvalid with
  | true => exact .inl hv
  | false =>
    rw [hv] at hr
    simp only [Bool.false_eq_true, if_false] at hr
    have hskid : (p.slave t).arready = false := by
      rw [← Bool.not_eq_true, ready_iff (honce.addressCount t)]
      omega
    right
    change (p.slave (t+1)).rvalid = true
    rw [h.rvalid] at hv
    rw [h.arready] at hskid
    rw [h.rvalid, h.step, ReadChannel.posedge_rvalid]
    simp [ReadChannel.readEnable, ReadChannel.readResponseStall, ReadChannel.validReadAddress,
      hv, hskid]

theorem serves_of_drives {w : ℕ → WriteChannel.Regs} {r : ℕ → ReadChannel.Regs} {p : AxiPort}
    (hw : WriteChannel.Drives w p) (hwonce : WriteChannel.ExactlyOnce w p)
    (hr : ReadChannel.Drives r p) (hronce : ReadChannel.ExactlyOnce r p) :
    Serves p (count (WriteChannel.commits w p)) (count (ReadChannel.samples r p)) where
  aw t hle := (ready_iff (hwonce.addressCount t)).2 hle
  w t hle := (ready_iff (hwonce.dataCount t)).2 hle
  ar t hle := (ready_iff (hronce.addressCount t)).2 hle
  commit t := served_write hw hwonce
  sample t := served_read hr hronce
  commits t := by
    have hb := hwonce.responseCount t
    have ha := hwonce.addressCount t
    have hd := hwonce.dataCount t
    omega
  samples t := by
    have hb := hronce.responseCount t
    have ha := hronce.addressCount t
    omega

/-! ## The network -/

theorem Fair.delivers {α : Type} {l l' : Link α} (h : Fair l l') {k t : ℕ}
    (hsent : k < count l.beat t) (hnext : k ≤ count l'.beat t)
    (hready : ∀ u ≥ t, count l'.beat u ≤ k → l'.ready u = true) :
    ∃ u ≥ t, k < count l'.beat u := by
  by_cases hdone : k < count l'.beat t
  · exact ⟨t, Nat.le_refl t, hdone⟩
  · obtain ⟨u, hu, hv⟩ := h.shows t (by omega)
    by_cases hdone' : k < count l'.beat u
    · exact ⟨u, hu, hdone'⟩
    · have hbeat : (l'.beat u).isSome = true := by
        rw [isSome_beat, hv, hready u hu (by omega)]
        rfl
      exact ⟨u + 1, by omega, exceeds_of_occurs hnext hu hbeat⟩

theorem Fair.returns {α : Type} {l l' : Link α} (h : Fair l l') {k t u : ℕ}
    (hle : ∀ v, count l'.beat v ≤ count l.beat v) (hk : count l'.beat t = k) (hu : t ≤ u)
    (hshown : k < count l.beat u ∨ l.valid u = true) : ∃ v ≥ t, l'.valid v = true := by
  have hsent : ∃ v ≥ u, k < count l.beat v := by
    rcases hshown with hsent | hv
    · exact ⟨u, Nat.le_refl u, hsent⟩
    · obtain ⟨v, hv, hbeat⟩ := h.takes u hv
      have hmono := count_mono l'.beat hu
      have hfew := hle u
      exact ⟨v + 1, by omega, exceeds_of_occurs (by omega) hv hbeat⟩
  obtain ⟨v, hv, hsent⟩ := hsent
  by_cases hdone : k < count l'.beat v
  · obtain ⟨w, hw, x, hx⟩ := exists_nth hdone
    refine ⟨w, ?_, (beat_eq_some.1 hx.occurs).1⟩
    by_contra hlt
    exact absurd (hx.lt_count (show w < t by omega)) (by omega)
  · obtain ⟨w, hw, hvalid⟩ := h.shows v (by omega)
    exact ⟨w, by omega, hvalid⟩

section Network
variable {p s : AxiPort} {commits samples : ℕ → ℕ} (hnet : Network p s)
  (hserves : Serves s commits samples)
include hnet hserves

theorem b_shows : LeadsTo (fun t => count p.b.beat t < count p.aw.beat t ∧
    count p.b.beat t < count p.w.beat t) (fun t => p.b.valid t = true) := by
  intro t ht
  have hback (u : ℕ) : count p.b.beat u ≤ count s.b.beat u := (hnet.b u).count_le (Nat.le_refl u)
  have hk (u : ℕ) (hu : t ≤ u) : count p.b.beat t ≤ count s.b.beat u :=
    (count_mono p.b.beat hu).trans (hback u)
  have hnow := hserves.commits t
  have hfirst := hk t (Nat.le_refl t)
  obtain ⟨ta, hta, haw⟩ := hnet.fairAw.delivers ht.1 (by omega) (fun u hu hle => by
    have hafter := hserves.commits u
    have hopen := hk u hu
    exact hserves.aw u (by omega))
  obtain ⟨tw, htw, hw⟩ := hnet.fairW.delivers ht.2 (by omega) (fun u hu hle => by
    have hafter := hserves.commits u
    have hopen := hk u hu
    exact hserves.w u (by omega))
  -- both halves have arrived, so the slave answers
  have hshown : ∃ u ≥ t, count p.b.beat t < count s.b.beat u ∨ s.b.valid u = true := by
    have haw' := haw.trans_le (count_mono s.aw.beat (Nat.le_max_left ta tw))
    have hw' := hw.trans_le (count_mono s.w.beat (Nat.le_max_right ta tw))
    have hle : t ≤ max ta tw := hta.trans (Nat.le_max_left ta tw)
    by_cases hdone : count p.b.beat t < count s.b.beat (max ta tw)
    · exact ⟨_, hle, .inl hdone⟩
    · rcases hserves.commit (max ta tw) (by omega) (by omega) with hv | hv
      · exact ⟨_, hle, .inr hv⟩
      · exact ⟨_, hle.trans (Nat.le_succ _), .inr hv⟩
  obtain ⟨u, hu, hshown⟩ := hshown
  exact hnet.fairB.returns hback rfl hu hshown

theorem r_shows : LeadsTo (fun t => count p.r.beat t < count p.ar.beat t)
    (fun t => p.r.valid t = true) := by
  intro t ht
  have hback (u : ℕ) : count p.r.beat u ≤ count s.r.beat u := (hnet.r u).count_le (Nat.le_refl u)
  have hk (u : ℕ) (hu : t ≤ u) : count p.r.beat t ≤ count s.r.beat u :=
    (count_mono p.r.beat hu).trans (hback u)
  have hnow := hserves.samples t
  have hfirst := hk t (Nat.le_refl t)
  obtain ⟨ta, hta, har⟩ := hnet.fairAr.delivers ht (by omega) (fun u hu hle => by
    have hafter := hserves.samples u
    have hopen := hk u hu
    exact hserves.ar u (by omega))
  have hshown : ∃ u ≥ t, count p.r.beat t < count s.r.beat u ∨ s.r.valid u = true := by
    by_cases hdone : count p.r.beat t < count s.r.beat ta
    · exact ⟨_, hta, .inl hdone⟩
    · rcases hserves.sample ta (by omega) with hv | hv
      · exact ⟨_, hta, .inr hv⟩
      · exact ⟨_, hta.trans (Nat.le_succ _), .inr hv⟩
  obtain ⟨u, hu, hshown⟩ := hshown
  exact hnet.fairR.returns hback rfl hu hshown

theorem responsive : Responsive p where
  aw := hnet.fairAw.takes
  w := hnet.fairW.takes
  ar := hnet.fairAr.takes
  b := b_shows hnet hserves
  r := r_shows hnet hserves

end Network

structure Ends (r : Run core2axi4l) : Prop where
  granted : ∀ q, LeadsTo (Asks r q) (fun t => ∃ q', (corePort r).grant t = some q' ∧ q.Keeps q')
  answered : ∀ k tg q, Nth (corePort r).grant k tg q →
    ∃ t > tg, ∃ x, Nth (corePort r).response k t x

/-- In front of a bus slave a core never waits for ever. -/
structure NeverHangs (r : Run core2axi4l) : Prop where
  ram : ∀ (z : Axi4lDpramx32.RamSize) (m : Run (Axi4lDpramx32.axi4lDpramx32 z.size)),
    Network (Core2axi4l.axiPort r) (Axi4lDpramx32.axiPort m) → Ends r
  registers : ∀ {σ : Type} (check : Addr → Resp) (store : WriteChannel.Write → σ → σ)
    (v : RegisterSlave.Trace σ), RegisterSlave.Drives check store v →
    Network (Core2axi4l.axiPort r) v.port → Ends r

theorem ends {r : Run core2axi4l} (hstable : ∀ n, (corePort r).Stable n)
    (hbus : Responsive (Core2axi4l.axiPort r)) : Ends r where
  granted q := Core2axi4l.eventually_granted hstable hbus q
  answered _ _ _ hq := Core2axi4l.eventually_answered hstable hbus hq

theorem never_hangs (r : Run core2axi4l) (hstable : ∀ n, (corePort r).Stable n) :
    NeverHangs r where
  ram z m hnet := by
    have hserves := serves_of_drives (Axi4lDpramx32.write_drives m) (Axi4lDpramx32.write_once m)
      (Axi4lDpramx32.read_drives m) (Axi4lDpramx32.read_once m)
    exact ends hstable (responsive hnet hserves)
  registers check store v h hnet := by
    have hserves := serves_of_drives h.write h.answers.writes h.read h.answers.reads
    exact ends hstable (responsive hnet hserves)

/-! ## An instance -/

theorem channel_quiet {α : Type} {l l' : Link α} {n : ℕ} (h : Channel n l l')
    (hl : ∀ t ≥ n, l.valid t = false) (hl' : ∀ t ≥ n, l'.valid t = false)
    (hdone : count l.beat n = count l'.beat n) (n' : ℕ) : Channel n' l l' := by
  obtain ⟨q, hq⟩ := h
  have hempty : q n = [] := by
    have hcount := hq.fifo.count_eq (Nat.le_refl n)
    exact List.length_eq_zero_iff.1 (by omega)
  refine ⟨fun t => if t < n then q t else [], ⟨?_, ?_⟩, ?_⟩
  · by_cases h0 : 0 < n
    · rw [if_pos h0, hq.fifo.start]
    · rw [if_neg h0]
  · intro t _
    by_cases ht : t < n
    · have hstep := hq.fifo.step t ht
      rw [if_pos ht, hstep]
      by_cases ht' : t + 1 < n
      · rw [if_pos ht']
      · rw [if_neg ht', show t + 1 = n by omega, hempty]
    · rw [if_neg ht, if_neg (by omega), beat_none (by rw [hl t (by omega)]; rfl),
        beat_none (by rw [hl' t (by omega)]; rfl)]
      rfl
  · intro t _ hv
    by_cases ht : t < n
    · rw [if_pos ht]
      exact hq.shows t ht hv
    · exact absurd ((hl' t (by omega)).symm.trans hv) (by decide)

section Quiet
variable {α : Type} {l l' : Link α} {n : ℕ} (hl : ∀ t ≥ n, l.valid t = false)
  (hl' : ∀ t ≥ n, l'.valid t = false)

include hl in
theorem takes_quiet (htakes : ∀ t < n, l.valid t = true → (l.beat t).isSome = true) :
    LeadsTo (fun t => l.valid t = true) (fun t => (l.beat t).isSome = true) := by
  refine .of_imp (fun t hv => htakes t ?_ hv)
  by_contra ht
  exact absurd ((hl t (by omega)).symm.trans hv) (by decide)

include hl in
theorem count_quiet {t : ℕ} (ht : n ≤ t) : count l.beat t = count l.beat n := by
  induction t, ht using Nat.le_induction with
  | base => rfl
  | succ t ht ih => rw [count_succ_none (beat_none (by rw [hl t ht]; rfl)), ih]

include hl hl' in
theorem shows_quiet (hshows : ∀ t ≤ n, count l'.beat t < count l.beat t →
      ∃ u < n, t ≤ u ∧ l'.valid u = true) :
    LeadsTo (fun t => count l'.beat t < count l.beat t) (fun t => l'.valid t = true) := by
  intro t hmissing
  by_cases ht : t ≤ n
  · obtain ⟨u, -, hu, hv⟩ := hshows t ht hmissing
    exact ⟨u, hu, hv⟩
  · rw [count_quiet hl (show n ≤ t by omega), count_quiet hl' (show n ≤ t by omega)] at hmissing
    obtain ⟨u, hn, hu, -⟩ := hshows n (Nat.le_refl n) hmissing
    omega

include hl hl' in
theorem fair_quiet (htakes : ∀ t < n, l.valid t = true → (l.beat t).isSome = true)
    (hshows : ∀ t ≤ n, count l'.beat t < count l.beat t →
      ∃ u < n, t ≤ u ∧ l'.valid u = true) : Fair l l' :=
  ⟨takes_quiet hl htakes, shows_quiet hl hl' hshows⟩

end Quiet

open MemoryRefinement (storeLoad storeLoadRam smallRam)

theorem core_quiet {r : Run core2axi4l} {n t : ℕ} (hn : r.state n = .idle)
    (hreq : ∀ u ≥ n, ((corePort r).master u).req = false) (ht : n ≤ t) :
    let p := Core2axi4l.axiPort r
    p.aw.valid t = false ∧ p.w.valid t = false ∧ p.ar.valid t = false := by
  have hidle (u : ℕ) (hu : n ≤ u) : r.state u = .idle := by
    induction u, hu using Nat.le_induction with
    | base => exact hn
    | succ u hu ih =>
      have hlow : (r.input u).core.req = false := hreq u hu
      rw [Core2axi4l.state_succ, ih]
      simp [Core2axi4l.fsm, hlow]
  have hlow : (r.input t).core.req = false := hreq t ht
  have hs := hidle t ht
  refine ⟨?_, ?_, ?_⟩
  · change (Core2axi4l.fsm (r.state t) (r.input t).core (r.input t).axi).awvalid = false
    simp [Core2axi4l.fsm, hs, hlow]
  · change (Core2axi4l.fsm (r.state t) (r.input t).core (r.input t).axi).wvalid = false
    simp [Core2axi4l.fsm, hs, hlow]
  · change (Core2axi4l.fsm (r.state t) (r.input t).core (r.input t).axi).arvalid = false
    simp [Core2axi4l.fsm, hs, hlow]

/-- Nothing is in the slave's skid buffers, and it shows no response. -/
def Settled (s : Axi4lDpramx32.Regs smallRam.size) : Prop :=
  (s.write.bvalid = false ∧ s.write.awready = true) ∧
    s.read.rvalid = false ∧ s.read.arready = true

theorem storeLoadRam_settled (t : ℕ) (ht : t ≥ 8) : Settled (storeLoadRam.state t) := by
  have hin (u : ℕ) (hu : u ≥ 8) : storeLoadRam.input u = storeLoadRam.resetInput := by
    obtain ⟨u, rfl⟩ := Nat.exists_eq_add_of_le' hu
    rfl
  have haw (u : ℕ) (hu : u ≥ 8) : (Axi4lDpramx32.axiPort storeLoadRam).aw.valid u = false :=
    congrArg AxiMaster.awvalid (hin u hu)
  have har (u : ℕ) (hu : u ≥ 8) : (Axi4lDpramx32.axiPort storeLoadRam).ar.valid u = false :=
    congrArg AxiMaster.arvalid (hin u hu)
  exact ⟨(Axi4lDpramx32.write_drives storeLoadRam).quiet (n := 8) (by decide) haw ht,
    (Axi4lDpramx32.read_drives storeLoadRam).quiet (n := 8) (by decide) har ht⟩

theorem storeLoad_quiet (t : ℕ) (ht : t ≥ 8) :
    let p := Core2axi4l.axiPort storeLoad
    (p.aw.valid t = false ∧ p.w.valid t = false ∧ p.b.valid t = false) ∧
      p.ar.valid t = false ∧ p.r.valid t = false := by
  have hin (u : ℕ) (hu : u ≥ 8) : storeLoad.input u = storeLoad.resetInput := by
    obtain ⟨u, rfl⟩ := Nat.exists_eq_add_of_le' hu
    rfl
  have hreq (u : ℕ) (hu : u ≥ 8) : ((corePort storeLoad).master u).req = false :=
    congrArg (fun i : Core2axi4l.Input => i.core.req) (hin u hu)
  obtain ⟨haw, hw, har⟩ := core_quiet (r := storeLoad) rfl hreq ht
  exact ⟨⟨haw, hw, congrArg (fun i : Core2axi4l.Input => i.axi.bvalid) (hin t ht)⟩, har,
    congrArg (fun i : Core2axi4l.Input => i.axi.rvalid) (hin t ht)⟩

theorem storeLoadRam_quiet (t : ℕ) (ht : t ≥ 8) :
    let s := Axi4lDpramx32.axiPort storeLoadRam
    (s.aw.valid t = false ∧ s.w.valid t = false ∧ s.b.valid t = false) ∧
      s.ar.valid t = false ∧ s.r.valid t = false := by
  have hs := storeLoadRam_settled t ht
  obtain ⟨t, rfl⟩ := Nat.exists_eq_add_of_le' ht
  exact ⟨⟨rfl, rfl, hs.1.1⟩, rfl, hs.2.1⟩

theorem storeLoad_fair : Network (Core2axi4l.axiPort storeLoad)
    (Axi4lDpramx32.axiPort storeLoadRam) := by
  have hp := storeLoad_quiet
  have hs := storeLoadRam_quiet
  have hnet := MemoryRefinement.storeLoad_network
  exact
    { aw := channel_quiet hnet.aw (fun t ht => (hp t ht).1.1) (fun t ht => (hs t ht).1.1)
        (by decide)
      w := channel_quiet hnet.w (fun t ht => (hp t ht).1.2.1) (fun t ht => (hs t ht).1.2.1)
        (by decide)
      b := channel_quiet hnet.b (fun t ht => (hs t ht).1.2.2) (fun t ht => (hp t ht).1.2.2)
        (by decide)
      ar := channel_quiet hnet.ar (fun t ht => (hp t ht).2.1) (fun t ht => (hs t ht).2.1)
        (by decide)
      r := channel_quiet hnet.r (fun t ht => (hs t ht).2.2) (fun t ht => (hp t ht).2.2)
        (by decide)
      fairAw := fair_quiet (n := 8) (fun t ht => (hp t ht).1.1) (fun t ht => (hs t ht).1.1)
        (by decide) (by decide)
      fairW := fair_quiet (n := 8) (fun t ht => (hp t ht).1.2.1) (fun t ht => (hs t ht).1.2.1)
        (by decide) (by decide)
      fairB := fair_quiet (n := 8) (fun t ht => (hs t ht).1.2.2) (fun t ht => (hp t ht).1.2.2)
        (by decide) (by decide)
      fairAr := fair_quiet (n := 8) (fun t ht => (hp t ht).2.1) (fun t ht => (hs t ht).2.1)
        (by decide) (by decide)
      fairR := fair_quiet (n := 8) (fun t ht => (hs t ht).2.2) (fun t ht => (hp t ht).2.2)
        (by decide) (by decide) }

theorem storeLoad_stable (n : ℕ) : (corePort storeLoad).Stable n := by
  intro t _ hreq hgnt
  -- the core asks in two cycles, and is granted at once
  match t with
  | 0 | 5 => exact absurd hgnt (by decide)
  | 1 | 2 | 3 | 4 | 6 | 7 | _ + 8 => exact absurd hreq Bool.false_ne_true

theorem storeLoad_ends : Ends storeLoad :=
  (never_hangs storeLoad storeLoad_stable).ram smallRam storeLoadRam storeLoad_fair

end IbexAxi4l.NetworkLiveness
