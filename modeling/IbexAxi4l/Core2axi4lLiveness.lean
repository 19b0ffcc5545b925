import IbexAxi4l.Progress
import IbexAxi4l.Core2axi4lBeats

set_option autoImplicit false

/-!
# No request of the core hangs

On a bus that takes every offer at some time and answers every transaction at some time, the
converter grants every request and returns every response. The run is infinite here.
-/
namespace IbexAxi4l.Core2axi4l
open EventLog ReadyValid AxiLite Progress

/-- The bus takes every offer, and shows a response to everything it has taken. -/
structure Responsive (p : AxiPort) : Prop where
  aw : LeadsTo (fun t => p.aw.valid t = true) (fun t => (p.aw.beat t).isSome = true)
  w : LeadsTo (fun t => p.w.valid t = true) (fun t => (p.w.beat t).isSome = true)
  ar : LeadsTo (fun t => p.ar.valid t = true) (fun t => (p.ar.beat t).isSome = true)
  b : LeadsTo (fun t => count p.b.beat t < count p.aw.beat t ∧
    count p.b.beat t < count p.w.beat t) (fun t => p.b.valid t = true)
  r : LeadsTo (fun t => count p.r.beat t < count p.ar.beat t) (fun t => p.r.valid t = true)

theorem Keeps.trans {q q' q'' : Request} (h : q.Keeps q') (h' : q'.Keeps q'') : q.Keeps q'' := by
  obtain ⟨haddr, hwe, hdata⟩ := h
  obtain ⟨haddr', hwe', hdata'⟩ := h'
  refine ⟨haddr'.trans haddr, hwe'.trans hwe, fun hw => ?_⟩
  obtain ⟨hbe, hwdata⟩ := hdata hw
  obtain ⟨hbe', hwdata'⟩ := hdata' (hwe.trans hw)
  exact ⟨hbe'.trans hbe, hwdata'.trans hwdata⟩

section Live
variable {r : Run core2axi4l} (hstable : ∀ n, (corePort r).Stable n)
  (hbus : Responsive (axiPort r))

def Asks (r : Run core2axi4l) (q : Request) (t : ℕ) : Prop :=
  ((corePort r).master t).req = true ∧ q.Keeps ((corePort r).request.data t)

include hstable in
theorem asks_next {q : Request} {t : ℕ} (h : Asks r q t)
    (hgnt : ¬ ((corePort r).slave t).gnt = true) : Asks r q (t+1) := by
  have hlow : ((corePort r).slave t).gnt = false := by simpa using hgnt
  have hkept := hstable (t+2) t (Nat.lt_succ_self _) h.1 hlow
  exact ⟨hkept.1, Keeps.trans h.2 hkept.2⟩

theorem half_granted {half : State} {sends : Act → Bool} {moved : ℕ → Prop}
    (hhalf : (half = .writeData ∧ sends = Act.w) ∨ (half = .writeAddr ∧ sends = Act.aw))
    (hmoved : ∀ t a, Does r t a → (moved t ↔ sends a = true))
    (h : LeadsTo (fun t => r.state t = half) moved) :
    LeadsTo (fun t => r.state t = half) (fun t => ((corePort r).slave t).gnt = true) := by
  refine (h.unless ?_).trans (.of_imp ?_)
  · intro t hs hfree
    obtain ⟨a, ha⟩ := does r t
    rw [hmoved t a ha] at hfree
    rw [ha.pre] at hs
    rcases hhalf with ⟨rfl, rfl⟩ | ⟨rfl, rfl⟩ <;> cases a <;> simp at hs hfree
    all_goals exact ha.post.trans hs
  · rintro t ⟨hs, hbeat⟩
    obtain ⟨a, ha⟩ := does r t
    rw [hmoved t a ha] at hbeat
    rw [ha.pre] at hs
    rw [ha.gnt]
    rcases hhalf with ⟨rfl, rfl⟩ | ⟨rfl, rfl⟩ <;> cases a <;> simp at hs hbeat ⊢

include hbus

theorem writeData_granted :
    LeadsTo (fun t => r.state t = .writeData) (fun t => ((corePort r).slave t).gnt = true) := by
  have hoffers : LeadsTo (fun t => r.state t = .writeData)
      (fun t => (axiPort r).w.valid t = true) :=
    .of_imp (fun t hs => (wvalid_iff r t).2 (.inr hs))
  refine half_granted (.inl ⟨rfl, rfl⟩) ?_ (hoffers.trans hbus.w)
  intro t a ha
  rw [isSome_beat, ha.w]

theorem writeAddr_granted :
    LeadsTo (fun t => r.state t = .writeAddr) (fun t => ((corePort r).slave t).gnt = true) := by
  have hoffers : LeadsTo (fun t => r.state t = .writeAddr)
      (fun t => (axiPort r).aw.valid t = true) :=
    .of_imp (fun t hs => (awvalid_iff r t).2 (.inr hs))
  refine half_granted (.inr ⟨rfl, rfl⟩) ?_ (hoffers.trans hbus.aw)
  intro t a ha
  rw [isSome_beat, ha.aw]

include hstable

theorem write_granted {q : Request} (hwe : q.we = true) :
    LeadsTo (fun t => r.state t = .idle ∧ Asks r q t)
      (fun t => ((corePort r).slave t).gnt = true) := by
  have hvalid (t : ℕ) (h : r.state t = .idle ∧ Asks r q t) :
      ((axiPort r).master t).awvalid = true :=
    (awvalid_iff r t).2 (.inl ⟨h.1, h.2.1, h.2.2.2.1.trans hwe⟩)
  have hmoves : LeadsTo (fun t => r.state t = .idle ∧ Asks r q t)
      (fun t => ((axiPort r).aw.beat t).isSome = true ∨ ((axiPort r).w.beat t).isSome = true) :=
    ((LeadsTo.of_imp hvalid).trans hbus.aw).trans (.of_imp (fun t h => .inl h))
  refine (hmoves.unless ?_).trans ?_
  · intro t h hfree
    obtain ⟨a, ha⟩ := does r t
    have hs := h.1
    have hkind := ha.request
    rw [h.2.1, show ((corePort r).master t).we = true from h.2.2.2.1.trans hwe] at hkind
    rw [isSome_beat, isSome_beat, ha.aw, ha.w] at hfree
    rw [ha.pre] at hs
    have hstay : a = .stay .idle := by
      cases a <;> simp at hs hfree hkind ⊢
      exact hs
    subst hstay
    refine ⟨ha.post, asks_next hstable h.2 ?_⟩
    rw [ha.gnt]
    exact nofun
  · intro t h
    obtain ⟨a, ha⟩ := does r t
    have hs := h.1.1
    have hbeat := h.2
    rw [isSome_beat, isSome_beat, ha.aw, ha.w] at hbeat
    rw [ha.pre] at hs
    cases a with
    | sendBoth => exact ⟨t, Nat.le_refl t, ha.gnt⟩
    | sendAddr =>
      obtain ⟨u, hu, hg⟩ := writeData_granted hbus (t+1) ha.post
      exact ⟨u, by omega, hg⟩
    | sendData =>
      obtain ⟨u, hu, hg⟩ := writeAddr_granted hbus (t+1) ha.post
      exact ⟨u, by omega, hg⟩
    | stay | sendRead | finishData | finishAddr | writeDone | readDone => simp at hs hbeat

theorem read_granted {q : Request} (hwe : q.we = false) :
    LeadsTo (fun t => r.state t = .idle ∧ Asks r q t)
      (fun t => ((corePort r).slave t).gnt = true) := by
  have hvalid (t : ℕ) (h : r.state t = .idle ∧ Asks r q t) :
      ((axiPort r).master t).arvalid = true :=
    (arvalid_iff r t).2 ⟨h.1, h.2.1, h.2.2.2.1.trans hwe⟩
  refine (((LeadsTo.of_imp hvalid).trans hbus.ar).unless ?_).trans (.of_imp ?_)
  · intro t h hfree
    obtain ⟨a, ha⟩ := does r t
    have hs := h.1
    have hkind := ha.request
    rw [h.2.1, show ((corePort r).master t).we = false from h.2.2.2.1.trans hwe] at hkind
    rw [isSome_beat, ha.ar] at hfree
    rw [ha.pre] at hs
    have hstay : a = .stay .idle := by
      cases a <;> simp at hs hfree hkind ⊢
      exact hs
    subst hstay
    refine ⟨ha.post, asks_next hstable h.2 ?_⟩
    rw [ha.gnt]
    exact nofun
  · rintro t ⟨-, hbeat⟩
    obtain ⟨a, ha⟩ := does r t
    rw [isSome_beat, ha.ar] at hbeat
    rw [ha.gnt]
    cases a <;> simp at hbeat ⊢

def Waits (r : Run core2axi4l) (t : ℕ) : Prop := r.state t = .writeWait ∨ r.state t = .readWait

theorem waits_answered :
    LeadsTo (Waits r) (fun t => ((corePort r).response t).isSome = true) := by
  refine LeadsTo.or ?_ ?_
  · have hopen (t : ℕ) (hs : r.state t = .writeWait) :
        count (axiPort r).b.beat t < count (axiPort r).aw.beat t ∧
          count (axiPort r).b.beat t < count (axiPort r).w.beat t := by
      have hac := addr_count (hstable t) (Nat.le_refl t)
      have hdc := data_count (hstable t) (Nat.le_refl t)
      have hwc := write_count (hstable t) (Nat.le_refl t)
      rw [count_awAddr, hs] at hac
      rw [hs] at hdc hwc
      simp at hac hdc hwc
      omega
    refine (((LeadsTo.of_imp hopen).trans hbus.b).unless ?_).trans (.of_imp ?_)
    · intro t hs hlow
      obtain ⟨a, ha⟩ := does r t
      have hb := ha.b
      rw [show (axiPort r).b.valid t = false by simpa using hlow] at hb
      rw [ha.pre] at hs
      cases a <;> simp at hs hb
      exact ha.post.trans hs
    · rintro t ⟨hs, hv⟩
      rw [response_isSome]
      change (fsm (r.state t) (r.input t).core (r.input t).axi).rvalid = true
      have hbv : (r.input t).axi.bvalid = true := hv
      simp [hs, fsm, hbv]
  · have hopen (t : ℕ) (hs : r.state t = .readWait) :
        count (axiPort r).r.beat t < count (axiPort r).ar.beat t := by
      have hrc := read_count (hstable t) (Nat.le_refl t)
      have harc := ar_count (hstable t) (Nat.le_refl t)
      rw [hs] at hrc
      simp at hrc
      omega
    refine (((LeadsTo.of_imp hopen).trans hbus.r).unless ?_).trans (.of_imp ?_)
    · intro t hs hlow
      obtain ⟨a, ha⟩ := does r t
      have hrd := ha.rd
      rw [show (axiPort r).r.valid t = false by simpa using hlow] at hrd
      rw [ha.pre] at hs
      cases a <;> simp at hs hrd
      exact ha.post.trans hs
    · rintro t ⟨hs, hv⟩
      rw [response_isSome]
      change (fsm (r.state t) (r.input t).core (r.input t).axi).rvalid = true
      have hrv : (r.input t).axi.rvalid = true := hv
      simp [hs, fsm, hrv]

theorem eventually_answered {k tg : ℕ} {q : Request} (hq : Nth (corePort r).grant k tg q) :
    ∃ t > tg, ∃ x, Nth (corePort r).response k t x := by
  have hstart : Waits r (tg+1) ∧ count (corePort r).response (tg+1) = k := by
    obtain ⟨a, ha⟩ := does r tg
    have hall := answered_at_grant (hstable (tg+1)) (Nat.lt_succ_self tg) hq
    have hg := hq.occurs
    rw [ha.grant (hstable (tg+1)) (Nat.lt_succ_self tg)] at hg
    have hnone : (corePort r).response tg = none := by
      rw [← Option.not_isSome_iff_eq_none, response_isSome, ha.rvalid]
      cases a <;> simp at hg ⊢
    rw [count_succ_none hnone]
    refine ⟨?_, hall⟩
    unfold Waits
    rw [ha.post]
    cases a <;> simp at hg ⊢
  have hleads : LeadsTo (fun t => Waits r t ∧ count (corePort r).response t = k)
      (fun t => ((corePort r).response t).isSome = true) :=
    fun t ht => waits_answered hstable hbus t ht.1
  have hkept := hleads.unless (fun t h hnone => by
    have hlow : (corePort r).response t = none := by simpa using hnone
    refine ⟨?_, (count_succ_none hlow).trans h.2⟩
    obtain ⟨a, ha⟩ := does r t
    have hs := h.1
    rw [response_isSome, ha.rvalid] at hnone
    unfold Waits at hs ⊢
    rw [ha.pre] at hs
    rw [ha.post]
    cases a <;> simp at hs hnone ⊢
    exact hs)
  obtain ⟨t, ht, ⟨-, hcount⟩, hsome⟩ := hkept (tg+1) hstart
  obtain ⟨x, hx⟩ := Option.isSome_iff_exists.1 hsome
  exact ⟨t, ht, x, hx, hcount⟩

theorem idle_granted (q : Request) : LeadsTo (fun t => r.state t = .idle ∧ Asks r q t)
    (fun t => ((corePort r).slave t).gnt = true) := by
  cases hwe : q.we with
  | true => exact write_granted hstable hbus hwe
  | false => exact read_granted hstable hbus hwe

theorem asks_granted (q : Request) :
    LeadsTo (Asks r q) (fun t => ((corePort r).slave t).gnt = true) := by
  have hwaiting : LeadsTo (fun t => Waits r t ∧ Asks r q t)
      (fun t => ((corePort r).slave t).gnt = true) := by
    have hleads : LeadsTo (fun t => Waits r t ∧ Asks r q t)
        (fun t => ((corePort r).response t).isSome = true) :=
      fun t ht => waits_answered hstable hbus t ht.1
    -- the request is still there when the earlier one is answered
    have hnext {t : ℕ} (h : Waits r t ∧ Asks r q t) : Asks r q (t+1) ∧
        (if ((corePort r).response t).isSome then r.state (t+1) = .idle else Waits r (t+1)) := by
      obtain ⟨a, ha⟩ := does r t
      have hs := h.1
      unfold Waits at hs ⊢
      rw [ha.pre] at hs
      rw [response_isSome, ha.rvalid, ha.post]
      refine ⟨asks_next hstable h.2 ?_, ?_⟩
      · rw [ha.gnt]
        cases a <;> simp at hs ⊢
      · cases a <;> simp at hs ⊢
        exact hs
    refine (hleads.unless ?_).trans ((LeadsTo.of_next ?_).trans (idle_granted hstable hbus q))
    · intro t h hnone
      have hafter := hnext h
      rw [if_neg hnone] at hafter
      exact ⟨hafter.2, hafter.1⟩
    · rintro t ⟨h, hsome⟩
      have hafter := hnext h
      rw [if_pos hsome] at hafter
      exact ⟨hafter.2, hafter.1⟩
  intro t ht
  cases hs : r.state t with
  | idle => exact idle_granted hstable hbus q t ⟨hs, ht⟩
  | writeData => exact writeData_granted hbus t hs
  | writeAddr => exact writeAddr_granted hbus t hs
  | writeWait => exact hwaiting t ⟨.inl hs, ht⟩
  | readWait => exact hwaiting t ⟨.inr hs, ht⟩

theorem eventually_granted (q : Request) :
    LeadsTo (Asks r q) (fun t => ∃ q', (corePort r).grant t = some q' ∧ q.Keeps q') := by
  refine ((asks_granted hstable hbus q).unless (fun t h => asks_next hstable h)).trans (.of_imp ?_)
  rintro t ⟨⟨hreq, hkeeps⟩, hgnt⟩
  exact ⟨_, beat_eq_some.2 ⟨hreq, hgnt, rfl⟩, hkeeps⟩

end Live

end IbexAxi4l.Core2axi4l
