import IbexAxi4l.Axi4l2core

set_option autoImplicit false

/-!
# What the converter is waiting for

Between the acceptance of a transaction and its response the converter looks at exactly
one `core.rvalid`: the first one after the accepting cycle. `Tracks` says where it stands.
-/
namespace IbexAxi4l.Axi4l2core
open EventLog ReadyValid AxiLite

section
variable (r : Run axi4l2core)

/-- The responses taken by the master: `true` on B, `false` on R. -/
def reply (t : ℕ) : Option Bool :=
  if ((axiPort r).b.beat t).isSome then some true
  else if ((axiPort r).r.beat t).isSome then some false
  else none

abbrev Payload := Option Data × Resp

def shownPayload (t : ℕ) (we : Bool) : Payload :=
  let s := (axiPort r).slave t
  if we then (none, s.bresp) else (some s.rdata, s.rresp)

def coreAnswer (t : ℕ) (we : Bool) : Payload :=
  let s := (corePort r).slave t
  (if we then none else some s.rdata, resp s.err)

def bufPayload (t : ℕ) (we : Bool) : Payload :=
  let s := r.state t
  if we then (none, s.brespBuf) else (some s.rdataBuf, s.rrespBuf)

/-- `c` is the first cycle after `s` in which `core.rvalid` is high. -/
structure FirstAnswer (s c : ℕ) : Prop where
  after : s < c
  high : ((corePort r).slave c).rvalid = true
  first : ∀ u, s < u → u < c → ((corePort r).slave u).rvalid = false

structure Tracks (t : ℕ) : Prop where
  none : (∀ we, (r.state t).state ≠ wait0 we) → (∀ we, (r.state t).state ≠ wait1 we) →
    count (corePort r).grant t = count (reply r) t
  direct : ∀ we, (r.state t).state = wait0 we → ∃ s q, s < t ∧
    Nth (corePort r).grant (count (reply r) t) s q ∧ q.we = we ∧
    count (corePort r).grant t = count (reply r) t + 1 ∧
    ∀ u, s < u → u < t → ((corePort r).slave u).rvalid = false
  buffered : ∀ we, (r.state t).state = wait1 we → ∃ s q c, c < t ∧
    Nth (corePort r).grant (count (reply r) t) s q ∧ q.we = we ∧
    count (corePort r).grant t = count (reply r) t + 1 ∧
    FirstAnswer r s c ∧ bufPayload r t we = coreAnswer r c we

end

theorem wants_ne (we we' : Bool) : wants we ≠ wait0 we' ∧ wants we ≠ wait1 we' := by
  cases we <;> cases we' <;> exact ⟨nofun, nofun⟩

theorem idle_ne (we : Bool) : State.idle ≠ wait0 we ∧ State.idle ≠ wait1 we := by
  cases we <;> exact ⟨nofun, nofun⟩

theorem wait0_inj {we we' : Bool} (h : wait0 we = wait0 we') : we = we' := by
  cases we <;> cases we' <;> first | rfl | cases h

theorem wait1_inj {we we' : Bool} (h : wait1 we = wait1 we') : we = we' := by
  cases we <;> cases we' <;> first | rfl | cases h

theorem wait_ne (we we' : Bool) : wait0 we ≠ wait1 we' := by
  cases we <;> cases we' <;> nofun

theorem wants_inj {we we' : Bool} (h : wants we = wants we') : we = we' := by
  cases we <;> cases we' <;> first | rfl | cases h

theorem wants_ne_idle (we : Bool) : wants we ≠ .idle := by
  cases we <;> nofun

section Payloads
variable {r : Run axi4l2core} {t : ℕ} {a : Act} (h : Does r t a)
include h

theorem Does.reply : reply r t = a.takes := by
  have hb : ((axiPort r).b.beat t).isSome = decide (a.takes = some true) := by
    rw [isSome_beat]
    change (((axiPort r).slave t).bvalid && ((axiPort r).master t).bready) = _
    rw [h.bvalid]
    cases hs : decide (a.shows = some true) with
    | true => rw [h.bready (of_decide_eq_true hs)]; cases a <;> simp at hs ⊢ <;> exact hs
    | false => cases a <;> simp at hs ⊢ <;> exact hs
  have hr : ((axiPort r).r.beat t).isSome = decide (a.takes = some false) := by
    rw [isSome_beat]
    change (((axiPort r).slave t).rvalid && ((axiPort r).master t).rready) = _
    rw [h.rvalid]
    cases hs : decide (a.shows = some false) with
    | true => rw [h.rready (of_decide_eq_true hs)]; cases a <;> simp at hs ⊢ <;> exact hs
    | false => cases a <;> simp at hs ⊢ <;> exact hs
  unfold Axi4l2core.reply
  rw [hb, hr]
  rcases ht : a.takes with _ | _ | _ <;> simp

theorem Does.grant : (corePort r).grant t = a.accepts.map (offered r t) := by
  have ho := h.request
  have hg := h.gnt
  have hb : (corePort r).grant t =
      if ((corePort r).slave t).gnt then (corePort r).request.offer t else none := by
    unfold CorePort.grant Link.beat Link.offer
    change (if ((corePort r).request.valid t && ((corePort r).slave t).gnt) = true
      then _ else _) = _
    cases (corePort r).request.valid t <;> cases ((corePort r).slave t).gnt <;> rfl
  rw [hb, ho]
  cases a <;> simp at hg ⊢ <;> simp [hg]

theorem shown_direct {we : Bool} (ha : a = .pass we ∨ a = .buffer we) :
    shownPayload r t we = coreAnswer r t we := by
  have hs : (r.state t).state = wait0 we := by rcases ha with rfl | rfl <;> exact h.pre
  have hv : (r.input t).core.rvalid = true := by
    rcases ha with rfl | rfl <;> exact h.sees true rfl
  unfold shownPayload coreAnswer
  change (if we then (none, (comb (r.state t) (r.input t)).axi.bresp)
    else (some (comb (r.state t) (r.input t)).axi.rdata,
      (comb (r.state t) (r.input t)).axi.rresp)) =
    ((if we then none else some (r.input t).core.rdata), resp (r.input t).core.err)
  cases we <;> simp only [wait0, Bool.false_eq_true, ↓reduceIte] at hs <;>
    simp only [comb, hs, hv, Bool.false_eq_true, ↓reduceIte] <;> split_ifs <;> rfl

theorem shown_buffered {we : Bool} (ha : a = .hold we ∨ a = .drain we) :
    shownPayload r t we = bufPayload r t we := by
  have hs : (r.state t).state = wait1 we := by rcases ha with rfl | rfl <;> exact h.pre
  unfold shownPayload bufPayload
  change (if we then (none, (comb (r.state t) (r.input t)).axi.bresp)
    else (some (comb (r.state t) (r.input t)).axi.rdata,
      (comb (r.state t) (r.input t)).axi.rresp)) =
    _
  cases we <;> simp only [wait1, Bool.false_eq_true, ↓reduceIte] at hs <;>
    simp only [comb, hs, Bool.false_eq_true, ↓reduceIte] <;> split_ifs <;> rfl

theorem buffer_fills {we : Bool} (ha : a = .buffer we) :
    bufPayload r (t+1) we = coreAnswer r t we := by
  subst ha
  have hs : (r.state t).state = wait0 we := h.pre
  have hv : (r.input t).core.rvalid = true := h.sees true rfl
  unfold bufPayload coreAnswer
  rw [Run.state_succ]
  change (if we then (none, (posedge true (r.state t) (r.input t)).brespBuf)
    else (some (posedge true (r.state t) (r.input t)).rdataBuf,
      (posedge true (r.state t) (r.input t)).rrespBuf)) =
    ((if we then none else some (r.input t).core.rdata), resp (r.input t).core.err)
  cases we <;> simp [wait0] at hs <;> simp [posedge, hs, hv]

theorem buffer_kept {we : Bool} (ha : a = .hold we) :
    bufPayload r (t+1) we = bufPayload r t we := by
  subst ha
  have hs : (r.state t).state = wait1 we := h.pre
  unfold bufPayload
  rw [Run.state_succ]
  change (if we then (none, (posedge true (r.state t) (r.input t)).brespBuf)
    else (some (posedge true (r.state t) (r.input t)).rdataBuf,
      (posedge true (r.state t) (r.input t)).rrespBuf)) = _
  cases we <;> simp [wait1] at hs <;> simp [posedge, hs]

end Payloads

section Tracking
variable {r : Run axi4l2core} {t : ℕ}

theorem Tracks.of_idle {s : State} (hs : (r.state t).state = s)
    (hne : ∀ we, s ≠ wait0 we ∧ s ≠ wait1 we)
    (hc : count (corePort r).grant t = count (reply r) t) : Tracks r t := by
  subst hs
  exact ⟨fun _ _ => hc, fun we h => absurd h (hne we).1, fun we h => absurd h (hne we).2⟩

theorem Tracks.at_rest {s : State} (h : Tracks r t) (hs : (r.state t).state = s)
    (hne : ∀ we, s ≠ wait0 we ∧ s ≠ wait1 we) :
    count (corePort r).grant t = count (reply r) t := by
  subst hs
  exact h.none (fun we => (hne we).1) (fun we => (hne we).2)

theorem Tracks.of_wait0 {we : Bool} (hs : (r.state t).state = wait0 we)
    (h : ∃ s q, s < t ∧ Nth (corePort r).grant (count (reply r) t) s q ∧ q.we = we ∧
      count (corePort r).grant t = count (reply r) t + 1 ∧
      ∀ u, s < u → u < t → ((corePort r).slave u).rvalid = false) : Tracks r t := by
  refine ⟨fun h0 _ => absurd hs (h0 we), ?_, fun we' h' => absurd (hs.symm.trans h') (wait_ne _ _)⟩
  intro we' h'
  rw [← wait0_inj (hs.symm.trans h')]
  exact h

theorem Tracks.of_wait1 {we : Bool} (hs : (r.state t).state = wait1 we)
    (h : ∃ s q c, c < t ∧ Nth (corePort r).grant (count (reply r) t) s q ∧ q.we = we ∧
      count (corePort r).grant t = count (reply r) t + 1 ∧
      FirstAnswer r s c ∧ bufPayload r t we = coreAnswer r c we) : Tracks r t := by
  refine ⟨fun _ h1 => absurd hs (h1 we), fun we' h' => absurd (h'.symm.trans hs) (wait_ne _ _), ?_⟩
  intro we' h'
  rw [← wait1_inj (hs.symm.trans h')]
  exact h

end Tracking

theorem tracks (r : Run axi4l2core) (t : ℕ) : Tracks r t := by
  induction t with
  | zero => exact .of_idle rfl idle_ne rfl
  | succ t ih =>
    obtain ⟨a, h⟩ := does r t
    have hg := h.grant
    have hr := h.reply
    cases a with
    | rest | want we =>
      refine .of_idle h.post (by first | exact idle_ne | exact wants_ne we) ?_
      rw [count_succ_none hg, count_succ_none hr]
      exact ih.at_rest h.pre idle_ne
    | ungranted we =>
      refine .of_idle h.post (wants_ne we) ?_
      rw [count_succ_none hg, count_succ_none hr]
      exact ih.at_rest h.pre (wants_ne we)
    | accept early we =>
      have hc : count (corePort r).grant t = count (reply r) t := by
        cases early
        · exact ih.at_rest h.pre (wants_ne we)
        · exact ih.at_rest h.pre idle_ne
      refine .of_wait0 h.post ⟨t, offered r t we, Nat.lt_succ_self t, ?_, rfl, ?_, ?_⟩
      · rw [count_succ_none hr]
        exact ⟨hg, hc⟩
      · rw [count_succ_some hg, count_succ_none hr, hc]
      · intro u hu hu'
        omega
    | await we =>
      obtain ⟨s, q, hs, hn, hwe, hc, hlow⟩ := ih.direct we h.pre
      refine .of_wait0 h.post ⟨s, q, Nat.lt_succ_of_lt hs, ?_, hwe, ?_, ?_⟩
      · rw [count_succ_none hr]
        exact hn
      · rw [count_succ_none hg, count_succ_none hr, hc]
      · intro u hu hu'
        rcases Nat.lt_succ_iff_lt_or_eq.1 hu' with hlt | rfl
        · exact hlow u hu hlt
        · exact h.sees false rfl
    | pass we =>
      obtain ⟨s, q, hs, hn, hwe, hc, hlow⟩ := ih.direct we h.pre
      refine .of_idle h.post idle_ne ?_
      rw [count_succ_none hg, count_succ_some hr, hc]
    | buffer we =>
      obtain ⟨s, q, hs, hn, hwe, hc, hlow⟩ := ih.direct we h.pre
      refine .of_wait1 h.post ⟨s, q, t, Nat.lt_succ_self t, ?_, hwe, ?_, ?_, buffer_fills h rfl⟩
      · rw [count_succ_none hr]
        exact hn
      · rw [count_succ_none hg, count_succ_none hr, hc]
      · exact ⟨hs, h.sees true rfl, hlow⟩
    | hold we =>
      obtain ⟨s, q, c, hct, hn, hwe, hc, hfirst, hbuf⟩ := ih.buffered we h.pre
      refine .of_wait1 h.post ⟨s, q, c, Nat.lt_succ_of_lt hct, ?_, hwe, ?_, hfirst, ?_⟩
      · rw [count_succ_none hr]
        exact hn
      · rw [count_succ_none hg, count_succ_none hr, hc]
      · exact (buffer_kept h rfl).trans hbuf
    | drain we =>
      obtain ⟨s, q, c, hct, hn, hwe, hc, hfirst, hbuf⟩ := ih.buffered we h.pre
      refine .of_idle h.post idle_ne ?_
      rw [count_succ_none hg, count_succ_some hr, hc]

/-- A response on the bus belongs to the oldest unanswered transaction and carries what the
core side said in the first cycle of `rvalid` after that transaction was accepted. -/
theorem shown_value {r : Run axi4l2core} {t : ℕ} {a : Act} {we : Bool} (h : Does r t a)
    (ha : a.shows = some we) :
    ∃ s q c, Nth (corePort r).grant (count (reply r) t) s q ∧ q.we = we ∧
      FirstAnswer r s c ∧ c ≤ t ∧ shownPayload r t we = coreAnswer r c we := by
  have ih := tracks r t
  cases a with
  | pass we' | buffer we' =>
    cases ha
    obtain ⟨s, q, hs, hn, hwe, _, hlow⟩ := ih.direct we h.pre
    refine ⟨s, q, t, hn, hwe, ⟨hs, h.sees true rfl, hlow⟩, Nat.le_refl t, ?_⟩
    exact shown_direct h (by simp)
  | hold we' | drain we' =>
    cases ha
    obtain ⟨s, q, c, hct, hn, hwe, _, hfirst, hbuf⟩ := ih.buffered we h.pre
    refine ⟨s, q, c, hn, hwe, hfirst, Nat.le_of_lt hct, ?_⟩
    exact (shown_buffered h (by simp)).trans hbuf
  | rest | want | ungranted | accept | await => simp at ha

theorem shown_promptly {r : Run axi4l2core} {k s c t : ℕ} {q : Request} {a : Act}
    (h : Does r t a) (hk : Nth (corePort r).grant k s q) (hfirst : FirstAnswer r s c)
    (hct : c ≤ t) (hopen : count (reply r) t ≤ k) : a.shows = some q.we := by
  have ih := tracks r t
  have hst : s < t := Nat.lt_of_lt_of_le hfirst.after hct
  have hcount := hk.lt_count hst
  have hbusy : count (corePort r).grant t ≠ count (reply r) t := by omega
  cases a with
  | rest | want => exact absurd (ih.at_rest h.pre idle_ne) hbusy
  | ungranted we => exact absurd (ih.at_rest h.pre (wants_ne we)) hbusy
  | accept early we =>
    cases early
    · exact absurd (ih.at_rest h.pre (wants_ne we)) hbusy
    · exact absurd (ih.at_rest h.pre idle_ne) hbusy
  | await we =>
    obtain ⟨u, q', _, hn, _, hc, hlow⟩ := ih.direct we h.pre
    have heq : count (reply r) t = k := by omega
    rw [heq] at hn
    have hus := hn.time_unique hk
    subst hus
    -- a pulse at or before this cycle would have ended the wait
    have hlow' : ((corePort r).slave c).rvalid = false := by
      rcases Nat.lt_or_eq_of_le hct with hlt | rfl
      · exact hlow c hfirst.after hlt
      · exact h.sees false rfl
    rw [hfirst.high] at hlow'
    cases hlow'
  | pass we | buffer we =>
    obtain ⟨u, q', _, hn, hwe, hc, _⟩ := ih.direct we h.pre
    have heq : count (reply r) t = k := by omega
    rw [heq] at hn
    rw [hk.value_unique hn, hwe]
    rfl
  | hold we | drain we =>
    obtain ⟨u, q', _, _, hn, hwe, hc, _⟩ := ih.buffered we h.pre
    have heq : count (reply r) t = k := by omega
    rw [heq] at hn
    rw [hk.value_unique hn, hwe]
    rfl

section Pending
variable {r : Run axi4l2core} {n : ℕ} (hstable : (axiPort r).Stable n)
include hstable

theorem channels_held {t : ℕ} {a : Act} {we : Bool} (ht : t + 1 < n) (h : Does r t a)
    (ha : a.accepts = none) (hv : channelsValid r t we = true) :
    channelsValid r (t+1) we = true ∧
      Request.Keeps (offered r t we) (offered r (t+1) we) := by
  have har : ((axiPort r).slave t).arready = false := by rw [h.arready, ha]; rfl
  have haw : ((axiPort r).slave t).awready = false := by rw [h.awready, ha]; rfl
  have hw : ((axiPort r).slave t).wready = false := by rw [h.wready, ha]; rfl
  cases we with
  | false =>
    obtain ⟨hv', hd⟩ := hstable.ar t ht hv har
    exact ⟨hv', congrArg AddrBeat.addr hd, rfl, nofun⟩
  | true =>
    obtain ⟨hawv, hwv⟩ := Bool.and_eq_true_iff.1 hv
    obtain ⟨hawv', hda⟩ := hstable.aw t ht hawv haw
    obtain ⟨hwv', hdw⟩ := hstable.w t ht hwv hw
    refine ⟨Bool.and_eq_true_iff.2 ⟨hawv', hwv'⟩, congrArg AddrBeat.addr hda, rfl, fun _ => ?_⟩
    exact ⟨congrArg WriteBeat.strb hdw, congrArg WriteBeat.data hdw⟩

omit hstable in
theorem requests_of_wants {t : ℕ} {a : Act} {we : Bool} (h : Does r t a)
    (hs : (r.state t).state = wants we) : a.requests = some we := by
  have hp := h.pre
  rw [hs] at hp
  cases a with
  | ungranted we' => rw [wants_inj hp]; rfl
  | accept early we' =>
    cases early
    · rw [wants_inj hp]; rfl
    · exact absurd hp (wants_ne_idle we)
  | want | rest => exact absurd hp (wants_ne_idle we)
  | await we' | pass we' | buffer we' => exact absurd hp (wants_ne we we').1
  | hold we' | drain we' => exact absurd hp (wants_ne we we').2

omit hstable in
theorem wants_from {t : ℕ} {a : Act} {we : Bool} (h : Does r t a)
    (hs : (r.state (t+1)).state = wants we) : a.requests = some we ∧ a.accepts = none := by
  have hp := h.post
  rw [hs] at hp
  cases a with
  | want we' | ungranted we' => rw [wants_inj hp]; exact ⟨rfl, rfl⟩
  | rest | pass | drain => exact absurd hp (wants_ne_idle we)
  | accept _ we' | await we' => exact absurd hp (wants_ne we we').1
  | buffer we' | hold we' => exact absurd hp (wants_ne we we').2

theorem channels_valid {t : ℕ} (ht : t < n) {a : Act} {we : Bool} (h : Does r t a)
    (ha : a.requests = some we) : channelsValid r t we = true := by
  induction t generalizing a we with
  | zero => exact h.fresh we rfl ha
  | succ t ih =>
    by_cases hidle : (r.state (t+1)).state = .idle
    · exact h.fresh we hidle ha
    · have hs : (r.state (t+1)).state = wants we := by
        have hp := h.pre
        cases a with
        | want | rest => exact absurd hp hidle
        | ungranted we' => cases ha; exact hp
        | accept early we' =>
          cases ha
          cases early
          · exact hp
          · exact absurd hp hidle
        | await | pass | buffer | hold | drain => simp at ha
      obtain ⟨b, hb⟩ := does r t
      obtain ⟨hreq, hacc⟩ := wants_from hb hs
      exact (channels_held hstable ht hb hacc (ih (by omega) hb hreq)).1

end Pending

end IbexAxi4l.Axi4l2core
