import IbexAxi4l.SlaveProgress
import IbexAxi4l.Axi4l2coreBeats

set_option autoImplicit false

/-!
# When the AXI4-Lite to core converter gets on

In the idle state the converter looks at a write only if no read is offered. In front of a
core slave that grants and answers everything each read gets through, and a write does
exactly if an idle cycle without a read comes.
-/
namespace IbexAxi4l.Axi4l2core
open EventLog ReadyValid AxiLite Progress

/-- Every request to the core slave is granted and answered at some time, and the master
takes every response. -/
structure Attended (r : Run axi4l2core) : Prop where
  grants : LeadsTo (fun t => (corePort r).request.valid t = true)
    (fun t => ((corePort r).grant t).isSome = true)
  answers : ∀ t, ((corePort r).grant t).isSome = true →
    ∃ u > t, ((corePort r).slave u).rvalid = true
  b : LeadsTo (fun t => (axiPort r).b.valid t = true)
    (fun t => ((axiPort r).b.beat t).isSome = true)
  r : LeadsTo (fun t => (axiPort r).r.valid t = true)
    (fun t => ((axiPort r).r.beat t).isSome = true)

def Accepts (r : Run axi4l2core) (we : Bool) (t : ℕ) : Prop :=
  ∃ a, Does r t a ∧ a.accepts = some we

def Shows (r : Run axi4l2core) (we : Bool) (t : ℕ) : Prop :=
  ∃ a, Does r t a ∧ a.shows = some we

def Idle (r : Run axi4l2core) (t : ℕ) : Prop := (r.state t).state = .idle

/-- Each write that is offered waits for its grant already, or an idle cycle comes in which
no read is offered. -/
def WritesPass (r : Run axi4l2core) : Prop :=
  ∀ t, (axiPort r).aw.valid t = true → (axiPort r).w.valid t = true →
    (r.state t).state = .write ∨ ∃ u ≥ t, Idle r u ∧ (axiPort r).ar.valid u = false

theorem shows_write {r : Run axi4l2core} {t : ℕ} :
    Shows r true t ↔ (axiPort r).b.valid t = true := by
  constructor
  · rintro ⟨a, h, ha⟩
    exact (b_valid h).2 ha
  · intro hv
    obtain ⟨a, h⟩ := does r t
    exact ⟨a, h, (b_valid h).1 hv⟩

theorem shows_read {r : Run axi4l2core} {t : ℕ} :
    Shows r false t ↔ (axiPort r).r.valid t = true := by
  constructor
  · rintro ⟨a, h, ha⟩
    exact (r_valid h).2 ha
  · intro hv
    obtain ⟨a, h⟩ := does r t
    exact ⟨a, h, (r_valid h).1 hv⟩

section Attended
variable {r : Run axi4l2core} (hcore : Attended r)
include hcore

theorem wants_accepts (we : Bool) :
    LeadsTo (fun t => (r.state t).state = wants we) (Accepts r we) := by
  have hasks (t : ℕ) (hs : (r.state t).state = wants we) :
      (corePort r).request.valid t = true := by
    obtain ⟨a, ha⟩ := does r t
    have ho := ha.request
    rw [requests_of_wants ha hs] at ho
    exact (offer_eq_some.1 ho).1
  refine (((LeadsTo.of_imp hasks).trans hcore.grants).unless ?_).trans (.of_imp ?_)
  · intro t hs hnone
    obtain ⟨a, ha⟩ := does r t
    have hreq := requests_of_wants ha hs
    rw [ha.grant, Option.isSome_map] at hnone
    rw [ha.pre] at hs
    cases a with
    | ungranted => exact ha.post.trans hs
    | want => exact absurd hs.symm (wants_ne_idle we)
    | accept => exact absurd rfl hnone
    | rest | await | pass | buffer | hold | drain => cases hreq
  · rintro t ⟨hs, hsome⟩
    obtain ⟨a, ha⟩ := does r t
    have hreq := requests_of_wants ha hs
    rw [ha.grant, Option.isSome_map] at hsome
    refine ⟨a, ha, ?_⟩
    cases a with
    | accept => exact hreq
    | rest | want | ungranted | await | pass | buffer | hold | drain => cases hsome

theorem wait0_shows (we : Bool) :
    LeadsTo (fun t => (r.state t).state = wait0 we) (Shows r we) := by
  have hanswered : LeadsTo (fun t => (r.state t).state = wait0 we)
      (fun t => ((corePort r).slave t).rvalid = true) := by
    intro t hs
    obtain ⟨s, q, hst, hn, -, -, hlow⟩ := (tracks r t).direct we hs
    obtain ⟨u, hu, hv⟩ := hcore.answers s (by rw [hn.occurs]; rfl)
    refine ⟨u, ?_, hv⟩
    by_contra hut
    exact absurd ((hlow u hu (by omega)).symm.trans hv) (by decide)
  refine (hanswered.unless ?_).trans (.of_imp ?_)
  · intro t hs hlow
    obtain ⟨a, ha⟩ := does r t
    rw [ha.pre] at hs
    have hact : a = .await we := by
      cases a with
      | await we' => exact congrArg _ (wait0_inj hs)
      | pass | buffer => exact absurd (ha.sees true rfl) hlow
      | hold we' | drain we' => exact absurd hs.symm (wait_ne we we')
      | rest | want => exact absurd hs (idle_ne we).1
      | ungranted we' => exact absurd hs (wants_ne we' we).1
      | accept early we' =>
        cases early
        · exact absurd hs (wants_ne we' we).1
        · exact absurd hs (idle_ne we).1
    rw [hact] at ha
    exact ha.post
  · rintro t ⟨hs, hv⟩
    obtain ⟨a, ha⟩ := does r t
    refine ⟨a, ha, ?_⟩
    rw [ha.pre] at hs
    cases a with
    | await => exact absurd ((ha.sees false rfl).symm.trans hv) (by decide)
    | pass we' | buffer we' => exact congrArg some (wait0_inj hs)
    | hold we' | drain we' => exact absurd hs.symm (wait_ne we we')
    | rest | want => exact absurd hs (idle_ne we).1
    | ungranted we' => exact absurd hs (wants_ne we' we).1
    | accept early we' =>
      cases early
      · exact absurd hs (wants_ne we' we).1
      · exact absurd hs (idle_ne we).1

omit hcore in
theorem wait1_shows (we : Bool) {t : ℕ} (hs : (r.state t).state = wait1 we) : Shows r we t := by
  obtain ⟨a, ha⟩ := does r t
  refine ⟨a, ha, ?_⟩
  rw [ha.pre] at hs
  cases a with
  | hold we' | drain we' => exact congrArg some (wait1_inj hs)
  | await we' | pass we' | buffer we' => exact absurd hs (wait_ne we' we)
  | rest | want => exact absurd hs (idle_ne we).2
  | ungranted we' => exact absurd hs (wants_ne we' we).2
  | accept early we' =>
    cases early
    · exact absurd hs (wants_ne we' we).2
    · exact absurd hs (idle_ne we).2

omit hcore in
theorem idle_of_takes {t : ℕ} {a : Act} (ha : Does r t a) (htakes : a.takes.isSome = true) :
    Idle r (t+1) := by
  cases a with
  | pass | drain => exact ha.post
  | rest | want | ungranted | accept | await | buffer | hold => cases htakes

theorem shows_idle (we : Bool) : LeadsTo (Shows r we) (Idle r) := by
  cases we with
  | true =>
    refine ((LeadsTo.of_imp (fun t h => shows_write.1 h)).trans hcore.b).trans (.of_next ?_)
    intro t hbeat
    obtain ⟨a, ha⟩ := does r t
    rw [isSome_beat, Bool.and_eq_true] at hbeat
    exact idle_of_takes ha ((ha.bready ((b_valid ha).1 hbeat.1)).symm.trans hbeat.2)
  | false =>
    refine ((LeadsTo.of_imp (fun t h => shows_read.1 h)).trans hcore.r).trans (.of_next ?_)
    intro t hbeat
    obtain ⟨a, ha⟩ := does r t
    rw [isSome_beat, Bool.and_eq_true] at hbeat
    exact idle_of_takes ha ((ha.rready ((r_valid ha).1 hbeat.1)).symm.trans hbeat.2)

theorem accepts_shows (we : Bool) : LeadsTo (Accepts r we) (Shows r we) := by
  refine (LeadsTo.of_next ?_).trans (wait0_shows hcore we)
  rintro t ⟨a, ha, hacc⟩
  cases a with
  | accept early we' =>
    cases hacc
    exact ha.post
  | rest | want | ungranted | await | pass | buffer | hold | drain => cases hacc

theorem idle_again (t : ℕ) : ∃ u ≥ t, Idle r u := by
  have hwait (we : Bool) : LeadsTo (fun t => (r.state t).state = wait0 we) (Idle r) :=
    (wait0_shows hcore we).trans (shows_idle hcore we)
  have hwants (we : Bool) : LeadsTo (fun t => (r.state t).state = wants we) (Idle r) :=
    (wants_accepts hcore we).trans ((accepts_shows hcore we).trans (shows_idle hcore we))
  cases hs : (r.state t).state with
  | idle => exact ⟨t, Nat.le_refl t, hs⟩
  | read => exact hwants false t hs
  | write => exact hwants true t hs
  | readWait0 => exact hwait false t hs
  | writeWait0 => exact hwait true t hs
  | readWait1 => exact shows_idle hcore false t (wait1_shows false hs)
  | writeWait1 => exact shows_idle hcore true t (wait1_shows true hs)

/-! ## Offers that are held -/

omit hcore in
theorem idle_requests {t : ℕ} {a : Act} (ha : Does r t a) (hidle : Idle r t) :
    a.requests = if (axiPort r).ar.valid t then some false
      else if (axiPort r).aw.valid t && (axiPort r).w.valid t then some true else none := by
  have hs : (r.state t).state = .idle := hidle
  have hwe : ((corePort r).request.offer t).map Request.we = a.requests := by
    rw [ha.request, Option.map_map]
    cases a.requests <;> rfl
  have hout : ((corePort r).request.offer t).map Request.we =
      if (comb (r.state t) (r.input t)).core.req then
        some (comb (r.state t) (r.input t)).core.we else none := by
    change Option.map Request.we (if (comb (r.state t) (r.input t)).core.req then _ else none) = _
    rw [apply_ite (Option.map Request.we)]
    rfl
  rw [← hwe, hout]
  change _ = if (r.input t).axi.arvalid then some false
    else if (r.input t).axi.awvalid && (r.input t).axi.wvalid then some true else none
  cases har : (r.input t).axi.arvalid <;>
    cases haw : ((r.input t).axi.awvalid && (r.input t).axi.wvalid) <;>
    cases hg : (r.input t).core.gnt <;> simp [comb, hs, har, haw, hg]

theorem requests_accepts (we : Bool) :
    LeadsTo (fun t => ∃ a, Does r t a ∧ a.requests = some we) (Accepts r we) := by
  rintro t ⟨a, ha, hreq⟩
  cases a with
  | accept => exact ⟨t, Nat.le_refl t, _, ha, hreq⟩
  | want | ungranted =>
    cases hreq
    obtain ⟨u, hu, hacc⟩ := wants_accepts hcore we (t+1) ha.post
    exact ⟨u, by omega, hacc⟩
  | rest | await | pass | buffer | hold | drain => cases hreq

omit hcore in
theorem write_requested {t : ℕ} {a : Act} (ha : Does r t a) (hreq : a.requests = some true) :
    (r.state t).state = .write ∨ Idle r t ∧ (axiPort r).ar.valid t = false := by
  have hidle (h : Idle r t) : (axiPort r).ar.valid t = false := by
    have hfirst := idle_requests ha h
    rw [hreq] at hfirst
    cases hv : (axiPort r).ar.valid t with
    | false => rfl
    | true =>
      rw [hv] at hfirst
      cases hfirst
  cases a with
  | want => exact .inr ⟨ha.pre, hidle ha.pre⟩
  | ungranted =>
    cases hreq
    exact .inl ha.pre
  | accept early we =>
    cases hreq
    cases early
    · exact .inl ha.pre
    · exact .inr ⟨ha.pre, hidle ha.pre⟩
  | rest | await | pass | buffer | hold | drain => cases hreq

omit hcore in
/-- No write gets through while each idle cycle brings a read. -/
theorem write_starves {t : ℕ} (hstate : (r.state t).state ≠ .write)
    (hreads : ∀ u ≥ t, Idle r u → (axiPort r).ar.valid u = true) {u : ℕ} (hu : t ≤ u) :
    (r.state u).state ≠ .write ∧ ¬ Accepts r true u := by
  have hblocked {v : ℕ} {a : Act} (hv : t ≤ v) (hstate : (r.state v).state ≠ .write)
      (ha : Does r v a) : a.requests ≠ some true := by
    intro hreq
    rcases write_requested ha hreq with hs | ⟨hidle, hlow⟩
    · exact hstate hs
    · exact absurd ((hreads v hv hidle).symm.trans hlow) (by decide)
  have hnever : (r.state u).state ≠ .write := by
    induction u, hu using Nat.le_induction with
    | base => exact hstate
    | succ v hv ih =>
      intro hs
      obtain ⟨a, ha⟩ := does r v
      have hwants : (r.state (v+1)).state = wants true := hs
      exact hblocked hv ih ha (wants_from ha hwants).1
  refine ⟨hnever, ?_⟩
  rintro ⟨a, ha, hacc⟩
  refine hblocked hu hnever ha ?_
  cases a with
  | accept => exact hacc
  | rest | want | ungranted | await | pass | buffer | hold | drain => cases hacc

variable (hstable : ∀ n, (axiPort r).Stable n)
include hstable

omit hcore in
theorem accepts_read {t : ℕ} : Accepts r false t ↔ ((axiPort r).ar.beat t).isSome = true := by
  constructor
  · rintro ⟨a, ha, hacc⟩
    rw [ar_beat (hstable (t+1)) (Nat.lt_succ_self t) ha, hacc]
    rfl
  · intro hbeat
    obtain ⟨a, ha⟩ := does r t
    rw [ar_beat (hstable (t+1)) (Nat.lt_succ_self t) ha] at hbeat
    split_ifs at hbeat with hacc
    · exact ⟨a, ha, hacc⟩
    · cases hbeat

omit hcore in
theorem accepts_write {t : ℕ} : Accepts r true t ↔
    ((axiPort r).aw.beat t).isSome = true ∧ ((axiPort r).w.beat t).isSome = true := by
  rw [← paired_beats (hstable (t+1)) (Nat.lt_succ_self t), and_self]
  constructor
  · rintro ⟨a, ha, hacc⟩
    rw [aw_beat (hstable (t+1)) (Nat.lt_succ_self t) ha, hacc]
    rfl
  · intro hbeat
    obtain ⟨a, ha⟩ := does r t
    rw [aw_beat (hstable (t+1)) (Nat.lt_succ_self t) ha] at hbeat
    split_ifs at hbeat with hacc
    · exact ⟨a, ha, hacc⟩
    · cases hbeat

omit hcore in
theorem offers_held (we : Bool) {t : ℕ} (hv : channelsValid r t we = true)
    (hnever : ∀ u ≥ t, ¬ Accepts r we u) {u : ℕ} (hu : t ≤ u) : channelsValid r u we = true := by
  induction u, hu using Nat.le_induction with
  | base => exact hv
  | succ u hu ih =>
    obtain ⟨a, ha⟩ := does r u
    have hne : a.accepts ≠ some we := fun hacc => hnever u hu ⟨a, ha, hacc⟩
    cases we with
    | false =>
      have hready : ((axiPort r).slave u).arready = false := by
        rw [ha.arready, decide_eq_false hne]
      exact ((hstable (u+2)).ar u (by omega) ih hready).1
    | true =>
      have haw : ((axiPort r).slave u).awready = false := by
        rw [ha.awready, decide_eq_false hne]
      have hw : ((axiPort r).slave u).wready = false := by
        rw [ha.wready, decide_eq_false hne]
      obtain ⟨hawv, hwv⟩ := Bool.and_eq_true_iff.1 ih
      exact Bool.and_eq_true_iff.2 ⟨((hstable (u+2)).aw u (by omega) hawv haw).1,
        ((hstable (u+2)).w u (by omega) hwv hw).1⟩

theorem read_accepted :
    LeadsTo (fun t => (axiPort r).ar.valid t = true) (Accepts r false) := by
  intro t hv
  by_contra hnever
  have hnone (u : ℕ) (hu : u ≥ t) : ¬ Accepts r false u := fun h => hnever ⟨u, hu, h⟩
  obtain ⟨u, hu, hidle⟩ := idle_again hcore t
  have hheld : (axiPort r).ar.valid u = true := offers_held hstable false hv hnone hu
  obtain ⟨a, ha⟩ := does r u
  have hreq := idle_requests ha hidle
  rw [hheld, if_pos rfl] at hreq
  obtain ⟨v, hv, hacc⟩ := requests_accepts hcore false u ⟨a, ha, hreq⟩
  exact hnone v (by omega) hacc

theorem write_accepted_iff {t : ℕ} (hv : channelsValid r t true = true) :
    (∃ u ≥ t, Accepts r true u) ↔
      (r.state t).state = .write ∨ ∃ u ≥ t, Idle r u ∧ (axiPort r).ar.valid u = false := by
  constructor
  · rintro ⟨u, hu, hacc⟩
    by_contra hno
    rw [not_or] at hno
    refine (write_starves hno.1 (fun v hv hidle => ?_) hu).2 hacc
    by_contra hlow
    exact hno.2 ⟨v, hv, hidle, by simpa using hlow⟩
  · rintro (hs | ⟨u, hu, hidle, hlow⟩)
    · exact wants_accepts hcore true t hs
    · by_contra hnever
      have hheld := offers_held hstable true hv (fun v hv h => hnever ⟨v, hv, h⟩) hu
      obtain ⟨a, ha⟩ := does r u
      have hreq := idle_requests ha hidle
      change _ = if _ then _ else if channelsValid r u true = true then some true else none at hreq
      rw [hlow, if_neg (by decide), if_pos hheld] at hreq
      obtain ⟨v, hv, hacc⟩ := requests_accepts hcore true u ⟨a, ha, hreq⟩
      exact hnever ⟨v, by omega, hacc⟩

/-! ## Every transaction ends -/

omit hstable in
theorem outstanding_shows {t : ℕ} {we : Bool} (hopen : pending r t = [we]) :
    ∃ u ≥ t, Shows r we u := by
  have hstate : (r.state t).state = wait0 we ∨ (r.state t).state = wait1 we := by
    unfold pending at hopen
    cases hs : (r.state t).state <;> rw [hs] at hopen <;> cases hopen
    all_goals first | exact .inl rfl | exact .inr rfl
  rcases hstate with hs | hs
  · exact wait0_shows hcore we t hs
  · exact ⟨t, Nat.le_refl t, wait1_shows we hs⟩

omit hcore hstable in
theorem pending_of_filter {t : ℕ} {p : Bool → Bool} (h : 0 < ((pending r t).filter p).length) :
    ∃ we, p we = true ∧ pending r t = [we] := by
  obtain ⟨we, hmem⟩ := List.exists_mem_of_length_pos h
  obtain ⟨hin, hp⟩ := List.mem_filter.1 hmem
  refine ⟨we, hp, ?_⟩
  unfold pending at hin ⊢
  cases hs : (r.state t).state <;> rw [hs] at hin <;> simp at hin ⊢
  all_goals exact hin

theorem lively (hpass : WritesPass r) : (axiPort r).Lively where
  writes t := by
    have hcounts := write_count (hstable t) (Nat.le_refl t)
    have hopen := write_outstanding r t
    omega
  reads t := by
    have hcounts := read_count (hstable t) (Nat.le_refl t)
    have hopen := read_outstanding r t
    omega
  write j t := by
    rintro ⟨hcount, haw, hw⟩
    have hcounts := write_count (hstable t) (Nat.le_refl t)
    have hopen := write_outstanding r t
    have hoffered (h : (axiPort r).aw.Shown j t ∧ (axiPort r).w.Shown j t) :
        ∃ u ≥ t, Shows r true u := by
      have hv : channelsValid r t true = true := Bool.and_eq_true_iff.2 ⟨h.1.1, h.2.1⟩
      obtain ⟨u, hu, hacc⟩ := (write_accepted_iff hcore hstable hv).2 (hpass t h.1.1 h.2.1)
      obtain ⟨v, hv, hs⟩ := accepts_shows hcore true u hacc
      exact ⟨v, hu.trans hv, hs⟩
    have htaken (h : j < count (corePort r).write t) : ∃ u ≥ t, Shows r true u := by
      obtain ⟨we, hwe, hp⟩ := pending_of_filter (r := r) (t := t) (p := id) (by omega)
      rw [show we = true from hwe] at hp
      exact outstanding_shows hcore hp
    have hshown : ∃ u ≥ t, Shows r true u := by
      rcases haw with hlt | haw
      · exact htaken (hcounts.1 ▸ hlt)
      · rcases hw with hlt | hw
        · exact htaken (hcounts.2 ▸ hlt)
        · exact hoffered ⟨haw, hw⟩
    obtain ⟨u, hu, hs⟩ := hshown
    exact ⟨u, hu, shows_write.1 hs⟩
  read j t := by
    rintro ⟨hcount, hreached⟩
    have hcounts := read_count (hstable t) (Nat.le_refl t)
    have hopen := read_outstanding r t
    have hshown : ∃ u ≥ t, Shows r false u := by
      rcases hreached with hlt | hs
      · obtain ⟨we, hwe, hp⟩ := pending_of_filter (r := r) (t := t) (p := (!·)) (by omega)
        rw [show we = false by simpa using hwe] at hp
        exact outstanding_shows hcore hp
      · exact ((read_accepted hcore hstable).trans (accepts_shows hcore false)) t hs.1
    obtain ⟨u, hu, hs⟩ := hshown
    exact ⟨u, hu, shows_read.1 hs⟩

end Attended

/-- Every read gets through. A write that is offered does exactly if it waits for its grant
already, or an idle cycle comes in which no read is offered. -/
structure ReadsFirst (r : Run axi4l2core) : Prop where
  read : LeadsTo (fun t => (axiPort r).ar.valid t = true)
    (fun t => ((axiPort r).ar.beat t).isSome = true)
  write : ∀ t, (axiPort r).aw.valid t = true → (axiPort r).w.valid t = true →
    ((∃ u ≥ t, ((axiPort r).aw.beat u).isSome = true ∧ ((axiPort r).w.beat u).isSome = true) ↔
      (r.state t).state = .write ∨
        ∃ u ≥ t, (r.state u).state = .idle ∧ (axiPort r).ar.valid u = false)

theorem reads_first (r : Run axi4l2core) (hstable : ∀ n, (axiPort r).Stable n)
    (hcore : Attended r) : ReadsFirst r where
  read := (read_accepted hcore hstable).trans (.of_imp (fun _ h => (accepts_read hstable).1 h))
  write t haw hw := by
    have hiff := write_accepted_iff hcore hstable (Bool.and_eq_true_iff.2 ⟨haw, hw⟩)
    simp only [accepts_write hstable] at hiff
    exact hiff

/-- A write that is offered for ever beside a stream of reads. -/
def streamedReads : Run axi4l2core :=
  let offers : AxiMaster := ((AxiMaster.idle.withAw 0x40).withW 7 3).withAr 0x44
  let core : CoreSlave := { gnt := true, rvalid := true, rdata := 0, err := false }
  ⟨⟨.idle, .okay, .okay, 0⟩, ⟨core, offers⟩, fun _ => ⟨core, offers⟩⟩

theorem streamedReads_stable (n : ℕ) : (axiPort streamedReads).Stable n :=
  ⟨fun _ _ _ _ => ⟨rfl, rfl⟩, fun _ _ _ _ => ⟨rfl, rfl⟩, fun _ _ _ _ => ⟨rfl, rfl⟩⟩

theorem streamedReads_attended : Attended streamedReads where
  grants := .of_imp (fun t h => by
    rw [CorePort.grant, isSome_beat, h]
    rfl)
  answers t _ := ⟨t + 1, Nat.lt_succ_self t, rfl⟩
  b := .of_imp (fun t h => by
    rw [isSome_beat, h]
    rfl)
  r := .of_imp (fun t h => by
    rw [isSome_beat, h]
    rfl)

theorem streamedReads_starve : ¬ ∃ u ≥ 0, ((axiPort streamedReads).aw.beat u).isSome = true ∧
    ((axiPort streamedReads).w.beat u).isSome = true := by
  intro h
  have hfirst := reads_first streamedReads streamedReads_stable streamedReads_attended
  rcases (hfirst.write 0 rfl rfl).1 h with hs | ⟨u, -, -, hlow⟩
  · cases hs
  · cases hlow

end IbexAxi4l.Axi4l2core
