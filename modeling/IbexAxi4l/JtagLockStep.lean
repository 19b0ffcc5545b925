import IbexAxi4l.JtagDriverEdge

set_option autoImplicit false

/-!
# Driver and TAP in lock-step

At any time the periods that the TAP has been through and those that the driver is about to
take it through are the visits of the transactions in the queue.
-/
namespace IbexAxi4l.JtagDriver
open EventLog TapController

def Driver.ahead (d : Driver) : List Transaction → List Period
  | [] => []
  | x :: rest => d.remaining x ++ rest.flatMap Transaction.visit

theorem Driver.ahead_fresh {d : Driver} (hstate : d.state = .runTestIdle) (hidle : d.idle = 0)
    (seq : List Transaction) : d.ahead seq = seq.flatMap Transaction.visit := by
  cases seq with
  | nil => rfl
  | cons x rest =>
    rw [Driver.ahead, Driver.remaining, hstate, hidle]
    rfl

namespace Drive
variable {v w : Drive} {rest : List Transaction}

theorem Moves.counts_head (h : v.Moves w) {y : Transaction}
    (hy : y ∈ (if w.drv.rdy then rest else w.xaction :: rest).head?) : w.drv.Counts y := by
  cases hr : w.drv.rdy with
  | false =>
    rw [hr] at hy
    cases hy
    exact h.counts
  | true =>
    have hfresh := h.done hr
    exact .fresh hfresh.1 hfresh.2

theorem Moves.ahead (h : v.Moves w) :
    v.drv.remaining v.xaction ++ rest.flatMap Transaction.visit =
      v.drv.state.period w.top.tdi ::
        w.drv.ahead (if w.drv.rdy then rest else w.xaction :: rest) := by
  rw [h.remaining, List.cons_append]
  congr 1
  cases hr : w.drv.rdy with
  | false => rfl
  | true =>
    have hfresh := h.done hr
    exact (Driver.ahead_fresh hfresh.1 hfresh.2 rest).symm

end Drive

namespace Sim

/-- The transactions that are not done; one that is done leaves the queue in the next step. -/
def pending (s : Sim) : List Transaction := if s.drv.rdy then s.seq.tail else s.seq

/-- The periods to come. While TCK is low the present one is among them. -/
def todo (s : Sim) : List Period :=
  if s.top.tck then s.drv.ahead s.pending
  else s.tap.period s.top.tdi :: s.drv.ahead s.pending

structure Synced (s : Sim) : Prop where
  past : s.drv.pastTck = s.top.tck
  lock : s.drv.state = if s.top.tck then s.tap else s.tap.next s.top.tms
  done : s.drv.rdy = true → s.drv.state = .runTestIdle ∧ s.drv.idle = 0 ∧ s.top.tck = false
  counts : ∀ x ∈ s.pending.head?, s.drv.Counts x
  len : ∀ x ∈ s.seq, 0 < x.len.toNat

variable {s : Sim} {x : Transaction} {rest : List Transaction}

theorem Synced.rdy_of_high (h : s.Synced) (htck : s.top.tck = true) : s.drv.rdy = false := by
  cases hr : s.drv.rdy with
  | false => rfl
  | true => exact absurd ((h.done hr).2.2.symm.trans htck) Bool.false_ne_true

theorem Synced.lock_of_high (h : s.Synced) (htck : s.top.tck = true) : s.drv.state = s.tap := by
  rw [h.lock, htck]
  rfl

theorem step_fall (hseq : s.seq = x :: rest) (hpast : s.drv.pastTck = true)
    (hrdy : s.drv.rdy = false) :
    let v := Drive.assign ⟨s.drv, { s.top with tck := false }, x⟩
    s.step false = { s with
      drv := { v.drv with pastTck := false }, top := v.top, seq := v.xaction :: rest } := by
  rcases s with ⟨⟨past, rdy, bits, idle, state⟩, ⟨tck, tms, tdi⟩, tap, seq⟩
  subst hseq hpast hrdy
  cases tck <;> rfl

theorem driven_hold {tck : Bool} (hseq : s.seq ≠ []) (h : (s.drv.pastTck && !tck) = false) :
    s.driven tck = { s with
      drv := { s.drv with rdy := false, pastTck := tck }
      top := { s.top with tck := tck }
      seq := s.pending } := by
  rcases s with ⟨drv, top, tap, _ | ⟨x, rest⟩⟩
  · exact absurd rfl hseq
  · unfold driven Drive.drive pending
    dsimp only at h ⊢
    rw [h]
    rfl

theorem step_hold {tck : Bool} (hseq : s.seq ≠ []) (h : (s.drv.pastTck && !tck) = false) :
    s.step tck = {
      drv := { s.drv with rdy := false, pastTck := tck }
      top := { s.top with tck := tck }
      tap := if s.rises tck then s.tap.next s.top.tms else s.tap
      seq := s.pending } := by
  rw [step, driven_hold hseq h]

theorem period_hold {tck : Bool} (hseq : s.seq ≠ []) (h : (s.drv.pastTck && !tck) = false) :
    s.period tck = if s.rises tck then some (s.tap.period s.top.tdi) else none := by
  rw [period, driven_hold hseq h]

theorem Synced.fall (h : s.Synced) (hseq : s.seq ≠ []) (htck : s.top.tck = true) :
    (s.step false).Synced ∧ s.todo = (s.step false).todo := by
  rcases List.exists_cons_of_ne_nil hseq with ⟨x, rest, hcons⟩
  have hrdy := h.rdy_of_high htck
  have hlock := h.lock_of_high htck
  have hpending : s.pending = x :: rest := by
    rw [pending, hrdy, hcons]
    rfl
  have hcounts : s.drv.Counts x := h.counts x (by rw [hpending]; rfl)
  have hlen : ∀ y ∈ x :: rest, 0 < y.len.toNat := fun y hy => h.len y (hcons ▸ hy)
  have hmoves := Drive.assign_moves (v := ⟨s.drv, { s.top with tck := false }, x⟩) hrdy hcounts
    (hlen x List.mem_cons_self)
  have hstep := step_fall hcons (h.past.trans htck) hrdy
  generalize Drive.assign ⟨s.drv, { s.top with tck := false }, x⟩ = v at hmoves hstep
  have htck' : v.top.tck = false := hmoves.tck
  rw [hstep]
  refine ⟨⟨htck'.symm, ?_, ?_, ?_, ?_⟩, ?_⟩
  · change v.drv.state = if v.top.tck then s.tap else s.tap.next v.top.tms
    rw [htck', hmoves.state, ← hlock]
    rfl
  · exact fun hr => ⟨(hmoves.done hr).1, (hmoves.done hr).2, htck'⟩
  · exact fun y hy => ⟨(hmoves.counts_head hy).idle, (hmoves.counts_head hy).bits⟩
  · intro y hy
    rcases List.mem_cons.1 hy with rfl | hy
    · rw [hmoves.len]
      exact hlen x List.mem_cons_self
    · exact hlen y (List.mem_cons_of_mem x hy)
  · have htodo : s.todo = s.drv.remaining x ++ rest.flatMap Transaction.visit := by
      rw [todo, htck, hpending]
      rfl
    rw [htodo, hmoves.ahead, hlock]
    unfold todo pending
    dsimp only
    rw [htck', if_neg Bool.false_ne_true]
    congr 1

theorem mem_of_mem_pending {y : Transaction} (h : y ∈ s.pending) : y ∈ s.seq := by
  unfold pending at h
  cases hr : s.drv.rdy with
  | false =>
    rw [hr] at h
    exact h
  | true =>
    rw [hr] at h
    exact List.mem_of_mem_tail h

theorem Synced.hold (h : s.Synced) (hseq : s.seq ≠ []) {tck : Bool}
    (htck : (s.top.tck && !tck) = false) :
    (s.step tck).Synced ∧ s.todo = (s.period tck).toList ++ (s.step tck).todo := by
  have hquiet : (s.drv.pastTck && !tck) = false := by
    rw [h.past]
    exact htck
  have hahead : Driver.ahead { s.drv with rdy := false, pastTck := tck } s.pending =
      s.drv.ahead s.pending := by
    cases s.pending <;> rfl
  rw [step_hold hseq hquiet, period_hold hseq hquiet]
  refine ⟨⟨rfl, ?_, nofun, ?_, ?_⟩, ?_⟩
  · have hlock := h.lock
    unfold rises
    cases htop : s.top.tck with
    | false =>
      rw [htop] at hlock
      cases tck with
      | false => exact hlock
      | true => exact hlock
    | true =>
      rw [htop] at hlock htck
      cases tck with
      | false => cases htck
      | true => exact hlock
  · exact fun y hy => ⟨(h.counts y hy).idle, (h.counts y hy).bits⟩
  · exact fun y hy => h.len y (mem_of_mem_pending hy)
  · unfold todo rises
    cases htop : s.top.tck with
    | false =>
      cases tck with
      | false => exact congrArg (List.cons _) hahead.symm
      | true => exact congrArg (List.cons _) hahead.symm
    | true =>
      rw [htop] at htck
      cases tck with
      | false => cases htck
      | true => exact hahead.symm

theorem Synced.step (h : s.Synced) (hseq : s.seq ≠ []) (tck : Bool) :
    (s.step tck).Synced ∧ s.todo = (s.period tck).toList ++ (s.step tck).todo := by
  cases htck : s.top.tck && !tck with
  | false => exact h.hold hseq htck
  | true =>
    rw [Bool.and_eq_true, Bool.not_eq_true'] at htck
    rcases htck with ⟨htop, rfl⟩
    have hperiod : s.period false = none := by
      unfold period rises
      rw [Bool.and_false]
      rfl
    rw [hperiod]
    exact h.fall hseq htop

/-! ## Runs -/

/-- The transactions in the queue last for `n` steps. -/
def Busy (s : Sim) (tck : ℕ → Bool) (n : ℕ) : Prop := ∀ t < n, (s.run tck t).seq ≠ []

theorem Busy.mono {tck : ℕ → Bool} {m n : ℕ} (h : s.Busy tck n) (hmn : m ≤ n) : s.Busy tck m :=
  fun t ht => h t (Nat.lt_of_lt_of_le ht hmn)

theorem Synced.run (h : s.Synced) {tck : ℕ → Bool} {n : ℕ} (hbusy : s.Busy tck n) :
    (s.run tck n).Synced ∧ s.todo = log (s.periods tck) n ++ (s.run tck n).todo := by
  induction n with
  | zero => exact ⟨h, rfl⟩
  | succ n ih =>
    rcases ih (hbusy.mono (Nat.le_succ n)) with ⟨hn, hlog⟩
    rcases hn.step (hbusy n (Nat.lt_succ_self n)) (tck n) with ⟨hstep, htodo⟩
    refine ⟨hstep, ?_⟩
    rw [hlog, htodo, log_succ, List.append_assoc]
    rfl

end Sim

def Bench.level (b : Bench) (level : Bool) : Sim :=
  { b.start with drv := { b.start.drv with pastTck := level }, top.tck := level }

theorem Bench.level_synced (b : Bench) (level : Bool) : (b.level level).Synced where
  past := rfl
  lock := by cases level <;> rfl
  done := nofun
  counts _ _ := .fresh rfl rfl
  len x hx := (b.fits x hx).1

theorem Bench.level_todo (b : Bench) (level : Bool) : ∃ early ≤ 1, (b.level level).todo =
    List.replicate early .idle ++ b.seq.flatMap Transaction.visit := by
  have hahead : (b.level level).drv.ahead b.seq = b.seq.flatMap Transaction.visit :=
    Driver.ahead_fresh rfl rfl b.seq
  cases level with
  | false => exact ⟨1, Nat.le_refl 1, congrArg (List.cons Period.idle) hahead⟩
  | true => exact ⟨0, Nat.zero_le 1, hahead⟩

theorem Bench.first_step (b : Bench) (tck : Bool) : ∃ level, b.seq ≠ [] →
    b.start.step tck = (b.level level).step tck ∧
    b.start.period tck = (b.level level).period tck := by
  refine ⟨if tck then b.tck else b.pastTck, fun hseq => ?_⟩
  rcases b with ⟨_ | ⟨x, rest⟩, hfits, past, bits, level, tdi⟩
  · exact absurd rfl hseq
  · cases tck <;> cases past <;> cases level <;> exact ⟨rfl, rfl⟩

theorem Bench.runs (b : Bench) (tck : ℕ → Bool) : ∃ level, b.seq ≠ [] →
    (∀ n, b.start.run tck (n+1) = (b.level level).run tck (n+1)) ∧
    b.start.periods tck = (b.level level).periods tck := by
  rcases b.first_step (tck 0) with ⟨level, hfirst⟩
  refine ⟨level, fun hseq => ?_⟩
  rcases hfirst hseq with ⟨hstep, hperiod⟩
  have hrun : ∀ n, b.start.run tck (n+1) = (b.level level).run tck (n+1) := by
    intro n
    induction n with
    | zero => exact hstep
    | succ n ih => exact congrArg (fun s => s.step (tck (n+1))) ih
  refine ⟨hrun, ?_⟩
  funext n
  cases n with
  | zero => exact hperiod
  | succ n => exact congrArg (fun s => s.period (tck (n+1))) (hrun n)

/-! ## The law -/

/-- The TAP has been through the first periods of the plan and is in the next one. When the
queue is empty, only the edge that leaves the last period may be missing. -/
structure OnPlan (plan : List Period) (s : Sim) (seen : List Period) : Prop where
  through : seen <+: plan
  present : ∀ p ∈ plan[seen.length]?, s.tap = p.state
  finished : s.seq = [] → plan.length ≤ seen.length + 1

theorem Driver.remaining_cons {d : Driver} {x : Transaction} (hcounts : d.Counts x)
    (hlen : 0 < x.len.toNat) : ∃ tdi later, d.remaining x = d.state.period tdi :: later := by
  have hmoves := Drive.assign_moves (v := ⟨{ d with rdy := false }, ⟨false, false, false⟩, x⟩)
    rfl ⟨hcounts.idle, hcounts.bits⟩ hlen
  exact ⟨_, _, hmoves.remaining⟩

theorem Sim.Synced.present {s : Sim} (h : s.Synced) : ∀ p ∈ s.todo.head?, s.tap = p.state := by
  intro p hp
  unfold Sim.todo at hp
  cases htck : s.top.tck with
  | false =>
    rw [htck] at hp
    cases hp
    rfl
  | true =>
    rw [htck] at hp
    cases hpending : s.pending with
    | nil =>
      rw [hpending] at hp
      cases hp
    | cons x rest =>
      have hx : x ∈ s.pending := by
        rw [hpending]
        exact List.mem_cons_self
      have hcounts : s.drv.Counts x := h.counts x (by rw [hpending]; rfl)
      rcases Driver.remaining_cons hcounts (h.len x (Sim.mem_of_mem_pending hx))
        with ⟨tdi, later, hremaining⟩
      rw [hpending, Driver.ahead, hremaining] at hp
      cases hp
      exact (h.lock_of_high htck).symm

theorem Sim.todo_of_empty {s : Sim} (hseq : s.seq = []) : s.todo.length ≤ 1 := by
  have hpending : s.pending = [] := by
    unfold Sim.pending
    rw [hseq]
    cases s.drv.rdy <;> rfl
  unfold Sim.todo
  rw [hpending]
  cases s.top.tck with
  | false => exact Nat.le_refl 1
  | true => exact Nat.zero_le 1

theorem Sim.Synced.onPlan {s : Sim} (h : s.Synced) (seen : List Period) :
    OnPlan (seen ++ s.todo) s seen where
  through := List.prefix_append seen s.todo
  present p hp := by
    rw [List.getElem?_append_right (Nat.le_refl _), Nat.sub_self, ← List.head?_eq_getElem?] at hp
    exact h.present p hp
  finished hseq := by
    rw [List.length_append]
    exact Nat.add_le_add_left (Sim.todo_of_empty hseq) _

theorem Bench.run_synced (b : Bench) (tck : ℕ → Bool) : ∃ early ≤ 1,
    ∀ n, b.start.Busy tck n →
      OnPlan (List.replicate early .idle ++ b.seq.flatMap Transaction.visit) (b.start.run tck n)
        (log (b.start.periods tck) n) ∧
      (0 < n → (b.start.run tck n).Synced) := by
  rcases b.runs tck with ⟨level, hruns⟩
  rcases b.level_todo level with ⟨early, hearly, htodo⟩
  have hlevel := b.level_synced level
  refine ⟨early, hearly, ?_⟩
  intro n hbusy
  rw [← htodo]
  cases n with
  | zero =>
    have hon := hlevel.onPlan []
    exact ⟨⟨hon.through, hon.present, hon.finished⟩, fun h => absurd h (Nat.lt_irrefl 0)⟩
  | succ n =>
    have hseq : b.seq ≠ [] := hbusy 0 (Nat.succ_pos n)
    rcases hruns hseq with ⟨hrun, hperiods⟩
    have hsame : (b.level level).Busy tck (n+1) := by
      intro t ht
      cases t with
      | zero => exact hseq
      | succ t =>
        rw [← hrun t]
        exact hbusy (t+1) ht
    rcases hlevel.run hsame with ⟨hsynced, hplan⟩
    rw [hplan, hperiods, hrun n]
    exact ⟨hsynced.onPlan _, fun _ => hsynced⟩

/-- TCK is low now and was high, for all that the driver or `eval` saw of it. -/
def Sim.falls (s : Sim) (tck : Bool) : Bool := (s.drv.pastTck || s.top.tck) && !tck

theorem Sim.Synced.lock_of_falls {s : Sim} (h : s.Synced) {tck : Bool}
    (hfalls : s.falls tck = true) : s.drv.state = s.tap := by
  unfold Sim.falls at hfalls
  rw [h.past, Bool.or_self, Bool.and_eq_true] at hfalls
  exact h.lock_of_high hfalls.1

/-- The driver is in step with the TAP at every falling edge, and takes it through the visits of
the transactions, in order and each of them once, after at most one more idle period. -/
structure LockStep (b : Bench) (tck : ℕ → Bool) : Prop where
  lock : ∀ n, b.start.Busy tck (n+1) → (b.start.run tck n).falls (tck n) = true →
    (b.start.run tck n).drv.state = (b.start.run tck n).tap
  visits : ∃ early ≤ 1, ∀ n, b.start.Busy tck n →
    OnPlan (List.replicate early .idle ++ b.seq.flatMap Transaction.visit) (b.start.run tck n)
      (log (b.start.periods tck) n)
  delivered : ∀ n, b.start.Busy tck n →
    received [] (log (b.start.periods tck) n) <+: b.seq.map (fun x => (x.path, x.sent))
  drains : (∀ m, ∃ n ≥ m, tck n = false ∧ tck (n+1) = true) →
    ∃ n, b.start.Busy tck n ∧ (b.start.run tck n).seq = []

theorem Sim.Synced.isSome_period {s : Sim} (h : s.Synced) (hpast : s.drv.pastTck = false) :
    (s.period true).isSome = true := by
  unfold Sim.period Sim.rises
  rw [← h.past, hpast]
  rfl

theorem Sim.past_step {s : Sim} (hseq : s.seq ≠ []) (tck : Bool) :
    (s.step tck).drv.pastTck = tck := by
  rcases s with ⟨drv, top, tap, _ | ⟨x, rest⟩⟩
  · exact absurd rfl hseq
  · rfl

theorem Bench.drains (b : Bench) {tck : ℕ → Bool}
    (hrises : ∀ m, ∃ n ≥ m, tck n = false ∧ tck (n+1) = true) :
    ∃ n, b.start.Busy tck n ∧ (b.start.run tck n).seq = [] := by
  by_contra hnone
  have hbusy : ∀ n, b.start.Busy tck n := by
    intro n t ht
    induction t using Nat.strong_induction_on with
    | _ t ih =>
      intro hempty
      exact hnone ⟨t, fun u hu => ih u hu (hu.trans ht), hempty⟩
  rcases b.run_synced tck with ⟨early, _, hrun⟩
  have hedges : ∀ m, ∃ n ≥ m, (b.start.periods tck n).isSome = true := by
    intro m
    rcases hrises m with ⟨n, hn, hlow, hhigh⟩
    have hpast : (b.start.run tck (n+1)).drv.pastTck = false := by
      rw [← hlow]
      exact Sim.past_step (hbusy (n+1) n (Nat.lt_succ_self n)) (tck n)
    refine ⟨n + 1, Nat.le_succ_of_le hn, ?_⟩
    unfold Sim.periods
    rw [hhigh]
    exact ((hrun (n+1) (hbusy (n+1))).2 (Nat.succ_pos n)).isSome_period hpast
  rcases exists_le_count hedges
    ((List.replicate early Period.idle ++ b.seq.flatMap Transaction.visit).length + 1) with ⟨n, hn⟩
  have hlength := (hrun n (hbusy n)).1.through.length_le
  exact absurd (hn.trans hlength) (Nat.not_succ_le_self _)

theorem Bench.main_drains (b : Bench) :
    ∃ n, b.start.Busy mainTck n ∧ (b.start.run mainTck n).seq = [] := b.drains mainTck_rises

theorem lock_step (b : Bench) (tck : ℕ → Bool) : LockStep b tck := by
  rcases b.run_synced tck with ⟨early, hearly, hrun⟩
  refine ⟨?_, ⟨early, hearly, fun n h => (hrun n h).1⟩, ?_, b.drains⟩
  · intro n hbusy hfalls
    cases n with
    | zero => rfl
    | succ n =>
      have hsynced := (hrun (n+1) (hbusy.mono (Nat.le_succ _))).2 (Nat.succ_pos n)
      exact hsynced.lock_of_falls hfalls
  · intro n hbusy
    have hprefix := received_prefix [] (hrun n hbusy).1.through
    rw [received_idle, Transaction.received_visits] at hprefix
    exact hprefix

end IbexAxi4l.JtagDriver
