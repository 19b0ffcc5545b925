import IbexAxi4l.EventLog
import IbexAxi4l.Journal

set_option autoImplicit false

/-!
# Programs that load and store on a bus

A program is the tree of its accesses. `Exec` runs it on a stream that says which access takes
place in which clock cycle, `eval` computes it for a given schedule of the accesses, and `wp`
is what has to hold of a device so that a program leaves it as wanted.
-/
namespace IbexAxi4l.BusProgram
open EventLog Journal

/-- A program over addresses `A` and data `D`. `doWhile body k` repeats its body until that
returns a value, and goes on with it. -/
inductive Prog (A D : Type) : Type → Type 1
  | ret {α : Type} (x : α) : Prog A D α
  | load {α : Type} (a : A) (k : D → Prog A D α) : Prog A D α
  | store {α : Type} (a : A) (d : D) (k : Prog A D α) : Prog A D α
  | doWhile {α β : Type} (body : Prog A D (Option β)) (k : β → Prog A D α) : Prog A D α

inductive Access (A D : Type) where
  | load (a : A) (d : D)
  | store (a : A) (d : D)
  deriving DecidableEq

variable {A D σ : Type} {α β : Type}

def Access.addr : Access A D → A
  | .load a _ | .store a _ => a

def Prog.bind {α β : Type} : Prog A D α → (α → Prog A D β) → Prog A D β
  | .ret x, f => f x
  | .load a k, f => .load a (fun d => (k d).bind f)
  | .store a d k, f => .store a d (k.bind f)
  | .doWhile body k, f => .doWhile body (fun b => (k b).bind f)

instance : Monad (Prog A D) where
  pure := .ret
  bind := .bind

def Prog.read (a : A) : Prog A D D := .load a .ret
def Prog.write (a : A) (d : D) : Prog A D Unit := .store a d (.ret ())
def Prog.loop (body : Prog A D (Option β)) : Prog A D β := .doWhile body .ret

/-- The program runs from cycle `s` to cycle `e` and returns `x`. In each cycle between them it
either makes its next access or waits. -/
inductive Exec (ops : ℕ → Option (Access A D)) :
    {α : Type} → Prog A D α → ℕ → ℕ → α → Prop
  | ret {α : Type} {s : ℕ} {x : α} : Exec ops (.ret x) s s x
  | wait {α : Type} {p : Prog A D α} {s e : ℕ} {x : α} :
      ops s = none → Exec ops p (s+1) e x → Exec ops p s e x
  | load {α : Type} {a : A} {d : D} {k : D → Prog A D α} {s e : ℕ} {x : α} :
      ops s = some (.load a d) → Exec ops (k d) (s+1) e x → Exec ops (.load a k) s e x
  | store {α : Type} {a : A} {d : D} {k : Prog A D α} {s e : ℕ} {x : α} :
      ops s = some (.store a d) → Exec ops k (s+1) e x → Exec ops (.store a d k) s e x
  | again {α β : Type} {body : Prog A D (Option β)} {k : β → Prog A D α} {s m e : ℕ} {x : α} :
      Exec ops body s m none → Exec ops (.doWhile body k) m e x →
      Exec ops (.doWhile body k) s e x
  | done {α β : Type} {body : Prog A D (Option β)} {k : β → Prog A D α} {s m e : ℕ} {b : β}
      {x : α} : Exec ops body s m (some b) → Exec ops (k b) m e x →
      Exec ops (.doWhile body k) s e x

/-! ## What a program does to a device -/

/-- A device as a program sees it: what a load may return, and what an access changes. -/
structure Device (A D σ : Type) where
  answers : σ → A → D → Prop
  step : Access A D → σ → σ

/-- Whatever the loads return, the program ends only in states with `post`. A loop needs an
invariant. -/
def wp (dev : Device A D σ) : {α : Type} → Prog A D α → (α → σ → Prop) → σ → Prop
  | _, .ret x, post, v => post x v
  | _, .load a k, post, v => ∀ d, dev.answers v a d → wp dev (k d) post (dev.step (.load a d) v)
  | _, .store a d k, post, v => wp dev k post (dev.step (.store a d) v)
  | _, .doWhile body k, post, v => ∃ inv : σ → Prop, inv v ∧ ∀ u, inv u →
      wp dev body (fun o u' => o.elim (inv u') (fun b => wp dev (k b) post u')) u

structure Tracks (dev : Device A D σ) (ops : ℕ → Option (Access A D)) (view : ℕ → σ) : Prop where
  follows : Follows dev.step ops view
  loads : ∀ t a d, ops t = some (.load a d) → dev.answers (view t) a d

section Wp
variable (dev : Device A D σ)

@[simp] theorem wp_pure (x : α) (post : α → σ → Prop) (v : σ) :
    wp dev (pure x) post v ↔ post x v := Iff.rfl

@[simp] theorem wp_read (a : A) (post : D → σ → Prop) (v : σ) : wp dev (.read a) post v ↔
    ∀ d, dev.answers v a d → post d (dev.step (.load a d) v) := Iff.rfl

@[simp] theorem wp_write (a : A) (d : D) (post : Unit → σ → Prop) (v : σ) :
    wp dev (.write a d) post v ↔ post () (dev.step (.store a d) v) := Iff.rfl

theorem wp_loop (body : Prog A D (Option β)) (post : β → σ → Prop) (v : σ) :
    wp dev (.loop body) post v ↔ ∃ inv : σ → Prop, inv v ∧
      ∀ u, inv u → wp dev body (fun o u' => o.elim (inv u') (fun b => post b u')) u := Iff.rfl

@[simp] theorem wp_bind (p : Prog A D α) (f : α → Prog A D β) (post : β → σ → Prop) (v : σ) :
    wp dev (p >>= f) post v ↔ wp dev p (fun x u => wp dev (f x) post u) v := by
  change wp dev (p.bind f) post v ↔ _
  induction p generalizing v with
  | ret x => exact Iff.rfl
  | load a k ih => exact forall_congr' fun d => imp_congr_right fun _ => ih d f _
  | store a d k ih => exact ih f _
  | doWhile body k _ ih =>
    unfold Prog.bind wp
    simp only [ih]

end Wp

/-- A program that runs on the bus does to the device what `wp` says. -/
theorem Exec.sound {dev : Device A D σ} {ops : ℕ → Option (Access A D)} {view : ℕ → σ}
    (hdev : Tracks dev ops view) {p : Prog A D α} {s e : ℕ} {x : α} (h : Exec ops p s e x)
    (post : α → σ → Prop) (hwp : wp dev p post (view s)) : post x (view e) := by
  induction h with
  | ret => exact hwp
  | wait hnone _ ih =>
    apply ih post
    rw [hdev.follows.idle hnone]
    exact hwp
  | load hload _ ih =>
    apply ih post
    rw [hdev.follows.commit hload]
    exact hwp _ (hdev.loads _ _ _ hload)
  | store hstore _ ih =>
    apply ih post
    rw [hdev.follows.commit hstore]
    exact hwp
  | again _ _ ih ih' =>
    rcases hwp with ⟨inv, hinv, hbody⟩
    exact ih' post ⟨inv, ih _ (hbody _ hinv), hbody⟩
  | done _ _ ih ih' =>
    rcases hwp with ⟨inv, hinv, hbody⟩
    exact ih' post (ih _ (hbody _ hinv))

/-! ## Evaluation on a schedule -/

structure Schedule where
  cycle : ℕ → ℕ
  increasing : ∀ n, cycle n < cycle (n+1)

theorem Schedule.lt (sched : Schedule) {n m : ℕ} (h : n < m) : sched.cycle n < sched.cycle m := by
  induction m, h using Nat.le_induction with
  | base => exact sched.increasing n
  | succ m _ ih => exact ih.trans (sched.increasing m)

section CycleOf
variable {e : ℕ → Option α}

open Classical in
noncomputable def cycleOf (e : ℕ → Option α) : ℕ → ℕ
  | 0 => if h : ∃ t x, Nth e 0 t x then h.choose else 0
  | n + 1 => if h : ∃ t x, Nth e (n+1) t x then h.choose else cycleOf e n + 1

theorem cycleOf_eq {n t : ℕ} {x : α} (h : Nth e n t x) : cycleOf e n = t := by
  have hevent : ∃ t x, Nth e n t x := ⟨t, x, h⟩
  rcases hevent.choose_spec with ⟨y, hy⟩
  have htime := hy.time_unique h
  cases n with
  | zero =>
    rw [cycleOf, dif_pos hevent]
    exact htime
  | succ n =>
    rw [cycleOf, dif_pos hevent]
    exact htime

theorem cycleOf_lt (n : ℕ) : cycleOf e n < cycleOf e (n+1) := by
  by_cases h : ∃ t x, Nth e (n+1) t x
  · rcases h with ⟨t, x, hx⟩
    have hn : n < count e t := by
      rw [hx.index]
      exact Nat.lt_succ_self n
    rcases exists_nth hn with ⟨s, hs, y, hy⟩
    rw [cycleOf_eq hx, cycleOf_eq hy]
    exact hs
  · have hnext : cycleOf e (n+1) = cycleOf e n + 1 := dif_neg h
    rw [hnext]
    exact Nat.lt_succ_self _

end CycleOf

noncomputable def Schedule.of (e : ℕ → Option α) : Schedule := ⟨cycleOf e, cycleOf_lt⟩

def repeatStep {β : Type} (step : ℕ → Option (Option β × ℕ)) : ℕ → ℕ → Option (β × ℕ)
  | 0, _ => none
  | fuel + 1, n => (step n).bind (fun (o, m) =>
      o.elim (repeatStep step fuel m) (fun b => some (b, m)))

/-- The value that the program returns and the number of its accesses, counted from `n` on.
`answer t a` is what address `a` reads as in cycle `t`; no loop is repeated more than `fuel`
times. -/
def Prog.eval (answer : ℕ → A → D) (sched : Schedule) (fuel : ℕ) :
    {α : Type} → Prog A D α → ℕ → Option (α × ℕ)
  | _, .ret x, n => some (x, n)
  | _, .load a k, n => (k (answer (sched.cycle n) a)).eval answer sched fuel (n+1)
  | _, .store _ _ k, n => k.eval answer sched fuel (n+1)
  | _, .doWhile body k, n => (repeatStep (body.eval answer sched fuel) fuel n).bind
      (fun (b, m) => (k b).eval answer sched fuel m)

section Eval
variable {answer : ℕ → A → D} {sched : Schedule}

theorem repeatStep_mono {step step' : ℕ → Option (Option β × ℕ)}
    (hstep : ∀ n y, step n = some y → step' n = some y) {fuel fuel' n : ℕ} {y : β × ℕ}
    (hfuel : fuel ≤ fuel') (h : repeatStep step fuel n = some y) :
    repeatStep step' fuel' n = some y := by
  induction fuel generalizing fuel' n with
  | zero => exact absurd h (by simp [repeatStep])
  | succ fuel ih =>
    obtain ⟨more, rfl⟩ : ∃ more, fuel' = more + 1 := ⟨fuel' - 1, by omega⟩
    unfold repeatStep at h ⊢
    rcases hn : step n with _ | ⟨o, m⟩
    · simp [hn] at h
    · rw [hn] at h
      rw [hstep n _ hn]
      cases o with
      | none => exact ih (by omega) h
      | some b => exact h

theorem repeatStep_last {step : ℕ → Option (Option β × ℕ)} {inv : ℕ → Prop}
    (hinv : ∀ n m, inv n → step n = some (none, m) → inv m) {fuel n m : ℕ} {b : β} (hn : inv n)
    (h : repeatStep step fuel n = some (b, m)) : ∃ l, inv l ∧ step l = some (some b, m) := by
  induction fuel generalizing n with
  | zero => exact absurd h (by simp [repeatStep])
  | succ fuel ih =>
    unfold repeatStep at h
    rcases hstep : step n with _ | ⟨o, l⟩
    · simp [hstep] at h
    · rw [hstep] at h
      cases o with
      | none => exact ih (hinv n l hn hstep) h
      | some c =>
        have hlast : some (c, l) = some (b, m) := h
        refine ⟨n, hn, ?_⟩
        simp only [Option.some.injEq, Prod.mk.injEq] at hlast
        rw [hstep, hlast.1, hlast.2]

theorem eval_mono (p : Prog A D α) {fuel fuel' n : ℕ} {y : α × ℕ} (hfuel : fuel ≤ fuel')
    (h : p.eval answer sched fuel n = some y) : p.eval answer sched fuel' n = some y := by
  induction p generalizing n with
  | ret x => exact h
  | load a k ih => exact ih _ h
  | store a d k ih => exact ih h
  | doWhile body k ihbody ih =>
    unfold Prog.eval at h ⊢
    rcases hbody : repeatStep (body.eval answer sched fuel) fuel n with _ | ⟨b, m⟩
    · simp [hbody] at h
    · rw [hbody] at h
      rw [repeatStep_mono (fun _ _ hy => ihbody hy) hfuel hbody]
      exact ih b h

theorem eval_again {body : Prog A D (Option β)} {k : β → Prog A D α} {fuel fuel' n m : ℕ}
    {y : α × ℕ} (hbody : body.eval answer sched fuel n = some (none, m))
    (hrest : (Prog.doWhile body k).eval answer sched fuel' m = some y) :
    (Prog.doWhile body k).eval answer sched (fuel + fuel' + 1) n = some y := by
  unfold Prog.eval at hrest
  rcases hloop : repeatStep (body.eval answer sched fuel') fuel' m with _ | ⟨b, l⟩
  · simp [hloop] at hrest
  rw [hloop] at hrest
  have hfirst := eval_mono body (show fuel ≤ fuel + fuel' + 1 by omega) hbody
  have hmore : repeatStep (body.eval answer sched (fuel + fuel' + 1)) (fuel + fuel') m =
      some (b, l) :=
    repeatStep_mono (fun _ _ hy => eval_mono body (by omega) hy) (by omega) hloop
  unfold Prog.eval repeatStep
  rw [hfirst]
  simp only [Option.bind_some, Option.elim_none]
  rw [hmore]
  exact eval_mono (k b) (by omega) hrest

theorem eval_done {body : Prog A D (Option β)} {k : β → Prog A D α} {fuel fuel' n m : ℕ} {b : β}
    {y : α × ℕ} (hbody : body.eval answer sched fuel n = some (some b, m))
    (hrest : (k b).eval answer sched fuel' m = some y) :
    (Prog.doWhile body k).eval answer sched (fuel + fuel' + 1) n = some y := by
  have hfirst := eval_mono body (show fuel ≤ fuel + fuel' + 1 by omega) hbody
  unfold Prog.eval repeatStep
  rw [hfirst]
  exact eval_mono (k b) (by omega) hrest

/-- A program that runs on the bus is evaluated to the same value. -/
theorem Exec.eval {ops : ℕ → Option (Access A D)} {p : Prog A D α} {s e : ℕ} {x : α}
    (h : Exec ops p s e x) (hanswer : ∀ t a d, ops t = some (.load a d) → d = answer t a) :
    ∃ fuel, p.eval answer (.of ops) fuel (count ops s) = some (x, count ops e) := by
  induction h with
  | ret => exact ⟨0, rfl⟩
  | wait hnone _ ih =>
    rw [count_succ_none hnone] at ih
    exact ih
  | @load _ a d k s e x hload _ ih =>
    rcases ih with ⟨fuel, ih⟩
    have hcycle : (Schedule.of ops).cycle (count ops s) = s := cycleOf_eq ⟨hload, rfl⟩
    rw [count_succ_some hload] at ih
    refine ⟨fuel, ?_⟩
    unfold Prog.eval
    rw [hcycle, ← hanswer s a d hload]
    exact ih
  | store hstore _ ih =>
    rcases ih with ⟨fuel, ih⟩
    rw [count_succ_some hstore] at ih
    exact ⟨fuel, ih⟩
  | again _ _ ih ih' =>
    rcases ih with ⟨fuel, hbody⟩
    rcases ih' with ⟨fuel', hrest⟩
    exact ⟨fuel + fuel' + 1, eval_again hbody hrest⟩
  | done _ _ ih ih' =>
    rcases ih with ⟨fuel, hbody⟩
    rcases ih' with ⟨fuel', hrest⟩
    exact ⟨fuel + fuel' + 1, eval_done hbody hrest⟩

end Eval

/-! ## Execution by number -/

/-- The program makes the accesses `k` to `k' - 1` and returns `x`. `does j` says what access
`j` is, and what a load returned. -/
inductive Numbered (does : ℕ → Access A D → Prop) :
    {α : Type} → Prog A D α → ℕ → ℕ → α → Prop
  | ret {α : Type} {k : ℕ} {x : α} : Numbered does (.ret x) k k x
  | load {α : Type} {a : A} {d : D} {f : D → Prog A D α} {k k' : ℕ} {x : α} :
      does k (.load a d) → Numbered does (f d) (k+1) k' x → Numbered does (.load a f) k k' x
  | store {α : Type} {a : A} {d : D} {p : Prog A D α} {k k' : ℕ} {x : α} :
      does k (.store a d) → Numbered does p (k+1) k' x → Numbered does (.store a d p) k k' x
  | again {α β : Type} {body : Prog A D (Option β)} {f : β → Prog A D α} {k l k' : ℕ} {x : α} :
      Numbered does body k l none → Numbered does (.doWhile body f) l k' x →
      Numbered does (.doWhile body f) k k' x
  | done {α β : Type} {body : Prog A D (Option β)} {f : β → Prog A D α} {k l k' : ℕ} {b : β}
      {x : α} : Numbered does body k l (some b) → Numbered does (f b) l k' x →
      Numbered does (.doWhile body f) k k' x

section Numbered
variable {does : ℕ → Access A D → Prop} {p : Prog A D α} {k k' : ℕ} {x : α}

theorem Numbered.made (h : Numbered does p k k' x) {j : ℕ} (hj : k ≤ j) (hj' : j < k') :
    ∃ y, does j y := by
  induction h with
  | ret => omega
  | @load _ a d _ k _ _ hload _ ih =>
    by_cases hk : j = k
    · exact ⟨_, hk ▸ hload⟩
    · exact ih (by omega) hj'
  | @store _ a d _ k _ _ hstore _ ih =>
    by_cases hk : j = k
    · exact ⟨_, hk ▸ hstore⟩
    · exact ih (by omega) hj'
  | @again _ _ _ _ k l _ _ _ _ ih ih' =>
    by_cases hl : j < l
    · exact ih hj hl
    · exact ih' (by omega) hj'
  | @done _ _ _ _ k l _ _ _ _ _ ih ih' =>
    by_cases hl : j < l
    · exact ih hj hl
    · exact ih' (by omega) hj'

theorem Numbered.eval {answer : ℕ → A → D} {sched : Schedule}
    (hanswer : ∀ j a d, does j (.load a d) → d = answer (sched.cycle j) a)
    (h : Numbered does p k k' x) : ∃ fuel, p.eval answer sched fuel k = some (x, k') := by
  induction h with
  | ret => exact ⟨0, rfl⟩
  | @load _ a d _ k _ _ hload _ ih =>
    obtain ⟨fuel, ih⟩ := ih
    refine ⟨fuel, ?_⟩
    unfold Prog.eval
    rw [← hanswer k a d hload]
    exact ih
  | store _ _ ih => exact ih
  | again _ _ ih ih' =>
    obtain ⟨fuel, hbody⟩ := ih
    obtain ⟨fuel', hrest⟩ := ih'
    exact ⟨fuel + fuel' + 1, eval_again hbody hrest⟩
  | done _ _ ih ih' =>
    obtain ⟨fuel, hbody⟩ := ih
    obtain ⟨fuel', hrest⟩ := ih'
    exact ⟨fuel + fuel' + 1, eval_done hbody hrest⟩

end Numbered

open Classical in
noncomputable def pick (happens : ℕ → ℕ → Prop) : ℕ → ℕ
  | 0 => if h : ∃ t, happens 0 t then h.choose else 0
  | j + 1 => if h : ∃ t, happens (j+1) t then h.choose else pick happens j + 1

theorem pick_spec {happens : ℕ → ℕ → Prop} {j t : ℕ} (h : happens j t) :
    happens j (pick happens j) := by
  have hex : ∃ t, happens j t := ⟨t, h⟩
  cases j with
  | zero =>
    rw [pick, dif_pos hex]
    exact hex.choose_spec
  | succ j =>
    rw [pick, dif_pos hex]
    exact hex.choose_spec

theorem exists_schedule {happens : ℕ → ℕ → Prop}
    (hearlier : ∀ j t, happens (j+1) t → ∃ s, happens j s)
    (hlt : ∀ j s t, happens j s → happens (j+1) t → s < t) :
    ∃ sched : Schedule, ∀ j t, happens j t → happens j (sched.cycle j) := by
  refine ⟨⟨pick happens, fun j => ?_⟩, fun j t h => pick_spec h⟩
  by_cases h : ∃ t, happens (j+1) t
  · obtain ⟨t, ht⟩ := h
    obtain ⟨s, hs⟩ := hearlier j t ht
    exact hlt j _ _ (pick_spec hs) (pick_spec ht)
  · have hnext : pick happens (j+1) = pick happens j + 1 := dif_neg h
    omega

end IbexAxi4l.BusProgram
