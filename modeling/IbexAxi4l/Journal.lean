import Mathlib.Data.List.Induction
import IbexAxi4l.EventLog

set_option autoImplicit false

/-!
# State that follows a stream of commits

Between two commits the state stays as it is, so it is the fold of the log, and a part of it
that a commit either sets or leaves alone has the value set last.
-/
namespace IbexAxi4l.Journal
open EventLog

variable {α β σ : Type}

/-- `x` changes by `store` in the cycles with a commit, and in no other. -/
def Follows (store : α → σ → σ) (commit : ℕ → Option α) (x : ℕ → σ) : Prop :=
  ∀ t, x (t+1) = (commit t).elim (x t) (fun c => store c (x t))

def fold (store : α → σ → σ) (start : σ) (cs : List α) : σ := cs.foldl (fun s c => store c s) start

def latest (put : α → Option β) (cs : List α) : Option β := (cs.filterMap put).getLast?

theorem fold_snoc (store : α → σ → σ) (start : σ) (cs : List α) (c : α) :
    fold store start (cs ++ [c]) = store c (fold store start cs) := by
  simp [fold, List.foldl_append]

theorem latest_snoc (put : α → Option β) (cs : List α) (c : α) :
    latest put (cs ++ [c]) = (put c).or (latest put cs) := by
  unfold latest
  rw [List.filterMap_append]
  cases h : put c <;> simp [h]

/-- A part that each commit sets or leaves alone, after a list of commits. -/
theorem get_fold {store : α → σ → σ} {get : σ → β} {put : α → Option β}
    (hput : ∀ c s, get (store c s) = (put c).getD (get s)) (start : σ) (cs : List α) :
    get (fold store start cs) = (latest put cs).getD (get start) := by
  induction cs using List.reverseRecOn with
  | nil => rfl
  | append_singleton cs c ih =>
    rw [fold_snoc, hput, latest_snoc, ih]
    cases put c <;> rfl

section Follows
variable {store : α → σ → σ} {e : ℕ → Option α} {x : ℕ → σ} (h : Follows store e x)
include h

theorem Follows.commit {t : ℕ} {c : α} (hc : e t = some c) : x (t+1) = store c (x t) := by
  rw [h t, hc]
  rfl

theorem Follows.idle {t : ℕ} (hc : e t = none) : x (t+1) = x t := by
  rw [h t, hc]
  rfl

theorem Follows.eq_fold (t : ℕ) : x t = fold store (x 0) (log e t) := by
  induction t with
  | zero => rfl
  | succ t ih =>
    cases hc : e t with
    | none => rw [h.idle hc, log_succ_none hc, ← ih]
    | some c => rw [h.commit hc, log_succ_some hc, fold_snoc, ← ih]

theorem Follows.get_eq (get : σ → β) (put : α → Option β)
    (hput : ∀ c s, get (store c s) = (put c).getD (get s)) (t : ℕ) :
    get (x t) = (latest put (log e t)).getD (get (x 0)) := by
  rw [h.eq_fold t]
  exact get_fold hput _ _

theorem Follows.kept (get : σ → β) {s t : ℕ} (hst : s ≤ t)
    (hkeep : ∀ u, s ≤ u → u < t → ∀ c, e u = some c → get (store c (x u)) = get (x u)) :
    get (x t) = get (x s) := by
  induction t, hst using Nat.le_induction with
  | base => rfl
  | succ t hst ih =>
    have hprev := ih (fun u hs ht => hkeep u hs (by omega))
    cases hc : e t with
    | none => rw [h.idle hc, hprev]
    | some c => rw [h.commit hc, hkeep t hst (by omega) c hc, hprev]

end Follows

end IbexAxi4l.Journal
