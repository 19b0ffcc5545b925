import Mathlib.Data.List.Induction
import IbexAxi4l.ByteLanes
import IbexAxi4l.Journal

set_option autoImplicit false

/-!
# A word store with byte strobes

The sequential meaning of a list of strobed writes: the store they lead to, and for each
byte the last of them that selects it.
-/
namespace IbexAxi4l.StrobedStore
open EventLog ByteLanes
open Journal (fold_snoc Follows)

structure Commit where
  word : ℕ
  data : BitVec 32
  strb : BitVec 4
  deriving DecidableEq

abbrev Store (n : ℕ) := Fin n → BitVec 32

variable {n : ℕ}

def Commit.apply (c : Commit) (m : Store n) : Store n :=
  fun i => if i.val = c.word then strobe c.strb c.data 0 (m i) else m i

def Commit.writes (c : Commit) (i b : ℕ) : Bool := c.word == i && c.strb.getLsbD b

def replay (m : Store n) (cs : List Commit) : Store n := cs.foldl (fun m c => c.apply m) m

/-- What the last write that selects the byte puts there. -/
def latest (cs : List Commit) (i b : ℕ) : Option (BitVec 8) :=
  (cs.filter (fun c => c.writes i b)).getLast?.map (fun c => byte c.data b)

theorem byte_apply (c : Commit) (m : Store n) (i : Fin n) {b : ℕ} (hb : b < 4) :
    byte (c.apply m i) b = if c.writes i b then byte c.data b else byte (m i) b := by
  unfold Commit.apply Commit.writes
  by_cases hi : c.word = i.val
  · rw [if_pos hi.symm, byte_strobe _ _ _ _ _ (by omega)]
    simp [hi, hb]
  · rw [if_neg (fun h => hi h.symm)]
    simp [hi]

theorem replay_snoc (m : Store n) (cs : List Commit) (c : Commit) :
    replay m (cs ++ [c]) = c.apply (replay m cs) := fold_snoc Commit.apply m cs c

theorem latest_snoc (cs : List Commit) (c : Commit) (i b : ℕ) :
    latest (cs ++ [c]) i b = if c.writes i b then some (byte c.data b) else latest cs i b := by
  unfold latest
  rw [List.filter_append]
  by_cases hc : c.writes i b = true <;> simp [hc]

/-- A byte of the store is what was last written there, or what it was at the start. -/
theorem byte_replay (m : Store n) (cs : List Commit) (i : Fin n) {b : ℕ} (hb : b < 4) :
    byte (replay m cs i) b = (latest cs i b).getD (byte (m i) b) := by
  induction cs using List.reverseRecOn with
  | nil => rfl
  | append_singleton cs c ih =>
    rw [replay_snoc, byte_apply c _ i hb, latest_snoc, ih]
    by_cases hc : c.writes i b = true <;> simp [hc]

theorem replay_log {m : ℕ → Store n} {commit : ℕ → Option Commit}
    (h : ∀ t, m (t+1) = (commit t).elim (m t) (fun c => c.apply (m t))) (t : ℕ) :
    m t = replay (m 0) (log commit t) := by
  have hfollows : Follows Commit.apply commit m := h
  exact hfollows.eq_fold t

end IbexAxi4l.StrobedStore
