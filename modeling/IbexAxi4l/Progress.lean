import Mathlib.Data.Nat.Notation
import Mathlib.Data.Nat.Find
import IbexAxi4l.EventLog

set_option autoImplicit false

/-!
# Progress

`P` leads to `Q` if every cycle in which `P` holds is followed, at once or later, by one in
which `Q` holds.
-/
namespace IbexAxi4l.Progress
open EventLog

def LeadsTo (P Q : ℕ → Prop) : Prop := ∀ t, P t → ∃ u ≥ t, Q u

variable {P Q R : ℕ → Prop}

theorem LeadsTo.trans (h : LeadsTo P Q) (h' : LeadsTo Q R) : LeadsTo P R := by
  intro t ht
  obtain ⟨u, hu, hq⟩ := h t ht
  obtain ⟨v, hv, hr⟩ := h' u hq
  exact ⟨v, Nat.le_trans hu hv, hr⟩

theorem LeadsTo.of_imp (h : ∀ t, P t → Q t) : LeadsTo P Q :=
  fun t ht => ⟨t, Nat.le_refl t, h t ht⟩

theorem LeadsTo.of_next (h : ∀ t, P t → Q (t+1)) : LeadsTo P Q :=
  fun t ht => ⟨t + 1, Nat.le_succ t, h t ht⟩

theorem LeadsTo.or (h : LeadsTo P R) (h' : LeadsTo Q R) : LeadsTo (fun t => P t ∨ Q t) R :=
  fun t ht => ht.elim (h t) (h' t)

/-- What holds until `Q` does still holds when `Q` does. -/
theorem LeadsTo.unless (h : LeadsTo P Q) (hkeep : ∀ t, P t → ¬ Q t → P (t+1)) :
    LeadsTo P (fun t => P t ∧ Q t) := by
  classical
  intro t ht
  obtain ⟨u, hu, hq⟩ := h t ht
  have hex : ∃ d, Q (t + d) := ⟨u - t, by rwa [Nat.add_sub_cancel' hu]⟩
  have hhold : ∀ d ≤ Nat.find hex, P (t + d) := by
    intro d
    induction d with
    | zero => exact fun _ => ht
    | succ d ih => exact fun hd => hkeep _ (ih (by omega)) (Nat.find_min hex (by omega))
  exact ⟨t + Nat.find hex, by omega, hhold _ (Nat.le_refl _), Nat.find_spec hex⟩

theorem exceeds_of_occurs {α : Type} {e : ℕ → Option α} {k t u : ℕ} (hk : k ≤ count e t)
    (hu : t ≤ u) (h : (e u).isSome = true) : k < count e (u+1) := by
  have hmono := count_mono e hu
  rw [count_succ, if_pos h]
  omega

/-- An event that occurs again as long as its count is at most `k` occurs more than `k`
times. -/
theorem eventually_exceeds {α : Type} {e : ℕ → Option α} {k t : ℕ}
    (h : ∀ u ≥ t, count e u ≤ k → ∃ v ≥ u, (e v).isSome = true) : ∃ u ≥ t, k < count e u := by
  have hreach (j : ℕ) (hj : j ≤ k + 1) : ∃ u ≥ t, j ≤ count e u := by
    induction j with
    | zero => exact ⟨t, Nat.le_refl t, Nat.zero_le _⟩
    | succ j ih =>
      obtain ⟨u, hu, hcount⟩ := ih (by omega)
      by_cases hdone : j < count e u
      · exact ⟨u, hu, hdone⟩
      · obtain ⟨v, hv, hsome⟩ := h u hu (by omega)
        exact ⟨v + 1, by omega, exceeds_of_occurs hcount hv hsome⟩
  exact hreach (k+1) (Nat.le_refl _)

end IbexAxi4l.Progress
