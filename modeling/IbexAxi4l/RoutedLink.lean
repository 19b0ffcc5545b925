import Mathlib.Data.Nat.Count
import IbexAxi4l.ReadyValid

set_option autoImplicit false

/-!
# Links shared by several channels

A router splits the beats of a link by their numbers: `l.part p` carries the beats of `l`
whose number satisfies `p`. Two parts joined by a channel pair the numbers of both links,
one to one and in order, and each paired beat is the same beat.
-/
namespace IbexAxi4l.ReadyValid
open EventLog

/-- How many numbers below `k` satisfy `p`. -/
def rank (p : ℕ → Bool) (k : ℕ) : ℕ := Nat.count (fun i => p i = true) k

@[simp] theorem rank_zero (p : ℕ → Bool) : rank p 0 = 0 := Nat.count_zero _

theorem rank_succ (p : ℕ → Bool) (k : ℕ) : rank p (k+1) = rank p k + if p k then 1 else 0 :=
  Nat.count_succ _ k

theorem rank_injective {p : ℕ → Bool} {k k' : ℕ} (hk : p k = true) (hk' : p k' = true)
    (h : rank p k = rank p k') : k = k' :=
  Nat.count_injective hk hk' h

theorem rank_eq_self {p : ℕ → Bool} (k : ℕ) (h : ∀ i < k, p i = true) : rank p k = k :=
  Nat.count_iff_forall.2 h

theorem rank_lt {p : ℕ → Bool} {k c : ℕ} (hp : p k = true) (hk : k < c) :
    rank p k < rank p c :=
  Nat.count_strict_mono hp hk

theorem rank_mono (p : ℕ → Bool) {k c : ℕ} (h : k ≤ c) : rank p k ≤ rank p c :=
  Nat.count_monotone _ h

section Part
variable {α : Type}

def Link.part (p : ℕ → Bool) (l : Link α) : Link α where
  valid t := l.valid t && p (count l.beat t)
  ready := l.ready
  data := l.data

variable {p q : ℕ → Bool} {l : Link α}

theorem beat_part (t : ℕ) :
    (l.part p).beat t = if p (count l.beat t) then l.beat t else none := by
  change (if ((l.valid t && p (count l.beat t)) && l.ready t) = true then some (l.data t)
    else none) = if p (count l.beat t) then (if l.valid t && l.ready t then _ else none) else none
  cases p (count l.beat t) <;> cases l.valid t <;> cases l.ready t <;> rfl

theorem count_part (t : ℕ) : count (l.part p).beat t = rank p (count l.beat t) := by
  induction t with
  | zero => exact (rank_zero p).symm
  | succ t ih =>
    rw [count_succ, count_succ, beat_part, ih]
    cases hb : l.beat t with
    | none => simp
    | some x =>
      rw [Option.isSome_some, if_pos rfl, rank_succ]
      cases p (count l.beat t) <;> rfl

theorem nth_part_iff {r t : ℕ} {x : α} :
    Nth (l.part p).beat r t x ↔ ∃ k, Nth l.beat k t x ∧ p k = true ∧ rank p k = r := by
  constructor
  · rintro ⟨ho, hi⟩
    rw [beat_part] at ho
    split_ifs at ho with hp
    exact ⟨count l.beat t, ⟨ho, rfl⟩, hp, (count_part t).symm.trans hi⟩
  · rintro ⟨k, ⟨ho, rfl⟩, hp, hr⟩
    exact ⟨by rw [beat_part, if_pos hp, ho], (count_part t).trans hr⟩

theorem shown_part_iff {r t : ℕ} :
    (l.part p).Shown r t ↔ ∃ k, l.Shown k t ∧ p k = true ∧ rank p k = r := by
  unfold Link.Shown
  rw [count_part]
  change (l.valid t && p (count l.beat t)) = true ∧ _ ↔ _
  rw [Bool.and_eq_true]
  constructor
  · rintro ⟨⟨hv, hp⟩, hr⟩
    exact ⟨_, ⟨hv, rfl⟩, hp, hr⟩
  · rintro ⟨k, ⟨hv, rfl⟩, hp, hr⟩
    exact ⟨⟨hv, hp⟩, hr⟩

/-- Beat `k` of one link and beat `j` of the other have the same place in their parts. -/
structure Paired (p q : ℕ → Bool) (k j : ℕ) : Prop where
  left : p k = true
  right : q j = true
  place : rank p k = rank q j

theorem Paired.symm {k j : ℕ} (h : Paired p q k j) : Paired q p j k :=
  ⟨h.right, h.left, h.place.symm⟩

theorem Paired.left_unique {k k' j : ℕ} (h : Paired p q k j) (h' : Paired p q k' j) : k = k' :=
  rank_injective h.left h'.left (h.place.trans h'.place.symm)

theorem Paired.right_unique {k j j' : ℕ} (h : Paired p q k j) (h' : Paired p q k j') : j = j' :=
  rank_injective h.right h'.right (h.place.symm.trans h'.place)

variable {m : Link α} {n : ℕ}

/-- A part that no beat belongs to. -/
theorem part_silent {t : ℕ} (h : ∀ k, p k = false) : (l.part p).valid t = false := by
  change (l.valid t && p (count l.beat t)) = false
  rw [h, Bool.and_false]

theorem part_of_silent {t : ℕ} (h : l.valid t = false) : (l.part p).valid t = false := by
  change (l.valid t && p (count l.beat t)) = false
  rw [h, Bool.false_and]

theorem Channel.silent {a b : Link α} (ha : ∀ t < n, a.valid t = false)
    (hb : ∀ t < n, b.valid t = false) : Channel n a b := by
  refine ⟨fun _ => [], ⟨rfl, ?_⟩, ?_⟩
  · intro t ht
    have hnone : a.beat t = none := beat_none (by rw [ha t ht, Bool.false_and])
    have hnone' : b.beat t = none := beat_none (by rw [hb t ht, Bool.false_and])
    rw [hnone, hnone']
    rfl
  · intro t ht hv
    rw [hb t ht] at hv
    cases hv

theorem Channel.nth_paired (h : Channel n (l.part p) (m.part q)) {j t : ℕ} {x : α} (ht : t < n)
    (hj : Nth m.beat j t x) (hq : q j = true) :
    ∃ k, Paired p q k j ∧ ∃ s ≤ t, Nth l.beat k s x := by
  obtain ⟨s, hs, hsent⟩ := h.nth (nth_part_iff.2 ⟨j, hj, hq, rfl⟩) ht
  obtain ⟨k, hk, hp, hr⟩ := nth_part_iff.1 hsent
  exact ⟨k, ⟨hp, hq, hr⟩, s, hs, hk⟩

theorem Channel.shown_paired (h : Channel n (l.part p) (m.part q)) {j t : ℕ} (ht : t < n)
    (hj : m.Shown j t) (hq : q j = true) :
    ∃ k, Paired p q k j ∧ ∃ s ≤ t, l.Shown k s ∧ l.data s = m.data t := by
  obtain ⟨s, hs, hsent, hdata⟩ := h.shown ht (shown_part_iff.2 ⟨j, hj, hq, rfl⟩)
  obtain ⟨k, hk, hp, hr⟩ := shown_part_iff.1 hsent
  exact ⟨k, ⟨hp, hq, hr⟩, s, hs, hk, hdata⟩

end Part

end IbexAxi4l.ReadyValid
