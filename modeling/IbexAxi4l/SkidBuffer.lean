import IbexAxi4l.ReadyValid

set_option autoImplicit false

/-!
# Skid buffers and response registers

The two one-entry buffers of a registered bus slave. A skid buffer lets `ready` come from
a register: a beat that arrives too early is kept beside it. A response register holds the
outgoing beat until it is taken. Both are `Fifo`s, whatever the environment does.
-/
namespace IbexAxi4l.SkidBuffer
open EventLog ReadyValid

variable {α β : Type}

/-- The input beat the logic behind the buffer sees: the kept one while `ready` is low. -/
def current (l : Link α) (pre : ℕ → α) (t : ℕ) : α := if l.ready t then l.data t else pre t

def present (l : Link α) (t : ℕ) : Bool := l.valid t || !l.ready t

/-- `ready` falls exactly when a beat is present and not taken, and `pre` keeps it. -/
structure Skid (l : Link α) (pre : ℕ → α) (take : ℕ → Bool) : Prop where
  start : l.ready 0 = true
  present : ∀ t, take t = true → present l t = true
  ready : ∀ t, l.ready (t+1) = (take t || !SkidBuffer.present l t)
  keep : ∀ t, pre (t+1) = if l.ready t then l.data t else pre t

def taken (l : Link α) (pre : ℕ → α) (take : ℕ → Bool) (t : ℕ) : Option α :=
  if take t then some (current l pre t) else none

theorem Skid.fifo {l : Link α} {pre : ℕ → α} {take : ℕ → Bool} (h : Skid l pre take) (n : ℕ) :
    Fifo n l.beat (taken l pre take) (fun t => slot (!l.ready t) (pre t)) := by
  constructor
  · simp [h.start]
  intro t _
  have hpresent := h.present t
  rw [h.ready]
  unfold taken current Link.beat
  unfold SkidBuffer.present at hpresent ⊢
  cases hr : l.ready t with
  | true =>
    rw [h.keep, hr]
    cases hv : l.valid t <;> cases ht : take t <;> simp [hv, hr, ht] at hpresent ⊢
  | false =>
    rw [h.keep, hr]
    cases ht : take t <;> simp

/-- A register that drives the link: filled by `put`, kept until its beat is taken. -/
structure Register (l : Link α) (put : ℕ → Bool) : Prop where
  start : l.valid 0 = false
  free : ∀ t, put t = true → l.valid t = true → l.ready t = true
  valid : ∀ t, l.valid (t+1) = (put t || (l.valid t && !l.ready t))
  keep : ∀ t, l.valid t = true → l.ready t = false → l.data (t+1) = l.data t

def filled (l : Link α) (put : ℕ → Bool) (t : ℕ) : Option α :=
  if put t then some (l.data (t+1)) else none

theorem isSome_filled (l : Link α) (put : ℕ → Bool) (t : ℕ) :
    (filled l put t).isSome = put t := by
  unfold filled
  cases put t <;> rfl

section Register
variable {l : Link α} {put : ℕ → Bool} (h : Register l put)
include h

theorem Register.fifo (n : ℕ) :
    Fifo n (filled l put) l.beat (fun t => slot (l.valid t) (l.data t)) := by
  constructor
  · simp [h.start]
  intro t _
  have hfree := h.free t
  have hkeep := h.keep t
  rw [h.valid]
  unfold filled Link.beat
  cases hp : put t <;> cases hv : l.valid t <;> cases hr : l.ready t <;>
    simp [hp, hv, hr] at hfree hkeep ⊢
  exact hkeep.symm

theorem Register.holds (n : ℕ) : l.Holds (fun x y => y = x) n := by
  intro t _ hv hr
  refine ⟨?_, h.keep t hv hr⟩
  rw [h.valid, hv, hr]
  exact Bool.or_true _

theorem Register.count_eq {e : ℕ → Option β} (he : ∀ t, (e t).isSome = put t) (t : ℕ) :
    count e t = count l.beat t + if l.valid t then 1 else 0 := by
  have hc := (h.fifo t).count_eq (Nat.le_refl t)
  rw [slot_length] at hc
  rw [← hc]
  refine count_congr (fun u _ => ?_) (Nat.le_refl t)
  rw [isSome_filled]
  exact he u

theorem Register.shown {e : ℕ → Option β} (he : ∀ t, (e t).isSome = put t) {k t : ℕ}
    (hs : l.Shown k t) : ∃ s < t, ∃ x, Nth e k s x ∧ l.data t = l.data (s+1) := by
  have hhead : (slot (l.valid t) (l.data t)).head? = some (l.data t) := by
    rw [hs.1]
    rfl
  rcases (h.fifo t).nth_head (Nat.le_refl t) hhead with ⟨s, hlt, hn⟩
  rw [hs.2] at hn
  have ho := hn.occurs
  unfold filled at ho
  split_ifs at ho with hp
  rcases Option.isSome_iff_exists.1 ((he s).trans hp) with ⟨x, hx⟩
  refine ⟨s, hlt, x, ⟨hx, ?_⟩, (Option.some.inj ho).symm⟩
  rw [← hn.index]
  refine count_congr (fun u _ => ?_) (Nat.le_refl s)
  rw [isSome_filled]
  exact he u

end Register

end IbexAxi4l.SkidBuffer
