import IbexAxi4l.EventLog

set_option autoImplicit false

/-!
# Clocked designs and ready/valid links

A `Design` is a synchronous circuit: its registers change on a clock edge, its
outputs are combinational. A `Run` starts with one edge in reset, from any register
contents, and is driven by any input stream; an environment that reacts to the
outputs only restricts which streams occur.
-/
namespace IbexAxi4l.ReadyValid
open EventLog

/-- `posedge resetN s i` is what the registers hold after a clock edge. -/
structure Design (σ ι ω : Type) where
  posedge : Bool → σ → ι → σ
  out : σ → ι → ω

structure Run {σ ι ω : Type} (D : Design σ ι ω) where
  before : σ
  resetInput : ι
  input : ℕ → ι

section Run
variable {σ ι ω : Type} {D : Design σ ι ω}

def Run.state (r : Run D) : ℕ → σ
  | 0 => D.posedge false r.before r.resetInput
  | t + 1 => D.posedge true (Run.state r t) (r.input t)

def Run.output (r : Run D) (t : ℕ) : ω := D.out (r.state t) (r.input t)

theorem Run.state_succ (r : Run D) (t : ℕ) :
    r.state (t+1) = D.posedge true (r.state t) (r.input t) := rfl

end Run

def Design.states {σ ι ω : Type} (D : Design σ ι ω) (start : σ) (input : ℕ → ι) : ℕ → σ
  | 0 => start
  | t + 1 => D.posedge true (D.states start input t) (input t)

/-- A link moves one `α` in each cycle in which both `valid` and `ready` are high. -/
structure Link (α : Type) where
  valid : ℕ → Bool
  ready : ℕ → Bool
  data : ℕ → α

section Link
variable {α β : Type}

def Link.beat (l : Link α) (t : ℕ) : Option α :=
  if l.valid t && l.ready t then some (l.data t) else none

def Link.offer (l : Link α) (t : ℕ) : Option α :=
  if l.valid t then some (l.data t) else none

/-- In the first `n` cycles an offer that is not taken is made again in the next cycle,
with a payload that `keep` relates to the old one. -/
def Link.Holds (l : Link α) (keep : α → α → Prop) (n : ℕ) : Prop :=
  ∀ t, t + 1 < n → l.valid t = true → l.ready t = false →
    l.valid (t+1) = true ∧ keep (l.data t) (l.data (t+1))

def Link.Shown (l : Link α) (k t : ℕ) : Prop := l.valid t = true ∧ count l.beat t = k

theorem beat_eq_some {l : Link α} {t : ℕ} {x : α} :
    l.beat t = some x ↔ l.valid t = true ∧ l.ready t = true ∧ l.data t = x := by
  simp [Link.beat, and_assoc]

theorem beat_eq_none {l : Link α} {t : ℕ} :
    l.beat t = none ↔ ¬ (l.valid t = true ∧ l.ready t = true) := by
  simp [Link.beat]

theorem isSome_beat {l : Link α} {t : ℕ} :
    (l.beat t).isSome = (l.valid t && l.ready t) := by
  cases h : l.valid t && l.ready t <;> simp [Link.beat, h]

theorem beat_some {l : Link α} {t : ℕ} (h : (l.valid t && l.ready t) = true) :
    l.beat t = some (l.data t) := by
  simp [Link.beat, h]

theorem beat_none {l : Link α} {t : ℕ} (h : (l.valid t && l.ready t) = false) :
    l.beat t = none := by
  simp [Link.beat, h]

def Link.map (f : α → β) (l : Link α) : Link β where
  valid := l.valid
  ready := l.ready
  data t := f (l.data t)

theorem beat_map (f : α → β) (l : Link α) : (l.map f).beat = fun t => (l.beat t).map f := by
  funext t
  unfold Link.beat Link.map
  cases l.valid t && l.ready t <;> rfl

theorem offer_eq_some {l : Link α} {t : ℕ} {x : α} :
    l.offer t = some x ↔ l.valid t = true ∧ l.data t = x := by
  simp [Link.offer]

theorem shown_of_nth {l : Link α} {k t : ℕ} {x : α} (h : Nth l.beat k t x) : l.Shown k t :=
  ⟨(beat_eq_some.1 h.occurs).1, h.index⟩

/-! ## Channels with arbitrary delay -/

def slot (full : Bool) (x : α) : List α := if full then [x] else []

@[simp] theorem slot_true (x : α) : slot true x = [x] := rfl
@[simp] theorem slot_false (x : α) : slot false x = [] := rfl

@[simp] theorem slot_length (full : Bool) (x : α) :
    (slot full x).length = if full then 1 else 0 := by
  cases full <;> rfl

/-- In the first `n` cycles the queue `q` takes beats from `sender` and hands them to
`receiver`. It may show the receiver the oldest beat on its way, or the beat the sender is
offering when there is none (a wire with no delay). -/
structure Conveys (n : ℕ) (sender receiver : Link α) (q : ℕ → List α) : Prop where
  fifo : Fifo n sender.beat receiver.beat q
  shows : ∀ t < n, receiver.valid t = true →
    (q t ++ (sender.offer t).toList).head? = some (receiver.data t)

/-- A lossless, order-preserving, non-duplicating channel. When it is ready and when it
passes a beat on is left open, so each beat may take any time. -/
def Channel (n : ℕ) (sender receiver : Link α) : Prop := ∃ q, Conveys n sender receiver q

section Channel
variable {n : ℕ} {sender receiver : Link α}

theorem Channel.count_le (h : Channel n sender receiver) {t : ℕ} (ht : t ≤ n) :
    count receiver.beat t ≤ count sender.beat t := by
  obtain ⟨q, hq⟩ := h
  exact hq.fifo.count_le ht

theorem Channel.nth (h : Channel n sender receiver) {k t : ℕ} {x : α}
    (hk : Nth receiver.beat k t x) (ht : t < n) : ∃ s ≤ t, Nth sender.beat k s x := by
  obtain ⟨q, hq⟩ := h
  exact hq.fifo.nth hk ht

theorem Channel.shown (h : Channel n sender receiver) {k t : ℕ} (ht : t < n)
    (hs : receiver.Shown k t) :
    ∃ s ≤ t, sender.Shown k s ∧ sender.data s = receiver.data t := by
  obtain ⟨q, hq⟩ := h
  have hh := hq.shows t ht hs.1
  cases hqt : q t with
  | nil =>
    have hc := hq.fifo.count_eq (Nat.le_of_lt ht)
    rw [hqt, hs.2] at hc
    rw [hqt] at hh
    have ho : sender.offer t = some (receiver.data t) := by
      cases he : sender.offer t <;> simp [he] at hh ⊢
      exact hh
    obtain ⟨hv, hd⟩ := offer_eq_some.1 ho
    exact ⟨t, Nat.le_refl t, ⟨hv, hc⟩, hd⟩
  | cons x rest =>
    have hx : x = receiver.data t := by simpa [hqt] using hh
    subst hx
    obtain ⟨s, hlt, hn⟩ := hq.fifo.nth_head (Nat.le_of_lt ht) (by rw [hqt]; rfl)
    rw [hs.2] at hn
    exact ⟨s, Nat.le_of_lt hlt, shown_of_nth hn, (beat_eq_some.1 hn.occurs).2.2⟩

end Channel

end Link

end IbexAxi4l.ReadyValid
