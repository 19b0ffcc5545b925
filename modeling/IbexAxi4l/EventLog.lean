import Mathlib.Data.Nat.Notation
import Mathlib.Data.List.Infix

set_option autoImplicit false

/-!
# Logs of clocked events

An event stream says for every clock cycle what happened in it, if anything.
`log e t` lists the events of the cycles before `t`, so `t` is a cycle boundary.
`Fifo` is the conservation law of a lossless order-preserving buffer between two
streams; every result about pairing, counting and exactly-once is read off it.
-/
namespace IbexAxi4l.EventLog

variable {α β : Type}

/-- The events of the cycles before `t`, oldest first. -/
def log (e : ℕ → Option α) : ℕ → List α
  | 0 => []
  | t + 1 => log e t ++ (e t).toList

def count (e : ℕ → Option α) (t : ℕ) : ℕ := (log e t).length

/-- Event number `k` (from zero) of the stream happens in cycle `t` and carries `x`. -/
structure Nth (e : ℕ → Option α) (k t : ℕ) (x : α) : Prop where
  occurs : e t = some x
  index : count e t = k

@[simp] theorem log_zero (e : ℕ → Option α) : log e 0 = [] := rfl

@[simp] theorem count_zero (e : ℕ → Option α) : count e 0 = 0 := rfl

theorem log_succ (e : ℕ → Option α) (t : ℕ) : log e (t+1) = log e t ++ (e t).toList := rfl

theorem log_succ_some {e : ℕ → Option α} {t : ℕ} {x : α} (h : e t = some x) :
    log e (t+1) = log e t ++ [x] := by
  rw [log_succ, h]
  rfl

theorem log_succ_none {e : ℕ → Option α} {t : ℕ} (h : e t = none) : log e (t+1) = log e t := by
  rw [log_succ, h]
  exact List.append_nil _

theorem count_succ (e : ℕ → Option α) (t : ℕ) :
    count e (t+1) = count e t + if (e t).isSome then 1 else 0 := by
  unfold count
  cases h : e t with
  | none => simp [log_succ_none h]
  | some x => simp [log_succ_some h]

theorem count_succ_some {e : ℕ → Option α} {t : ℕ} {x : α} (h : e t = some x) :
    count e (t+1) = count e t + 1 := by
  simp [count_succ, h]

theorem count_succ_none {e : ℕ → Option α} {t : ℕ} (h : e t = none) :
    count e (t+1) = count e t := by
  simp [count_succ, h]

theorem log_extends (e : ℕ → Option α) {s t : ℕ} (h : s ≤ t) : log e s <+: log e t := by
  induction t, h using Nat.le_induction with
  | base => exact List.prefix_rfl
  | succ t _ ih => exact ih.trans (List.prefix_append _ _)

theorem count_mono (e : ℕ → Option α) {s t : ℕ} (h : s ≤ t) : count e s ≤ count e t :=
  (log_extends e h).length_le

theorem exists_le_count {e : ℕ → Option α} (h : ∀ m, ∃ n ≥ m, (e n).isSome = true) (k : ℕ) :
    ∃ n, k ≤ count e n := by
  induction k with
  | zero => exact ⟨0, Nat.zero_le _⟩
  | succ k ih =>
    rcases ih with ⟨m, hm⟩
    rcases h m with ⟨n, hn, hsome⟩
    have hmono := count_mono e hn
    refine ⟨n + 1, ?_⟩
    rw [count_succ, if_pos hsome]
    omega

theorem count_congr {e : ℕ → Option α} {f : ℕ → Option β} {n : ℕ}
    (h : ∀ t < n, (e t).isSome = (f t).isSome) {t : ℕ} (ht : t ≤ n) : count e t = count f t := by
  induction t with
  | zero => rfl
  | succ t ih => rw [count_succ, count_succ, ih (by omega), h t (by omega)]

theorem log_map (f : α → β) (e : ℕ → Option α) (t : ℕ) :
    log (fun s => (e s).map f) t = (log e t).map f := by
  induction t with
  | zero => rfl
  | succ t ih => cases h : e t <;> simp [log_succ, ih, h]

@[simp] theorem count_map (f : α → β) (e : ℕ → Option α) (t : ℕ) :
    count (fun s => (e s).map f) t = count e t := by
  simp [count, log_map]

theorem log_congr {e f : ℕ → Option α} {n : ℕ} (h : ∀ t < n, e t = f t) {t : ℕ} (ht : t ≤ n) :
    log e t = log f t := by
  induction t with
  | zero => rfl
  | succ t ih => rw [log_succ, log_succ, ih (by omega), h t (by omega)]

/-! ## Numbered events -/

theorem Nth.count_succ {e : ℕ → Option α} {k t : ℕ} {x : α} (h : Nth e k t x) :
    count e (t+1) = k + 1 := by
  rw [count_succ_some h.occurs, h.index]

theorem Nth.lt_count {e : ℕ → Option α} {k t n : ℕ} {x : α} (h : Nth e k t x) (ht : t < n) :
    k < count e n := by
  have hm := count_mono e (show t+1 ≤ n from ht)
  have hs := h.count_succ
  omega

theorem Nth.get {e : ℕ → Option α} {k t n : ℕ} {x : α} (h : Nth e k t x) (ht : t < n) :
    (log e n)[k]? = some x := by
  obtain ⟨later, hl⟩ := log_extends e (show t+1 ≤ n from ht)
  have hk : k = (log e t).length := h.index.symm
  rw [← hl, log_succ_some h.occurs, hk]
  simp

theorem nth_of_get {e : ℕ → Option α} {k n : ℕ} {x : α} (h : (log e n)[k]? = some x) :
    ∃ t < n, Nth e k t x := by
  induction n with
  | zero => simp at h
  | succ n ih =>
    by_cases hk : k < count e n
    · rw [log_succ, List.getElem?_append_left hk] at h
      obtain ⟨t, ht, hn⟩ := ih h
      exact ⟨t, by omega, hn⟩
    · cases he : e n with
      | none =>
        rw [log_succ_none he] at h
        exact absurd (List.getElem?_eq_some_iff.1 h).1 hk
      | some y =>
        have hlen : (log e n).length ≤ k := Nat.le_of_not_lt hk
        rw [log_succ_some he, List.getElem?_append_right hlen] at h
        have hz : k - (log e n).length = 0 := by
          have := (List.getElem?_eq_some_iff.1 h).1
          simpa using this
        rw [hz] at h
        refine ⟨n, by omega, he.trans h, ?_⟩
        unfold count
        omega

theorem exists_nth {e : ℕ → Option α} {k n : ℕ} (h : k < count e n) :
    ∃ t < n, ∃ x, Nth e k t x := by
  obtain ⟨t, ht, hn⟩ := nth_of_get (List.getElem?_eq_getElem h)
  exact ⟨t, ht, _, hn⟩

theorem Nth.time_unique {e : ℕ → Option α} {k s t : ℕ} {x y : α}
    (h : Nth e k s x) (h' : Nth e k t y) : s = t := by
  rcases Nat.lt_trichotomy s t with hst | hst | hst
  · have := h.lt_count hst
    rw [h'.index] at this
    omega
  · exact hst
  · have := h'.lt_count hst
    rw [h.index] at this
    omega

theorem Nth.value_unique {e : ℕ → Option α} {k s t : ℕ} {x y : α}
    (h : Nth e k s x) (h' : Nth e k t y) : x = y := by
  have hst := h.time_unique h'
  subst hst
  exact Option.some.inj (h.occurs.symm.trans h'.occurs)

theorem Nth.congr {e f : ℕ → Option α} {k t n : ℕ} {x : α} (h : Nth e k t x)
    (heq : ∀ s < n, f s = e s) (ht : t < n) : Nth f k t x :=
  ⟨(heq t ht).trans h.occurs,
    (congrArg List.length (log_congr heq (Nat.le_of_lt ht))).trans h.index⟩

theorem Nth.map {e : ℕ → Option α} {k t : ℕ} {x : α} (h : Nth e k t x) (f : α → β) :
    Nth (fun s => (e s).map f) k t (f x) :=
  ⟨by simp [h.occurs], by simp [h.index]⟩

theorem nth_map_iff {e : ℕ → Option α} {f : α → β} {k t : ℕ} {y : β} :
    Nth (fun s => (e s).map f) k t y ↔ ∃ x, Nth e k t x ∧ f x = y := by
  constructor
  · rintro ⟨ho, hi⟩
    obtain ⟨x, hx, rfl⟩ := Option.map_eq_some_iff.1 ho
    exact ⟨x, ⟨hx, by simpa using hi⟩, rfl⟩
  · rintro ⟨x, hx, rfl⟩
    exact hx.map f

theorem count_le_of_nth {e : ℕ → Option α} {f : ℕ → Option β} {n : ℕ}
    (h : ∀ k s x, s < n → Nth e k s x → ∃ u ≤ s, ∃ y, Nth f k u y) {t : ℕ} (ht : t ≤ n) :
    count e t ≤ count f t := by
  by_contra hlt
  obtain ⟨s, hs, x, hx⟩ := exists_nth (Nat.lt_of_not_le hlt)
  obtain ⟨u, hu, y, hy⟩ := h _ s x (by omega) hx
  exact absurd (hy.lt_count (show u < t by omega)) (Nat.lt_irrefl _)

theorem map_log_eq {γ : Type} {e : ℕ → Option α} {f : ℕ → Option β} {g : α → γ} {g' : β → γ}
    {s t : ℕ} (hcount : count e s = count f t)
    (h : ∀ k a x b y, Nth e k a x → a < s → Nth f k b y → b < t → g x = g' y) :
    (log e s).map g = (log f t).map g' := by
  apply List.ext_getElem
  · rw [List.length_map, List.length_map]
    exact hcount
  intro k hk hk'
  have hks : k < (log e s).length := by simpa using hk
  have hkt : k < (log f t).length := by simpa using hk'
  rcases nth_of_get (List.getElem?_eq_getElem hks) with ⟨a, ha, hx⟩
  rcases nth_of_get (List.getElem?_eq_getElem hkt) with ⟨b, hb, hy⟩
  rw [List.getElem_map, List.getElem_map]
  exact h k a _ b _ hx ha hy hb

/-! ## Buffers -/

/-- In the first `n` cycles a buffer with contents `held` takes the events of `inp` in
order and gives each of them out on `outp` exactly once, in the same order. -/
structure Fifo (n : ℕ) (inp outp : ℕ → Option α) (held : ℕ → List α) : Prop where
  start : held 0 = []
  step : ∀ t < n, held t ++ (inp t).toList = (outp t).toList ++ held (t+1)

section Fifo
variable {n : ℕ} {inp outp : ℕ → Option α} {held : ℕ → List α}

/-- Conservation: what went in is what came out followed by what is held. -/
theorem Fifo.conserve (h : Fifo n inp outp held) {t : ℕ} (ht : t ≤ n) :
    log inp t = log outp t ++ held t := by
  induction t with
  | zero => simp [h.start]
  | succ t ih =>
    calc
      log inp (t+1) = log outp t ++ (held t ++ (inp t).toList) := by
        rw [log_succ, ih (by omega), List.append_assoc]
      _ = log outp (t+1) ++ held (t+1) := by
        rw [h.step t (by omega), log_succ, List.append_assoc]

theorem Fifo.count_eq (h : Fifo n inp outp held) {t : ℕ} (ht : t ≤ n) :
    count inp t = count outp t + (held t).length := by
  simp [count, h.conserve ht]

theorem Fifo.count_le (h : Fifo n inp outp held) {t : ℕ} (ht : t ≤ n) :
    count outp t ≤ count inp t := by
  rw [h.count_eq ht]
  omega

/-- Output number `k` is input number `k`, which entered no later. -/
theorem Fifo.nth (h : Fifo n inp outp held) {k t : ℕ} {x : α} (hk : Nth outp k t x)
    (ht : t < n) : ∃ s ≤ t, Nth inp k s x := by
  have hget : (log inp (t+1))[k]? = some x := by
    rw [h.conserve ht, List.getElem?_append_left]
    · exact hk.get (by omega)
    · exact hk.lt_count (by omega)
  obtain ⟨s, hs, hn⟩ := nth_of_get hget
  exact ⟨s, by omega, hn⟩

/-- The oldest event held is the next input to come out, and it is already in. -/
theorem Fifo.nth_head (h : Fifo n inp outp held) {t : ℕ} {x : α} (ht : t ≤ n)
    (hx : (held t).head? = some x) : ∃ s < t, Nth inp (count outp t) s x := by
  apply nth_of_get
  rw [h.conserve ht, count, List.getElem?_append_right (Nat.le_refl _)]
  simpa [List.head?_eq_getElem?] using hx

theorem Fifo.filter (h : Fifo n inp outp held) (p : α → Bool) :
    Fifo n (fun t => (inp t).filter p) (fun t => (outp t).filter p)
      (fun t => (held t).filter p) := by
  constructor
  · simp [h.start]
  · intro t ht
    have hs := congrArg (List.filter p) (h.step t ht)
    simpa [Option.toList_filter] using hs

end Fifo

end IbexAxi4l.EventLog
