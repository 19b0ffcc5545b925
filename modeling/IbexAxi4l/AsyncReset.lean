import IbexAxi4l.ReadyValid

set_option autoImplicit false

/-!
# Designs with asynchronous resets

Some registers are reset as soon as the reset is low, the others on the next clock edge. Two
runs that a relation on the registers cannot tell apart stay so, whatever they are driven with
and however often they are reset.
-/
namespace IbexAxi4l.AsyncReset
open ReadyValid

/-- `clear` resets the registers with an asynchronous reset and leaves the others alone. -/
structure AsyncDesign (σ ι ω : Type) extends Design σ ι ω where
  clear : σ → σ

variable {σ ι ω α β : Type}

def AsyncDesign.present (D : AsyncDesign σ ι ω) (resetN : Bool) (s : σ) : σ :=
  if resetN then s else D.clear s

def AsyncDesign.edge (D : AsyncDesign σ ι ω) (resetN : Bool) (s : σ) (i : ι) : σ :=
  D.posedge resetN (D.present resetN s) i

def AsyncDesign.after (D : AsyncDesign σ ι ω) (start : σ) (input : ℕ → Bool × ι) : ℕ → σ
  | 0 => start
  | t + 1 => D.edge (input t).1 (D.after start input t) (input t).2

def AsyncDesign.observed (D : AsyncDesign σ ι ω) (observe : σ → ι → β) (start : σ)
    (input : ℕ → Bool × ι) (t : ℕ) : β :=
  observe (D.present (input t).1 (D.after start input t)) (input t).2

/-- After an edge in reset nothing but the `kept` part of the registers can be observed of what
was there before. -/
def AsyncDesign.Forgets (D : AsyncDesign σ ι ω) (kept : σ → α) (observe : σ → ι → β) : Prop :=
  ∀ s s' i i', kept (D.edge false s i) = kept (D.edge false s' i') → ∀ input t,
    D.observed observe (D.edge false s' i') input t = D.observed observe (D.edge false s i) input t

/-- The relation is kept by the reset and by every edge. -/
structure Unwinding (D : AsyncDesign σ ι ω) (R : σ → σ → Prop) : Prop where
  clear : ∀ s s', R s s' → R (D.clear s) (D.clear s')
  posedge : ∀ resetN s s' i, R s s' → R (D.posedge resetN s i) (D.posedge resetN s' i)

section Unwinding
variable {D : AsyncDesign σ ι ω} {R : σ → σ → Prop} (h : Unwinding D R)
include h

theorem Unwinding.present (resetN : Bool) {s s' : σ} (hs : R s s') :
    R (D.present resetN s) (D.present resetN s') := by
  cases resetN with
  | false => exact h.clear s s' hs
  | true => exact hs

theorem Unwinding.after {s s' : σ} (hs : R s s') (input : ℕ → Bool × ι) (t : ℕ) :
    R (D.after s input t) (D.after s' input t) := by
  induction t with
  | zero => exact hs
  | succ t ih => exact h.posedge _ _ _ _ (h.present _ ih)

theorem Unwinding.forgets {kept : σ → α} {observe : σ → ι → β}
    (hreset : ∀ s s' i i', kept (D.posedge false s i) = kept (D.posedge false s' i') →
      R (D.posedge false s i) (D.posedge false s' i'))
    (hobserve : ∀ s s' i, R s s' → observe s' i = observe s i) : D.Forgets kept observe := by
  intro s s' i i' hkept input t
  have hstart : R (D.edge false s i) (D.edge false s' i') := hreset _ _ _ _ hkept
  exact hobserve _ _ _ (h.present _ (h.after hstart input t))

end Unwinding

theorem after_eq_run (D : AsyncDesign σ ι ω) (s : σ) (i : ι) (input : ℕ → ι) (t : ℕ) :
    D.after (D.edge false s i) (fun u => (true, input u)) t =
      Run.state (D := D.toDesign) ⟨D.clear s, i, input⟩ t := by
  induction t with
  | zero => rfl
  | succ t ih =>
    rw [Run.state_succ, ← ih]
    rfl

end IbexAxi4l.AsyncReset
