import IbexAxi4l.Axi4lLed

set_option autoImplicit false

/-!
# Writes that the AXI4-Lite LED driver answers with an error

The register is written at every address, so a write that is answered `SLVERR` leaves it as it
was only if it would change nothing anyway.
-/
namespace IbexAxi4l.Axi4lLed
open EventLog ReadyValid AxiLite ByteLanes RegisterSlave Journal

section Run
variable {N : ℕ} (r : Run (axi4lLed N))

def ledReg (t : ℕ) : Data := (r.state t).ledReg

/-- Write `k`, made in cycle `tc`, does what its response says: nothing with `SLVERR`, and
with `OKAY` it sets the bytes that it selects. -/
structure Respects (k tc : ℕ) (c : WriteChannel.Write) : Prop where
  error : ∀ t, (trace r).port.b.Shown k t → ((trace r).port.slave t).bresp = .slverr →
    ledReg r (tc+1) = ledReg r tc
  okay : ∀ t, (trace r).port.b.Shown k t → ((trace r).port.slave t).bresp = .okay →
    ∀ b < 4, byte (ledReg r (tc+1)) b =
      if c.strb.getLsbD b = true then byte c.data b else byte (ledReg r tc) b

/-- The write is at offset 0, or every byte that it selects holds its data already. -/
def Harmless (tc : ℕ) (c : WriteChannel.Write) : Prop :=
  offset c.addr = 0x000 ∨
    ∀ b < 4, c.strb.getLsbD b = true → byte (ledReg r tc) b = byte c.data b

def okayWrites (t : ℕ) : List WriteChannel.Write :=
  (log (trace r).commits t).filter (fun c => check c.addr = .okay)

/-- Exactly the harmless writes do what their response says, and only if there is no other
write is the register the fold of the acknowledged ones. -/
structure ErrorLaw : Prop where
  write : ∀ k tc c, Nth (trace r).commits k tc c → (Respects r k tc c ↔ Harmless r tc c)
  run : (∀ k tc c, Nth (trace r).commits k tc c → Respects r k tc c) ↔
    ∀ tc c, (trace r).commits tc = some c → Harmless r tc c
  fold : (∀ t, ledReg r t = fold store (ledReg r 0) (okayWrites r t)) ↔
    ∀ tc c, (trace r).commits tc = some c → Harmless r tc c

variable {r}

theorem follows : Follows store (trace r).commits (ledReg r) := (drives r).follows

theorem check_eq_okay {addr : Addr} : check addr = .okay ↔ offset addr = 0x000 := by
  unfold check
  by_cases h : offset addr = 0x000
  · rw [if_pos h]
    exact ⟨fun _ => h, fun _ => rfl⟩
  · rw [if_neg h]
    exact ⟨fun he => absurd he (by decide), fun he => absurd he h⟩

theorem check_eq_slverr {addr : Addr} : check addr = .slverr ↔ offset addr ≠ 0x000 := by
  unfold check
  by_cases h : offset addr = 0x000
  · rw [if_pos h]
    exact ⟨fun he => absurd he (by decide), fun hne => absurd h hne⟩
  · rw [if_neg h]
    exact ⟨fun _ => h, fun _ => rfl⟩

theorem harmless_of_kept {tc : ℕ} {c : WriteChannel.Write}
    (hc : (trace r).commits tc = some c) (hkept : ledReg r (tc+1) = ledReg r tc) :
    Harmless r tc c := by
  rw [follows.commit hc] at hkept
  exact Or.inr ((strobe_eq_self_iff _ _ _).1 hkept)

theorem kept_of_harmless {tc : ℕ} {c : WriteChannel.Write}
    (hc : (trace r).commits tc = some c) (h : Harmless r tc c) (hne : offset c.addr ≠ 0x000) :
    ledReg r (tc+1) = ledReg r tc := by
  rw [follows.commit hc]
  rcases h with ho | hsame
  · exact absurd ho hne
  · exact (strobe_eq_self_iff _ _ _).2 hsame

theorem respects_iff {k tc : ℕ} {c : WriteChannel.Write} (hc : Nth (trace r).commits k tc c) :
    Respects r k tc c ↔ Harmless r tc c := by
  constructor
  · intro h
    by_cases ho : offset c.addr = 0x000
    · exact Or.inl ho
    · have hshown := (drives r).answered hc
      have hresp := (drives r).status hc hshown
      rw [check_eq_slverr.2 ho] at hresp
      exact harmless_of_kept hc.occurs (h.error (tc+1) hshown hresp)
  · intro h
    refine ⟨?_, ?_⟩
    · intro t hs hresp
      rw [(drives r).status hc hs] at hresp
      exact kept_of_harmless hc.occurs h (check_eq_slverr.1 hresp)
    · intro t hs hresp b hb
      rw [follows.commit hc.occurs]
      unfold store
      rw [byte_strobe _ _ _ _ _ (by omega)]
      simp [hb]

theorem okayWrites_okay {t : ℕ} {c : WriteChannel.Write} (hc : (trace r).commits t = some c)
    (ho : offset c.addr = 0x000) : okayWrites r (t+1) = okayWrites r t ++ [c] := by
  unfold okayWrites
  rw [log_succ_some hc, List.filter_append]
  simp [check_eq_okay.2 ho]

theorem okayWrites_error {t : ℕ} {c : WriteChannel.Write} (hc : (trace r).commits t = some c)
    (ho : offset c.addr ≠ 0x000) : okayWrites r (t+1) = okayWrites r t := by
  unfold okayWrites
  rw [log_succ_some hc, List.filter_append]
  simp [check_eq_slverr.2 ho]

theorem fold_of_harmless (h : ∀ tc c, (trace r).commits tc = some c → Harmless r tc c) (t : ℕ) :
    ledReg r t = fold store (ledReg r 0) (okayWrites r t) := by
  induction t with
  | zero => rfl
  | succ t ih =>
    cases hc : (trace r).commits t with
    | none =>
      have hlog : okayWrites r (t+1) = okayWrites r t := by
        unfold okayWrites
        rw [log_succ_none hc]
      rw [follows.idle hc, hlog, ih]
    | some c =>
      by_cases ho : offset c.addr = 0x000
      · rw [follows.commit hc, okayWrites_okay hc ho, fold_snoc, ← ih]
      · rw [kept_of_harmless hc (h t c hc) ho, okayWrites_error hc ho, ih]

theorem harmless_of_fold (h : ∀ t, ledReg r t = fold store (ledReg r 0) (okayWrites r t))
    {tc : ℕ} {c : WriteChannel.Write} (hc : (trace r).commits tc = some c) : Harmless r tc c := by
  by_cases ho : offset c.addr = 0x000
  · exact Or.inl ho
  · apply harmless_of_kept hc
    rw [h (tc+1), okayWrites_error hc ho, ← h tc]

end Run

theorem error_law {N : ℕ} (r : Run (axi4lLed N)) : ErrorLaw r where
  write _ _ _ hc := respects_iff hc
  run := by
    constructor
    · intro h tc c hc
      exact (respects_iff ⟨hc, rfl⟩).1 (h (count (trace r).commits tc) tc c ⟨hc, rfl⟩)
    · intro h k tc c hc
      exact (respects_iff hc).2 (h tc c hc.occurs)
  fold := by
    constructor
    · intro h tc c hc
      exact harmless_of_fold h hc
    · exact fold_of_harmless

def errorWrite : Run (axi4lLed 4) where
  before :=
    { write := ⟨false, false, true, 0, 0, 0⟩, read := ⟨false, true, 0⟩, bresp := .okay,
      rresp := .okay, rdata := 0, ledReg := 0 }
  resetInput := .idle
  input := fun
    | 0 => (AxiMaster.idle.withAw 4).withW 1 0b1111
    | _ => .idle

theorem errorWrite_changes : ¬ ∀ (r : Run (axi4lLed 4)) (k tc : ℕ) (c : WriteChannel.Write),
    Nth (trace r).commits k tc c → Respects r k tc c := by
  intro h
  have hrespects := h errorWrite 0 0 ⟨4, 1, 0b1111⟩ ⟨by decide, by decide⟩
  exact absurd (hrespects.error 1 ⟨by decide, by decide⟩ (by decide)) (by decide)

end IbexAxi4l.Axi4lLed
