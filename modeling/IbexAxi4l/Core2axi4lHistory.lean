import IbexAxi4l.Core2axi4l

set_option autoImplicit false

/-!
# What the converter has done so far

The state of the converter against the histories of its two ports: `writeData` and
`writeAddr` hold one half of the pending write, the waiting states hold one request
whose answer is missing, and there is nothing else.
-/
namespace IbexAxi4l.Core2axi4l
open EventLog ReadyValid AxiLite

section
variable (r : Run core2axi4l)

/-- The answers taken from the bus: `true` for a B beat, `false` for an R beat. -/
def answer (t : ℕ) : Option Bool :=
  if ((axiPort r).b.beat t).isSome then some true
  else if ((axiPort r).r.beat t).isSome then some false
  else none

def lastRequest (t : ℕ) : Request := (corePort r).request.data (t-1)

def heldAddr (t : ℕ) : List Addr :=
  slot (decide (r.state t = .writeData)) (lastRequest r t).addr

def heldData (t : ℕ) : List WriteBeat :=
  slot (decide (r.state t = .writeAddr)) ⟨(lastRequest r t).wdata, (lastRequest r t).be⟩

def unanswered (t : ℕ) : List Bool :=
  slot (decide (r.state t = .writeWait)) true ++ slot (decide (r.state t = .readWait)) false

@[simp] theorem lastRequest_succ (t : ℕ) :
    lastRequest r (t+1) = (corePort r).request.data t := rfl

end

section History
variable {r : Run core2axi4l} {n : ℕ} (hstable : (corePort r).Stable n)
include hstable

theorem half_pending {t : ℕ} (ht : t ≤ n)
    (hs : r.state t = .writeData ∨ r.state t = .writeAddr) :
    ∃ s, t = s + 1 ∧ ((corePort r).master s).req = true ∧
      ((corePort r).slave s).gnt = false ∧ ((corePort r).master s).we = true := by
  induction t with
  | zero => simp [state_zero] at hs
  | succ t ih =>
    obtain ⟨a, h⟩ := does r t
    rw [h.post] at hs
    cases a with
    | stay s =>
      have hpre : r.state t = s := h.pre
      rw [← hpre] at hs
      obtain ⟨u, rfl, hreq, hgnt, hwe⟩ := ih (by omega) hs
      have hk := hstable u (by omega) hreq hgnt
      exact ⟨u+1, rfl, hk.1, h.gnt, hk.2.2.1.trans hwe⟩
    | sendAddr | sendData =>
      exact ⟨t, rfl, (h.request rfl).1, h.gnt, (h.request rfl).2⟩
    | sendBoth | sendRead | finishData | finishAddr | writeDone | readDone => simp at hs

theorem half_request {t : ℕ} (ht : t < n)
    (hs : r.state t = .writeData ∨ r.state t = .writeAddr) :
    ((corePort r).master t).req = true ∧ ((corePort r).master t).we = true ∧
      ((corePort r).request.data t).addr = (lastRequest r t).addr ∧
      ((corePort r).request.data t).be = (lastRequest r t).be ∧
      ((corePort r).request.data t).wdata = (lastRequest r t).wdata := by
  obtain ⟨s, rfl, hreq, hgnt, hwe⟩ := half_pending hstable (Nat.le_of_lt ht) hs
  obtain ⟨hv, haddr, hkwe, hdata⟩ := hstable s ht hreq hgnt
  exact ⟨hv, hkwe.trans hwe, haddr, hdata hwe⟩

theorem request_of_gnt {t : ℕ} (ht : t < n) {a : Act} (h : Does r t a) (hg : a.gnt = true) :
    ((corePort r).master t).req = true ∧ ((corePort r).master t).we = a.write := by
  cases a with
  | sendBoth | sendRead => exact h.request rfl
  | finishData =>
    have hh := half_request hstable ht (.inl h.pre)
    exact ⟨hh.1, hh.2.1⟩
  | finishAddr =>
    have hh := half_request hstable ht (.inr h.pre)
    exact ⟨hh.1, hh.2.1⟩
  | stay | sendAddr | sendData | writeDone | readDone => simp at hg

end History

section Events
variable {r : Run core2axi4l} {t : ℕ} {a : Act} (h : Does r t a)
include h

theorem Does.awAddr :
    (axiPort r).awAddr t = if a.aw then some ((corePort r).request.data t).addr else none := by
  rw [← h.aw]
  unfold AxiPort.awAddr Link.beat
  split <;> rfl

theorem Does.wBeat : (axiPort r).w.beat t = if a.w then
    some ⟨((corePort r).request.data t).wdata, ((corePort r).request.data t).be⟩ else none := by
  rw [← h.w]
  rfl

theorem Does.arAddr :
    (axiPort r).arAddr t = if a.ar then some ((corePort r).request.data t).addr else none := by
  rw [← h.ar]
  unfold AxiPort.arAddr Link.beat
  split <;> rfl

theorem Does.answer :
    answer r t = if a.b then some true else if a.rd then some false else none := by
  unfold Core2axi4l.answer
  rw [isSome_beat, isSome_beat, h.b, h.rd]

variable {n : ℕ} (hstable : (corePort r).Stable n) (ht : t < n)
include hstable ht

theorem Does.grant :
    (corePort r).grant t = if a.gnt then some ((corePort r).request.data t) else none := by
  have hv : ((corePort r).request.valid t && (corePort r).request.ready t) = a.gnt := by
    change (((corePort r).master t).req && ((corePort r).slave t).gnt) = a.gnt
    rw [h.gnt]
    cases hg : a.gnt with
    | false => exact Bool.and_false _
    | true => rw [(request_of_gnt hstable ht h hg).1]; rfl
  unfold CorePort.grant Link.beat
  rw [hv]

theorem Does.granted_we (hg : a.gnt = true) :
    ((corePort r).request.data t).we = a.write :=
  (request_of_gnt hstable ht h hg).2

theorem Does.write : (corePort r).write t =
    if a.gnt && a.write then some ((corePort r).request.data t) else none := by
  unfold CorePort.write
  rw [h.grant hstable ht]
  cases hg : a.gnt
  · rfl
  · simp [Option.filter, h.granted_we hstable ht hg]

theorem Does.read : (corePort r).read t =
    if a.gnt && !a.write then some ((corePort r).request.data t) else none := by
  unfold CorePort.read
  rw [h.grant hstable ht]
  cases hg : a.gnt
  · rfl
  · simp [Option.filter, h.granted_we hstable ht hg]

end Events

section Laws
variable {r : Run core2axi4l} {n : ℕ} (hstable : (corePort r).Stable n)
include hstable

/-- One half of the writes, sent no later than they are granted: the state `half` holds the
half of the pending write that is already out. -/
theorem half_fifo {γ : Type} {f : Request → γ} {e : ℕ → Option γ} {half : State}
    {sent : Act → Bool}
    (hhalf : (half = .writeData ∧ sent = Act.aw) ∨ (half = .writeAddr ∧ sent = Act.w))
    (hf : ∀ q q', q.addr = q'.addr → q.be = q'.be → q.wdata = q'.wdata → f q = f q')
    (he : ∀ t a, Does r t a →
      e t = if sent a then some (f ((corePort r).request.data t)) else none) :
    Fifo n e (fun t => ((corePort r).write t).map f)
      (fun t => slot (decide (r.state t = half)) (f (lastRequest r t))) := by
  have hpending : half = .writeData ∨ half = .writeAddr := hhalf.imp And.left And.left
  constructor
  · rcases hhalf with ⟨rfl, _⟩ | ⟨rfl, _⟩ <;> rfl
  intro t ht
  obtain ⟨a, h⟩ := does r t
  have hsame (hs : r.state t = half) : f ((corePort r).request.data t) = f (lastRequest r t) := by
    rw [← hs] at hpending
    have hk := half_request hstable ht hpending
    exact hf _ _ hk.2.2.1 hk.2.2.2.1 hk.2.2.2.2
  rw [he t a h, h.write hstable ht]
  rw [h.pre] at hsame ⊢
  rw [h.post]
  cases a with
  | stay s =>
    by_cases hs : s = half
    · rcases hhalf with ⟨rfl, rfl⟩ | ⟨rfl, rfl⟩ <;> simp [hs, hsame hs]
    · rcases hhalf with ⟨rfl, rfl⟩ | ⟨rfl, rfl⟩ <;> simp [hs]
  | finishData =>
    rcases hhalf with ⟨rfl, rfl⟩ | ⟨rfl, rfl⟩
    · simp [hsame rfl]
    · simp
  | finishAddr =>
    rcases hhalf with ⟨rfl, rfl⟩ | ⟨rfl, rfl⟩
    · simp
    · simp [hsame rfl]
  | sendAddr | sendData | sendBoth | sendRead | writeDone | readDone =>
    rcases hhalf with ⟨rfl, rfl⟩ | ⟨rfl, rfl⟩ <;> simp

theorem addr_fifo :
    Fifo n (axiPort r).awAddr (fun t => ((corePort r).write t).map Request.addr)
      (heldAddr r) :=
  half_fifo hstable (.inl ⟨rfl, rfl⟩) (fun _ _ haddr _ _ => haddr) (fun _ _ h => h.awAddr)

theorem data_fifo :
    Fifo n (axiPort r).w.beat
      (fun t => ((corePort r).write t).map (fun q => (⟨q.wdata, q.be⟩ : WriteBeat)))
      (heldData r) :=
  half_fifo hstable (.inr ⟨rfl, rfl⟩)
    (fun _ _ _ hbe hwdata => congrArg₂ WriteBeat.mk hwdata hbe) (fun _ _ h => h.wBeat)

theorem arAddr_eq {t : ℕ} (ht : t < n) :
    (axiPort r).arAddr t = ((corePort r).read t).map Request.addr := by
  obtain ⟨a, h⟩ := does r t
  rw [h.arAddr, h.read hstable ht]
  cases a <;> rfl

/-- Every granted request is answered once, in order, on the channel of its kind. -/
theorem answer_fifo :
    Fifo n (fun t => ((corePort r).grant t).map Request.we) (answer r) (unanswered r) := by
  constructor
  · rfl
  intro t ht
  obtain ⟨a, h⟩ := does r t
  have hw := h.granted_we hstable ht
  rw [h.grant hstable ht, h.answer]
  unfold unanswered
  rw [h.pre, h.post]
  cases a with
  | stay s => exact List.append_nil _
  | sendBoth | sendRead | finishData | finishAddr =>
    simp at hw ⊢
    exact hw
  | sendAddr | sendData | writeDone | readDone => simp

theorem write_count {t : ℕ} (ht : t ≤ n) :
    count (corePort r).write t =
      count (axiPort r).b.beat t + if r.state t = .writeWait then 1 else 0 := by
  induction t with
  | zero => rfl
  | succ t ih =>
    have old := ih (by omega)
    obtain ⟨a, h⟩ := does r t
    rw [h.pre] at old
    rw [count_succ, count_succ, isSome_beat, h.b, h.write hstable (by omega), h.post, old]
    cases a with
    | stay s => rfl
    | _ => simp

theorem read_count {t : ℕ} (ht : t ≤ n) :
    count (corePort r).read t =
      count (axiPort r).r.beat t + if r.state t = .readWait then 1 else 0 := by
  induction t with
  | zero => rfl
  | succ t ih =>
    have old := ih (by omega)
    obtain ⟨a, h⟩ := does r t
    rw [h.pre] at old
    rw [count_succ, count_succ, isSome_beat, h.rd, h.read hstable (by omega), h.post, old]
    cases a with
    | stay s => rfl
    | _ => simp

end Laws

end IbexAxi4l.Core2axi4l
