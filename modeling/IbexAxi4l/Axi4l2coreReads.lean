import IbexAxi4l.Axi4l2core

set_option autoImplicit false

/-!
# Reads through the AXI4-Lite to core converter beside an idle write channel

Two runs without a write request that differ only on the write channels. The converter has no
byte enables for a read and passes the strobes of W on: they are the one thing that differs.
-/
namespace IbexAxi4l.Axi4l2core
open ReadyValid AxiLite

/-- The inputs of one cycle agree on the core side and on AR and R, and request no write. -/
structure SameReadInput (i i' : Input) : Prop where
  core : i'.core = i.core
  arvalid : i'.axi.arvalid = i.axi.arvalid
  araddr : i'.axi.araddr = i.axi.araddr
  arprot : i'.axi.arprot = i.axi.arprot
  rready : i'.axi.rready = i.axi.rready
  noWrite : i.axi.awvalid = false
  noWrite' : i'.axi.awvalid = false

structure SameReadState (s s' : Regs) : Prop where
  state : s'.state = s.state
  reading : s.state = .idle ∨ s.state = .read ∨ s.state = .readWait0 ∨ s.state = .readWait1
  buffers : s.state = .readWait1 → s'.rrespBuf = s.rrespBuf ∧ s'.rdataBuf = s.rdataBuf

/-- What a cycle shows of a read: the request without its byte enables and write data, and
the outputs on AR and R. -/
structure ReadOutput where
  req : Bool
  we : Bool
  addr : Addr
  arready : Bool
  rvalid : Bool
  rdata : Data
  rresp : Resp
  deriving DecidableEq

def readOutput (o : Output) : ReadOutput where
  req := o.core.req
  we := o.core.we
  addr := o.core.addr
  arready := o.axi.arready
  rvalid := o.axi.rvalid
  rdata := o.axi.rdata
  rresp := o.axi.rresp

variable {s s' : Regs} {i i' : Input}

theorem comb_reads (hs : SameReadState s s') (hi : SameReadInput i i') :
    (comb s' i').stateNext = (comb s i).stateNext ∧
      readOutput (comb s' i').toOutput = readOutput (comb s i).toOutput := by
  unfold comb readOutput
  rw [hs.state, hi.core]
  rcases hs.reading with h | h | h | h
  · simp only [h, hi.arvalid, hi.araddr, hi.noWrite, hi.noWrite', Bool.false_and]
    cases i.axi.arvalid <;> cases i.core.gnt <;> exact ⟨rfl, rfl⟩
  · simp only [h, hi.araddr]
    cases i.core.gnt <;> exact ⟨rfl, rfl⟩
  · simp only [h, hi.araddr, hi.rready]
    cases i.core.rvalid <;> cases i.axi.rready <;> exact ⟨rfl, rfl⟩
  · simp only [h, hi.araddr, hi.rready, (hs.buffers h).1, (hs.buffers h).2]
    cases i.axi.rready <;> exact ⟨rfl, rfl⟩

theorem comb_reading (hs : SameReadState s s') (hi : SameReadInput i i') :
    let next := (comb s i).stateNext
    (next = .idle ∨ next = .read ∨ next = .readWait0 ∨ next = .readWait1) ∧
      (next = .readWait1 → s.state = .readWait1 ∨ s.state = .readWait0 ∧ i.core.rvalid = true) := by
  unfold comb
  rcases hs.reading with h | h | h | h
  · simp only [h, hi.noWrite, Bool.false_and]
    cases i.axi.arvalid <;> cases i.core.gnt <;> simp
  · simp only [h]
    cases i.core.gnt <;> simp
  · simp only [h]
    cases i.core.rvalid <;> cases i.axi.rready <;> simp
  · simp only [h]
    cases i.axi.rready <;> simp

theorem comb_be (s : Regs) (i : Input) : (comb s i).core.be = i.axi.wstrb := by
  unfold comb
  cases s.state <;> dsimp only <;> split_ifs <;> rfl

theorem SameReadState.step (hs : SameReadState s s') (hi : SameReadInput i i') :
    SameReadState (posedge true s i) (posedge true s' i') := by
  have hnext := comb_reading hs hi
  refine ⟨(comb_reads hs hi).1, hnext.1, ?_⟩
  intro hwait
  change (if s'.state = .readWait0 ∧ i'.core.rvalid then resp i'.core.err else s'.rrespBuf) =
      (if s.state = .readWait0 ∧ i.core.rvalid then resp i.core.err else s.rrespBuf) ∧
    (if s'.state = .readWait0 ∧ i'.core.rvalid then i'.core.rdata else s'.rdataBuf) =
      (if s.state = .readWait0 ∧ i.core.rvalid then i.core.rdata else s.rdataBuf)
  rw [hs.state, hi.core]
  rcases hnext.2 hwait with hheld | hloaded
  · rw [(hs.buffers hheld).1, (hs.buffers hheld).2]
    exact ⟨rfl, rfl⟩
  · rw [if_pos hloaded, if_pos hloaded, if_pos hloaded, if_pos hloaded]
    exact ⟨rfl, rfl⟩

def SameReads (r r' : Run axi4l2core) : Prop := ∀ t, SameReadInput (r.input t) (r'.input t)

theorem SameReads.state {r r' : Run axi4l2core} (h : SameReads r r') (t : ℕ) :
    SameReadState (r.state t) (r'.state t) := by
  induction t with
  | zero =>
    refine ⟨rfl, Or.inl rfl, ?_⟩
    intro hwait
    change State.idle = .readWait1 at hwait
    exact absurd hwait (by decide)
  | succ t ih => exact ih.step (h t)

/-- The two runs show the same reads; the byte enables are those of W in each of them. -/
structure ReadsAlike (r r' : Run axi4l2core) : Prop where
  outputs : ∀ t, readOutput (r'.output t) = readOutput (r.output t)
  enables : ∀ t, (r.output t).core.be = (r.input t).axi.wstrb ∧
    (r'.output t).core.be = (r'.input t).axi.wstrb
  enablesAlike : ∀ t, (r'.output t).core.be = (r.output t).core.be ↔
    (r'.input t).axi.wstrb = (r.input t).axi.wstrb

theorem reads_alike (r r' : Run axi4l2core) (h : SameReads r r') : ReadsAlike r r' where
  outputs t := (comb_reads (h.state t) (h t)).2
  enables t := ⟨comb_be _ _, comb_be _ _⟩
  enablesAlike t := by
    have hbe : (r.output t).core.be = (r.input t).axi.wstrb := comb_be _ _
    have hbe' : (r'.output t).core.be = (r'.input t).axi.wstrb := comb_be _ _
    rw [hbe, hbe']

/-- A read that is granted in its second cycle, while W shows the strobes `strb`. -/
def readBeside (strb : ℕ → Strb) : Run axi4l2core where
  before := ⟨.write, .okay, .okay, 0⟩
  resetInput := ⟨⟨false, false, 0, false⟩, .idle⟩
  input t :=
    { core := { gnt := decide (t = 1), rvalid := decide (t = 2), rdata := 0x2a, err := false }
      axi := { AxiMaster.idle with arvalid := decide (t ≤ 1), araddr := 0x40, wstrb := strb t } }

theorem readBeside_same (strb strb' : ℕ → Strb) :
    SameReads (readBeside strb) (readBeside strb') := by
  intro t
  exact ⟨rfl, rfl, rfl, rfl, rfl, rfl, rfl⟩

theorem readBeside_alike :
    ReadsAlike (readBeside (fun _ => 0)) (readBeside (fun t => if t = 1 then 0b1111 else 0)) :=
  reads_alike _ _ (readBeside_same _ _)

theorem readBeside_enables : ¬ ∀ r r' : Run axi4l2core, SameReads r r' →
    ∀ t, (r.output t).core.req = true → (r'.output t).core.be = (r.output t).core.be := by
  intro h
  have hsame := readBeside_same (fun _ => 0) (fun t => if t = 1 then 0b1111 else 0)
  exact absurd (h _ _ hsame 1 (by decide)) (by decide)

end IbexAxi4l.Axi4l2core
