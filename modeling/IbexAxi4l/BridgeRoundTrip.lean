import Mathlib.Tactic.IntervalCases
import IbexAxi4l.Core2axi4l
import IbexAxi4l.Axi4l2core

set_option autoImplicit false

/-!
# From the core interface to AXI4-Lite and back

`core2axi4l` with its AXI side connected to the AXI side of `axi4l2core`. The wires between
them form no combinational loop, and `wires` is the only solution of both modules'
equations. `Phase` is the machine the pair implements: a wire that is busy from a grant to
its response.
-/
namespace IbexAxi4l.BridgeRoundTrip
open EventLog ReadyValid AxiLite

structure Regs where
  up : Core2axi4l.State
  down : Axi4l2core.Regs

structure Input where
  core : CoreMaster
  mem : CoreSlave

structure Output where
  core : CoreSlave
  mem : CoreMaster

structure Wires where
  master : AxiMaster
  slave : AxiSlave

def silent : AxiSlave where
  awready := false
  wready := false
  bvalid := false
  bresp := .okay
  arready := false
  rvalid := false
  rdata := 0
  rresp := .okay

/-- What the converter drives without looking at the slave is enough for `axi4l2core`, whose
outputs complete the converter's. -/
def wires (s : Regs) (i : Input) : Wires :=
  let request := (Core2axi4l.out s.up ⟨i.core, silent⟩).axi
  let slave := (Axi4l2core.comb s.down ⟨i.mem, request⟩).axi
  ⟨(Core2axi4l.out s.up ⟨i.core, slave⟩).axi, slave⟩

def out (s : Regs) (i : Input) : Output :=
  let w := wires s i
  ⟨(Core2axi4l.out s.up ⟨i.core, w.slave⟩).core, (Axi4l2core.comb s.down ⟨i.mem, w.master⟩).core⟩

def posedge (aresetn : Bool) (s : Regs) (i : Input) : Regs :=
  let w := wires s i
  ⟨Core2axi4l.posedge aresetn s.up ⟨i.core, w.slave⟩,
    Axi4l2core.posedge aresetn s.down ⟨i.mem, w.master⟩⟩

def bridges : Design Regs Input Output := ⟨posedge, out⟩

def upstream (r : Run bridges) : CorePort where
  master t := (r.input t).core
  slave t := (r.output t).core

def downstream (r : Run bridges) : CorePort where
  master t := (r.output t).mem
  slave t := (r.input t).mem

structure Wires.Solves (w : Wires) (s : Regs) (i : Input) : Prop where
  master : w.master = (Core2axi4l.out s.up ⟨i.core, w.slave⟩).axi
  slave : w.slave = (Axi4l2core.comb s.down ⟨i.mem, w.master⟩).axi

theorem out_axi (st : Core2axi4l.State) (core : CoreMaster) (axi axi' : AxiSlave) :
    ∃ bready rready, (Core2axi4l.out st ⟨core, axi⟩).axi =
      { (Core2axi4l.out st ⟨core, axi'⟩).axi with bready := bready, rready := rready } := by
  refine ⟨(Core2axi4l.fsm st core axi).bready, (Core2axi4l.fsm st core axi).rready, ?_⟩
  unfold Core2axi4l.out
  cases st <;> simp only [Core2axi4l.fsm] <;> split_ifs <;> rfl

theorem comb_axi (s : Axi4l2core.Regs) (core : CoreSlave) (axi : AxiMaster)
    (bready rready : Bool) :
    (Axi4l2core.comb s ⟨core, { axi with bready := bready, rready := rready }⟩).axi =
      (Axi4l2core.comb s ⟨core, axi⟩).axi := by
  unfold Axi4l2core.comb
  cases s.state <;> dsimp only <;> split_ifs <;> rfl

theorem comb_out (s : Regs) (i : Input) (axi axi' : AxiSlave) :
    (Axi4l2core.comb s.down ⟨i.mem, (Core2axi4l.out s.up ⟨i.core, axi⟩).axi⟩).axi =
      (Axi4l2core.comb s.down ⟨i.mem, (Core2axi4l.out s.up ⟨i.core, axi'⟩).axi⟩).axi := by
  rcases out_axi s.up i.core axi axi' with ⟨bready, rready, h⟩
  rw [h, comb_axi]

theorem wires_solve (s : Regs) (i : Input) : (wires s i).Solves s i where
  master := rfl
  slave := comb_out s i _ _

theorem wires_unique {s : Regs} {i : Input} {w : Wires} (h : w.Solves s i) : w = wires s i := by
  have hslave : w.slave = (wires s i).slave := by
    rw [h.slave, h.master]
    exact comb_out s i _ _
  have hmaster : w.master = (wires s i).master := by
    rw [h.master, hslave]
    rfl
  cases w
  exact congrArg₂ Wires.mk hmaster hslave

/-- Nothing is on its way, or a request of this kind waits for its grant or its response. -/
inductive Phase where
  | free
  | wants (we : Bool)
  | waits (we : Bool)
  deriving DecidableEq

namespace Phase

@[simp] def up : Phase → Core2axi4l.State
  | free | wants _ => .idle
  | waits we => if we then .writeWait else .readWait

@[simp] def down : Phase → Axi4l2core.State
  | free => .idle
  | wants we => Axi4l2core.wants we
  | waits we => Axi4l2core.wait0 we

@[simp] def busy : Phase → Bool
  | waits _ => true
  | _ => false

@[simp] def next (ph : Phase) (i : Input) : Phase :=
  match ph with
  | waits we => if i.mem.rvalid then free else waits we
  | _ =>
    if i.core.req then if i.mem.gnt then waits i.core.we else wants i.core.we
    else free

structure At (ph : Phase) (s : Regs) : Prop where
  up : s.up = ph.up
  down : s.down.state = ph.down

def Asks (ph : Phase) (core : CoreMaster) : Prop :=
  ∀ we, ph = wants we → core.req = true ∧ core.we = we

end Phase

structure Passes (busy : Bool) (i : Input) (o : Output) : Prop where
  req : o.mem.req = (!busy && i.core.req)
  payload : o.mem.req = true →
    o.mem.addr = i.core.addr ∧ o.mem.we = i.core.we ∧ o.mem.be = i.core.be ∧
      o.mem.wdata = i.core.wdata
  gnt : o.core.gnt = (o.mem.req && i.mem.gnt)
  rvalid : o.core.rvalid = (busy && i.mem.rvalid)
  err : o.core.rvalid = true → o.core.err = i.mem.err
  rdata : busy = true → o.core.rdata = i.mem.rdata

theorem resp_ne_okay (err : Bool) : (Axi4l2core.resp err != .okay) = err := by
  cases err <;> rfl

theorem cycle {ph : Phase} {s : Regs} {i : Input} (hat : ph.At s) (hasks : ph.Asks i.core) :
    Passes ph.busy i (out s i) ∧ (ph.next i).At (posedge true s i) := by
  have hup := hat.up
  have hdown := hat.down
  cases ph with
  | free =>
    cases hreq : i.core.req with
    | false =>
      constructor <;> constructor <;>
        simp [out, posedge, wires, Core2axi4l.out, Core2axi4l.posedge, Core2axi4l.fsm,
          Axi4l2core.posedge, Axi4l2core.comb, hup, hdown, hreq]
    | true =>
      -- granted at once, or remembered by `axi4l2core` only
      cases hwe : i.core.we <;> cases hgnt : i.mem.gnt <;> constructor <;> constructor <;>
        simp [out, posedge, wires, Core2axi4l.out, Core2axi4l.posedge, Core2axi4l.fsm,
          Axi4l2core.posedge, Axi4l2core.comb, Axi4l2core.wants, Axi4l2core.wait0, silent,
          hup, hdown, hreq, hwe, hgnt]
  | wants we =>
    have hreq := (hasks we rfl).1
    have hwe := (hasks we rfl).2
    cases we <;> cases hgnt : i.mem.gnt <;> constructor <;> constructor <;>
      simp [out, posedge, wires, Core2axi4l.out, Core2axi4l.posedge, Core2axi4l.fsm,
        Axi4l2core.posedge, Axi4l2core.comb, Axi4l2core.wants, Axi4l2core.wait0, silent,
        hup, hdown, hreq, hwe, hgnt]
  | waits we =>
    -- the converter is ready in the cycle of the response, so nothing is buffered
    cases we <;> cases hrvalid : i.mem.rvalid <;> constructor <;> constructor <;>
      simp [out, posedge, wires, Core2axi4l.out, Core2axi4l.posedge, Core2axi4l.fsm,
        Axi4l2core.posedge, Axi4l2core.comb, Axi4l2core.wait0, resp_ne_okay, silent,
        hup, hdown, hrvalid]

/-! ## Runs -/

def phase (r : Run bridges) : ℕ → Phase
  | 0 => .free
  | t + 1 => (phase r t).next (r.input t)

section Run
variable {r : Run bridges} {n : ℕ} (hstable : (upstream r).Stable n)
include hstable

theorem phase_at {t : ℕ} (ht : t < n) :
    (phase r t).At (r.state t) ∧ (phase r t).Asks (r.input t).core := by
  induction t with
  | zero =>
    refine ⟨⟨rfl, rfl⟩, ?_⟩
    intro we h
    exact absurd h (by simp [phase])
  | succ t ih =>
    have hcycle := cycle (ih (by omega)).1 (ih (by omega)).2
    refine ⟨hcycle.2, ?_⟩
    intro we h
    -- the request was made and not granted, so the core makes it again
    have hnext : (phase r t).busy = false ∧ (r.input t).core.req = true ∧
        (r.input t).mem.gnt = false ∧ (r.input t).core.we = we := by
      change (phase r t).next (r.input t) = .wants we at h
      cases hph : phase r t with
      | waits we' =>
        rw [hph] at h
        simp only [Phase.next] at h
        split_ifs at h
      | free | wants we' =>
        rw [hph] at h
        simp only [Phase.next] at h
        split_ifs at h with hreq hgnt
        exact ⟨rfl, hreq, by simpa using hgnt, by simpa using h⟩
    have hgnt : (r.output t).core.gnt = false := by
      change (out (r.state t) (r.input t)).core.gnt = false
      rw [hcycle.1.gnt, hnext.2.2.1, Bool.and_false]
    have hkept := hstable t ht hnext.2.1 hgnt
    exact ⟨hkept.1, hkept.2.2.1.trans hnext.2.2.2⟩

theorem passes {t : ℕ} (ht : t < n) : Passes (phase r t).busy (r.input t) (r.output t) :=
  (cycle (phase_at hstable ht).1 (phase_at hstable ht).2).1

theorem phase_succ_at {t : ℕ} (ht : t < n) : (phase r (t+1)).At (r.state (t+1)) :=
  (cycle (phase_at hstable ht).1 (phase_at hstable ht).2).2

theorem phase_succ_busy {t : ℕ} (ht : t < n) : (phase r (t+1)).busy =
    (((phase r t).busy && !(r.output t).core.rvalid) || (r.output t).core.gnt) := by
  have hp := passes hstable ht
  rw [hp.rvalid, hp.gnt, hp.req]
  change ((phase r t).next (r.input t)).busy = _
  cases phase r t with
  | waits we => cases hv : (r.input t).mem.rvalid <;> simp [hv]
  | free | wants we =>
    cases hreq : (r.input t).core.req <;> cases hgnt : (r.input t).mem.gnt <;> simp [hreq, hgnt]

theorem outstanding_count {t : ℕ} (ht : t ≤ n) : count (upstream r).grant t =
    count (upstream r).response t + if (phase r t).busy then 1 else 0 := by
  induction t with
  | zero => rfl
  | succ t ih =>
    have hp := passes hstable ht
    have hgrant : ((upstream r).grant t).isSome = (r.output t).core.gnt := by
      refine isSome_beat.trans ?_
      change ((r.input t).core.req && (r.output t).core.gnt) = _
      rw [hp.gnt, hp.req]
      cases (r.input t).core.req <;> simp
    have hresponse : ((upstream r).response t).isSome = (r.output t).core.rvalid :=
      response_isSome _ _
    rw [count_succ, count_succ, ih (by omega), hgrant, hresponse, phase_succ_busy hstable ht,
      hp.rvalid, hp.gnt, hp.req]
    cases (phase r t).busy <;> cases (r.input t).mem.rvalid <;>
      cases (r.input t).core.req <;> cases (r.input t).mem.gnt <;> simp

end Run

/-- Some request has been granted and not answered before cycle `t`. -/
def Outstanding (r : Run bridges) (t : ℕ) : Prop :=
  count (upstream r).response t < count (upstream r).grant t

/-- The states the two machines can be in together. -/
def Joint : Core2axi4l.State → Axi4l2core.State → Prop
  | .idle, .idle | .idle, .read | .idle, .write => True
  | .readWait, .readWait0 | .writeWait, .writeWait0 => True
  | _, _ => False

structure Transparent (r : Run bridges) (n : ℕ) : Prop where
  idle : ∀ t < n, ¬ Outstanding r t →
    let up := upstream r
    let down := downstream r
    (down.master t).req = (up.master t).req ∧
    ((down.master t).req = true →
      (down.master t).addr = (up.master t).addr ∧ (down.master t).we = (up.master t).we ∧
      (down.master t).be = (up.master t).be ∧ (down.master t).wdata = (up.master t).wdata) ∧
    (up.slave t).gnt = ((down.master t).req && (down.slave t).gnt) ∧
    (up.slave t).rvalid = false
  busy : ∀ t < n, Outstanding r t →
    let up := upstream r
    let down := downstream r
    (down.master t).req = false ∧ (up.slave t).gnt = false ∧
    (up.slave t).rvalid = (down.slave t).rvalid ∧
    ((up.slave t).rvalid = true → (up.slave t).err = (down.slave t).err) ∧
    (up.slave t).rdata = (down.slave t).rdata
  joint : ∀ t < n, Joint (r.state t).up (r.state t).down.state
  returns : ∀ t < n, ((upstream r).slave t).rvalid = true →
    (r.state (t+1)).up = .idle ∧ (r.state (t+1)).down.state = .idle

theorem outstanding_iff {r : Run bridges} {n t : ℕ} (hstable : (upstream r).Stable n)
    (ht : t ≤ n) : Outstanding r t ↔ (phase r t).busy = true := by
  unfold Outstanding
  rw [outstanding_count hstable ht]
  cases (phase r t).busy <;> simp

/-- The round trip is transparent to every core that holds its requests. -/
theorem transparent (r : Run bridges) (n : ℕ) (hstable : (upstream r).Stable n) :
    Transparent r n where
  idle t ht hout := by
    have hp := passes hstable ht
    rw [outstanding_iff hstable (by omega), Bool.not_eq_true] at hout
    rw [hout] at hp
    exact ⟨hp.req, hp.payload, hp.gnt, hp.rvalid⟩
  busy t ht hout := by
    have hp := passes hstable ht
    rw [outstanding_iff hstable (by omega)] at hout
    rw [hout] at hp
    refine ⟨hp.req, ?_, hp.rvalid, hp.err, hp.rdata rfl⟩
    exact hp.gnt.trans (by rw [hp.req]; rfl)
  joint t ht := by
    have hat := (phase_at hstable ht).1
    rw [hat.up, hat.down]
    cases phase r t with
    | free => exact trivial
    | wants we | waits we => cases we <;> exact trivial
  returns t ht hrvalid := by
    have hp := passes hstable ht
    have hat := phase_succ_at hstable ht
    have hanswer : (phase r (t+1)) = .free := by
      have hv : (r.output t).core.rvalid = true := hrvalid
      rw [hp.rvalid] at hv
      change (phase r t).next (r.input t) = .free
      cases hph : phase r t with
      | waits we =>
        rw [hph] at hv
        exact if_pos hv
      | free | wants we => simp [hph] at hv
    rw [hanswer] at hat
    exact ⟨hat.up, hat.down⟩

/-- A write that waits for its grant, then a read that is granted at once and fails. -/
def roundTrip : Run bridges :=
  let none : CoreMaster := { req := false, we := false, be := 0, addr := 0, wdata := 0 }
  let store : CoreMaster := { req := true, we := true, be := 5, addr := 0x40, wdata := 0x1234 }
  let load : CoreMaster := { req := true, we := false, be := 15, addr := 0x44, wdata := 0 }
  let quiet : CoreSlave := { gnt := false, rvalid := false, rdata := 0, err := false }
  { before := ⟨.readWait, ⟨.readWait1, .okay, .okay, 0⟩⟩
    resetInput := ⟨none, quiet⟩
    input := fun
      | 0 => ⟨store, quiet⟩
      | 1 => ⟨store, { quiet with gnt := true }⟩
      | 2 => ⟨none, { quiet with rvalid := true }⟩
      | 3 => ⟨load, { quiet with gnt := true }⟩
      | 4 => ⟨none, quiet⟩
      | 5 => ⟨none, { quiet with rvalid := true, rdata := 0x2a, err := true }⟩
      | _ => ⟨none, quiet⟩ }

theorem roundTrip_stable : (upstream roundTrip).Stable 7 := by
  intro t ht
  have hlt : t < 6 := by omega
  interval_cases t <;> decide

theorem roundTrip_transparent : Transparent roundTrip 7 := transparent roundTrip 7 roundTrip_stable

end IbexAxi4l.BridgeRoundTrip
