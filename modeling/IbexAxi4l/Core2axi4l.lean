import IbexAxi4l.AxiLite

set_option autoImplicit false

/-!
# The core to AXI4-Lite converter

`fsm` is the `always_comb` block, `out` adds the continuous assignments. `Does` is the
inversion of one clock cycle: which beats are moved, and what the state becomes.
-/
namespace IbexAxi4l.Core2axi4l
open EventLog ReadyValid AxiLite

inductive State where
  | idle | readWait | writeData | writeAddr | writeWait
  deriving DecidableEq, Repr

/-- The signals assigned in the main FSM block. -/
structure Fsm where
  stateNext : State
  gnt : Bool
  rvalid : Bool
  awvalid : Bool
  arvalid : Bool
  rready : Bool
  wvalid : Bool
  bready : Bool

def fsm (state : State) (core : CoreMaster) (axi : AxiSlave) : Fsm :=
  let d : Fsm :=
    { stateNext := state, gnt := false, rvalid := false, awvalid := false,
      arvalid := false, rready := false, wvalid := false, bready := false }
  match state with
  | .idle =>
    if core.req then
      if core.we then
        let d := { d with awvalid := true, wvalid := true }
        if axi.awready then
          if axi.wready then { d with gnt := true, stateNext := .writeWait }
          else { d with stateNext := .writeData }
        else if axi.wready then { d with stateNext := .writeAddr }
        else d
      else
        let d := { d with arvalid := true }
        if axi.arready then { d with gnt := true, stateNext := .readWait } else d
    else d
  -- the bus has accepted the address, not yet the data
  | .writeData =>
    let d := { d with wvalid := true }
    if axi.wready then { d with gnt := true, stateNext := .writeWait } else d
  -- the bus has accepted the data, not yet the address
  | .writeAddr =>
    let d := { d with awvalid := true }
    if axi.awready then { d with gnt := true, stateNext := .writeWait } else d
  | .writeWait =>
    let d := { d with bready := true }
    if axi.bvalid then { d with rvalid := true, stateNext := .idle } else d
  | .readWait =>
    if axi.rvalid then { d with rvalid := true, rready := true, stateNext := .idle } else d

structure Input where
  core : CoreMaster
  axi : AxiSlave

structure Output where
  core : CoreSlave
  axi : AxiMaster

def out (state : State) (i : Input) : Output :=
  let f := fsm state i.core i.axi
  { core :=
      { gnt := f.gnt, rvalid := f.rvalid, rdata := i.axi.rdata,
        err := (i.axi.rvalid && i.axi.rresp != .okay) || (i.axi.bvalid && i.axi.bresp != .okay) }
    axi :=
      { awvalid := f.awvalid, awaddr := i.core.addr, awprot := .zero,
        wvalid := f.wvalid, wdata := i.core.wdata, wstrb := i.core.be,
        bready := f.bready,
        arvalid := f.arvalid, araddr := i.core.addr, arprot := .zero,
        rready := f.rready } }

def posedge (rstN : Bool) (state : State) (i : Input) : State :=
  if !rstN then .idle else (fsm state i.core i.axi).stateNext

def core2axi4l : Design State Input Output := ⟨posedge, out⟩

def corePort (r : Run core2axi4l) : CorePort where
  master t := (r.input t).core
  slave t := (r.output t).core

def axiPort (r : Run core2axi4l) : AxiPort where
  master t := (r.output t).axi
  slave t := (r.input t).axi

theorem state_zero (r : Run core2axi4l) : r.state 0 = .idle := rfl

theorem state_succ (r : Run core2axi4l) (t : ℕ) :
    r.state (t+1) = (fsm (r.state t) (r.input t).core (r.input t).axi).stateNext := rfl

/-- What one cycle can do. -/
inductive Act where
  | stay (s : State) | sendAddr | sendData | sendBoth | sendRead
  | finishData | finishAddr | writeDone | readDone

namespace Act

@[simp] def pre : Act → State
  | stay s => s
  | sendAddr | sendData | sendBoth | sendRead => .idle
  | finishData => .writeData
  | finishAddr => .writeAddr
  | writeDone => .writeWait
  | readDone => .readWait

@[simp] def post : Act → State
  | stay s => s
  | sendAddr => .writeData
  | sendData => .writeAddr
  | sendBoth | finishData | finishAddr => .writeWait
  | sendRead => .readWait
  | writeDone | readDone => .idle

@[simp] def aw : Act → Bool
  | sendAddr | sendBoth | finishAddr => true
  | _ => false

@[simp] def w : Act → Bool
  | sendData | sendBoth | finishData => true
  | _ => false

@[simp] def ar : Act → Bool
  | sendRead => true
  | _ => false

@[simp] def b : Act → Bool
  | writeDone => true
  | _ => false

@[simp] def rd : Act → Bool
  | readDone => true
  | _ => false

@[simp] def gnt : Act → Bool
  | sendBoth | sendRead | finishData | finishAddr => true
  | _ => false

@[simp] def rvalid : Act → Bool
  | writeDone | readDone => true
  | _ => false

@[simp] def starts : Act → Bool
  | sendAddr | sendData | sendBoth | sendRead => true
  | _ => false

@[simp] def write : Act → Bool
  | sendRead => false
  | _ => true

end Act

structure Does (r : Run core2axi4l) (t : ℕ) (a : Act) : Prop where
  pre : r.state t = a.pre
  post : r.state (t+1) = a.post
  aw : ((axiPort r).aw.valid t && (axiPort r).aw.ready t) = a.aw
  w : ((axiPort r).w.valid t && (axiPort r).w.ready t) = a.w
  ar : ((axiPort r).ar.valid t && (axiPort r).ar.ready t) = a.ar
  b : ((axiPort r).b.valid t && (axiPort r).b.ready t) = a.b
  rd : ((axiPort r).r.valid t && (axiPort r).r.ready t) = a.rd
  gnt : ((corePort r).slave t).gnt = a.gnt
  rvalid : ((corePort r).slave t).rvalid = a.rvalid
  request : a.starts = true →
    ((corePort r).master t).req = true ∧ ((corePort r).master t).we = a.write

theorem does_of_fsm {r : Run core2axi4l} {t : ℕ} {a : Act} (hs : r.state t = a.pre)
    (h : let i := r.input t
      let f := fsm a.pre i.core i.axi
      f.stateNext = a.post ∧ (f.awvalid && i.axi.awready) = a.aw ∧
      (f.wvalid && i.axi.wready) = a.w ∧ (f.arvalid && i.axi.arready) = a.ar ∧
      (i.axi.bvalid && f.bready) = a.b ∧ (i.axi.rvalid && f.rready) = a.rd ∧
      f.gnt = a.gnt ∧ f.rvalid = a.rvalid ∧
      (a.starts = true → i.core.req = true ∧ i.core.we = a.write)) : Does r t a := by
  rw [← hs] at h
  obtain ⟨hpost, haw, hw, har, hb, hrd, hgnt, hrvalid, hreq⟩ := h
  exact ⟨hs, hpost, haw, hw, har, hb, hrd, hgnt, hrvalid, hreq⟩

theorem does (r : Run core2axi4l) (t : ℕ) : ∃ a, Does r t a := by
  cases hs : r.state t with
  | idle =>
    cases hreq : (r.input t).core.req with
    | false => exact ⟨.stay .idle, does_of_fsm hs (by simp [fsm, hreq])⟩
    | true =>
      cases hwe : (r.input t).core.we with
      | true =>
        cases haw : (r.input t).axi.awready <;> cases hw : (r.input t).axi.wready
        · exact ⟨.stay .idle, does_of_fsm hs (by simp [fsm, hreq, hwe, haw, hw])⟩
        · exact ⟨.sendData, does_of_fsm hs (by simp [fsm, hreq, hwe, haw, hw])⟩
        · exact ⟨.sendAddr, does_of_fsm hs (by simp [fsm, hreq, hwe, haw, hw])⟩
        · exact ⟨.sendBoth, does_of_fsm hs (by simp [fsm, hreq, hwe, haw, hw])⟩
      | false =>
        cases har : (r.input t).axi.arready
        · exact ⟨.stay .idle, does_of_fsm hs (by simp [fsm, hreq, hwe, har])⟩
        · exact ⟨.sendRead, does_of_fsm hs (by simp [fsm, hreq, hwe, har])⟩
  | writeData =>
    cases hw : (r.input t).axi.wready
    · exact ⟨.stay .writeData, does_of_fsm hs (by simp [fsm, hw])⟩
    · exact ⟨.finishData, does_of_fsm hs (by simp [fsm, hw])⟩
  | writeAddr =>
    cases haw : (r.input t).axi.awready
    · exact ⟨.stay .writeAddr, does_of_fsm hs (by simp [fsm, haw])⟩
    · exact ⟨.finishAddr, does_of_fsm hs (by simp [fsm, haw])⟩
  | writeWait =>
    cases hb : (r.input t).axi.bvalid
    · exact ⟨.stay .writeWait, does_of_fsm hs (by simp [fsm, hb])⟩
    · exact ⟨.writeDone, does_of_fsm hs (by simp [fsm, hb])⟩
  | readWait =>
    cases hrd : (r.input t).axi.rvalid
    · exact ⟨.stay .readWait, does_of_fsm hs (by simp [fsm, hrd])⟩
    · exact ⟨.readDone, does_of_fsm hs (by simp [fsm, hrd])⟩

end IbexAxi4l.Core2axi4l
