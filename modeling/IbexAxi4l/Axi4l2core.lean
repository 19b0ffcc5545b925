import IbexAxi4l.AxiLite

set_option autoImplicit false

/-!
# The AXI4-Lite to core converter

`comb` is the `always_comb` block, `posedge` the three clocked processes. The response
buffers have no reset. `Does` is the inversion of one clock cycle, for a master that holds
what it offers.
-/
namespace IbexAxi4l.Axi4l2core
open EventLog ReadyValid AxiLite

inductive State where
  | idle | read | readWait0 | readWait1 | write | writeWait0 | writeWait1
  deriving DecidableEq, Repr

structure Regs where
  state : State
  brespBuf : Resp
  rrespBuf : Resp
  rdataBuf : Data

structure Input where
  core : CoreSlave
  axi : AxiMaster

structure Output where
  core : CoreMaster
  axi : AxiSlave

structure Comb extends Output where
  stateNext : State

def resp (err : Bool) : Resp := if err then .slverr else .okay

def comb (s : Regs) (i : Input) : Comb :=
  let core := i.core
  let axi := i.axi
  let d : Comb :=
    { stateNext := s.state
      core := { req := false, we := false, be := axi.wstrb, addr := axi.araddr,
                wdata := axi.wdata }
      axi := { awready := false, wready := false, bvalid := false, bresp := .okay,
               arready := false, rvalid := false, rdata := core.rdata, rresp := .okay } }
  match s.state with
  | .idle =>
    if axi.arvalid then
      let d := { d with core.req := true, core.addr := axi.araddr, core.we := false }
      if core.gnt then { d with axi.arready := true, stateNext := .readWait0 }
      else { d with stateNext := .read }
    else if axi.awvalid && axi.wvalid then
      let d := { d with core.req := true, core.addr := axi.awaddr, core.we := true }
      if core.gnt then
        { d with axi.awready := true, axi.wready := true, stateNext := .writeWait0 }
      else { d with stateNext := .write }
    else d
  | .read =>
    let d := { d with core.req := true, core.addr := axi.araddr, core.we := false }
    if core.gnt then { d with axi.arready := true, stateNext := .readWait0 } else d
  | .readWait0 =>
    if core.rvalid then
      let d := { d with axi.rvalid := true, axi.rresp := resp core.err, axi.rdata := core.rdata }
      if axi.rready then { d with stateNext := .idle } else { d with stateNext := .readWait1 }
    else d
  | .readWait1 =>
    let d := { d with axi.rvalid := true, axi.rresp := s.rrespBuf, axi.rdata := s.rdataBuf }
    if axi.rready then { d with stateNext := .idle } else d
  | .write =>
    let d := { d with core.req := true, core.addr := axi.awaddr, core.we := true }
    if core.gnt then
      { d with axi.awready := true, axi.wready := true, stateNext := .writeWait0 }
    else d
  | .writeWait0 =>
    if core.rvalid then
      let d := { d with axi.bvalid := true, axi.bresp := resp core.err }
      if axi.bready then { d with stateNext := .idle } else { d with stateNext := .writeWait1 }
    else d
  | .writeWait1 =>
    let d := { d with axi.bvalid := true, axi.bresp := s.brespBuf }
    if axi.bready then { d with stateNext := .idle } else d

def posedge (aresetn : Bool) (s : Regs) (i : Input) : Regs where
  state := if !aresetn then .idle else (comb s i).stateNext
  brespBuf := if s.state = .writeWait0 ∧ i.core.rvalid then resp i.core.err else s.brespBuf
  rrespBuf := if s.state = .readWait0 ∧ i.core.rvalid then resp i.core.err else s.rrespBuf
  rdataBuf := if s.state = .readWait0 ∧ i.core.rvalid then i.core.rdata else s.rdataBuf

def axi4l2core : Design Regs Input Output := ⟨posedge, fun s i => (comb s i).toOutput⟩

def corePort (r : Run axi4l2core) : CorePort where
  master t := (r.output t).core
  slave t := (r.input t).core

def axiPort (r : Run axi4l2core) : AxiPort where
  master t := (r.input t).axi
  slave t := (r.output t).axi

/-- The state in which a request of this kind waits for its grant, and the two in which
an accepted one waits for its response and for the master to take it. -/
def wants (we : Bool) : State := if we then .write else .read
def wait0 (we : Bool) : State := if we then .writeWait0 else .readWait0
def wait1 (we : Bool) : State := if we then .writeWait1 else .readWait1

inductive Act where
  | rest
  | want (we : Bool)
  | ungranted (we : Bool)
  | accept (early we : Bool)
  | await (we : Bool)
  | pass (we : Bool)
  | buffer (we : Bool)
  | hold (we : Bool)
  | drain (we : Bool)

namespace Act

@[simp] def pre : Act → State
  | rest | want _ => .idle
  | ungranted we => wants we
  | accept early we => if early then .idle else wants we
  | await we | pass we | buffer we => wait0 we
  | hold we | drain we => wait1 we

@[simp] def post : Act → State
  | rest | pass _ | drain _ => .idle
  | want we | ungranted we => wants we
  | accept _ we | await we => wait0 we
  | buffer we | hold we => wait1 we

/-- The kind of the transaction accepted, of the response shown, and of the one taken. -/
@[simp] def accepts : Act → Option Bool
  | accept _ we => some we
  | _ => none

@[simp] def requests : Act → Option Bool
  | want we | ungranted we | accept _ we => some we
  | _ => none

@[simp] def shows : Act → Option Bool
  | pass we | buffer we | hold we | drain we => some we
  | _ => none

@[simp] def takes : Act → Option Bool
  | pass we | drain we => some we
  | _ => none

/-- Whether `core.rvalid` is looked at, and what it is. -/
@[simp] def sees : Act → Option Bool
  | await _ => some false
  | pass _ | buffer _ => some true
  | _ => none

end Act

def offered (r : Run axi4l2core) (t : ℕ) (we : Bool) : Request :=
  let m := (axiPort r).master t
  ⟨we, m.wstrb, if we then m.awaddr else m.araddr, m.wdata⟩

def channelsValid (r : Run axi4l2core) (t : ℕ) (we : Bool) : Bool :=
  let m := (axiPort r).master t
  if we then m.awvalid && m.wvalid else m.arvalid

structure Does (r : Run axi4l2core) (t : ℕ) (a : Act) : Prop where
  pre : (r.state t).state = a.pre
  post : (r.state (t+1)).state = a.post
  request : (corePort r).request.offer t = a.requests.map (offered r t)
  gnt : a.requests ≠ none → ((corePort r).slave t).gnt = a.accepts.isSome
  arready : ((axiPort r).slave t).arready = decide (a.accepts = some false)
  awready : ((axiPort r).slave t).awready = decide (a.accepts = some true)
  wready : ((axiPort r).slave t).wready = decide (a.accepts = some true)
  rvalid : ((axiPort r).slave t).rvalid = decide (a.shows = some false)
  bvalid : ((axiPort r).slave t).bvalid = decide (a.shows = some true)
  rready : a.shows = some false → ((axiPort r).master t).rready = a.takes.isSome
  bready : a.shows = some true → ((axiPort r).master t).bready = a.takes.isSome
  sees : ∀ v, a.sees = some v → ((corePort r).slave t).rvalid = v
  fresh : ∀ we, (r.state t).state = .idle → a.requests = some we → channelsValid r t we = true

theorem does_of_comb {r : Run axi4l2core} {t : ℕ} {a : Act} (hs : (r.state t).state = a.pre)
    (h : let i := r.input t
      let c := comb (r.state t) i
      c.stateNext = a.post ∧
      (if c.core.req then some (⟨c.core.we, c.core.be, c.core.addr, c.core.wdata⟩ : Request)
        else none) = a.requests.map (offered r t) ∧
      (a.requests ≠ none → i.core.gnt = a.accepts.isSome) ∧
      c.axi.arready = decide (a.accepts = some false) ∧
      c.axi.awready = decide (a.accepts = some true) ∧
      c.axi.wready = decide (a.accepts = some true) ∧
      c.axi.rvalid = decide (a.shows = some false) ∧
      c.axi.bvalid = decide (a.shows = some true) ∧
      (a.shows = some false → i.axi.rready = a.takes.isSome) ∧
      (a.shows = some true → i.axi.bready = a.takes.isSome) ∧
      (∀ v, a.sees = some v → i.core.rvalid = v) ∧
      ∀ we, (r.state t).state = .idle → a.requests = some we → channelsValid r t we = true) :
    Does r t a := by
  obtain ⟨h1, h2, h3, h4, h5, h6, h7, h8, h9, h10, h11, h12⟩ := h
  exact ⟨hs, h1, h2, h3, h4, h5, h6, h7, h8, h9, h10, h11, h12⟩

theorem does (r : Run axi4l2core) (t : ℕ) : ∃ a, Does r t a := by
  cases hs : (r.state t).state with
  | idle =>
    cases har : (r.input t).axi.arvalid with
    | true =>
      cases hg : (r.input t).core.gnt
      · refine ⟨.want false, does_of_comb hs ?_⟩
        simp [comb, hs, har, hg, offered, axiPort, wants, channelsValid]
      · refine ⟨.accept true false, does_of_comb hs ?_⟩
        simp [comb, hs, har, hg, offered, axiPort, wait0, channelsValid]
    | false =>
      cases hw : ((r.input t).axi.awvalid && (r.input t).axi.wvalid) with
      | false => exact ⟨.rest, does_of_comb hs (by simp [comb, hs, har, hw])⟩
      | true =>
        cases hg : (r.input t).core.gnt
        · refine ⟨.want true, does_of_comb hs ?_⟩
          simp [comb, hs, har, hw, hg, offered, axiPort, wants, channelsValid]
        · refine ⟨.accept true true, does_of_comb hs ?_⟩
          simp [comb, hs, har, hw, hg, offered, axiPort, wait0, channelsValid]
  | read =>
    cases hg : (r.input t).core.gnt
    · refine ⟨.ungranted false, does_of_comb hs ?_⟩
      simp [comb, hs, hg, offered, axiPort, wants, channelsValid]
    · refine ⟨.accept false false, does_of_comb hs ?_⟩
      simp [comb, hs, hg, offered, axiPort, wait0, channelsValid]
  | write =>
    cases hg : (r.input t).core.gnt
    · refine ⟨.ungranted true, does_of_comb hs ?_⟩
      simp [comb, hs, hg, offered, axiPort, wants, channelsValid]
    · refine ⟨.accept false true, does_of_comb hs ?_⟩
      simp [comb, hs, hg, offered, axiPort, wait0, channelsValid]
  | readWait0 =>
    cases hv : (r.input t).core.rvalid with
    | false => exact ⟨.await false, does_of_comb hs (by simp [comb, hs, hv, wait0])⟩
    | true =>
      cases hr : (r.input t).axi.rready
      · exact ⟨.buffer false, does_of_comb hs (by simp [comb, hs, hv, hr, wait1])⟩
      · exact ⟨.pass false, does_of_comb hs (by simp [comb, hs, hv, hr])⟩
  | writeWait0 =>
    cases hv : (r.input t).core.rvalid with
    | false => exact ⟨.await true, does_of_comb hs (by simp [comb, hs, hv, wait0])⟩
    | true =>
      cases hb : (r.input t).axi.bready
      · exact ⟨.buffer true, does_of_comb hs (by simp [comb, hs, hv, hb, wait1])⟩
      · exact ⟨.pass true, does_of_comb hs (by simp [comb, hs, hv, hb])⟩
  | readWait1 =>
    cases hr : (r.input t).axi.rready
    · exact ⟨.hold false, does_of_comb hs (by simp [comb, hs, hr, wait1])⟩
    · exact ⟨.drain false, does_of_comb hs (by simp [comb, hs, hr])⟩
  | writeWait1 =>
    cases hb : (r.input t).axi.bready
    · exact ⟨.hold true, does_of_comb hs (by simp [comb, hs, hb, wait1])⟩
    · exact ⟨.drain true, does_of_comb hs (by simp [comb, hs, hb])⟩

end IbexAxi4l.Axi4l2core
