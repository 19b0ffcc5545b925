import IbexAxi4l.ReadyValid

set_option autoImplicit false

/-!
# The two bus interfaces

`axi4l_pkg`, `axi4l_if` and `core_if`. Each structure is what one modport drives; a
port trace pairs the two sides of an interface cycle by cycle and names its links.
-/
namespace IbexAxi4l.AxiLite
open EventLog ReadyValid

abbrev Addr := BitVec 32
abbrev Data := BitVec 32
abbrev Strb := BitVec 4

inductive Access where
  | unprivileged | privileged
  deriving DecidableEq, Repr

inductive Secure where
  | secure | nonsecure
  deriving DecidableEq, Repr

inductive Kind where
  | data | instruction
  deriving DecidableEq, Repr

structure Prot where
  access : Access
  secure : Secure
  type : Kind
  deriving DecidableEq, Repr

/-- The value `'0` of `prot_t`. -/
def Prot.zero : Prot := ⟨.unprivileged, .secure, .data⟩

inductive Resp where
  | okay | exokay | slverr | decerr
  deriving DecidableEq, Repr

structure AxiMaster where
  awvalid : Bool
  awaddr : Addr
  awprot : Prot
  wvalid : Bool
  wdata : Data
  wstrb : Strb
  bready : Bool
  arvalid : Bool
  araddr : Addr
  arprot : Prot
  rready : Bool
  deriving DecidableEq

structure AxiSlave where
  awready : Bool
  wready : Bool
  bvalid : Bool
  bresp : Resp
  arready : Bool
  rvalid : Bool
  rdata : Data
  rresp : Resp
  deriving DecidableEq

/-- A master that offers nothing and takes every response, and what it may offer besides. -/
def AxiMaster.idle : AxiMaster where
  awvalid := false
  awaddr := 0
  awprot := .zero
  wvalid := false
  wdata := 0
  wstrb := 0
  bready := true
  arvalid := false
  araddr := 0
  arprot := .zero
  rready := true

def AxiMaster.withAw (m : AxiMaster) (a : Addr) : AxiMaster :=
  { m with awvalid := true, awaddr := a }

def AxiMaster.withW (m : AxiMaster) (d : Data) (s : Strb) : AxiMaster :=
  { m with wvalid := true, wdata := d, wstrb := s }

def AxiMaster.withAr (m : AxiMaster) (a : Addr) : AxiMaster :=
  { m with arvalid := true, araddr := a }

structure CoreMaster where
  req : Bool
  we : Bool
  be : Strb
  addr : Addr
  wdata : Data
  deriving DecidableEq

structure CoreSlave where
  gnt : Bool
  rvalid : Bool
  rdata : Data
  err : Bool
  deriving DecidableEq

/-! ## Port traces -/

structure AddrBeat where
  addr : Addr
  prot : Prot
  deriving DecidableEq

structure WriteBeat where
  data : Data
  strb : Strb
  deriving DecidableEq

structure ReadBeat where
  data : Data
  resp : Resp
  deriving DecidableEq

structure AxiPort where
  master : ℕ → AxiMaster
  slave : ℕ → AxiSlave

namespace AxiPort
variable (p : AxiPort)

def aw : Link AddrBeat where
  valid t := (p.master t).awvalid
  ready t := (p.slave t).awready
  data t := ⟨(p.master t).awaddr, (p.master t).awprot⟩

def w : Link WriteBeat where
  valid t := (p.master t).wvalid
  ready t := (p.slave t).wready
  data t := ⟨(p.master t).wdata, (p.master t).wstrb⟩

def b : Link Resp where
  valid t := (p.slave t).bvalid
  ready t := (p.master t).bready
  data t := (p.slave t).bresp

def ar : Link AddrBeat where
  valid t := (p.master t).arvalid
  ready t := (p.slave t).arready
  data t := ⟨(p.master t).araddr, (p.master t).arprot⟩

def r : Link ReadBeat where
  valid t := (p.slave t).rvalid
  ready t := (p.master t).rready
  data t := ⟨(p.slave t).rdata, (p.slave t).rresp⟩

def awAddr (t : ℕ) : Option Addr := (p.aw.beat t).map AddrBeat.addr
def arAddr (t : ℕ) : Option Addr := (p.ar.beat t).map AddrBeat.addr

end AxiPort

structure Request where
  we : Bool
  be : Strb
  addr : Addr
  wdata : Data
  deriving DecidableEq

structure Response where
  rdata : Data
  err : Bool
  deriving DecidableEq

structure CorePort where
  master : ℕ → CoreMaster
  slave : ℕ → CoreSlave

namespace CorePort
variable (p : CorePort)

/-- `req`/`gnt`: a beat is a granted request. -/
def request : Link Request where
  valid t := (p.master t).req
  ready t := (p.slave t).gnt
  data t := ⟨(p.master t).we, (p.master t).be, (p.master t).addr, (p.master t).wdata⟩

/-- The pulses of `rvalid`, which nothing can stall. -/
def response (t : ℕ) : Option Response :=
  if (p.slave t).rvalid then some ⟨(p.slave t).rdata, (p.slave t).err⟩ else none

def grant (t : ℕ) : Option Request := p.request.beat t
def write (t : ℕ) : Option Request := (p.grant t).filter Request.we
def read (t : ℕ) : Option Request := (p.grant t).filter (fun q => !q.we)

end CorePort

/-- What a core keeps from a cycle with `req` and no `gnt` to the next one: byte enables
and write data only matter for a write. -/
def Request.Keeps (q q' : Request) : Prop :=
  q'.addr = q.addr ∧ q'.we = q.we ∧ (q.we = true → q'.be = q.be ∧ q'.wdata = q.wdata)

def CorePort.Stable (p : CorePort) (n : ℕ) : Prop := p.request.Holds Request.Keeps n

/-- The AXI master holds VALID and payload on each channel until READY. -/
structure AxiPort.Stable (p : AxiPort) (n : ℕ) : Prop where
  aw : p.aw.Holds (fun x y => y = x) n
  w : p.w.Holds (fun x y => y = x) n
  ar : p.ar.Holds (fun x y => y = x) n

/-- The slave only answers what it has accepted in an earlier cycle and not yet answered. -/
structure AxiPort.Answers (p : AxiPort) (n : ℕ) : Prop where
  b : ∀ t < n, (p.slave t).bvalid = true →
    count p.b.beat t < count p.aw.beat t ∧ count p.b.beat t < count p.w.beat t
  r : ∀ t < n, (p.slave t).rvalid = true → count p.r.beat t < count p.ar.beat t

instance (q q' : Request) : Decidable (q.Keeps q') :=
  inferInstanceAs (Decidable (_ ∧ _ ∧ (_ → _)))

theorem count_awAddr (p : AxiPort) (t : ℕ) : count p.awAddr t = count p.aw.beat t :=
  count_map _ _ _

theorem count_arAddr (p : AxiPort) (t : ℕ) : count p.arAddr t = count p.ar.beat t :=
  count_map _ _ _

theorem response_isSome (p : CorePort) (t : ℕ) :
    (p.response t).isSome = (p.slave t).rvalid := by
  cases h : (p.slave t).rvalid <;> simp [CorePort.response, h]

theorem write_eq_some {p : CorePort} {t : ℕ} {q : Request} :
    p.write t = some q ↔ p.grant t = some q ∧ q.we = true := by
  simp [CorePort.write, Option.filter_eq_some_iff]

theorem read_eq_some {p : CorePort} {t : ℕ} {q : Request} :
    p.read t = some q ↔ p.grant t = some q ∧ q.we = false := by
  simp [CorePort.read, Option.filter_eq_some_iff]

theorem grant_count (p : CorePort) (t : ℕ) :
    count p.grant t = count p.write t + count p.read t := by
  induction t with
  | zero => rfl
  | succ t ih =>
    rw [count_succ, count_succ, count_succ, ih]
    cases h : p.grant t with
    | none => simp [CorePort.write, CorePort.read, h]
    | some q => cases hw : q.we <;> simp [CorePort.write, CorePort.read, h, hw] <;> omega

end IbexAxi4l.AxiLite
