import Mathlib.Data.Fintype.Basic
import Mathlib.Tactic.FinCases
import IbexAxi4l.AlignedRegion
import IbexAxi4l.Axi4lDpramx32
import IbexAxi4l.RegisterSlave

set_option autoImplicit false

/-!
# The memory map of the SoC

The parameters that `axi4l_interconnect` makes from the bases and sizes of `ibex_soc`, and the
bits that each slave decodes itself. `axilxbar` is not part of the repository.
-/
namespace IbexAxi4l.MemoryMap
open AxiLite AlignedRegion RegisterSlave

/-- `[nums-1:0][aw-1:0]`, written as the concatenation of its words from the last on. -/
abbrev Packed := BitVec (32 + 32 + 32 + 32 + 32 + 32 + 32)

def pack (word : Fin 7 → BitVec 32) : Packed :=
  word 6 ++ word 5 ++ word 4 ++ word 3 ++ word 2 ++ word 1 ++ word 0

def slaveAddr (baseAddr : Fin 7 → Addr) : Packed := pack baseAddr
def slaveMask (size : Fin 7 → Addr) : Packed := pack (fun i => ~~~(size i - 1))

def slice (packed : Packed) (i : Fin 7) : BitVec 32 := packed.extractLsb' (32 * i) 32

/-- The crossbar: the slave that is selected for an address, given its parameters, and the
address that is passed on. -/
structure Axilxbar where
  selects : Packed → Packed → Addr → Fin 7 → Bool
  passes : Addr → Addr

structure Axilxbar.Decodes (x : Axilxbar) : Prop where
  selects_iff : ∀ addrs masks a i, x.selects addrs masks a i = true ↔
    (a ^^^ slice addrs i) &&& slice masks i = 0
  passes_eq : ∀ a, x.passes a = a

def Selected (x : Axilxbar) (baseAddr size : Fin 7 → Addr) (a : Addr) (i : Fin 7) : Prop :=
  x.selects (slaveAddr baseAddr) (slaveMask size) a i = true

/-! ## `ibex_soc` -/

def ramBaseAddr : Addr := 0x00000000
def ramSize : Addr := 0x10000
def swBaseAddr : Addr := 0x10000000
def swSize : Addr := 0x1000
def ledrgbBaseAddr : Addr := 0x10001000
def ledrgbSize : Addr := 0x1000
def ledBaseAddr : Addr := 0x10002000
def ledSize : Addr := 0x1000
def btnBaseAddr : Addr := 0x10003000
def btnSize : Addr := 0x1000
def timerBaseAddr : Addr := 0x10004000
def timerSize : Addr := 0x1000
def dmBaseAddr : Addr := 0x1A110000
def dmSize : Addr := 0x1000

def socBaseAddr : Fin 7 → Addr
  | 0 => ramBaseAddr
  | 1 => dmBaseAddr
  | 2 => swBaseAddr
  | 3 => ledrgbBaseAddr
  | 4 => ledBaseAddr
  | 5 => btnBaseAddr
  | 6 => timerBaseAddr

def socSize : Fin 7 → Addr
  | 0 => ramSize
  | 1 => dmSize
  | 2 => swSize
  | 3 => ledrgbSize
  | 4 => ledSize
  | 5 => btnSize
  | 6 => timerSize

/-- What the slave on `axis[i]` decodes of an address: the RAM its array index, the others
the offset of a register. -/
def cell (i : Fin 7) (addr : Addr) : ℕ :=
  if i = 0 then Axi4lDpramx32.index ramSize.toNat addr else (offset addr).toNat

/-! ## The decoder -/

theorem slice_pack (word : Fin 7 → BitVec 32) (i : Fin 7) : slice (pack word) i = word i := by
  unfold slice pack
  fin_cases i
  all_goals simp (disch := decide) only [BitVec.extractLsb'_append_eq_of_le,
    BitVec.extractLsb'_append_eq_right, BitVec.extractLsb'_eq_self, Nat.reduceMul, Nat.reduceSub]
  all_goals rfl

/-- Powers of two as sizes, and bases that are multiples of them. -/
structure Aligned (baseAddr size : Fin 7 → Addr) : Prop where
  power : ∀ i, ∃ k, (size i).toNat = 2 ^ k
  multiple : ∀ i, (size i).toNat ∣ (baseAddr i).toNat

def Inside (baseAddr size : Fin 7 → Addr) (a : Addr) (i : Fin 7) : Prop :=
  (baseAddr i).toNat ≤ a.toNat ∧ a.toNat < (baseAddr i).toNat + (size i).toNat

structure MapLaw (x : Axilxbar) : Prop where
  exact : ∀ baseAddr size, Aligned baseAddr size → ∀ a i,
    Selected x baseAddr size a i ↔ Inside baseAddr size a i
  disjoint : ∀ a i j, Selected x socBaseAddr socSize a i → Selected x socBaseAddr socSize a j →
    i = j
  noAlias : ∀ a b i, Selected x socBaseAddr socSize a i → Selected x socBaseAddr socSize b i →
    cell i (x.passes a) = cell i (x.passes b) → a >>> 2 = b >>> 2

theorem selected_iff {x : Axilxbar} (h : x.Decodes) {baseAddr size : Fin 7 → Addr}
    (haligned : Aligned baseAddr size) (a : Addr) (i : Fin 7) :
    Selected x baseAddr size a i ↔ Inside baseAddr size a i := by
  rcases haligned.power i with ⟨k, hk⟩
  unfold Selected slaveAddr slaveMask
  rw [h.selects_iff, slice_pack, slice_pack]
  exact decode_iff hk (haligned.multiple i)

theorem soc_aligned : Aligned socBaseAddr socSize where
  power i := by
    fin_cases i
    · exact ⟨16, rfl⟩
    all_goals exact ⟨12, rfl⟩
  multiple i := by
    fin_cases i <;> decide

theorem soc_apart (i j : Fin 7) (hne : i ≠ j) :
    (socBaseAddr i).toNat + (socSize i).toNat ≤ (socBaseAddr j).toNat ∨
      (socBaseAddr j).toNat + (socSize j).toNat ≤ (socBaseAddr i).toNat := by
  revert hne
  fin_cases i <;> fin_cases j <;> decide

theorem soc_disjoint {a : Addr} {i j : Fin 7} (hi : Inside socBaseAddr socSize a i)
    (hj : Inside socBaseAddr socSize a j) : i = j := by
  by_contra hne
  unfold Inside at hi hj
  have hapart := soc_apart i j hne
  omega

theorem soc_page {i : Fin 7} (hi : i ≠ 0) :
    (socSize i).toNat = 0x1000 ∧ 0x1000 ∣ (socBaseAddr i).toNat := by
  revert hi
  fin_cases i <;> decide

theorem toNat_offset (addr : Addr) : (offset addr).toNat = addr.toNat / 4 % 1024 := by
  unfold offset
  rw [BitVec.extractLsb'_toNat, Nat.shiftRight_eq_div_pow]

theorem index_ramSize (addr : Addr) :
    Axi4lDpramx32.index ramSize.toNat addr = addr.toNat / 4 % 0x4000 := by
  have hindex := Axi4lDpramx32.RamSize.index_eq ⟨0x10000, by decide, 16, rfl⟩ addr
  exact hindex.trans (congrArg (· % 0x4000) (Nat.shiftRight_eq_div_pow _ _))

/-- Inside its region a slave decodes enough of the address to tell its words apart. -/
theorem cell_injective {a b : Addr} {i : Fin 7} (ha : Inside socBaseAddr socSize a i)
    (hb : Inside socBaseAddr socSize b i) (hcell : cell i a = cell i b) :
    a.toNat / 4 = b.toNat / 4 := by
  unfold Inside at ha hb
  unfold cell at hcell
  by_cases hi : i = 0
  · subst hi
    have hbase : (socBaseAddr 0).toNat = 0 := rfl
    have hsize : (socSize 0).toNat = 0x10000 := rfl
    rw [if_pos rfl, if_pos rfl, index_ramSize, index_ramSize] at hcell
    omega
  · rcases soc_page hi with ⟨hsize, m, hm⟩
    rw [if_neg hi, if_neg hi, toNat_offset, toNat_offset] at hcell
    omega

/-- The memory map is exact, disjoint and free of aliases. -/
theorem map_law (x : Axilxbar) (h : x.Decodes) : MapLaw x where
  exact _ _ haligned := selected_iff h haligned
  disjoint a i j hi hj := by
    rw [selected_iff h soc_aligned] at hi hj
    exact soc_disjoint hi hj
  noAlias a b i ha hb hcell := by
    rw [selected_iff h soc_aligned] at ha hb
    rw [h.passes_eq, h.passes_eq] at hcell
    have hword := cell_injective ha hb hcell
    apply BitVec.eq_of_toNat_eq
    rw [BitVec.toNat_ushiftRight, BitVec.toNat_ushiftRight, Nat.shiftRight_eq_div_pow,
      Nat.shiftRight_eq_div_pow]
    exact hword

def maskCompare : Axilxbar where
  selects addrs masks a i := decide ((a ^^^ slice addrs i) &&& slice masks i = 0)
  passes a := a

theorem maskCompare_decodes : maskCompare.Decodes where
  selects_iff _ _ _ _ := decide_eq_true_iff
  passes_eq _ := rfl

theorem maskCompare_map : MapLaw maskCompare := map_law maskCompare maskCompare_decodes

end IbexAxi4l.MemoryMap
