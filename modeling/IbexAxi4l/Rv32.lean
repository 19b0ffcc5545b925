import Mathlib.Data.Fin.Basic
import Mathlib.Logic.Function.Basic
import IbexAxi4l.ByteLanes

set_option autoImplicit false

/-!
# A fragment of RV32I

The instructions of a loop that stores words. Code is a list of instructions; the program
counter and the labels are indices into it, and code that runs off its end is finished.
-/
namespace IbexAxi4l.Rv32
open ByteLanes

abbrev Word := BitVec 32
abbrev Reg := Fin 32
abbrev Memory := Word → BitVec 8

inductive Instr where
  | la (rd : Reg) (symbol : Word)
  | addi (rd rs1 : Reg) (imm : BitVec 12)
  | sw (rs2 : Reg) (imm : BitVec 12) (rs1 : Reg)
  | bge (rs1 rs2 : Reg) (label : ℕ)
  deriving DecidableEq

/-- The assembler writes `ble` as `bge` with its registers exchanged. -/
def Instr.ble (rs1 rs2 : Reg) (label : ℕ) : Instr := .bge rs2 rs1 label

structure State where
  pc : ℕ
  regs : Reg → Word
  mem : Memory

/-! ## Memory -/

/-- Little endian. -/
def storeWord (m : Memory) (a d : Word) : Memory :=
  fun x => if (x - a).toNat < 4 then byte d (x - a).toNat else m x

def loadWord (m : Memory) (a : Word) : Word := m (a + 3) ++ m (a + 2) ++ m (a + 1) ++ m a

/-- The memory with zeros from address `lo` up to, and without, address `hi`. -/
def cleared (m : Memory) (lo hi : ℕ) : Memory :=
  fun x => if lo ≤ x.toNat ∧ x.toNat < hi then 0 else m x

theorem cleared_self (m : Memory) (lo : ℕ) : cleared m lo lo = m := by
  funext x
  exact if_neg (by omega)

theorem cleared_append (m : Memory) {lo mid hi : ℕ} (hlo : lo ≤ mid) (hhi : mid ≤ hi) :
    cleared (cleared m lo mid) mid hi = cleared m lo hi := by
  funext x
  unfold cleared
  split_ifs
  all_goals first | rfl | omega

theorem toNat_sub_lt_iff {a x : Word} {n : ℕ} (h : a.toNat + n ≤ 2 ^ 32) :
    (x - a).toNat < n ↔ a.toNat ≤ x.toNat ∧ x.toNat < a.toNat + n := by
  have hx := x.isLt
  have ha := a.isLt
  rw [BitVec.toNat_sub]
  omega

theorem byte_zero (b : ℕ) : byte (0 : Word) b = 0 := by
  unfold byte
  exact BitVec.extractLsb'_zero

theorem storeWord_zero (m : Memory) {a : Word} (h : a.toNat + 4 ≤ 2 ^ 32) :
    storeWord m a 0 = cleared m a.toNat (a.toNat + 4) := by
  funext x
  unfold storeWord cleared
  rw [byte_zero]
  exact if_congr (toNat_sub_lt_iff h) rfl rfl

theorem loadWord_cleared (m : Memory) {lo hi : ℕ} {a : Word} (ha : a.toNat + 4 ≤ 2 ^ 32)
    (hcases : a.toNat + 4 ≤ lo ∨ hi ≤ a.toNat ∨ lo ≤ a.toNat ∧ a.toNat + 4 ≤ hi) :
    loadWord (cleared m lo hi) a =
      if lo ≤ a.toNat ∧ a.toNat < hi then 0 else loadWord m a := by
  have h1 : (a + 1).toNat = a.toNat + 1 := by
    rw [BitVec.toNat_add]
    exact Nat.mod_eq_of_lt (show a.toNat + 1 < 2 ^ 32 by omega)
  have h2 : (a + 2).toNat = a.toNat + 2 := by
    rw [BitVec.toNat_add]
    exact Nat.mod_eq_of_lt (show a.toNat + 2 < 2 ^ 32 by omega)
  have h3 : (a + 3).toNat = a.toNat + 3 := by
    rw [BitVec.toNat_add]
    exact Nat.mod_eq_of_lt (show a.toNat + 3 < 2 ^ 32 by omega)
  unfold loadWord cleared
  rw [h1, h2, h3]
  by_cases hin : lo ≤ a.toNat ∧ a.toNat < hi
  · rw [if_pos hin, if_pos hin, if_pos (by omega), if_pos (by omega), if_pos (by omega)]
    rfl
  · rw [if_neg hin, if_neg hin, if_neg (by omega), if_neg (by omega), if_neg (by omega)]

/-! ## Execution -/

namespace State

/-- Register 0 reads as zero. -/
def reg (s : State) (r : Reg) : Word := if r = 0 then 0 else s.regs r

def setReg (s : State) (r : Reg) (v : Word) : State := { s with regs := Function.update s.regs r v }

def next (s : State) : State := { s with pc := s.pc + 1 }

variable (s : State) (r r' : Reg) (v : Word)

@[simp] theorem next_pc : s.next.pc = s.pc + 1 := rfl
@[simp] theorem next_reg : s.next.reg r = s.reg r := rfl
@[simp] theorem next_mem : s.next.mem = s.mem := rfl

theorem reg_setReg_self (h : r ≠ 0) : (s.setReg r v).reg r = v := by
  unfold reg setReg
  rw [if_neg h]
  exact Function.update_self r v s.regs

theorem reg_setReg_of_ne (h : r' ≠ r) : (s.setReg r v).reg r' = s.reg r' := by
  unfold reg setReg
  dsimp only
  rw [Function.update_of_ne h]

end State

def exec : Instr → State → State
  | .la rd symbol, s => (s.setReg rd symbol).next
  | .addi rd rs1 imm, s => (s.setReg rd (s.reg rs1 + imm.signExtend 32)).next
  | .sw rs2 imm rs1, s =>
    { s.next with mem := storeWord s.mem (s.reg rs1 + imm.signExtend 32) (s.reg rs2) }
  | .bge rs1 rs2 label, s =>
    if (s.reg rs2).sle (s.reg rs1) then { s with pc := label } else s.next

def step (code : List Instr) (s : State) : Option State := code[s.pc]?.map (fun i => exec i s)

inductive Steps (code : List Instr) : State → State → Prop
  | refl (s : State) : Steps code s s
  | step {s t u : State} : step code s = some t → Steps code t u → Steps code s u

/-- The code runs from `s` to its end, and ends in `u`. -/
structure Finishes (code : List Instr) (s u : State) : Prop where
  steps : Steps code s u
  ended : step code u = none

variable {code : List Instr}

theorem Steps.trans {s t u : State} (h : Steps code s t) (h' : Steps code t u) :
    Steps code s u := by
  induction h with
  | refl => exact h'
  | step hs _ ih => exact .step hs (ih h')

theorem Steps.fetch {s u : State} {i : Instr} (hi : code[s.pc]? = some i)
    (h : Steps code (exec i s) u) : Steps code s u := by
  apply Steps.step _ h
  rw [Rv32.step, hi]
  rfl

theorem Steps.finishes {s t u : State} (h : Steps code s t) (hu : Finishes code s u) :
    Finishes code t u := by
  induction h with
  | refl => exact hu
  | step hs _ ih =>
    apply ih
    rcases hu with ⟨_ | ⟨hs', hrest⟩, hend⟩
    · rw [hs] at hend
      cases hend
    · rw [hs] at hs'
      cases hs'
      exact ⟨hrest, hend⟩

theorem Finishes.unique {s u u' : State} (h : Finishes code s u) (h' : Finishes code s u') :
    u = u' := by
  have hend := h.steps.finishes h'
  rcases hend with ⟨_ | ⟨hs, -⟩, -⟩
  · rfl
  · rw [h.ended] at hs
    cases hs

/-- A loop whose passes count the invariant down. -/
theorem Steps.countdown {inv : ℕ → State → Prop}
    (hpass : ∀ n s, inv (n+1) s → ∃ t, Steps code s t ∧ inv n t) {n : ℕ} {s : State}
    (h : inv n s) : ∃ t, Steps code s t ∧ inv 0 t := by
  induction n generalizing s with
  | zero => exact ⟨s, .refl s, h⟩
  | succ n ih =>
    rcases hpass n s h with ⟨t, hst, ht⟩
    rcases ih ht with ⟨u, htu, hu⟩
    exact ⟨u, hst.trans htu, hu⟩

theorem sle_iff_le {x y : Word} (hx : x.toNat < 2 ^ 31) (hy : y.toNat < 2 ^ 31) :
    x.sle y = true ↔ x.toNat ≤ y.toNat := by
  rw [BitVec.sle_iff_toInt_le, BitVec.toInt_eq_toNat_of_lt (by omega),
    BitVec.toInt_eq_toNat_of_lt (by omega)]
  exact Int.ofNat_le

end IbexAxi4l.Rv32
