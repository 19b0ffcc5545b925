import IbexAxi4l.Rv32

set_option autoImplicit false

/-!
# The startup code

`crt0.S` from `_start` to the label `zero_loop_end`. The entry of the loop treats `_bss_end` as
the first address behind the section, its end as the last one of it.
-/
namespace IbexAxi4l.Crt0
open Rv32

def x0 : Reg := ⟨0, by decide⟩
def x26 : Reg := ⟨26, by decide⟩
def x27 : Reg := ⟨27, by decide⟩

def zeroLoop : ℕ := 3
def zeroLoopEnd : ℕ := 6

def start (bssStart bssEnd : Word) : List Instr := [
  .la x26 bssStart,
  .la x27 bssEnd,
  .bge x26 x27 zeroLoopEnd,
  -- zero_loop:
  .sw x0 0 x26,
  .addi x26 x26 4,
  .ble x26 x27 zeroLoop]

/-- Where the linker script places the section. -/
structure Bss where
  bssStart : Word
  bssEnd : Word
  startAligned : 4 ∣ bssStart.toNat
  endAligned : 4 ∣ bssEnd.toNat
  le : bssStart.toNat ≤ bssEnd.toNat
  low : bssEnd.toNat < 2 ^ 31 - 4

def Bss.code (b : Bss) : List Instr := start b.bssStart b.bssEnd

def entry (regs : Reg → Word) (mem : Memory) : State := ⟨0, regs, mem⟩

/-- Every word of the section is zero and every other one is as it was. -/
def ClearsExactly (b : Bss) (before after : Memory) : Prop :=
  ∀ w : Word, 4 ∣ w.toNat → loadWord after w =
    if b.bssStart.toNat ≤ w.toNat ∧ w.toNat < b.bssEnd.toNat then 0 else loadWord before w

def Clears (b : Bss) (regs : Reg → Word) (mem : Memory) : Prop :=
  ∃ u, Finishes b.code (entry regs mem) u ∧ ClearsExactly b mem u.mem

/-- At `zero_loop` with `n` words left before `_bss_end`. -/
structure Clearing (b : Bss) (mem : Memory) (n : ℕ) (s : State) : Prop where
  pc : s.pc = zeroLoop
  address : (s.reg x26).toNat + 4 * n = b.bssEnd.toNat
  bound : s.reg x27 = b.bssEnd
  reached : b.bssStart.toNat ≤ (s.reg x26).toNat
  mem : s.mem = cleared mem b.bssStart.toNat (s.reg x26).toNat

def stored (s : State) : State := exec (.addi x26 x26 4) (exec (.sw x0 0 x26) s)

section Pass
variable {b : Bss} {mem : Memory} {n : ℕ} {s : State}

theorem stored_pc (s : State) : (stored s).pc = s.pc + 2 := rfl

theorem stored_address (s : State) : (stored s).reg x26 = s.reg x26 + 4 :=
  State.reg_setReg_self (exec (.sw x0 0 x26) s) x26 (s.reg x26 + 4) (by decide)

theorem stored_bound (s : State) : (stored s).reg x27 = s.reg x27 :=
  State.reg_setReg_of_ne (exec (.sw x0 0 x26) s) x26 x27 (s.reg x26 + 4) (by decide)

theorem stored_mem (s : State) : (stored s).mem = storeWord s.mem (s.reg x26) 0 := by
  change storeWord s.mem (s.reg x26 + (0 : BitVec 12).signExtend 32) 0 = _
  have hoffset : (0 : BitVec 12).signExtend 32 = 0#32 := by decide
  rw [hoffset, BitVec.add_zero]

theorem Clearing.steps (h : Clearing b mem n s) :
    Steps b.code s (exec (.ble x26 x27 zeroLoop) (stored s)) := by
  have hpc := h.pc
  have hsw : b.code[s.pc]? = some (.sw x0 0 x26) := by
    rw [hpc]
    rfl
  have haddi : b.code[s.pc + 1]? = some (.addi x26 x26 4) := by
    rw [hpc]
    rfl
  have hble : b.code[s.pc + 2]? = some (.ble x26 x27 zeroLoop) := by
    rw [hpc]
    rfl
  exact .fetch hsw (.fetch haddi (.fetch hble (.refl _)))

theorem Clearing.next_address (h : Clearing b mem n s) :
    ((stored s).reg x26).toNat = (s.reg x26).toNat + 4 := by
  have hfit := b.low
  have haddress := h.address
  have hfour : (4 : Word).toNat = 4 := rfl
  rw [stored_address, BitVec.toNat_add, hfour]
  omega

theorem Clearing.next_mem (h : Clearing b mem n s) : (stored s).mem =
    cleared mem b.bssStart.toNat ((stored s).reg x26).toNat := by
  have hfit := b.low
  have haddress := h.address
  rw [stored_mem, storeWord_zero _ (by omega), h.mem, h.next_address]
  exact cleared_append mem h.reached (by omega)

/-- The branch compares with `<=`, so it is taken while the next word is not behind
`_bss_end`. -/
theorem Clearing.taken_iff (h : Clearing b mem n s) :
    ((stored s).reg x26).sle ((stored s).reg x27) = true ↔ 0 < n := by
  have hfit := b.low
  have haddress := h.address
  have hnext := h.next_address
  have hbound : (stored s).reg x27 = b.bssEnd := (stored_bound s).trans h.bound
  rw [hbound, sle_iff_le (by omega) (by omega), hnext]
  omega

theorem Clearing.pass (h : Clearing b mem (n+1) s) :
    ∃ t, Steps b.code s t ∧ Clearing b mem n t := by
  have htaken := h.taken_iff.2 (Nat.succ_pos n)
  have hexec : exec (.ble x26 x27 zeroLoop) (stored s) = { stored s with pc := zeroLoop } :=
    if_pos htaken
  have haddress := h.address
  refine ⟨_, h.steps, ?_⟩
  rw [hexec]
  refine ⟨rfl, ?_, (stored_bound s).trans h.bound, ?_, h.next_mem⟩
  · change ((stored s).reg x26).toNat + 4 * n = _
    rw [h.next_address]
    omega
  · change _ ≤ ((stored s).reg x26).toNat
    rw [h.next_address]
    exact h.reached.trans (Nat.le_add_right _ _)

theorem Clearing.last (h : Clearing b mem 0 s) : ∃ t, Finishes b.code s t ∧
    t.mem = cleared mem b.bssStart.toNat (b.bssEnd.toNat + 4) := by
  have hnot : ¬ ((stored s).reg x26).sle ((stored s).reg x27) = true := by
    rw [h.taken_iff]
    exact Nat.lt_irrefl 0
  have hexec : exec (.ble x26 x27 zeroLoop) (stored s) = (stored s).next := if_neg hnot
  have haddress := h.address
  have hsteps := h.steps
  rw [hexec] at hsteps
  refine ⟨_, ⟨hsteps, ?_⟩, ?_⟩
  · have hpc : (stored s).next.pc = zeroLoopEnd := by
      rw [State.next_pc, stored_pc, h.pc]
      rfl
    rw [step, hpc]
    rfl
  · rw [State.next_mem, h.next_mem, h.next_address]
    congr 1
    omega

end Pass

section Start
variable (b : Bss) (regs : Reg → Word) (mem : Memory)

def loaded (s : State) : State := exec (.la x27 b.bssEnd) (exec (.la x26 b.bssStart) s)

theorem loaded_address (s : State) : (loaded b s).reg x26 = b.bssStart := by
  change ((exec (.la x26 b.bssStart) s).setReg x27 b.bssEnd).reg x26 = _
  rw [State.reg_setReg_of_ne _ _ _ _ (by decide)]
  exact State.reg_setReg_self s x26 b.bssStart (by decide)

theorem loaded_bound (s : State) : (loaded b s).reg x27 = b.bssEnd :=
  State.reg_setReg_self (exec (.la x26 b.bssStart) s) x27 b.bssEnd (by decide)

theorem entry_steps : Steps b.code (entry regs mem)
    (exec (.bge x26 x27 zeroLoopEnd) (loaded b (entry regs mem))) :=
  .fetch rfl (.fetch rfl (.fetch rfl (.refl _)))

theorem guard_iff :
    ((loaded b (entry regs mem)).reg x27).sle ((loaded b (entry regs mem)).reg x26) = true ↔
      b.bssStart = b.bssEnd := by
  have hle := b.le
  have hfit := b.low
  rw [loaded_address, loaded_bound, sle_iff_le (by omega) (by omega)]
  constructor
  · intro hge
    exact BitVec.eq_of_toNat_eq (Nat.le_antisymm hle hge)
  · intro heq
    rw [heq]

theorem clearing : Clearing b mem ((b.bssEnd.toNat - b.bssStart.toNat) / 4)
    (loaded b (entry regs mem)).next := by
  have hle := b.le
  have hstart := b.startAligned
  have hend := b.endAligned
  refine ⟨rfl, ?_, loaded_bound b (entry regs mem), ?_, ?_⟩
  · rw [State.next_reg, loaded_address]
    omega
  · rw [State.next_reg, loaded_address]
  · rw [State.next_reg, loaded_address, cleared_self]
    rfl

/-- An empty section is left alone; of any other one the word behind it is cleared, too. -/
theorem finishes : ∃ t, Finishes b.code (entry regs mem) t ∧ t.mem =
    if b.bssStart = b.bssEnd then mem
    else cleared mem b.bssStart.toNat (b.bssEnd.toNat + 4) := by
  have hsteps := entry_steps b regs mem
  by_cases heq : b.bssStart = b.bssEnd
  · have hskip : exec (.bge x26 x27 zeroLoopEnd) (loaded b (entry regs mem)) =
        { loaded b (entry regs mem) with pc := zeroLoopEnd } :=
      if_pos ((guard_iff b regs mem).2 heq)
    rw [hskip] at hsteps
    rw [if_pos heq]
    exact ⟨_, ⟨hsteps, rfl⟩, rfl⟩
  · have hpass : exec (.bge x26 x27 zeroLoopEnd) (loaded b (entry regs mem)) =
        (loaded b (entry regs mem)).next :=
      if_neg (fun htaken => heq ((guard_iff b regs mem).1 htaken))
    rw [hpass] at hsteps
    rw [if_neg heq]
    rcases Steps.countdown (fun _ _ => Clearing.pass) (clearing b regs mem) with ⟨t, ht, hlast⟩
    rcases hlast.last with ⟨u, hu, hmem⟩
    exact ⟨u, ⟨(hsteps.trans ht).trans hu.steps, hu.ended⟩, hmem⟩

theorem clearsExactly_self (h : b.bssStart = b.bssEnd) : ClearsExactly b mem mem := by
  intro w _
  rw [h, if_neg (by omega)]

theorem clearsExactly_iff :
    ClearsExactly b mem (cleared mem b.bssStart.toNat (b.bssEnd.toNat + 4)) ↔
      loadWord mem b.bssEnd = 0 := by
  have hle := b.le
  have hfit := b.low
  have hstart := b.startAligned
  have hend := b.endAligned
  have hlast : loadWord (cleared mem b.bssStart.toNat (b.bssEnd.toNat + 4)) b.bssEnd = 0 := by
    rw [loadWord_cleared mem (by omega) (by omega), if_pos (by omega)]
  constructor
  · intro h
    have hkept := h b.bssEnd hend
    rw [hlast, if_neg (by omega)] at hkept
    exact hkept.symm
  · intro hzero w hw
    have hword := w.isLt
    by_cases heq : w = b.bssEnd
    · rw [heq, hlast, if_neg (by omega), hzero]
    · have hne : w.toNat ≠ b.bssEnd.toNat := fun h => heq (BitVec.eq_of_toNat_eq h)
      rw [loadWord_cleared mem (by omega) (by omega)]
      exact if_congr (by omega) rfl rfl

/-- The loop clears the section exactly where one word too many makes no difference. -/
theorem clears_iff : Clears b regs mem ↔ b.bssStart = b.bssEnd ∨ loadWord mem b.bssEnd = 0 := by
  rcases finishes b regs mem with ⟨t, ht, hmem⟩
  have hend : Clears b regs mem ↔ ClearsExactly b mem t.mem := by
    constructor
    · rintro ⟨u, hu, hclears⟩
      rw [ht.unique hu]
      exact hclears
    · exact fun hclears => ⟨t, ht, hclears⟩
  rw [hend, hmem]
  by_cases heq : b.bssStart = b.bssEnd
  · rw [if_pos heq]
    exact iff_of_true (clearsExactly_self b mem heq) (.inl heq)
  · rw [if_neg heq, clearsExactly_iff, or_iff_right heq]

end Start

def oneWord : Bss where
  bssStart := 0x100
  bssEnd := 0x104
  startAligned := by decide
  endAligned := by decide
  le := by decide
  low := by decide

/-- With ones all over the memory, those behind the section are lost. -/
theorem not_clears : ¬ ∀ (b : Bss) (regs : Reg → Word) (mem : Memory), Clears b regs mem := by
  intro h
  rcases h oneWord (fun _ => 0) (fun _ => 0xFF) with ⟨u, hu, hclears⟩
  rcases finishes oneWord (fun _ => 0) (fun _ => 0xFF) with ⟨t, ht, hmem⟩
  rw [hu.unique ht, hmem, if_neg (by decide), clearsExactly_iff] at hclears
  revert hclears
  decide

end IbexAxi4l.Crt0
