import Mathlib.Algebra.BigOperators.Fin
import IbexAxi4l.NettleAesTables

set_option autoImplicit false

/-!
# The AES code computes the cipher

The words of a block are its columns. The rounds with the tables are the rounds of the
layers, and the loop over the blocks of a buffer leaves the cipher of each one, also in
place.
-/
namespace IbexAxi4l.NettleAes
open Matrix ByteLanes Rijndael RoundCipher

def Words.word (w : Words) : Fin 4 → Word := ![w.w0, w.w1, w.w2, w.w3]

def Words.block (w : Words) : Block := fun r c => column (w.word c) r

def keyBlock (k : ℕ → Word) : Block := fun r c => column (k c) r

theorem Words.block_injective : Function.Injective Words.block := by
  intro w w' h
  have hword (c : Fin 4) : w.word c = w'.word c :=
    column_injective (funext (fun r => congrFun (congrFun h r) c))
  have h0 : w.w0 = w'.w0 := hword 0
  have h1 : w.w1 = w'.w1 := hword 1
  have h2 : w.w2 = w'.w2 := hword 2
  have h3 : w.w3 = w'.w3 := hword 3
  cases w
  cases w'
  simp_all

/-- Word `c` after a round takes the byte `r` of the word `c + turn r`. -/
def Turns (round : RoundMacro → (ℕ → Word) → Words → Words) (turn : Fin 4 → Fin 4) : Prop :=
  ∀ f k w c, (round f k w).word c = f.onWords (fun r => w.word (c + turn r)) (k c)

theorem encryptRound_turns : Turns encryptRound (fun r => r) := by
  intro f k w c
  fin_cases c <;> rfl

theorem decryptRound_turns : Turns decryptRound (fun r => -r) := by
  intro f k w c
  fin_cases c <;> rfl

section Round
variable {T : AesTable} {sub : Gf256 → Gf256} {v : Fin 4 → Gf256} (hT : T.Serves sub v)
include hT

theorem column_aesRound (w : Fin 4 → Word) (k : Word) (r : Fin 4) :
    column (aesRound T (w 0) (w 1) (w 2) (w 3) k) r =
      (∑ j, circulant v r j * sub (column (w j) j)) + column k r := by
  have hentry (j : Fin 4) : (⟨byte (T.entry j (byte (w j) j)) r⟩ : Gf256) =
      circulant v r j * sub (column (w j) j) := Gf256.ext (hT.entry j r _)
  rw [Fin.sum_univ_four, ← hentry 0, ← hentry 1, ← hentry 2, ← hentry 3]
  unfold aesRound
  rw [column_xor]
  refine congrArg (· + column k r) (Gf256.ext ?_)
  change byte _ r = _
  rw [byte_xor, byte_xor, byte_xor]
  rfl

theorem column_aesFinalRound (w : Fin 4 → Word) (k : Word) (r : Fin 4) :
    column (aesFinalRound T (w 0) (w 1) (w 2) (w 3) k) r =
      sub (column (w r) r) + column k r := by
  unfold aesFinalRound
  rw [column_xor]
  refine congrArg (· + column k r) (Gf256.ext ?_)
  change byte (four (fun j => T.sbox.getD (byte (w j) j).toNat 0)) r = _
  rw [byte_four, hT.sbox]
  rfl

variable {round : RoundMacro → (ℕ → Word) → Words → Words} {turn : Fin 4 → Fin 4}
  (hround : Turns round turn)
include hround

theorem block_round (k : ℕ → Word) (w : Words) : (round (aesRound T) k w).block =
    (Layers.mk sub turn (circulant v)).round (keyBlock k) w.block := by
  funext r c
  change column ((round (aesRound T) k w).word c) r = _
  rw [hround]
  exact column_aesRound hT (fun j => w.word (c + turn j)) (k c) r

theorem block_finalRound (k : ℕ → Word) (w : Words) : (round (aesFinalRound T) k w).block =
    (Layers.mk sub turn (circulant v)).stir w.block + keyBlock k := by
  funext r c
  change column ((round (aesFinalRound T) k w).word c) r = _
  rw [hround]
  exact column_aesFinalRound hT (fun j => w.word (c + turn j)) (k c) r

theorem block_cryptRounds (keys : ℕ → Word) (w : Words) (n : ℕ) :
    (cryptRounds round T keys ⟨w.w0 ^^^ keys 0, w.w1 ^^^ keys 1, w.w2 ^^^ keys 2,
      w.w3 ^^^ keys 3⟩ n).block =
      (Layers.mk sub turn (circulant v)).rounds (fun i => keyBlock (subkey keys i)) w.block n := by
  induction n with
  | zero =>
    funext r c
    fin_cases c <;> exact congrFun (column_xor _ _) r
  | succ n ih =>
    change (round (aesRound T) (subkey keys (n+1)) _).block = _
    rw [block_round hT hround, ih]
    rfl

theorem block_cryptBlock (keys : ℕ → Word) {rounds : ℕ} (hrounds : 0 < rounds) (w : Words) :
    (cryptBlock round T keys rounds w).block = (Layers.mk sub turn (circulant v)).cipher
      (fun i => keyBlock (subkey keys i)) rounds w.block := by
  unfold cryptBlock
  rw [block_finalRound hT hround, block_cryptRounds hT hround, Nat.sub_add_cancel hrounds]
  rfl

end Round

theorem or_reverse (a b c d : Word) : a ||| b ||| c ||| d = d ||| c ||| b ||| a := by
  rw [BitVec.or_comm _ d, BitVec.or_comm _ c, BitVec.or_comm a b, ← BitVec.or_assoc,
    ← BitVec.or_assoc]

theorem leReadUint32_eq (m : Mem) (p : ℕ) : leReadUint32 m p = four (fun b => m (p + b)) :=
  or_reverse _ _ _ _

theorem readWords_congr {m m' : Mem} {p : ℕ} (h : ∀ b < 16, m (p + b) = m' (p + b)) :
    readWords m p = readWords m' p := by
  have hread (d : ℕ) (hd : d ≤ 12) : leReadUint32 m (p + d) = leReadUint32 m' (p + d) := by
    rw [leReadUint32_eq, leReadUint32_eq]
    refine congrArg four (funext fun b => ?_)
    rw [Nat.add_assoc]
    exact h _ (by omega)
  unfold readWords
  rw [show leReadUint32 m p = leReadUint32 m' p from hread 0 (by decide), hread 4 (by decide),
    hread 8 (by decide), hread 12 (by decide)]

theorem leWriteUint32_apply (m : Mem) (p : ℕ) (i : Word) (x : ℕ) : leWriteUint32 m p i x =
    if p ≤ x ∧ x < p + 4 then byte i (x - p) else m x := by
  unfold leWriteUint32
  by_cases hin : p ≤ x ∧ x < p + 4
  · obtain ⟨b, rfl⟩ : ∃ b, x = p + b := ⟨x - p, by omega⟩
    have hb : b = 0 ∨ b = 1 ∨ b = 2 ∨ b = 3 := by omega
    rcases hb with rfl | rfl | rfl | rfl <;> simp
  · have hne : x ≠ p ∧ x ≠ p + 1 ∧ x ≠ p + 2 ∧ x ≠ p + 3 := by omega
    rw [if_neg hin]
    simp only [Function.update_apply, hne, if_false]

theorem leRead_leWrite (m : Mem) (p : ℕ) (i : Word) : leReadUint32 (leWriteUint32 m p i) p = i := by
  rw [leReadUint32_eq]
  apply @eq_of_byte 4
  intro b hb
  refine (byte_four _ ⟨b, hb⟩).trans ?_
  rw [leWriteUint32_apply, if_pos ⟨Nat.le_add_right _ _, Nat.add_lt_add_left hb p⟩,
    Nat.add_sub_cancel_left]

theorem leRead_frame {p q : ℕ} (h : q + 4 ≤ p ∨ p + 4 ≤ q) (m : Mem) (i : Word) :
    leReadUint32 (leWriteUint32 m p i) q = leReadUint32 m q := by
  rw [leReadUint32_eq, leReadUint32_eq]
  refine congrArg four (funext fun b => ?_)
  have hb := b.isLt
  rw [leWriteUint32_apply, if_neg (by omega)]

theorem writeWords_frame (m : Mem) (p : ℕ) (w : Words) {x : ℕ} (h : x < p ∨ p + 16 ≤ x) :
    writeWords m p w x = m x := by
  unfold writeWords
  simp only [leWriteUint32_apply]
  rw [if_neg (by omega), if_neg (by omega), if_neg (by omega), if_neg (by omega)]

theorem readWords_writeWords (m : Mem) (p : ℕ) (w : Words) :
    readWords (writeWords m p w) p = w := by
  unfold readWords writeWords
  rw [leRead_frame (by omega), leRead_frame (by omega), leRead_frame (by omega), leRead_leWrite,
    leRead_frame (by omega), leRead_frame (by omega), leRead_leWrite, leRead_frame (by omega),
    leRead_leWrite, leRead_leWrite]

/-- The destination does not overlap the part of the source that is still to be read. -/
def NoClobber (dst src length : ℕ) : Prop := dst ≤ src ∨ src + length ≤ dst

/-- The loop over the blocks puts the body of block `i` of the source into block `i` of the
destination, and changes nothing else. -/
structure Maps (body : Words → Words) (n dst src : ℕ) (m m' : Mem) : Prop where
  block : ∀ i < n, readWords m' (dst + 16 * i) = body (readWords m (src + 16 * i))
  frame : ∀ x, x < dst ∨ dst + 16 * n ≤ x → m' x = m x

theorem forBlocks_maps (body : Words → Words) (n : ℕ) {dst src : ℕ}
    (h : NoClobber dst src (16 * n)) (m : Mem) :
    Maps body n dst src m (forBlocks body n dst src m) := by
  induction n generalizing dst src m with
  | zero => exact ⟨fun i hi => absurd hi (Nat.not_lt_zero i), fun x _ => rfl⟩
  | succ n ih =>
    have hrest : NoClobber (dst+16) (src+16) (16 * n) := by
      unfold NoClobber at h ⊢
      omega
    have hih := ih hrest (writeWords m dst (body (readWords m src)))
    constructor
    · intro i hi
      cases i with
      | zero =>
        have hkept : readWords (forBlocks body (n+1) dst src m) dst =
            readWords (writeWords m dst (body (readWords m src))) dst :=
          readWords_congr (fun b hb => hih.frame _ (by omega))
        exact hkept.trans (readWords_writeWords _ _ _)
      | succ i =>
        have hblock := hih.block i (by omega)
        rw [show dst + 16 * (i+1) = dst + 16 + 16 * i by omega,
          show src + 16 * (i+1) = src + 16 + 16 * i by omega]
        refine hblock.trans (congrArg body (readWords_congr fun b hb => ?_))
        unfold NoClobber at h
        exact writeWords_frame _ _ _ (by omega)
    · intro x hx
      refine (hih.frame x (by omega)).trans (writeWords_frame _ _ _ (by omega))

end IbexAxi4l.NettleAes
