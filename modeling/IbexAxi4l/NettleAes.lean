import Mathlib.Logic.Function.Basic
import IbexAxi4l.AesTables
import IbexAxi4l.ByteLanes

set_option autoImplicit false

/-!
# The AES code

The functions of `nettle-aes.c`. Memory and arrays are functions of the address or the
index; `none` is a failed assertion or a read outside `rcon`. The tables and the subkeys are
not in the memory that the blocks are in.
-/
namespace IbexAxi4l.NettleAes
open ByteLanes

abbrev Byte := BitVec 8
abbrev Word := BitVec 32
abbrev Mem := ℕ → Byte

def leReadUint32 (m : Mem) (p : ℕ) : Word :=
  (m (p+3)).setWidth 32 <<< 24 ||| (m (p+2)).setWidth 32 <<< 16 |||
    (m (p+1)).setWidth 32 <<< 8 ||| (m p).setWidth 32

def leWriteUint32 (m : Mem) (p : ℕ) (i : Word) : Mem :=
  let m := Function.update m (p+3) (byte i 3)
  let m := Function.update m (p+2) (byte i 2)
  let m := Function.update m (p+1) (byte i 1)
  Function.update m p (byte i 0)

def rotl32 (n : ℕ) (x : Word) : Word := x <<< n ||| x >>> ((32 - n) % 32)

def at8 (box : List Byte) (x : Byte) : Word := (box.getD x.toNat 0).setWidth 32

def subbyte (x : Word) (box : List Byte) : Word :=
  at8 box (byte x 0) ||| at8 box (byte x 1) <<< 8 ||| at8 box (byte x 2) <<< 16 |||
    at8 box (byte x 3) <<< 24

def AesTable.entry (T : AesTable) (j : ℕ) (x : Byte) : Word := (T.table.getD j []).getD x.toNat 0

def aesRound (T : AesTable) (w0 w1 w2 w3 k : Word) : Word :=
  (T.entry 0 (byte w0 0) ^^^ T.entry 1 (byte w1 1) ^^^ T.entry 2 (byte w2 2) ^^^
    T.entry 3 (byte w3 3)) ^^^ k

def aesFinalRound (T : AesTable) (w0 w1 w2 w3 k : Word) : Word :=
  (at8 T.sbox (byte w0 0) ||| at8 T.sbox (byte w1 1) <<< 8 ||| at8 T.sbox (byte w2 2) <<< 16 |||
    at8 T.sbox (byte w3 3) <<< 24) ^^^ k

structure Words where
  w0 : Word
  w1 : Word
  w2 : Word
  w3 : Word
  deriving DecidableEq

/-- `AES_ROUND` or `AES_FINAL_ROUND` with its table. -/
abbrev RoundMacro := Word → Word → Word → Word → Word → Word

def encryptRound (f : RoundMacro) (k : ℕ → Word) (w : Words) : Words where
  w0 := f w.w0 w.w1 w.w2 w.w3 (k 0)
  w1 := f w.w1 w.w2 w.w3 w.w0 (k 1)
  w2 := f w.w2 w.w3 w.w0 w.w1 (k 2)
  w3 := f w.w3 w.w0 w.w1 w.w2 (k 3)

def decryptRound (f : RoundMacro) (k : ℕ → Word) (w : Words) : Words where
  w0 := f w.w0 w.w3 w.w2 w.w1 (k 0)
  w1 := f w.w1 w.w0 w.w3 w.w2 (k 1)
  w2 := f w.w2 w.w1 w.w0 w.w3 (k 2)
  w3 := f w.w3 w.w2 w.w1 w.w0 (k 3)

def readWords (m : Mem) (src : ℕ) : Words :=
  ⟨leReadUint32 m src, leReadUint32 m (src+4), leReadUint32 m (src+8), leReadUint32 m (src+12)⟩

def writeWords (m : Mem) (dst : ℕ) (w : Words) : Mem :=
  leWriteUint32 (leWriteUint32 (leWriteUint32 (leWriteUint32 m dst w.w0) (dst+4) w.w1) (dst+8)
    w.w2) (dst+12) w.w3

/-- The four subkeys from index `4 * i` on. -/
def subkey (keys : ℕ → Word) (i c : ℕ) : Word := keys (4 * i + c)

section Crypt
variable (round : RoundMacro → (ℕ → Word) → Words → Words) (T : AesTable) (keys : ℕ → Word)

def cryptRounds (w : Words) : ℕ → Words
  | 0 => w
  | n + 1 => round (aesRound T) (subkey keys (n+1)) (cryptRounds w n)

def cryptBlock (rounds : ℕ) (w : Words) : Words :=
  let w := cryptRounds round T keys
    ⟨w.w0 ^^^ keys 0, w.w1 ^^^ keys 1, w.w2 ^^^ keys 2, w.w3 ^^^ keys 3⟩ (rounds - 1)
  round (aesFinalRound T) (subkey keys (rounds - 1 + 1)) w

/-- `FOR_BLOCKS`, for the number of blocks that are left. -/
def forBlocks (body : Words → Words) : ℕ → ℕ → ℕ → Mem → Mem
  | 0, _, _, m => m
  | n + 1, dst, src, m =>
    forBlocks body n (dst+16) (src+16) (writeWords m dst (body (readWords m src)))

def crypt (rounds length dst src : ℕ) (m : Mem) : Option Mem :=
  if length % 16 = 0 then some (forBlocks (cryptBlock round T keys rounds) (length / 16) dst src m)
  else none

end Crypt

def nettleAesEncrypt (rounds : ℕ) (keys : ℕ → Word) (T : AesTable) : ℕ → ℕ → ℕ → Mem → Option Mem :=
  crypt encryptRound T keys rounds

def nettleAesDecrypt (rounds : ℕ) (keys : ℕ → Word) (T : AesTable) : ℕ → ℕ → ℕ → Mem → Option Mem :=
  crypt decryptRound T keys rounds

structure AesCtx where
  rounds : ℕ
  keys : ℕ → Word

def aesEncrypt (ctx : AesCtx) : ℕ → ℕ → ℕ → Mem → Option Mem :=
  nettleAesEncrypt ctx.rounds ctx.keys aesEncryptTable

def aesDecrypt (ctx : AesCtx) : ℕ → ℕ → ℕ → Mem → Option Mem :=
  nettleAesDecrypt ctx.rounds ctx.keys aesDecryptTable

/-! ## Subkeys -/

def rcon : List Byte := [0x01, 0x02, 0x04, 0x08, 0x10, 0x20, 0x40, 0x80, 0x1b, 0x36]

/-- The state of the second loop of `_aes_set_key`: `rp` is an index into `rcon`. -/
structure Expand where
  subkeys : ℕ → Word
  rp : ℕ

/-- The new `t` and `rp`. -/
def expandWord (nk i rp : ℕ) (t : Word) : Option (Word × ℕ) :=
  if i % nk = 0 then
    rcon[rp]?.map (fun r => (subbyte (rotl32 24 t) sbox ^^^ r.setWidth 32, rp + 1))
  else if nk > 6 ∧ i % nk = 4 then some (subbyte t sbox, rp)
  else some (t, rp)

def expandStep (nk : ℕ) (s : Expand) (i : ℕ) : Option Expand :=
  (expandWord nk i s.rp (s.subkeys (i-1))).map
    (fun t => ⟨Function.update s.subkeys i (s.subkeys (i - nk) ^^^ t.1), t.2⟩)

def aesSetKey (nr nk : ℕ) (subkeys : ℕ → Word) (key : Mem) : Option (ℕ → Word) :=
  if nk = 0 then none
  else
    let lastkey := 4 * (nr + 1)
    let loaded := (List.range nk).foldl
      (fun s i => Function.update s i (leReadUint32 key (4 * i))) subkeys
    ((List.range' nk (lastkey - nk)).foldlM (expandStep nk) ⟨loaded, 0⟩).map Expand.subkeys

/-- `nk` and `nr`, for the key sizes that the assertions let pass. -/
def keySize (keysize : ℕ) : ℕ × ℕ :=
  if keysize = 32 then (8, 14) else if 24 ≤ keysize then (6, 12) else (4, 10)

def aesSetEncryptKey (ctx : AesCtx) (keysize : ℕ) (key : Mem) : Option AesCtx :=
  if 16 ≤ keysize ∧ keysize ≤ 32 then
    let (nk, nr) := keySize keysize
    (aesSetKey nr nk ctx.keys key).map (fun keys => ⟨nr, keys⟩)
  else none

def mixColumn (T : List Word) (key : Word) : Word :=
  T.getD (byte key 0).toNat 0 ^^^ rotl32 8 (T.getD (byte key 1).toNat 0) ^^^
    rotl32 16 (T.getD (byte key 2).toNat 0) ^^^ rotl32 24 (T.getD (byte key 3).toNat 0)

def swap (dst : ℕ → Word) (a b x : ℕ) : Word :=
  if x = a then dst b else if x = b then dst a else dst x

/-- The loop that reverses the order of the groups in place. -/
def swapGroups (i j : ℕ) (dst : ℕ → Word) : ℕ → Word :=
  if i < j then
    swapGroups (i+4) (j-4) ((List.range 4).foldl (fun d k => swap d (i+k) (j+k)) dst)
  else dst
termination_by j - i

def copyGroups (rounds : ℕ) (dst src : ℕ → Word) : ℕ → Word :=
  (List.range (rounds + 1)).foldl (fun d g => (List.range 4).foldl
    (fun d k => Function.update d (4 * g + k) (src (rounds * 4 - 4 * g + k))) d) dst

def mixKeys (rounds : ℕ) (dst : ℕ → Word) : ℕ → Word :=
  (List.range' 4 (4 * rounds - 4)).foldl
    (fun d i => Function.update d i (mixColumn mtable (d i))) dst

/-- `src` is the array itself, or another one. -/
def nettleAesInvert (rounds : ℕ) (dst : ℕ → Word) (src : Option (ℕ → Word)) : ℕ → Word :=
  mixKeys rounds (match src with
    | none => swapGroups 0 (rounds * 4) dst
    | some src => copyGroups rounds dst src)

def aesInvertKey (dst : AesCtx) (src : Option AesCtx) : AesCtx :=
  let rounds := (src.getD dst).rounds
  ⟨rounds, nettleAesInvert rounds dst.keys (src.map AesCtx.keys)⟩

def aesSetDecryptKey (ctx : AesCtx) (keysize : ℕ) (key : Mem) : Option AesCtx :=
  (aesSetEncryptKey ctx keysize key).map (fun c => aesInvertKey c none)

end IbexAxi4l.NettleAes
