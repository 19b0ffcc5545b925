import IbexAxi4l.Beebsc
import IbexAxi4l.CrcRegister

set_option autoImplicit false

/-!
# The checksum benchmark

`crc_32.c`: a table of 256 words takes a byte of the message at a time.
-/
namespace IbexAxi4l.Crc32
open Beebsc CrcRegister XorLinear

abbrev Byte := BitVec 8

def crc32Tab : List (BitVec 32) := [
  0x00000000, 0x77073096, 0xee0e612c, 0x990951ba, 0x076dc419, 0x706af48f, 0xe963a535, 0x9e6495a3,
  0x0edb8832, 0x79dcb8a4, 0xe0d5e91e, 0x97d2d988, 0x09b64c2b, 0x7eb17cbd, 0xe7b82d07, 0x90bf1d91,
  0x1db71064, 0x6ab020f2, 0xf3b97148, 0x84be41de, 0x1adad47d, 0x6ddde4eb, 0xf4d4b551, 0x83d385c7,
  0x136c9856, 0x646ba8c0, 0xfd62f97a, 0x8a65c9ec, 0x14015c4f, 0x63066cd9, 0xfa0f3d63, 0x8d080df5,
  0x3b6e20c8, 0x4c69105e, 0xd56041e4, 0xa2677172, 0x3c03e4d1, 0x4b04d447, 0xd20d85fd, 0xa50ab56b,
  0x35b5a8fa, 0x42b2986c, 0xdbbbc9d6, 0xacbcf940, 0x32d86ce3, 0x45df5c75, 0xdcd60dcf, 0xabd13d59,
  0x26d930ac, 0x51de003a, 0xc8d75180, 0xbfd06116, 0x21b4f4b5, 0x56b3c423, 0xcfba9599, 0xb8bda50f,
  0x2802b89e, 0x5f058808, 0xc60cd9b2, 0xb10be924, 0x2f6f7c87, 0x58684c11, 0xc1611dab, 0xb6662d3d,
  0x76dc4190, 0x01db7106, 0x98d220bc, 0xefd5102a, 0x71b18589, 0x06b6b51f, 0x9fbfe4a5, 0xe8b8d433,
  0x7807c9a2, 0x0f00f934, 0x9609a88e, 0xe10e9818, 0x7f6a0dbb, 0x086d3d2d, 0x91646c97, 0xe6635c01,
  0x6b6b51f4, 0x1c6c6162, 0x856530d8, 0xf262004e, 0x6c0695ed, 0x1b01a57b, 0x8208f4c1, 0xf50fc457,
  0x65b0d9c6, 0x12b7e950, 0x8bbeb8ea, 0xfcb9887c, 0x62dd1ddf, 0x15da2d49, 0x8cd37cf3, 0xfbd44c65,
  0x4db26158, 0x3ab551ce, 0xa3bc0074, 0xd4bb30e2, 0x4adfa541, 0x3dd895d7, 0xa4d1c46d, 0xd3d6f4fb,
  0x4369e96a, 0x346ed9fc, 0xad678846, 0xda60b8d0, 0x44042d73, 0x33031de5, 0xaa0a4c5f, 0xdd0d7cc9,
  0x5005713c, 0x270241aa, 0xbe0b1010, 0xc90c2086, 0x5768b525, 0x206f85b3, 0xb966d409, 0xce61e49f,
  0x5edef90e, 0x29d9c998, 0xb0d09822, 0xc7d7a8b4, 0x59b33d17, 0x2eb40d81, 0xb7bd5c3b, 0xc0ba6cad,
  0xedb88320, 0x9abfb3b6, 0x03b6e20c, 0x74b1d29a, 0xead54739, 0x9dd277af, 0x04db2615, 0x73dc1683,
  0xe3630b12, 0x94643b84, 0x0d6d6a3e, 0x7a6a5aa8, 0xe40ecf0b, 0x9309ff9d, 0x0a00ae27, 0x7d079eb1,
  0xf00f9344, 0x8708a3d2, 0x1e01f268, 0x6906c2fe, 0xf762575d, 0x806567cb, 0x196c3671, 0x6e6b06e7,
  0xfed41b76, 0x89d32be0, 0x10da7a5a, 0x67dd4acc, 0xf9b9df6f, 0x8ebeeff9, 0x17b7be43, 0x60b08ed5,
  0xd6d6a3e8, 0xa1d1937e, 0x38d8c2c4, 0x4fdff252, 0xd1bb67f1, 0xa6bc5767, 0x3fb506dd, 0x48b2364b,
  0xd80d2bda, 0xaf0a1b4c, 0x36034af6, 0x41047a60, 0xdf60efc3, 0xa867df55, 0x316e8eef, 0x4669be79,
  0xcb61b38c, 0xbc66831a, 0x256fd2a0, 0x5268e236, 0xcc0c7795, 0xbb0b4703, 0x220216b9, 0x5505262f,
  0xc5ba3bbe, 0xb2bd0b28, 0x2bb45a92, 0x5cb36a04, 0xc2d7ffa7, 0xb5d0cf31, 0x2cd99e8b, 0x5bdeae1d,
  0x9b64c2b0, 0xec63f226, 0x756aa39c, 0x026d930a, 0x9c0906a9, 0xeb0e363f, 0x72076785, 0x05005713,
  0x95bf4a82, 0xe2b87a14, 0x7bb12bae, 0x0cb61b38, 0x92d28e9b, 0xe5d5be0d, 0x7cdcefb7, 0x0bdbdf21,
  0x86d3d2d4, 0xf1d4e242, 0x68ddb3f8, 0x1fda836e, 0x81be16cd, 0xf6b9265b, 0x6fb077e1, 0x18b74777,
  0x88085ae6, 0xff0f6a70, 0x66063bca, 0x11010b5c, 0x8f659eff, 0xf862ae69, 0x616bffd3, 0x166ccf45,
  0xa00ae278, 0xd70dd2ee, 0x4e048354, 0x3903b3c2, 0xa7672661, 0xd06016f7, 0x4969474d, 0x3e6e77db,
  0xaed16a4a, 0xd9d65adc, 0x40df0b66, 0x37d83bf0, 0xa9bcae53, 0xdebb9ec5, 0x47b2cf7f, 0x30b5ffe9,
  0xbdbdf21c, 0xcabac28a, 0x53b39330, 0x24b4a3a6, 0xbad03605, 0xcdd70693, 0x54de5729, 0x23d967bf,
  0xb3667a2e, 0xc4614ab8, 0x5d681b02, 0x2a6f2b94, 0xb40bbe37, 0xc30c8ea1, 0x5a05df1b, 0x2d02ef8d]

/-- `UPDC32`. -/
def updc32 (octet : Byte) (crc : Word) : Word :=
  crc32Tab.getD ((crc ^^^ octet.setWidth 32) &&& 0xff).toNat 0 ^^^ (crc >>> 8)

/-- `n` turns of the loop of `crc32pseudo`, with the seed it leaves. -/
def pseudoLoop : ℕ → Word → Word → Word × Word
  | 0, seed, oldcrc32 => (seed, oldcrc32)
  | n + 1, seed, oldcrc32 =>
    let (x, seed) := randBeebs seed
    pseudoLoop n seed (updc32 (x.setWidth 8) oldcrc32)

def crc32pseudo (seed : Word) : Word × Word :=
  let p := pseudoLoop 1024 seed 0xffffffff
  (~~~p.2, p.1)

/-- `benchmark_body`; the result is undefined if there is no turn. -/
def benchmarkLoop : ℕ → Word → Option Word → Option Word
  | 0, _, r => r
  | n + 1, _, _ =>
    let (r, seed) := crc32pseudo 0
    benchmarkLoop n seed (some r)

def benchmarkBody (rpt : ℕ) (seed : Word) : Option ℕ :=
  (benchmarkLoop rpt seed none).map (fun r => r.toNat % 32768)

def verifyBenchmark (r : ℕ) : Bool := r == 11433

/-- The polynomial that the comment on the table names, and that its entries are made of. -/
def polynomial : Word := 0xedb88320

theorem crc32Tab_shifts :
    crc32Tab = (List.range 256).map (fun n => (shift polynomial)^[8] (BitVec.ofNat 32 n)) := by
  decide +kernel

theorem crc32Tab_getD {x : Word} (hx : x.toNat < 256) :
    crc32Tab.getD x.toNat 0 = (shift polynomial)^[8] x := by
  rw [crc32Tab_shifts]
  simp [hx]

def bits (octet : Byte) : List Bool := (List.range 8).map octet.getLsbD

theorem bits_length (octet : Byte) : (bits octet).length = 8 := rfl

theorem ofBits_bits (octet : Byte) : (ofBits (bits octet) : Word) = octet.setWidth 32 := by
  apply BitVec.eq_of_getLsbD_eq
  intro i hi
  rw [getLsbD_ofBits _ hi, BitVec.getLsbD_setWidth]
  by_cases hlow : i < 8
  · simp [bits, hlow, hi]
  · simp [bits, hlow, BitVec.getLsbD_of_ge octet i (by omega)]

theorem mask_bit : ∀ i < 32, (0xff : Word).getLsbD i = decide (i < 8) := by decide

theorem low_high (x : Word) : (x &&& 0xff) ^^^ (x &&& ~~~0xff) = x := by
  apply BitVec.eq_of_getLsbD_eq
  intro i hi
  rw [BitVec.getLsbD_xor, BitVec.getLsbD_and, BitVec.getLsbD_and, BitVec.getLsbD_not]
  cases x.getLsbD i <;> cases (0xff : Word).getLsbD i <;> simp [hi]

theorem high_low (x : Word) : ∀ i < 8, (x &&& ~~~0xff).getLsbD i = false := by
  intro i hi
  rw [BitVec.getLsbD_and, BitVec.getLsbD_not, mask_bit i (by omega)]
  simp [hi]

theorem high_shift (octet : Byte) (crc : Word) :
    ((crc ^^^ octet.setWidth 32) &&& ~~~0xff) >>> 8 = crc >>> 8 := by
  apply BitVec.eq_of_getLsbD_eq
  intro i hi
  rw [BitVec.getLsbD_ushiftRight, BitVec.getLsbD_ushiftRight, BitVec.getLsbD_and,
    BitVec.getLsbD_not, BitVec.getLsbD_xor, BitVec.getLsbD_setWidth,
    BitVec.getLsbD_of_ge octet (8 + i) (by omega)]
  by_cases hin : 8 + i < 32
  · rw [mask_bit (8 + i) hin]
    simp [hin]
  · rw [BitVec.getLsbD_of_ge crc (8 + i) (by omega)]
    simp

theorem updc32_eq_run (octet : Byte) (crc : Word) :
    updc32 octet crc = run polynomial crc (bits octet) := by
  have hindex : ((crc ^^^ octet.setWidth 32) &&& 0xff).toNat < 256 := by
    rw [BitVec.toNat_and]
    exact Nat.lt_succ_of_le Nat.and_le_right
  calc
    updc32 octet crc = (shift polynomial)^[8] ((crc ^^^ octet.setWidth 32) &&& 0xff) ^^^
        (shift polynomial)^[8] ((crc ^^^ octet.setWidth 32) &&& ~~~0xff) := by
      rw [updc32, crc32Tab_getD hindex, shifts_high _ _ (high_low _), high_shift]
    _ = (shift polynomial)^[8] (crc ^^^ octet.setWidth 32) := by
      rw [← shifts_linear, low_high]
    _ = run polynomial crc (bits octet) := by
      rw [run_eq_shifts _ _ _ (by rw [bits_length]; decide), ofBits_bits, bits_length]

def update (crc : Word) (message : List Byte) : Word := message.foldl (fun c b => updc32 b c) crc

def messageBits (message : List Byte) : List Bool := message.flatMap bits

theorem update_cons (crc : Word) (b : Byte) (message : List Byte) :
    update crc (b :: message) = update (updc32 b crc) message := rfl

theorem update_eq_run (crc : Word) (message : List Byte) :
    update crc message = run polynomial crc (messageBits message) := by
  induction message generalizing crc with
  | nil => rfl
  | cons b message ih =>
    rw [update_cons, ih, updc32_eq_run, ← run_append]
    rfl

def randBytes : ℕ → Word → List Byte
  | 0, _ => []
  | n + 1, seed => (randBeebs seed).1.setWidth 8 :: randBytes n (nextSeed seed)

theorem pseudoLoop_succ (n : ℕ) (seed crc : Word) : pseudoLoop (n+1) seed crc =
    pseudoLoop n (nextSeed seed) (updc32 ((randBeebs seed).1.setWidth 8) crc) := rfl

theorem pseudoLoop_eq (n : ℕ) (seed crc : Word) :
    pseudoLoop n seed crc = (nextSeed^[n] seed, update crc (randBytes n seed)) := by
  induction n generalizing seed crc with
  | zero => rfl
  | succ n ih => rw [pseudoLoop_succ, ih, randBytes, update_cons, Function.iterate_succ_apply]

def checksum (message : List Byte) : Word := ~~~update 0xffffffff message

example : checksum [0x31, 0x32, 0x33, 0x34, 0x35, 0x36, 0x37, 0x38, 0x39] = 0xcbf43926 := by
  decide +kernel

theorem crc32pseudo_eq (seed : Word) :
    crc32pseudo seed = (checksum (randBytes 1024 seed), nextSeed^[1024] seed) := by
  simp only [crc32pseudo, pseudoLoop_eq, checksum]

/-- What the checksum is for, bit by bit. -/
structure Checks : Prop where
  serial : ∀ message, checksum message = ~~~run polynomial 0xffffffff (messageBits message)
  burst : ∀ (message message' : List Byte) (before after u v : List Bool),
    messageBits message = before ++ u ++ after → messageBits message' = before ++ v ++ after →
    u.length = v.length → u.length ≤ 32 → u ≠ v → checksum message ≠ checksum message'
  pseudo : ∀ seed, (crc32pseudo seed).1 = checksum (randBytes 1024 seed)

/-- The table-driven checksum is the bit-serial one, and sees every burst of up to 32 bits. -/
theorem table_checks : Checks where
  serial message := congrArg _ (update_eq_run _ message)
  burst message message' before after u v hm hm' hlength hburst hne heq := by
    have hpoly : polynomial.msb = true := by decide
    have hrun : run polynomial 0xffffffff (before ++ u ++ after) =
        run polynomial 0xffffffff (before ++ v ++ after) := by
      rw [← hm, ← hm', ← update_eq_run, ← update_eq_run]
      exact BitVec.not_inj.1 heq
    exact burst_detected hpoly _ hlength hburst hne hrun
  pseudo seed := congrArg Prod.fst (crc32pseudo_eq seed)

theorem pseudoLoop_add (m n : ℕ) (seed crc : Word) : pseudoLoop (m + n) seed crc =
    pseudoLoop n (pseudoLoop m seed crc).1 (pseudoLoop m seed crc).2 := by
  induction m generalizing seed crc with
  | zero => rw [Nat.zero_add, pseudoLoop]
  | succ m ih => rw [Nat.succ_add_eq_add_succ, Nat.add_succ, pseudoLoop_succ, ih, pseudoLoop_succ]

theorem halves : pseudoLoop 512 0 0xffffffff = (0x1f9a6600, 0x63ae85f3) ∧
    pseudoLoop 512 0x1f9a6600 0x63ae85f3 = (0x5e4cc00, 0x9a7bd356) := by
  decide +kernel

/-- Every number of turns gives the expected result, whatever the seed was before. -/
theorem benchmark_verified (rpt : ℕ) (hrpt : 0 < rpt) (seed : Word) :
    (benchmarkBody rpt seed).map verifyBenchmark = some true := by
  have hturn : (crc32pseudo 0).1 = ~~~0x9a7bd356 := by
    simp only [crc32pseudo, pseudoLoop_add 512 512, halves.1, halves.2]
  have hloop (n : ℕ) (seed : Word) :
      benchmarkLoop n seed (some (crc32pseudo 0).1) = some (crc32pseudo 0).1 := by
    induction n generalizing seed with
    | zero => rfl
    | succ n ih => exact ih _
  obtain ⟨n, rfl⟩ : ∃ n, rpt = n + 1 := ⟨rpt - 1, by omega⟩
  have hresult : benchmarkLoop (n+1) seed none = some (crc32pseudo 0).1 := hloop n _
  unfold benchmarkBody
  rw [hresult, hturn]
  rfl

end IbexAxi4l.Crc32
