import IbexAxi4l.NettleAesKeys

set_option autoImplicit false

/-!
# What the callers of the AES code rely on

For every key of an accepted size and every buffer of whole blocks.
-/
namespace IbexAxi4l.NettleAes
open Rijndael RoundCipher

/-- The destination gets the cipher of the source, block by block, and nothing else changes. -/
structure Enciphers (cipher : Block → Block) (length dst src : ℕ) (m m' : Mem) : Prop where
  block : ∀ i < length / 16,
    (readWords m' (dst + 16 * i)).block = cipher (readWords m (src + 16 * i)).block
  frame : ∀ x, x < dst ∨ dst + length ≤ x → m' x = m x

def Computes (cipher : Block → Block) (call : ℕ → ℕ → ℕ → Mem → Option Mem) : Prop :=
  ∀ length dst src m, length % 16 = 0 → NoClobber dst src length →
    ∃ m', call length dst src m = some m' ∧ Enciphers cipher length dst src m m'

theorem crypt_computes {T : AesTable} {sub : Gf256 → Gf256} {v : Fin 4 → Gf256}
    (hT : T.Serves sub v) {round : RoundMacro → (ℕ → Word) → Words → Words}
    {turn : Fin 4 → Fin 4} (hround : Turns round turn) (keys : ℕ → Word) {rounds : ℕ}
    (hrounds : 0 < rounds) :
    Computes ((Layers.mk sub turn (Matrix.circulant v)).cipher
      (fun i => keyBlock (subkey keys i)) rounds) (crypt round T keys rounds) := by
  intro length dst src m hlength hclobber
  have hwhole : 16 * (length / 16) = length := by omega
  rw [← hwhole] at hclobber
  have hmaps := forBlocks_maps (cryptBlock round T keys rounds) (length / 16) hclobber m
  refine ⟨_, if_pos hlength, ?_, ?_⟩
  · intro i hi
    rw [hmaps.block i hi]
    exact block_cryptBlock hT hround keys hrounds _
  · intro x hx
    exact hmaps.frame x (by omega)

theorem keySize_cases (keysize : ℕ) :
    keySize keysize = (8, 14) ∨ keySize keysize = (6, 12) ∨ keySize keysize = (4, 10) := by
  unfold keySize
  split_ifs
  · exact .inl rfl
  · exact .inr (.inl rfl)
  · exact .inr (.inr rfl)

structure Schedules (ctx c : AesCtx) (nk nr : ℕ) (key : Mem) : Prop where
  rounds : c.rounds = nr
  fits : 4 * (nr + 1) ≤ 60
  keys : ∀ x < 4 * (nr + 1), column (c.keys x) = schedule nk (keyColumn key) x
  rest : ∀ x ≥ 4 * (nr + 1), c.keys x = ctx.keys x

theorem set_encrypt_key (ctx : AesCtx) {keysize : ℕ} (hsize : 16 ≤ keysize ∧ keysize ≤ 32)
    (key : Mem) : ∃ c, aesSetEncryptKey ctx keysize key = some c ∧
      Schedules ctx c (keySize keysize).1 (keySize keysize).2 key := by
  unfold aesSetEncryptKey
  rw [if_pos hsize]
  have hcase (nk nr : ℕ) (hnk : 0 < nk) (hfits : 4 * (nr + 1) ≤ 60) (hlast : nk ≤ 4 * (nr + 1))
      (hbound : (4 * (nr + 1) - 1) / nk ≤ 10) :
      ∃ c, (aesSetKey nr nk ctx.keys key).map (AesCtx.mk nr) = some c ∧
        Schedules ctx c nk nr key := by
    obtain ⟨keys, hkeys, hdone, hrest⟩ := aesSetKey_schedule hnk hlast hbound ctx.keys key
    exact ⟨⟨nr, keys⟩, by rw [hkeys]; rfl, rfl, hfits, hdone, hrest⟩
  rcases keySize_cases keysize with h | h | h <;> rw [h]
  · exact hcase 8 14 (by decide) (by decide) (by decide) (by decide)
  · exact hcase 6 12 (by decide) (by decide) (by decide) (by decide)
  · exact hcase 4 10 (by decide) (by decide) (by decide) (by decide)

theorem Schedules.roundKey {ctx c : AesCtx} {nk nr : ℕ} {key : Mem}
    (h : Schedules ctx c nk nr key) {i : ℕ} (hi : i ≤ nr) :
    keyBlock (subkey c.keys i) = roundKey nk (keyColumn key) i := by
  funext r x
  have hx := x.isLt
  exact congrFun (h.keys (4 * i + x) (by omega)) r

variable {ctx c : AesCtx} {nk nr : ℕ} {key : Mem}

theorem encrypt_computes (h : Schedules ctx c nk nr key) (hnr : 0 < nr) :
    Computes (encrypt nk nr (keyColumn key)) (aesEncrypt c) := by
  have hrounds : 0 < c.rounds := h.rounds ▸ hnr
  have hcrypt := crypt_computes aesEncryptTable_serves encryptRound_turns c.keys hrounds
  have hsame : encryption.cipher (fun i => keyBlock (subkey c.keys i)) c.rounds =
      encrypt nk nr (keyColumn key) := by
    funext s
    rw [h.rounds]
    exact Layers.cipher_congr _ (fun i hi => h.roundKey hi) s
  rw [← hsame]
  exact hcrypt

theorem decrypt_computes (h : Schedules ctx c nk nr key) (hnr : 0 < nr) :
    Computes (decrypt nk nr (keyColumn key)) (aesDecrypt (aesInvertKey c none)) := by
  have hrounds : 0 < c.rounds := h.rounds ▸ hnr
  have hcrypt := crypt_computes aesDecryptTable_serves decryptRound_turns
    (nettleAesInvert c.rounds c.keys none) hrounds
  have hsame : decryption.cipher
      (fun i => keyBlock (subkey (nettleAesInvert c.rounds c.keys none) i)) c.rounds =
      decrypt nk nr (keyColumn key) := by
    funext s
    rw [h.rounds]
    refine Layers.cipher_congr _ (fun i hi => ?_) s
    rw [keyBlock_invert nr c.keys i hi]
    unfold Layers.turnKeys
    simp only [h.roundKey (Nat.sub_le nr i)]
  rw [← hsame]
  exact hcrypt

theorem bytes_of_words {m m' : Mem} {p q : ℕ} (h : readWords m p = readWords m' q) :
    ∀ b < 16, m (p + b) = m' (q + b) := by
  have hword {m m' : Mem} {p q : ℕ} (h : leReadUint32 m p = leReadUint32 m' q) :
      ∀ b < 4, m (p + b) = m' (q + b) := by
    intro b hb
    have hbyte := congrArg (fun w => ByteLanes.byte w b) h
    simp only [leReadUint32_eq] at hbyte
    exact ((byte_four _ ⟨b, hb⟩).symm.trans hbyte).trans (byte_four _ ⟨b, hb⟩)
  have hread := Words.mk.inj h
  intro b hb
  by_cases h0 : b < 4
  · exact hword hread.1 b h0
  · by_cases h1 : b < 8
    · have hb := hword hread.2.1 (b - 4) (by omega)
      rwa [Nat.add_assoc, Nat.add_assoc, Nat.add_sub_cancel' (by omega)] at hb
    · by_cases h2 : b < 12
      · have hb := hword hread.2.2.1 (b - 8) (by omega)
        rwa [Nat.add_assoc, Nat.add_assoc, Nat.add_sub_cancel' (by omega)] at hb
      · have hb := hword hread.2.2.2 (b - 12) (by omega)
        rwa [Nat.add_assoc, Nat.add_assoc, Nat.add_sub_cancel' (by omega)] at hb

def UndoneBy (call back : ℕ → ℕ → ℕ → Mem → Option Mem) : Prop :=
  ∀ length src mid dst m, length % 16 = 0 → NoClobber mid src length → NoClobber dst mid length →
    ∃ m₁ m₂, call length mid src m = some m₁ ∧ back length dst mid m₁ = some m₂ ∧
      ∀ i < length, m₂ (dst + i) = m (src + i)

theorem Computes.undone {f g : Block → Block} {call back : ℕ → ℕ → ℕ → Mem → Option Mem}
    (hcall : Computes f call) (hback : Computes g back) (h : ∀ s, g (f s) = s) :
    UndoneBy call back := by
  intro length src mid dst m hlength hmid hdst
  obtain ⟨m₁, hm₁, he₁⟩ := hcall length mid src m hlength hmid
  obtain ⟨m₂, hm₂, he₂⟩ := hback length dst mid m₁ hlength hdst
  refine ⟨m₁, m₂, hm₁, hm₂, fun i hi => ?_⟩
  have hblock : i / 16 < length / 16 := by omega
  have hwords : readWords m₂ (dst + 16 * (i / 16)) = readWords m (src + 16 * (i / 16)) := by
    apply Words.block_injective
    rw [he₂.block _ hblock, he₁.block _ hblock, h]
  have hbyte := bytes_of_words hwords (i % 16) (Nat.mod_lt i (by decide))
  rwa [Nat.add_assoc, Nat.add_assoc, Nat.div_add_mod] at hbyte

theorem keySize_rounds (keysize : ℕ) : 0 < (keySize keysize).2 := by
  rcases keySize_cases keysize with h | h | h <;> rw [h] <;> decide

theorem set_decrypt_key (ctx : AesCtx) {keysize : ℕ} (hsize : 16 ≤ keysize ∧ keysize ≤ 32)
    (key : Mem) : ∃ c, aesSetDecryptKey ctx keysize key = some (aesInvertKey c none) ∧
      Schedules ctx c (keySize keysize).1 (keySize keysize).2 key := by
  obtain ⟨c, hc, hschedule⟩ := set_encrypt_key ctx hsize key
  refine ⟨c, ?_, hschedule⟩
  unfold aesSetDecryptKey
  rw [hc]
  rfl

/-- `aes_set_encrypt_key` accepts exactly the key sizes from 16 to 32 bytes, and makes the
words of the schedule without leaving its arrays. -/
theorem set_encrypt_key_schedules (ctx : AesCtx) (keysize : ℕ) (key : Mem) :
    if 16 ≤ keysize ∧ keysize ≤ 32 then
      ∃ c, aesSetEncryptKey ctx keysize key = some c ∧
        Schedules ctx c (keySize keysize).1 (keySize keysize).2 key
    else aesSetEncryptKey ctx keysize key = none := by
  by_cases hsize : 16 ≤ keysize ∧ keysize ≤ 32
  · rw [if_pos hsize]
    exact set_encrypt_key ctx hsize key
  · rw [if_neg hsize]
    exact if_neg hsize

/-- With the keys that the two functions set, the tables compute the cipher and its inverse. -/
theorem tables_compute_cipher (ctx : AesCtx) (keysize : ℕ) (hsize : 16 ≤ keysize ∧ keysize ≤ 32)
    (key : Mem) :
    (∃ c, aesSetEncryptKey ctx keysize key = some c ∧ Computes
      (encrypt (keySize keysize).1 (keySize keysize).2 (keyColumn key)) (aesEncrypt c)) ∧
    ∃ c, aesSetDecryptKey ctx keysize key = some c ∧ Computes
      (decrypt (keySize keysize).1 (keySize keysize).2 (keyColumn key)) (aesDecrypt c) := by
  obtain ⟨e, he, hencrypt⟩ := set_encrypt_key ctx hsize key
  obtain ⟨d, hd, hdecrypt⟩ := set_decrypt_key ctx hsize key
  exact ⟨⟨e, he, encrypt_computes hencrypt (keySize_rounds keysize)⟩,
    ⟨_, hd, decrypt_computes hdecrypt (keySize_rounds keysize)⟩⟩

theorem tables_compute_cipher_192 :
    (∃ c, aesSetEncryptKey ⟨0, fun _ => 0⟩ 24 (fun _ => 0) = some c ∧
      Computes (encrypt 6 12 (keyColumn fun _ => 0)) (aesEncrypt c)) ∧
    ∃ c, aesSetDecryptKey ⟨0, fun _ => 0⟩ 24 (fun _ => 0) = some c ∧
      Computes (decrypt 6 12 (keyColumn fun _ => 0)) (aesDecrypt c) :=
  tables_compute_cipher ⟨0, fun _ => 0⟩ 24 (by decide) (fun _ => 0)

/-- The key, the first block and the expected result of the benchmark. -/
example :
    let key : List Byte := [
      0xc9, 0x95, 0x55, 0x31, 0xa6, 0x50, 0xd1, 0x54, 0x7b, 0xd8, 0xc5, 0xaa, 0xa4, 0xa4, 0xbd, 0xac,
      0x5c, 0xea, 0x12, 0xc7, 0xf8, 0x83, 0xd6, 0xb8, 0x5d, 0xd6, 0xcf, 0x2d, 0x60, 0xc8, 0xa5, 0xf0]
    (aesSetEncryptKey ⟨0, fun _ => 0⟩ 32 (fun i => key.getD i 0)).map (fun c =>
      cryptBlock encryptRound aesEncryptTable c.keys c.rounds
        ⟨0x8cb37fd7, 0x6fc42522, 0x18c9d5b9, 0x08d092c0⟩) =
      some ⟨0x1000170f, 0xf97f8207, 0x0e15da45, 0x228f9454⟩ := by
  decide +kernel

/-- Encryption and decryption under the same key undo each other on every buffer of whole
blocks, also in place. -/
theorem decryption_undoes_encryption (ctx ctx' : AesCtx) (keysize : ℕ)
    (hsize : 16 ≤ keysize ∧ keysize ≤ 32) (key : Mem) :
    ∃ e d, aesSetEncryptKey ctx keysize key = some e ∧ aesSetDecryptKey ctx' keysize key = some d ∧
      UndoneBy (aesEncrypt e) (aesDecrypt d) ∧ UndoneBy (aesDecrypt d) (aesEncrypt e) := by
  obtain ⟨e, he, hencrypt⟩ := set_encrypt_key ctx hsize key
  obtain ⟨d, hd, hdecrypt⟩ := set_decrypt_key ctx' hsize key
  have hnr := keySize_rounds keysize
  have henc := encrypt_computes hencrypt hnr
  have hdec := decrypt_computes hdecrypt hnr
  exact ⟨e, _, he, hd, henc.undone hdec (decrypt_encrypt _ hnr _),
    hdec.undone henc (encrypt_decrypt _ hnr _)⟩

theorem decryption_undoes_encryption_256 : ∃ e d,
    aesSetEncryptKey ⟨0, fun _ => 0⟩ 32 (fun i => BitVec.ofNat 8 i) = some e ∧
      aesSetDecryptKey ⟨1, fun _ => 1⟩ 32 (fun i => BitVec.ofNat 8 i) = some d ∧
      UndoneBy (aesEncrypt e) (aesDecrypt d) ∧ UndoneBy (aesDecrypt d) (aesEncrypt e) :=
  decryption_undoes_encryption ⟨0, fun _ => 0⟩ ⟨1, fun _ => 1⟩ 32 (by decide)
    (fun i => BitVec.ofNat 8 i)

/-- The inversion in place makes the same subkeys as the one into another array, the turned
round keys. -/
theorem inversion_turns_keys (rounds : ℕ) (keys dst : ℕ → Word) :
    (∀ x < 4 * (rounds + 1),
      nettleAesInvert rounds keys none x = nettleAesInvert rounds dst (some keys) x) ∧
    (∀ x ≥ 4 * (rounds + 1), nettleAesInvert rounds keys none x = keys x ∧
      nettleAesInvert rounds dst (some keys) x = dst x) ∧
    ∀ i ≤ rounds, keyBlock (subkey (nettleAesInvert rounds keys none) i) =
      decryption.turnKeys (fun i => keyBlock (subkey keys i)) rounds i := by
  refine ⟨?_, ?_, keyBlock_invert rounds keys⟩
  · intro x hx
    unfold nettleAesInvert
    simp only [mixKeys_apply, swapGroups_all, copyGroups_mirror, if_pos hx]
  · intro x hx
    have hout : ¬ x < 4 * (rounds + 1) := by omega
    have hmid : ¬ (4 ≤ x ∧ x < 4 * rounds) := by omega
    unfold nettleAesInvert
    simp only [mixKeys_apply, swapGroups_all, copyGroups_mirror, if_neg hout, if_neg hmid, and_self]

end IbexAxi4l.NettleAes
