import IbexAxi4l.NettleAesCipher

set_option autoImplicit false

/-!
# The subkeys of the AES code

The two loops of `_aes_set_key` compute the schedule of the round keys and stay inside
`rcon` for every key size, and the inversion turns the round keys, in place as well as into
another array.
-/
namespace IbexAxi4l.NettleAes
open Matrix ByteLanes Gf256 Rijndael RoundCipher

theorem foldl_update {α : Type} (f : ℕ → α → α) (b n : ℕ) (d : ℕ → α) (x : ℕ) :
    (List.range n).foldl (fun d k => Function.update d (b + k) (f k (d (b + k)))) d x =
      if b ≤ x ∧ x < b + n then f (x - b) (d x) else d x := by
  induction n generalizing x with
  | zero => exact (if_neg (by omega)).symm
  | succ n ih =>
    rw [List.range_succ, List.foldl_append]
    simp only [List.foldl_cons, List.foldl_nil, Function.update_apply]
    by_cases hx : x = b + n
    · rw [if_pos hx, hx, ih, if_neg (by omega), if_pos (by omega), Nat.add_sub_cancel_left]
    · rw [if_neg hx, ih]
      by_cases hin : b ≤ x ∧ x < b + n
      · rw [if_pos hin, if_pos (by omega)]
      · rw [if_neg hin, if_neg (by omega)]

def keyColumn (key : Mem) (i : ℕ) : Column := column (leReadUint32 key (4 * i))

theorem rcon_powers : ∀ k < 10, rcon[k]? = some ((⟨0x02⟩ : Gf256) ^ k).byte := by decide +kernel

theorem column_subbyte (t : Word) : column (subbyte t sbox) = fun r => substitute (column t r) := by
  funext r
  refine Gf256.ext ?_
  change byte (four (fun b => sbox.getD (byte t b).toNat 0)) r = _
  rw [byte_four, sbox_substitute]
  rfl

theorem column_rotl32 (t : Word) (r : Fin 4) : column (rotl32 24 t) r = column t (r+1) := by
  have hbyte := byte_rotl32 t 3 r
  have hr : r - 3 = r + 1 := by fin_cases r <;> rfl
  rw [hr] at hbyte
  exact Gf256.ext hbyte

theorem column_rcon (b : Byte) : column (b.setWidth 32) = Pi.single 0 ⟨b⟩ := by
  funext r
  have hbyte := byte_setWidth b 0 r (by decide) r.isLt
  rw [Nat.mul_zero, BitVec.shiftLeft_zero] at hbyte
  refine Gf256.ext (hbyte.trans ?_)
  fin_cases r <;> rfl

theorem div_step {nk i : ℕ} (hi : 0 < i) :
    i / nk = (i - 1) / nk + if i % nk = 0 then 1 else 0 := by
  have hdiv := Nat.succ_div (a := i - 1) (b := nk)
  rw [Nat.sub_add_cancel hi] at hdiv
  simpa only [Nat.dvd_iff_mod_eq_zero] using hdiv

/-- The word that the loop adds, while `rp` is in step with the index. -/
theorem expandWord_core {nk i : ℕ} (hnk : 0 < nk) (hi : nk ≤ i) (hbound : i / nk ≤ 10) (t : Word) :
    ∃ u, expandWord nk i ((i - 1) / nk) t = some (u, i / nk) ∧
      column u = core nk i (column t) := by
  have hstep : i / nk = (i - 1) / nk + if i % nk = 0 then 1 else 0 := div_step (by omega)
  unfold expandWord core
  by_cases hmul : i % nk = 0
  · rw [if_pos hmul] at hstep
    have hpow := rcon_powers ((i - 1) / nk) (Nat.lt_of_succ_le (hstep.symm.trans_le hbound))
    have hexp : i / nk - 1 = (i - 1) / nk := Nat.sub_eq_of_eq_add hstep
    rw [if_pos hmul, if_pos hmul, hpow, hexp, hstep]
    refine ⟨_, rfl, ?_⟩
    have hrot : column (rotl32 24 t) = fun r => column t (r+1) := funext (column_rotl32 t)
    rw [column_xor, column_subbyte, column_rcon, hrot]
  · rw [if_neg hmul, Nat.add_zero] at hstep
    rw [if_neg hmul, if_neg hmul, hstep]
    by_cases hmid : nk > 6 ∧ i % nk = 4
    · rw [if_pos hmid, if_pos hmid]
      exact ⟨_, rfl, column_subbyte t⟩
    · rw [if_neg hmid, if_neg hmid]
      exact ⟨_, rfl, rfl⟩

/-- The subkeys below `i` are done. -/
structure Expanded (nk : ℕ) (key : Mem) (old : ℕ → Word) (i : ℕ) (s : Expand) : Prop where
  rp : s.rp = (i - 1) / nk
  done : ∀ x < i, column (s.subkeys x) = schedule nk (keyColumn key) x
  rest : ∀ x ≥ i, s.subkeys x = old x

theorem Expanded.step {nk i : ℕ} {key : Mem} {old : ℕ → Word} {s : Expand}
    (h : Expanded nk key old i s) (hnk : 0 < nk) (hi : nk ≤ i) (hbound : i / nk ≤ 10) :
    ∃ s', expandStep nk s i = some s' ∧ Expanded nk key old (i+1) s' := by
  obtain ⟨u, hu, hcore⟩ := expandWord_core hnk hi hbound (s.subkeys (i-1))
  rw [← h.rp] at hu
  unfold expandStep
  rw [hu]
  refine ⟨_, rfl, rfl, ?_, ?_⟩
  · intro x hx
    change column (Function.update s.subkeys i _ x) = _
    rw [Function.update_apply]
    by_cases hxi : x = i
    · have hrec : schedule nk (keyColumn key) i = schedule nk (keyColumn key) (i - nk) +
          core nk i (schedule nk (keyColumn key) (i - 1)) := by
        rw [schedule, dif_pos ⟨hnk, hi⟩]
      rw [if_pos hxi, hxi, hrec, column_xor, hcore, h.done (i - nk) (by omega),
        h.done (i - 1) (by omega)]
    · rw [if_neg hxi]
      exact h.done x (by omega)
  · intro x hx
    change Function.update s.subkeys i _ x = _
    rw [Function.update_of_ne (by omega)]
    exact h.rest x (by omega)

theorem Expanded.run {nk : ℕ} {key : Mem} {old : ℕ → Word} (hnk : 0 < nk) {s : Expand}
    (h : Expanded nk key old nk s) (n : ℕ) (hbound : (nk + n - 1) / nk ≤ 10) :
    ∃ s', (List.range' nk n).foldlM (expandStep nk) s = some s' ∧
      Expanded nk key old (nk + n) s' := by
  induction n with
  | zero => exact ⟨s, rfl, h⟩
  | succ n ih =>
    have hsmall : (nk + n - 1) / nk ≤ (nk + (n+1) - 1) / nk := Nat.div_le_div_right (by omega)
    obtain ⟨s', hs', hdone⟩ := ih (by omega)
    obtain ⟨s'', hs'', hdone'⟩ := hdone.step hnk (Nat.le_add_right nk n) (by simpa using hbound)
    refine ⟨s'', ?_, hdone'⟩
    rw [List.range'_1_concat, List.foldlM_append, hs']
    simpa using hs''

/-- `_aes_set_key` never leaves `rcon`, and writes only the words of the schedule. -/
theorem aesSetKey_schedule {nr nk : ℕ} (hnk : 0 < nk) (hlast : nk ≤ 4 * (nr + 1))
    (hbound : (4 * (nr + 1) - 1) / nk ≤ 10) (old : ℕ → Word) (key : Mem) :
    ∃ keys, aesSetKey nr nk old key = some keys ∧
      (∀ x < 4 * (nr + 1), column (keys x) = schedule nk (keyColumn key) x) ∧
      ∀ x ≥ 4 * (nr + 1), keys x = old x := by
  have hloaded (x : ℕ) : (List.range nk).foldl
      (fun s i => Function.update s i (leReadUint32 key (4 * i))) old x =
      if x < nk then leReadUint32 key (4 * x) else old x := by
    have hload := foldl_update (fun k _ => leReadUint32 key (4 * k)) 0 nk old x
    simpa using hload
  have hstart : Expanded nk key old nk ⟨(List.range nk).foldl
      (fun s i => Function.update s i (leReadUint32 key (4 * i))) old, 0⟩ := by
    refine ⟨(Nat.div_eq_of_lt (by omega)).symm, ?_, ?_⟩
    · intro x hx
      change column ((List.range nk).foldl _ old x) = _
      rw [hloaded, if_pos hx, schedule, dif_neg (by omega)]
      rfl
    · intro x hx
      exact (hloaded x).trans (if_neg (by omega))
  have hall : nk + (4 * (nr + 1) - nk) = 4 * (nr + 1) := by omega
  obtain ⟨s, hs, hdone⟩ := hstart.run hnk (4 * (nr + 1) - nk) (by rw [hall]; exact hbound)
  rw [hall] at hdone
  refine ⟨s.subkeys, ?_, hdone.done, hdone.rest⟩
  unfold aesSetKey
  rw [if_neg (by omega)]
  simp only [hs, Option.map_some]

def mirror (rounds x : ℕ) : ℕ := 4 * (rounds - x / 4) + x % 4

theorem swapWords (a b n : ℕ) (hn : n ≤ 4) (d : ℕ → Word) (x : ℕ) :
    (List.range n).foldl (fun d k => swap d (4 * a + k) (4 * b + k)) d x =
      if x / 4 = a ∧ x % 4 < n then d (4 * b + x % 4)
      else if x / 4 = b ∧ x % 4 < n then d (4 * a + x % 4) else d x := by
  induction n generalizing x with
  | zero => rw [if_neg (by omega), if_neg (by omega)]; rfl
  | succ n ih =>
    have hswapped := ih (by omega)
    rw [List.range_succ, List.foldl_append]
    simp only [List.foldl_cons, List.foldl_nil, swap, hswapped]
    by_cases hxa : x = 4 * a + n
    · rw [if_pos hxa, if_neg (by omega), if_neg (by omega), if_pos (by omega)]
      congr 1
      omega
    · rw [if_neg hxa]
      by_cases hxb : x = 4 * b + n
      · rw [if_pos hxb, if_neg (by omega), if_neg (by omega), if_neg (by omega),
          if_pos (by omega)]
        congr 1
        omega
      · rw [if_neg hxb]
        by_cases hina : x / 4 = a ∧ x % 4 < n
        · rw [if_pos hina, if_pos (by omega)]
        · rw [if_neg hina, if_neg (show ¬ (x / 4 = a ∧ x % 4 < n + 1) by omega)]
          by_cases hinb : x / 4 = b ∧ x % 4 < n
          · rw [if_pos hinb, if_pos (by omega)]
          · rw [if_neg hinb, if_neg (by omega)]

theorem swapGroups_mirror (a b : ℕ) (d : ℕ → Word) (x : ℕ) :
    swapGroups (4 * a) (4 * b) d x =
      if a ≤ x / 4 ∧ x / 4 ≤ b then d (4 * (a + b - x / 4) + x % 4) else d x := by
  induction hm : b - a using Nat.strong_induction_on generalizing a b d with
  | _ m ih =>
    rw [swapGroups]
    by_cases hab : a < b
    · have hnext := ih (b - 1 - (a + 1)) (by omega) (a+1) (b-1)
        ((List.range 4).foldl (fun d k => swap d (4 * a + k) (4 * b + k)) d) rfl
      rw [if_pos (by omega), show 4 * a + 4 = 4 * (a+1) by omega,
        show 4 * b - 4 = 4 * (b-1) by omega, hnext]
      simp only [swapWords a b 4 (Nat.le_refl 4)]
      by_cases hin : a ≤ x / 4 ∧ x / 4 ≤ b
      · rw [if_pos hin]
        by_cases hinner : a + 1 ≤ x / 4 ∧ x / 4 ≤ b - 1
        · rw [if_pos hinner, if_neg (by omega), if_neg (by omega)]
          congr 1
          omega
        · rw [if_neg hinner]
          by_cases hxa : x / 4 = a
          · rw [if_pos (by omega)]
            congr 1
            omega
          · rw [if_neg (by omega), if_pos (by omega)]
            congr 1
            omega
      · rw [if_neg hin, if_neg (by omega), if_neg (by omega), if_neg (by omega)]
    · rw [if_neg (by omega)]
      by_cases hin : a ≤ x / 4 ∧ x / 4 ≤ b
      · rw [if_pos hin]
        congr 1
        omega
      · rw [if_neg hin]

theorem copyGroups_mirror (rounds : ℕ) (dst src : ℕ → Word) (x : ℕ) :
    copyGroups rounds dst src x = if x < 4 * (rounds + 1) then src (mirror rounds x) else dst x := by
  have hgroups : ∀ n ≤ rounds + 1, ∀ x, (List.range n).foldl (fun d g => (List.range 4).foldl
      (fun d k => Function.update d (4 * g + k) (src (rounds * 4 - 4 * g + k))) d) dst x =
      if x < 4 * n then src (mirror rounds x) else dst x := by
    intro n
    induction n with
    | zero => exact fun _ x => (if_neg (by omega)).symm
    | succ n ih =>
      intro hn x
      rw [List.range_succ (n := n), List.foldl_append]
      have hgroup := foldl_update (fun k _ => src (rounds * 4 - 4 * n + k)) (4 * n) 4
      simp only [List.foldl_cons, List.foldl_nil, hgroup]
      by_cases hin : 4 * n ≤ x ∧ x < 4 * n + 4
      · rw [if_pos hin, if_pos (by omega), mirror]
        congr 1
        omega
      · rw [if_neg hin, ih (by omega)]
        by_cases hlow : x < 4 * n
        · rw [if_pos hlow, if_pos (by omega)]
        · rw [if_neg hlow, if_neg (by omega)]
  exact hgroups (rounds + 1) (Nat.le_refl _) x

theorem mixKeys_apply (rounds : ℕ) (d : ℕ → Word) (x : ℕ) : mixKeys rounds d x =
    if 4 ≤ x ∧ x < 4 * rounds then mixColumn mtable (d x) else d x := by
  have hmix := foldl_update (fun _ w => mixColumn mtable w) 4 (4 * rounds - 4) d x
  unfold mixKeys
  rw [List.range'_eq_map_range, List.foldl_map, hmix]
  by_cases hin : 4 ≤ x ∧ x < 4 * rounds
  · rw [if_pos hin, if_pos (by omega)]
  · rw [if_neg hin, if_neg (by omega)]

theorem swapGroups_all (rounds : ℕ) (d : ℕ → Word) (x : ℕ) : swapGroups 0 (rounds * 4) d x =
    if x < 4 * (rounds + 1) then d (mirror rounds x) else d x := by
  have hswap := swapGroups_mirror 0 rounds d x
  rw [Nat.mul_zero, Nat.mul_comm 4 rounds, Nat.zero_add] at hswap
  rw [hswap]
  by_cases hin : x < 4 * (rounds + 1)
  · rw [if_pos hin, if_pos (by omega)]
    rfl
  · rw [if_neg hin, if_neg (by omega)]

theorem nettleAesInvert_apply (rounds : ℕ) (dst : ℕ → Word) (x : ℕ)
    (hx : x < 4 * (rounds + 1)) : nettleAesInvert rounds dst none x =
      if 4 ≤ x ∧ x < 4 * rounds then mixColumn mtable (dst (mirror rounds x))
      else dst (mirror rounds x) := by
  unfold nettleAesInvert
  simp only [mixKeys_apply, swapGroups_all, if_pos hx]

theorem column_mixColumn (w : Word) :
    column (mixColumn mtable w) = fun r => ∑ j, circulant unmixing r j * column w j := by
  have hentry (j r : Fin 4) : (⟨byte (rotl32 (8 * j) (mtable.getD (byte w j).toNat 0)) r⟩ : Gf256) =
      circulant unmixing r j * column w j := by
    refine Gf256.ext ?_
    change byte _ r = _
    rw [byte_rotl32, mtable_getD, byte_four]
    exact (times_unmixing _ (r - j)).symm
  have hzero : rotl32 0 (mtable.getD (byte w 0).toNat 0) = mtable.getD (byte w 0).toNat 0 := by
    simp [rotl32]
  funext r
  rw [Fin.sum_univ_four, ← hentry 0, ← hentry 1, ← hentry 2, ← hentry 3]
  refine Gf256.ext ?_
  change byte (mixColumn mtable w) r = _
  unfold mixColumn
  rw [← hzero, byte_xor, byte_xor, byte_xor]
  rfl

theorem keyBlock_invert (rounds : ℕ) (keys : ℕ → Word) (i : ℕ) (hi : i ≤ rounds) :
    keyBlock (subkey (nettleAesInvert rounds keys none) i) =
      decryption.turnKeys (fun i => keyBlock (subkey keys i)) rounds i := by
  funext r c
  have hc := c.isLt
  have hmirror : mirror rounds (4 * i + c) = 4 * (rounds - i) + c := by
    unfold mirror
    omega
  change column (nettleAesInvert rounds keys none (4 * i + c)) r = _
  rw [nettleAesInvert_apply _ _ _ (by omega), hmirror]
  unfold Layers.turnKeys
  by_cases hend : i = 0 ∨ i = rounds
  · rw [if_pos hend, if_neg (by omega)]
    rfl
  · rw [if_neg hend, if_pos (by omega), column_mixColumn]
    rfl

end IbexAxi4l.NettleAes
