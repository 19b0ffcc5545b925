import IbexAxi4l.Axi4l2coreContract

set_option autoImplicit false

/-!
# The beats of one kind

The bridge numbers its transactions over both kinds. On the bus each channel has its own
numbers: write `j` is beat `j` of AW, W and B, and read `j` beat `j` of AR and R.
-/
namespace IbexAxi4l.Axi4l2core
open EventLog ReadyValid AxiLite

variable {r : Run axi4l2core} {n : ℕ}

section Requests
variable (hstable : (axiPort r).Stable n)
include hstable

theorem write_beat_eq {t : ℕ} (ht : t < n) :
    (axiPort r).awAddr t = ((corePort r).write t).map Request.addr ∧
      (axiPort r).w.beat t =
        ((corePort r).write t).map (fun q => (⟨q.wdata, q.be⟩ : WriteBeat)) := by
  obtain ⟨a, h⟩ := does r t
  unfold AxiPort.awAddr CorePort.write
  rw [aw_beat hstable ht h, w_beat hstable ht h, h.grant]
  cases a.accepts with
  | none => exact ⟨rfl, rfl⟩
  | some we => cases we <;> exact ⟨rfl, rfl⟩

theorem read_beat_eq {t : ℕ} (ht : t < n) :
    (axiPort r).arAddr t = ((corePort r).read t).map Request.addr := by
  obtain ⟨a, h⟩ := does r t
  unfold AxiPort.arAddr CorePort.read
  rw [ar_beat hstable ht h, h.grant]
  cases a.accepts with
  | none => rfl
  | some we => cases we <;> rfl

theorem write_count {t : ℕ} (ht : t ≤ n) :
    count (axiPort r).aw.beat t = count (corePort r).write t ∧
      count (axiPort r).w.beat t = count (corePort r).write t := by
  constructor
  · rw [← count_awAddr]
    refine count_congr (n := n) (fun s hs => ?_) ht
    rw [(write_beat_eq hstable hs).1, Option.isSome_map]
  · refine count_congr (n := n) (fun s hs => ?_) ht
    rw [(write_beat_eq hstable hs).2, Option.isSome_map]

theorem read_count {t : ℕ} (ht : t ≤ n) :
    count (axiPort r).ar.beat t = count (corePort r).read t := by
  rw [← count_arAddr]
  refine count_congr (n := n) (fun s hs => ?_) ht
  rw [read_beat_eq hstable hs, Option.isSome_map]

theorem nth_of_write {j t : ℕ} {q : Request} (ht : t < n) (h : Nth (corePort r).write j t q) :
    Nth (axiPort r).awAddr j t q.addr ∧ Nth (axiPort r).w.beat j t ⟨q.wdata, q.be⟩ :=
  ⟨(h.map Request.addr).congr (fun _ hs => (write_beat_eq hstable hs).1) ht,
    (h.map _).congr (fun _ hs => (write_beat_eq hstable hs).2) ht⟩

theorem nth_of_read {j t : ℕ} {q : Request} (ht : t < n) (h : Nth (corePort r).read j t q) :
    Nth (axiPort r).arAddr j t q.addr :=
  (h.map Request.addr).congr (fun _ hs => read_beat_eq hstable hs) ht

end Requests

/-- A write that was granted is outstanding exactly while the bridge waits with it. -/
theorem write_outstanding (r : Run axi4l2core) (t : ℕ) : count (corePort r).write t =
    count (axiPort r).b.beat t + ((pending r t).filter id).length := by
  have hc := kind_count r t id
  have hw : count (fun s => (((corePort r).grant s).map Request.we).filter id) t =
      count (corePort r).write t := by
    refine count_congr (n := t) (fun s _ => ?_) (Nat.le_refl t)
    unfold CorePort.write
    cases (corePort r).grant s with
    | none => rfl
    | some q => cases hq : q.we <;> simp [Option.filter, hq]
  have hb : count (fun s => (reply r s).filter id) t = count (axiPort r).b.beat t := by
    refine count_congr (n := t) (fun s _ => ?_) (Nat.le_refl t)
    unfold reply
    cases ((axiPort r).b.beat s).isSome <;> cases ((axiPort r).r.beat s).isSome <;> rfl
  rw [hw, hb] at hc
  exact hc

theorem read_outstanding (r : Run axi4l2core) (t : ℕ) : count (corePort r).read t =
    count (axiPort r).r.beat t + ((pending r t).filter (!·)).length := by
  have hc := kind_count r t (!·)
  have hw : count (fun s => (((corePort r).grant s).map Request.we).filter (!·)) t =
      count (corePort r).read t := by
    refine count_congr (n := t) (fun s _ => ?_) (Nat.le_refl t)
    unfold CorePort.read
    cases (corePort r).grant s with
    | none => rfl
    | some q => cases hq : q.we <;> simp [Option.filter, hq]
  have hr : count (fun s => (reply r s).filter (!·)) t = count (axiPort r).r.beat t := by
    refine count_congr (n := t) (fun s _ => ?_) (Nat.le_refl t)
    have hone := single_reply r s
    unfold reply
    cases hb : ((axiPort r).b.beat s).isSome with
    | false => cases ((axiPort r).r.beat s).isSome <;> rfl
    | true => rw [hone hb]; rfl
  rw [hw, hr] at hc
  exact hc

theorem pending_of_shows {t : ℕ} {a : Act} {we : Bool} (h : Does r t a)
    (hs : a.shows = some we) : pending r t = [we] := by
  have hp := h.pre
  unfold pending
  rw [hp]
  cases a with
  | pass we' | buffer we' | hold we' | drain we' => cases hs; cases we <;> rfl
  | rest | want | ungranted | accept | await => cases hs

theorem shown_answer {t : ℕ} {a : Act} {we : Bool} (h : Does r t a) (ha : a.shows = some we) :
    ∃ s q c, s < t ∧ (corePort r).grant s = some q ∧ q.we = we ∧
      (∀ u, s < u → u ≤ t → count (corePort r).grant u = count (corePort r).grant t) ∧
      FirstAnswer r s c ∧ c ≤ t ∧ shownPayload r t we = coreAnswer r c we := by
  obtain ⟨s, q, c, hn, hwe, hfirst, hct, hval⟩ := shown_value h ha
  have hst : s < t := Nat.lt_of_lt_of_le hfirst.after hct
  refine ⟨s, q, c, hst, hn.occurs, hwe, ?_, hfirst, hct, hval⟩
  intro u hsu hut
  have hkinds := (kind_fifo r t).count_eq (Nat.le_refl t)
  rw [count_map, pending_of_shows h ha] at hkinds
  have hlast := hn.count_succ
  have hlow := count_mono (corePort r).grant (show s + 1 ≤ u from hsu)
  have hhigh := count_mono (corePort r).grant hut
  change count (corePort r).grant t = count (reply r) t + 1 at hkinds
  omega

theorem write_answered {j t : ℕ} (hs : (axiPort r).b.Shown j t) :
    ∃ s q c, Nth (corePort r).write j s q ∧ FirstAnswer r s c ∧ c ≤ t ∧
      (axiPort r).b.data t = resp ((corePort r).slave c).err := by
  obtain ⟨a, h⟩ := does r t
  have ha := (b_valid h).1 hs.1
  obtain ⟨s, q, c, hst, hq, hwe, hsame, hfirst, hct, hval⟩ := shown_answer h ha
  have hw : (corePort r).write s = some q := write_eq_some.2 ⟨hq, hwe⟩
  refine ⟨s, q, c, ⟨hw, ?_⟩, hfirst, hct, (Prod.mk.inj hval).2⟩
  have hopen := write_outstanding r t
  rw [pending_of_shows h ha, hs.2] at hopen
  change _ = j + 1 at hopen
  have hlast := count_succ_some hw
  have hsum := grant_count (corePort r) (s+1)
  have hsum' := grant_count (corePort r) t
  have hmono := count_mono (corePort r).write (show s + 1 ≤ t from hst)
  have hmono' := count_mono (corePort r).read (show s + 1 ≤ t from hst)
  have hall := hsame (s+1) (Nat.lt_succ_self s) hst
  omega

theorem read_answered {j t : ℕ} (hs : (axiPort r).r.Shown j t) :
    ∃ s q c, Nth (corePort r).read j s q ∧ FirstAnswer r s c ∧ c ≤ t ∧
      (axiPort r).r.data t =
        ⟨((corePort r).slave c).rdata, resp ((corePort r).slave c).err⟩ := by
  obtain ⟨a, h⟩ := does r t
  have ha := (r_valid h).1 hs.1
  obtain ⟨s, q, c, hst, hq, hwe, hsame, hfirst, hct, hval⟩ := shown_answer h ha
  obtain ⟨hd, he⟩ := Prod.mk.inj hval
  have hr : (corePort r).read s = some q := read_eq_some.2 ⟨hq, hwe⟩
  refine ⟨s, q, c, ⟨hr, ?_⟩, hfirst, hct, congrArg₂ ReadBeat.mk (Option.some.inj hd) he⟩
  have hopen := read_outstanding r t
  rw [pending_of_shows h ha, hs.2] at hopen
  change _ = j + 1 at hopen
  have hlast := count_succ_some hr
  have hsum := grant_count (corePort r) (s+1)
  have hsum' := grant_count (corePort r) t
  have hmono := count_mono (corePort r).write (show s + 1 ≤ t from hst)
  have hmono' := count_mono (corePort r).read (show s + 1 ≤ t from hst)
  have hall := hsame (s+1) (Nat.lt_succ_self s) hst
  omega

end IbexAxi4l.Axi4l2core
