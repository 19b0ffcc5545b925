import IbexAxi4l.Axi4lDpramx32

set_option autoImplicit false

/-!
# The AXI4-Lite RAM makes each write once and reads linearizably

Both contracts hold in every run from reset, whatever the master does on any channel.
-/
namespace IbexAxi4l.Axi4lDpramx32
open EventLog ReadyValid AxiLite ByteLanes StrobedStore

variable {z : RamSize} {r : Run (axi4lDpramx32 z.size)}

structure WritePath (z : RamSize) (r : Run (axi4lDpramx32 z.size)) : Prop where
  channel : WriteChannel.ExactlyOnce (fun t => (r.state t).write) (axiPort r)
  inside : ∀ addr, index z.size addr = (addr.toNat >>> 2) % (z.size / 4) ∧
    index z.size addr < z.size >>> 2
  changes : ∀ t c, commits r t = some c → ∀ i b, b < 4 →
    byte (mem r (t+1) i) b =
      if i = z.cell c.addr ∧ c.strb.getLsbD b = true then byte c.data b else byte (mem r t i) b
  idle : ∀ t, commits r t = none → mem r (t+1) = mem r t

theorem byte_store (c : WriteChannel.Write) (m : Store (z.size >>> 2)) (i : Fin (z.size >>> 2))
    {b : ℕ} (hb : b < 4) : byte ((store z.size c).apply m i) b =
      if i = z.cell c.addr ∧ c.strb.getLsbD b = true then byte c.data b else byte (m i) b := by
  rw [byte_apply _ _ _ hb]
  have hword : (z.cell c.addr).val = i.val ↔ i = z.cell c.addr := by
    rw [Fin.ext_iff]
    exact eq_comm
  simp [store, Commit.writes, z.index_eq, hword]

theorem writes_once (z : RamSize) (r : Run (axi4lDpramx32 z.size)) : WritePath z r where
  channel := write_once r
  inside addr := by
    have hindex := z.index_eq addr
    have hlt := (z.cell addr).isLt
    exact ⟨hindex, by omega⟩
  changes t c hc i b hb := by
    rw [mem_succ, hc]
    exact byte_store c _ i hb
  idle t hc := by
    rw [mem_succ, hc]
    rfl

structure ReadAt (z : RamSize) (r : Run (axi4lDpramx32 z.size)) (k ta ts : ℕ) (a : Addr) :
    Prop where
  accepted : Nth (axiPort r).arAddr k ta a
  sampled : Nth (samples r) k ts a
  after : ta ≤ ts
  value : ∀ t, (axiPort r).r.Shown k t →
    ts < t ∧ ((axiPort r).slave t).rdata = mem r ts (z.cell a)
  reflects : ∀ j tb, (axiPort r).b.Shown j tb → tb ≤ ta → j < count (commits r) ts
  excludes : ∀ j t tw, (axiPort r).r.Shown k t → t ≤ tw →
    ((∃ x, Nth (axiPort r).aw.beat j tw x) ∨ ∃ x, Nth (axiPort r).w.beat j tw x) →
    count (commits r) ts ≤ j

structure ReadPath (z : RamSize) (r : Run (axi4lDpramx32 z.size)) : Prop where
  channel : ReadChannel.ExactlyOnce (fun t => (r.state t).read) (axiPort r)
  contents : ∀ t, mem r t = replay (mem r 0) ((log (commits r) t).map (store z.size))
  reads : ∀ k t, (axiPort r).r.Shown k t → ∃ ta ts a, ReadAt z r k ta ts a

theorem sample_value {k t : ℕ} (hs : (axiPort r).r.Shown k t) :
    ∃ ts < t, ∃ a, Nth (samples r) k ts a ∧
      ((axiPort r).slave t).rdata = mem r ts (z.cell a) := by
  rcases (read_once r).response k t hs with ⟨ts, hts, a, ha, hdata⟩
  refine ⟨ts, hts, a, ha, ?_⟩
  calc
    ((axiPort r).slave t).rdata = ((axiPort r).slave (ts+1)).rdata := congrArg ReadBeat.data hdata
    _ = mem r ts (z.cell a) := (rdata_succ r ha.occurs).trans (z.readMem_eq _ _)

theorem shown_committed {j t : ℕ} (hs : (axiPort r).b.Shown j t) : j < count (commits r) t := by
  have hc := (write_once r).responseCount t
  have hv : ((axiPort r).slave t).bvalid = true := hs.1
  have hj : count (axiPort r).b.beat t = j := hs.2
  rw [hv, hj, if_pos rfl] at hc
  change j < count (WriteChannel.commits _ _) t
  omega

theorem commits_le {j t tw : ℕ} (htw : t ≤ tw)
    (hlate : (∃ x, Nth (axiPort r).aw.beat j tw x) ∨ ∃ x, Nth (axiPort r).w.beat j tw x) :
    count (commits r) t ≤ j := by
  by_contra hlt
  rcases exists_nth (Nat.lt_of_not_le hlt) with ⟨tc, htc, c, hc⟩
  have honce := write_once r
  rcases hlate with ⟨x, hx⟩ | ⟨x, hx⟩
  · rcases honce.address j tc c hc with ⟨ta, hta, ha⟩
    have htime := ha.time_unique (hx.map AddrBeat.addr)
    omega
  · rcases honce.data j tc c hc with ⟨td, htd, hd⟩
    have htime := hd.time_unique hx
    omega

/-- Every read takes effect in one cycle between its address and its response. -/
theorem reads_linearize (z : RamSize) (r : Run (axi4lDpramx32 z.size)) : ReadPath z r where
  channel := read_once r
  contents := mem_eq r
  reads k t hs := by
    rcases sample_value hs with ⟨ts, hts, a, ha, -⟩
    rcases (read_once r).address k ts a ha with ⟨ta, hta, har⟩
    have hvalue (u : ℕ) (hu : (axiPort r).r.Shown k u) :
        ts < u ∧ ((axiPort r).slave u).rdata = mem r ts (z.cell a) := by
      rcases sample_value hu with ⟨ts', hts', a', ha', hdata⟩
      have htime := ha'.time_unique ha
      have haddr := ha'.value_unique ha
      subst htime haddr
      exact ⟨hts', hdata⟩
    refine ⟨ta, ts, a, har, ha, hta, hvalue, ?_, ?_⟩
    · intro j tb hb htb
      have hcommitted := shown_committed hb
      have hmono := count_mono (commits r) (show tb ≤ ts by omega)
      omega
    · intro j u tw hu htw hlate
      have hlt := (hvalue u hu).1
      exact commits_le (by omega) hlate

end IbexAxi4l.Axi4lDpramx32
