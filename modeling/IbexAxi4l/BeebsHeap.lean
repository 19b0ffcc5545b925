import Mathlib.Logic.Function.Basic
import Mathlib.Algebra.Ring.Nat
import Mathlib.Data.List.Induction

set_option autoImplicit false

/-!
# The heap of the benchmarks

The allocator of `beebsc.c` on the 32-bit target: it hands out the bytes of one block in
order and never takes any back. `NULL` is the address zero; pointers and sizes wrap around,
as the additions of the source do.
-/
namespace IbexAxi4l.BeebsHeap

abbrev Word := BitVec 32
abbrev Byte := BitVec 8

structure Heap where
  heapPtr : Word
  heapEnd : Word
  heapRequested : Word

structure State where
  heap : Heap
  mem : Word → Byte

def initHeapBeebs (heap heapSize : Word) : Heap := ⟨heap, heap + heapSize, 0⟩

def checkHeapBeebs (h : Heap) (heap : Word) : Bool := decide (heap + h.heapRequested ≤ h.heapEnd)

/-- `malloc_beebs`, and what `realloc_beebs` begins with. -/
def mallocBeebs (h : Heap) (size : Word) : Word × Heap :=
  let h' := { h with heapRequested := h.heapRequested + size }
  if h.heapPtr + size > h.heapEnd ∨ size = 0 then (0, h')
  else (h.heapPtr, { h' with heapPtr := h.heapPtr + size })

def memset (m : Word → Byte) (p : Word) (n : ℕ) : Word → Byte :=
  (List.range n).foldl (fun m i => Function.update m (p + BitVec.ofNat 32 i) 0) m

def callocBeebs (s : State) (nmemb size : Word) : Word × State :=
  let (p, h) := mallocBeebs s.heap (nmemb * size)
  (p, ⟨h, if p ≠ 0 then memset s.mem p (nmemb * size).toNat else s.mem⟩)

def copy (m : Word → Byte) (new old : Word) (n : ℕ) : Word → Byte :=
  (List.range n).foldl
    (fun m i => Function.update m (new + BitVec.ofNat 32 i) (m (old + BitVec.ofNat 32 i))) m

/-- A failed call leaves the memory as it is, also if the heap begins at the address zero. -/
def reallocBeebs (s : State) (ptr size : Word) : Word × State :=
  if s.heap.heapPtr + size > s.heap.heapEnd ∨ size = 0 then
    (0, ⟨(mallocBeebs s.heap size).2, s.mem⟩)
  else
    (s.heap.heapPtr, ⟨(mallocBeebs s.heap size).2,
      if ptr ≠ 0 then copy s.mem s.heap.heapPtr ptr size.toNat else s.mem⟩)

inductive Call where
  | malloc (size : Word)
  | calloc (nmemb size : Word)
  | realloc (ptr size : Word)
  | free (ptr : Word)
  | store (p : Word) (x : Byte)

def exec (s : State) : Call → Word × State
  | .malloc size => ((mallocBeebs s.heap size).1, ⟨(mallocBeebs s.heap size).2, s.mem⟩)
  | .calloc nmemb size => callocBeebs s nmemb size
  | .realloc ptr size => reallocBeebs s ptr size
  | .free _ => (0, s)
  | .store p x => (0, { s with mem := Function.update s.mem p x })

def Call.bytes : Call → ℕ
  | .malloc size => size.toNat
  | .calloc nmemb size => nmemb.toNat * size.toNat
  | .realloc _ size => size.toNat
  | .free _ => 0
  | .store _ _ => 0

structure Event where
  before : State
  call : Call

structure Block where
  start : ℕ
  size : ℕ

namespace Event
variable (e : Event)

def result : Word := (exec e.before e.call).1

def after : State := (exec e.before e.call).2

def block : Option Block :=
  if e.result ≠ 0 then some ⟨e.result.toNat, e.call.bytes⟩ else none

end Event

def final : State → List Call → State := List.foldl (fun s c => (exec s c).2)

def events : State → List Call → List Event
  | _, [] => []
  | s, c :: cs => ⟨s, c⟩ :: events (exec s c).2 cs

def blocks (s : State) (cs : List Call) : List Block := (events s cs).filterMap Event.block

def asked (cs : List Call) : ℕ := (cs.map Call.bytes).sum

theorem events_append (s : State) (cs cs' : List Call) :
    events s (cs ++ cs') = events s cs ++ events (final s cs) cs' := by
  induction cs generalizing s with
  | nil => rfl
  | cons c cs ih => exact congrArg (List.cons _) (ih _)

theorem final_append (s : State) (cs cs' : List Call) :
    final s (cs ++ cs') = final (final s cs) cs' := List.foldl_append

theorem asked_append (cs : List Call) (c : Call) : asked (cs ++ [c]) = asked cs + c.bytes := by
  simp [asked]

theorem blocks_append (s : State) (cs : List Call) (c : Call) :
    blocks s (cs ++ [c]) = blocks s cs ++ (Event.block ⟨final s cs, c⟩).toList := by
  unfold blocks
  rw [events_append, List.filterMap_append]
  change _ ++ [(⟨final s cs, c⟩ : Event)].filterMap Event.block = _
  cases h : Event.block ⟨final s cs, c⟩ <;> simp [h]

theorem exec_malloc (s : State) (c : Call) :
    ((exec s c).1, (exec s c).2.heap) = mallocBeebs s.heap (BitVec.ofNat 32 c.bytes) := by
  have hnone : mallocBeebs s.heap 0 = (0, s.heap) := by
    unfold mallocBeebs
    rw [if_pos (.inr rfl)]
    simp
  cases c with
  | malloc size => simp [exec, Call.bytes]
  | calloc nmemb size =>
    have hproduct : BitVec.ofNat 32 (nmemb.toNat * size.toNat) = nmemb * size := by
      simp [BitVec.ofNat_mul]
    simp [exec, callocBeebs, Call.bytes, hproduct]
  | realloc ptr size =>
    simp only [exec, reallocBeebs, Call.bytes, BitVec.ofNat_toNat, BitVec.setWidth_eq]
    unfold mallocBeebs
    split_ifs <;> rfl
  | free ptr => exact hnone.symm
  | store p x => exact hnone.symm

/-- What a `malloc` can do, while nothing wraps around. -/
inductive Outcome (h : Heap) (n : ℕ) : Word → Heap → Prop where
  | refused {h' : Heap} (hn : n = 0 ∨ h.heapEnd.toNat < h.heapPtr.toNat + n)
      (hptr : h'.heapPtr = h.heapPtr) (hend : h'.heapEnd = h.heapEnd)
      (hreq : h'.heapRequested.toNat = h.heapRequested.toNat + n) : Outcome h n 0 h'
  | given {h' : Heap} (hn : 0 < n) (hfits : h.heapPtr.toNat + n ≤ h.heapEnd.toNat)
      (hptr : h'.heapPtr.toNat = h.heapPtr.toNat + n) (hend : h'.heapEnd = h.heapEnd)
      (hreq : h'.heapRequested.toNat = h.heapRequested.toNat + n) : Outcome h n h.heapPtr h'

theorem malloc_outcome {h : Heap} {n : ℕ} (hptr : h.heapPtr.toNat + n < 2 ^ 32)
    (hreq : h.heapRequested.toNat + n < 2 ^ 32) :
    Outcome h n (mallocBeebs h (BitVec.ofNat 32 n)).1 (mallocBeebs h (BitVec.ofNat 32 n)).2 := by
  have hn : (BitVec.ofNat 32 n).toNat = n := Nat.mod_eq_of_lt (by omega)
  have hsum : (h.heapPtr + BitVec.ofNat 32 n).toNat = h.heapPtr.toNat + n := by
    rw [BitVec.toNat_add, hn, Nat.mod_eq_of_lt hptr]
  have hsum' : (h.heapRequested + BitVec.ofNat 32 n).toNat = h.heapRequested.toNat + n := by
    rw [BitVec.toNat_add, hn, Nat.mod_eq_of_lt hreq]
  have hzero : BitVec.ofNat 32 n = 0 ↔ n = 0 := by
    constructor
    · intro h0
      rw [← hn, h0]
      rfl
    · rintro rfl
      rfl
  have hover : h.heapPtr + BitVec.ofNat 32 n > h.heapEnd ↔
      h.heapEnd.toNat < h.heapPtr.toNat + n := by
    rw [gt_iff_lt, BitVec.lt_def, hsum]
  unfold mallocBeebs
  by_cases hfail : h.heapPtr + BitVec.ofNat 32 n > h.heapEnd ∨ BitVec.ofNat 32 n = 0
  · rw [if_pos hfail]
    rw [hover, hzero, or_comm] at hfail
    exact .refused hfail rfl rfl hsum'
  · rw [if_neg hfail]
    rw [hover, hzero, not_or] at hfail
    exact .given (by omega) (by omega) hsum rfl hsum'

/-! ## All calls -/

def start (heap heapSize : Word) (m : Word → Byte) : State := ⟨initHeapBeebs heap heapSize, m⟩

/-- The heap is a block of memory, and the calls do not ask for more than the addresses that
follow it. -/
structure Roomy (heap heapSize : Word) (cs : List Call) : Prop where
  base : 0 < heap.toNat
  block : heap.toNat + heapSize.toNat < 2 ^ 32
  asked : heap.toNat + asked cs < 2 ^ 32

/-- The blocks lie one after the other between the start of the heap and its pointer. -/
structure Tiled (heap heapSize : Word) (s : State) (bs : List Block) (asked : ℕ) : Prop where
  heapEnd : s.heap.heapEnd.toNat = heap.toNat + heapSize.toNat
  requested : s.heap.heapRequested.toNat = asked
  low : heap.toNat ≤ s.heap.heapPtr.toNat
  high : s.heap.heapPtr.toNat ≤ heap.toNat + heapSize.toNat
  used : s.heap.heapPtr.toNat ≤ heap.toNat + asked
  within : ∀ b ∈ bs, heap.toNat ≤ b.start ∧ b.start + b.size ≤ s.heap.heapPtr.toNat
  ordered : bs.Pairwise (fun b b' => b.start + b.size ≤ b'.start)

section Runs
variable {heap heapSize : Word} {m : Word → Byte}

theorem tiled_init (hblock : heap.toNat + heapSize.toNat < 2 ^ 32) :
    Tiled heap heapSize (start heap heapSize m) [] 0 where
  heapEnd := by
    change (heap + heapSize).toNat = _
    rw [BitVec.toNat_add, Nat.mod_eq_of_lt hblock]
  requested := rfl
  low := Nat.le_refl _
  high := Nat.le_add_right _ _
  used := Nat.le_refl _
  within b hb := absurd hb List.not_mem_nil
  ordered := .nil

theorem Tiled.outcome {s : State} {bs : List Block} {n : ℕ} (h : Tiled heap heapSize s bs n)
    {c : Call} (hroom : heap.toNat + (n + c.bytes) < 2 ^ 32) :
    Outcome s.heap c.bytes (exec s c).1 (exec s c).2.heap := by
  have hused := h.used
  have hreq := h.requested
  have hout := malloc_outcome (h := s.heap) (n := c.bytes) (by omega) (by omega)
  rw [← exec_malloc] at hout
  exact hout

theorem Tiled.step {s : State} {bs : List Block} {n : ℕ} (h : Tiled heap heapSize s bs n)
    (hbase : 0 < heap.toNat) {c : Call} (hroom : heap.toNat + (n + c.bytes) < 2 ^ 32) :
    Tiled heap heapSize (exec s c).2 (bs ++ (Event.block ⟨s, c⟩).toList) (n + c.bytes) := by
  have hout := h.outcome hroom
  have hlow := h.low
  have hhigh := h.high
  have hused := h.used
  have hend := h.heapEnd
  have hreq := h.requested
  unfold Event.block Event.result
  generalize hr : (exec s c).1 = r at hout ⊢
  generalize (exec s c).2 = s' at hout ⊢
  cases hout with
  | refused hn hptr hend' hreq' =>
    have hsame := congrArg BitVec.toNat hptr
    rw [if_neg (by simp)]
    simp only [Option.toList_none, List.append_nil]
    exact ⟨by rw [hend', hend], by omega, by omega, by omega, by omega,
      fun b hb => by rw [hptr]; exact h.within b hb, h.ordered⟩
  | given hn hfits hptr hend' hreq' =>
    have hne : s.heap.heapPtr ≠ 0 := by
      intro h0
      rw [h0] at hlow
      simp at hlow
      omega
    rw [if_pos hne]
    simp only [Option.toList_some]
    refine ⟨by rw [hend', hend], by omega, by omega, by omega, by omega, ?_, ?_⟩
    · intro b hb
      rcases List.mem_append.1 hb with hb | hb
      · have hold := h.within b hb
        omega
      · rw [List.mem_singleton] at hb
        subst hb
        exact ⟨hlow, Nat.le_of_eq hptr.symm⟩
    · refine List.pairwise_append.2 ⟨h.ordered, List.pairwise_singleton _ _, ?_⟩
      intro b hb b' hb'
      rw [List.mem_singleton] at hb'
      subst hb'
      exact (h.within b hb).2

theorem tiled {cs : List Call} (h : Roomy heap heapSize cs) :
    Tiled heap heapSize (final (start heap heapSize m) cs)
      (blocks (start heap heapSize m) cs) (asked cs) := by
  induction cs using List.reverseRecOn with
  | nil => exact tiled_init h.block
  | append_singleton cs c ih =>
    have hroom := h.asked
    rw [asked_append] at hroom
    have hih := ih ⟨h.base, h.block, by omega⟩
    rw [final_append, blocks_append, asked_append]
    exact hih.step h.base hroom

/-- No request for any bytes has failed. -/
def AllGranted (s : State) (cs : List Call) : Prop :=
  ∀ e ∈ events s cs, e.call.bytes ≠ 0 → e.result ≠ 0

theorem allGranted_append (s : State) (cs : List Call) (c : Call) : AllGranted s (cs ++ [c]) ↔
    AllGranted s cs ∧ (c.bytes ≠ 0 → (exec (final s cs) c).1 ≠ 0) := by
  unfold AllGranted
  rw [events_append]
  simp only [List.mem_append, or_imp, forall_and]
  exact and_congr_right fun _ => by simp [events, Event.result]

theorem granted_used {cs : List Call} (h : Roomy heap heapSize cs) :
    (AllGranted (start heap heapSize m) cs →
      (final (start heap heapSize m) cs).heap.heapPtr.toNat = heap.toNat + asked cs) ∧
    (¬ AllGranted (start heap heapSize m) cs → heapSize.toNat < asked cs) := by
  induction cs using List.reverseRecOn with
  | nil => exact ⟨fun _ => rfl, fun hno => absurd (fun e he => absurd he List.not_mem_nil) hno⟩
  | append_singleton cs c ih =>
    have hroom := h.asked
    rw [asked_append] at hroom
    have hbefore : Roomy heap heapSize cs := ⟨h.base, h.block, by omega⟩
    have hih := ih hbefore
    have htiled := tiled (m := m) hbefore
    have hout := htiled.outcome hroom
    have hused := htiled.used
    have hend := htiled.heapEnd
    have hlow := htiled.low
    have hbase := h.base
    rw [allGranted_append, final_append, asked_append]
    change (_ → (exec (final (start heap heapSize m) cs) c).2.heap.heapPtr.toNat = _) ∧ _
    generalize (exec (final (start heap heapSize m) cs) c).1 = r at hout ⊢
    generalize (exec (final (start heap heapSize m) cs) c).2 = s' at hout ⊢
    cases hout with
    | refused hn hptr _ _ =>
      have hsame := congrArg BitVec.toNat hptr
      constructor
      · rintro ⟨hall, hlast⟩
        have hzero : c.bytes = 0 := by
          by_contra hne
          exact hlast hne rfl
        have hall' := hih.1 hall
        omega
      · intro hno
        by_cases hall : AllGranted (start heap heapSize m) cs
        · have hall' := hih.1 hall
          rcases hn with hzero | hover
          · exact absurd ⟨hall, fun hne => absurd hzero hne⟩ hno
          · omega
        · have hmany := hih.2 hall
          omega
    | given hn hfits hptr _ _ =>
      have hne : (final (start heap heapSize m) cs).heap.heapPtr ≠ 0 := by
        intro h0
        have hptr0 := congrArg BitVec.toNat h0
        change (final (start heap heapSize m) cs).heap.heapPtr.toNat = 0 at hptr0
        omega
      constructor
      · rintro ⟨hall, -⟩
        have hall' := hih.1 hall
        omega
      · intro hno
        have hall : ¬ AllGranted (start heap heapSize m) cs := fun hall => hno ⟨hall, fun _ => hne⟩
        have hmany := hih.2 hall
        omega

end Runs

/-! ## The memory -/

def storeLoop (v : ℕ → (Word → Byte) → Byte) (p : Word) (n : ℕ) (m : Word → Byte) : Word → Byte :=
  (List.range n).foldl (fun m i => Function.update m (p + BitVec.ofNat 32 i) (v i m)) m

section StoreLoop
variable {v : ℕ → (Word → Byte) → Byte} {p : Word} {m : Word → Byte}

theorem storeLoop_succ (n : ℕ) : storeLoop v p (n+1) m =
    Function.update (storeLoop v p n m) (p + BitVec.ofNat 32 n) (v n (storeLoop v p n m)) := by
  unfold storeLoop
  rw [List.range_succ, List.foldl_append]
  rfl

theorem toNat_add_ofNat {n i : ℕ} (hp : p.toNat + n < 2 ^ 32) (hi : i ≤ n) :
    (p + BitVec.ofNat 32 i).toNat = p.toNat + i := by
  rw [BitVec.toNat_add, BitVec.toNat_ofNat, Nat.mod_eq_of_lt (show i < 2 ^ 32 by omega),
    Nat.mod_eq_of_lt (by omega)]

theorem storeLoop_frame {n : ℕ} (hp : p.toNat + n < 2 ^ 32) {x : Word}
    (hx : x.toNat < p.toNat ∨ p.toNat + n ≤ x.toNat) : storeLoop v p n m x = m x := by
  induction n with
  | zero => rfl
  | succ n ih =>
    have hne : x ≠ p + BitVec.ofNat 32 n := by
      intro heq
      have hval := congrArg BitVec.toNat heq
      rw [toNat_add_ofNat hp (Nat.le_succ n)] at hval
      omega
    rw [storeLoop_succ, Function.update_of_ne hne, ih (by omega) (by omega)]

theorem storeLoop_get {n i : ℕ} (hp : p.toNat + n < 2 ^ 32) (hi : i < n) :
    storeLoop v p n m (p + BitVec.ofNat 32 i) = v i (storeLoop v p i m) := by
  induction n with
  | zero => exact absurd hi (Nat.not_lt_zero i)
  | succ n ih =>
    rw [storeLoop_succ]
    by_cases hlast : i = n
    · rw [hlast, Function.update_self]
    · have hne : p + BitVec.ofNat 32 i ≠ p + BitVec.ofNat 32 n := by
        intro heq
        have hval := congrArg BitVec.toNat heq
        rw [toNat_add_ofNat hp (by omega), toNat_add_ofNat hp (by omega)] at hval
        omega
      rw [Function.update_of_ne hne, ih (by omega) (by omega)]

end StoreLoop

/-- What a call does to the memory: it changes only its own block, `calloc` clears it, and
`realloc` fills it with what is at the old address. -/
structure MemoryKept (live : List Block) (e : Event) : Prop where
  kept : (∀ p x, e.call ≠ .store p x) → ∀ x : Word,
    (∀ b, e.block = some b → x.toNat < b.start ∨ b.start + b.size ≤ x.toNat) →
    e.after.mem x = e.before.mem x
  cleared : ∀ nmemb size, e.call = .calloc nmemb size → e.result ≠ 0 →
    ∀ i < e.call.bytes, e.after.mem (e.result + BitVec.ofNat 32 i) = 0
  copied : ∀ ptr size, e.call = .realloc ptr size → e.result ≠ 0 →
    ∀ b ∈ live, b.start = ptr.toNat → ∀ i < b.size, i < size.toNat →
      e.after.mem (e.result + BitVec.ofNat 32 i) = e.before.mem (ptr + BitVec.ofNat 32 i)

theorem calloc_mem (s : State) (nmemb size : Word) : (exec s (.calloc nmemb size)).2.mem =
    if (exec s (.calloc nmemb size)).1 ≠ 0 then
      storeLoop (fun _ _ => 0) (exec s (.calloc nmemb size)).1 (nmemb * size).toNat s.mem
    else s.mem := rfl

theorem realloc_mem {s : State} (hptr : s.heap.heapPtr ≠ 0) (ptr size : Word) :
    (exec s (.realloc ptr size)).2.mem =
      if (exec s (.realloc ptr size)).1 ≠ 0 ∧ ptr ≠ 0 then
        storeLoop (fun i m => m (ptr + BitVec.ofNat 32 i)) (exec s (.realloc ptr size)).1 size.toNat
          s.mem
      else s.mem := by
  change (reallocBeebs s ptr size).2.mem = if (reallocBeebs s ptr size).1 ≠ 0 ∧ ptr ≠ 0 then
    storeLoop _ (reallocBeebs s ptr size).1 size.toNat s.mem else s.mem
  unfold reallocBeebs
  by_cases hfail : s.heap.heapPtr + size > s.heap.heapEnd ∨ size = 0
  · rw [if_pos hfail, if_neg (fun h => h.1 rfl)]
  · rw [if_neg hfail]
    by_cases hnull : ptr = 0
    · simp [hnull]
    · simp only [ne_eq, hnull, not_false_eq_true, if_true, hptr, and_self]
      rfl

section Memory
variable {heap heapSize : Word} {s : State} {bs : List Block} {n : ℕ}

theorem Tiled.given (h : Tiled heap heapSize s bs n) {c : Call}
    (hroom : heap.toNat + (n + c.bytes) < 2 ^ 32) (hne : (exec s c).1 ≠ 0) :
    (exec s c).1 = s.heap.heapPtr ∧ s.heap.heapPtr.toNat + c.bytes < 2 ^ 32 := by
  have hout := h.outcome hroom
  have hused := h.used
  refine ⟨?_, by omega⟩
  generalize (exec s c).1 = r at hout hne
  generalize (exec s c).2.heap = h' at hout
  cases hout with
  | refused => exact absurd rfl hne
  | given => rfl

theorem memory_kept (h : Tiled heap heapSize s bs n) (hbase : 0 < heap.toNat) {c : Call}
    (hroom : heap.toNat + (n + c.bytes) < 2 ^ 32) : MemoryKept bs ⟨s, c⟩ := by
  have hlow := h.low
  have hptr : s.heap.heapPtr ≠ 0 := by
    intro h0
    have hzero := congrArg BitVec.toNat h0
    change s.heap.heapPtr.toNat = 0 at hzero
    omega
  -- a loop over the new block changes nothing else
  have hframe (v : ℕ → (Word → Byte) → Byte) (k : ℕ) (hk : k = c.bytes) (hne : (exec s c).1 ≠ 0)
      (x : Word) (hx : ∀ b, Event.block ⟨s, c⟩ = some b → x.toNat < b.start ∨
        b.start + b.size ≤ x.toNat) : storeLoop v (exec s c).1 k s.mem x = s.mem x := by
    obtain ⟨hr, hbound⟩ := h.given hroom hne
    rw [hk]
    exact storeLoop_frame (by rw [hr]; exact hbound) (hx _ (if_pos hne))
  cases c with
  | malloc size => exact ⟨fun _ _ _ => rfl, nofun, nofun⟩
  | free ptr => exact ⟨fun _ _ _ => rfl, nofun, nofun⟩
  | store p x => exact ⟨fun hno => absurd rfl (hno p x), nofun, nofun⟩
  | calloc nmemb size =>
    have hbytes : (nmemb * size).toNat = (Call.calloc nmemb size).bytes := by
      change heap.toNat + (n + nmemb.toNat * size.toNat) < 2 ^ 32 at hroom
      rw [BitVec.toNat_mul]
      exact Nat.mod_eq_of_lt (by omega)
    refine ⟨fun _ x hx => ?_, fun nmemb' size' heq hne i hi => ?_, nofun⟩
    · change (exec s (.calloc nmemb size)).2.mem x = s.mem x
      rw [calloc_mem]
      split_ifs with hne
      · exact hframe _ _ hbytes hne x hx
      · rfl
    · change (exec s (.calloc nmemb size)).1 ≠ 0 at hne
      change (exec s (.calloc nmemb size)).2.mem ((exec s (.calloc nmemb size)).1 + _) = 0
      obtain ⟨hr, hbound⟩ := h.given hroom hne
      rw [calloc_mem, if_pos hne]
      exact storeLoop_get (by rw [hr, hbytes]; exact hbound) (by rw [hbytes]; exact hi)
  | realloc ptr size =>
    refine ⟨fun _ x hx => ?_, nofun, fun ptr' size' heq hne b hb hstart i hi hi' => ?_⟩
    · change (exec s (.realloc ptr size)).2.mem x = s.mem x
      rw [realloc_mem hptr]
      split_ifs with hne
      · exact hframe _ _ rfl hne.1 x hx
      · rfl
    · cases heq
      have hold := h.within b hb
      obtain ⟨hr, hbound⟩ := h.given hroom hne
      have hnull : ptr ≠ 0 := by
        rintro rfl
        change b.start = 0 at hstart
        omega
      change (exec s (.realloc ptr size)).1 ≠ 0 at hne
      change s.heap.heapPtr.toNat + size.toNat < 2 ^ 32 at hbound
      change (exec s (.realloc ptr size)).2.mem ((exec s (.realloc ptr size)).1 + _) = s.mem _
      rw [realloc_mem hptr, if_pos ⟨hne, hnull⟩, hr, storeLoop_get hbound hi']
      refine storeLoop_frame (by omega) (.inl ?_)
      rw [toNat_add_ofNat (n := b.size) (by omega) (by omega)]
      omega

end Memory

/-- What the program can rely on after the calls `cs`. -/
structure Sound (heap heapSize : Word) (m : Word → Byte) (cs : List Call) : Prop where
  inside : ∀ b ∈ blocks (start heap heapSize m) cs,
    heap.toNat ≤ b.start ∧ b.start + b.size ≤ heap.toNat + heapSize.toNat
  disjoint : (blocks (start heap heapSize m) cs).Pairwise (fun b b' => b.start + b.size ≤ b'.start)
  check : checkHeapBeebs (final (start heap heapSize m) cs).heap heap = true ↔
    AllGranted (start heap heapSize m) cs
  memory : ∀ cs₁ c cs₂, cs = cs₁ ++ c :: cs₂ →
    MemoryKept (blocks (start heap heapSize m) cs₁) ⟨final (start heap heapSize m) cs₁, c⟩

theorem heap_sound (heap heapSize : Word) (m : Word → Byte) (cs : List Call)
    (h : Roomy heap heapSize cs) : Sound heap heapSize m cs := by
  have htiled := tiled (m := m) h
  have hreq := htiled.requested
  have hend := htiled.heapEnd
  have hasked := h.asked
  refine ⟨fun b hb => ?_, htiled.ordered, ?_, ?_⟩
  · have hhigh := htiled.high
    have hb' := htiled.within b hb
    omega
  · have hgranted := granted_used (m := m) h
    have hhigh := htiled.high
    unfold checkHeapBeebs
    rw [decide_eq_true_iff, BitVec.le_def, BitVec.toNat_add, hreq, hend,
      Nat.mod_eq_of_lt hasked]
    constructor
    · intro hle
      by_contra hno
      have hmany := hgranted.2 hno
      omega
    · intro hall
      have hused := hgranted.1 hall
      omega
  · rintro cs₁ c cs₂ rfl
    have hsum : asked (cs₁ ++ c :: cs₂) = asked cs₁ + (c.bytes + asked cs₂) := by
      simp [asked]
    have hbefore : Roomy heap heapSize cs₁ := ⟨h.base, h.block, by omega⟩
    exact memory_kept (tiled (m := m) hbefore) h.base (by omega)

def moveBlock : List Call :=
  [.calloc 2 4, .store 0x104 7, .malloc 0, .realloc 0x100 12, .free 0x100, .malloc 13]

theorem moveBlock_sound : Sound 0x100 32 (fun _ => 0xff) moveBlock :=
  heap_sound 0x100 32 (fun _ => 0xff) moveBlock ⟨by decide, by decide, by decide⟩

example : (events (start 0x100 32 (fun _ => 0xff)) moveBlock).map Event.result =
    [0x100, 0, 0, 0x108, 0, 0] := by decide

end IbexAxi4l.BeebsHeap
