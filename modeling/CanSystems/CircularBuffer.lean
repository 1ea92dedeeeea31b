import CanSystems.Lib.Fifo
import CanSystems.Lib.Ring

/-!
# The circular buffer

The elements of a `CircularBuffer` lie between two 16-bit indices. These are
equal in an empty buffer and in a full one, and a flag tells the two apart. What
a caller sees of it is what it would see of a bounded queue.
-/

namespace CanSystems

structure CircularBuffer (T : Type*) (buffSize : UInt16) where
  buffer : Vector T buffSize.toNat
  head : UInt16
  tail : UInt16
  full : Bool
  headInside : head < buffSize
  tailInside : tail < buffSize
  fullMeets : full = true → head = tail

namespace CircularBuffer

variable {T : Type*} {buffSize : UInt16}

theorem pos (b : CircularBuffer T buffSize) : 0 < buffSize :=
  UInt16.lt_of_le_of_lt UInt16.zero_le b.headInside

def init [Inhabited T] (hpos : 0 < buffSize) : CircularBuffer T buffSize where
  buffer := Vector.replicate buffSize.toNat default
  head := 0
  tail := 0
  full := false
  headInside := hpos
  tailInside := hpos
  fullMeets := by simp

def put (b : CircularBuffer T buffSize) (item : T) : CircularBuffer T buffSize where
  buffer := b.buffer.set b.head.toNat item (UInt16.lt_iff_toNat_lt.mp b.headInside)
  head := (b.head + 1) % buffSize
  tail := if b.full then (b.tail + 1) % buffSize else b.tail
  full := (b.head + 1) % buffSize == if b.full then (b.tail + 1) % buffSize else b.tail
  headInside := UInt16.mod_lt _ b.pos
  tailInside := by
    split
    · exact UInt16.mod_lt _ b.pos
    · exact b.tailInside
  fullMeets := beq_iff_eq.mp

def isEmpty (b : CircularBuffer T buffSize) : Bool := if b.full then false else b.tail == b.head

def isFull (b : CircularBuffer T buffSize) : Bool := b.full

def getCapacity (_ : CircularBuffer T buffSize) : UInt16 := buffSize

def getSize (b : CircularBuffer T buffSize) : UInt16 :=
  if b.full then buffSize else
  if b.tail ≤ b.head then b.head - b.tail else buffSize + b.head - b.tail

def oldest (b : CircularBuffer T buffSize) : T :=
  b.buffer.get ⟨b.tail.toNat, UInt16.lt_iff_toNat_lt.mp b.tailInside⟩

def peek [Inhabited T] (b : CircularBuffer T buffSize) : T := if b.isEmpty then default else b.oldest

def advance (b : CircularBuffer T buffSize) : CircularBuffer T buffSize where
  buffer := b.buffer
  head := b.head
  tail := (b.tail + 1) % buffSize
  full := false
  headInside := b.headInside
  tailInside := UInt16.mod_lt _ b.pos
  fullMeets := by simp

def pop [Inhabited T] (b : CircularBuffer T buffSize) : T × CircularBuffer T buffSize :=
  if b.isEmpty then (default, b) else (b.oldest, b.advance)

def clear (b : CircularBuffer T buffSize) : CircularBuffer T buffSize where
  buffer := b.buffer
  head := 0
  tail := 0
  full := false
  headInside := b.pos
  tailInside := b.pos
  fullMeets := by simp

/-! ## How many elements there are -/

/-- `len` elements lead from the tail to the head, and the flag says whether they are all the buffer holds. -/
structure Spans (b : CircularBuffer T buffSize) (len : ℕ) : Prop where
  bounded : len ≤ buffSize.toNat
  meets : (b.tail.toNat + len) % buffSize.toNat = b.head.toNat
  full : b.full = true ↔ len = buffSize.toNat

section
variable (b : CircularBuffer T buffSize)

theorem head_lt : b.head.toNat < buffSize.toNat := UInt16.lt_iff_toNat_lt.mp b.headInside

theorem tail_lt : b.tail.toNat < buffSize.toNat := UInt16.lt_iff_toNat_lt.mp b.tailInside

theorem spans_getSize : b.Spans b.getSize.toNat := by
  have hhead := b.head_lt
  have htail := b.tail_lt
  unfold getSize
  split
  · rename_i hfull
    have hmeets := b.fullMeets hfull
    exact ⟨Nat.le_refl _, by rw [Nat.add_mod_right, hmeets, Nat.mod_eq_of_lt htail], iff_of_true hfull rfl⟩
  rename_i hfull
  split
  · rename_i hle
    rw [UInt16.le_iff_toNat_le] at hle
    rw [UInt16.toNat_sub_of_le _ _ (UInt16.le_iff_toNat_le.mpr hle)]
    refine ⟨by omega, ?_, iff_of_false hfull (by omega)⟩
    rw [Nat.add_sub_cancel' hle, Nat.mod_eq_of_lt hhead]
  · rename_i hle
    rw [UInt16.le_iff_toNat_le] at hle
    have hbound := buffSize.toNat_lt
    -- The sum may pass 2^16, and the difference comes back.
    have hlen : (buffSize + b.head - b.tail).toNat = buffSize.toNat + b.head.toNat - b.tail.toNat := by
      rw [UInt16.toNat_sub, UInt16.toNat_add]
      omega
    rw [hlen]
    refine ⟨by omega, ?_, iff_of_false hfull (by omega)⟩
    rw [show b.tail.toNat + (buffSize.toNat + b.head.toNat - b.tail.toNat) = b.head.toNat + buffSize.toNat by omega,
      Nat.add_mod_right, Nat.mod_eq_of_lt hhead]

end

theorem Spans.unique {b : CircularBuffer T buffSize} {len len' : ℕ} (h : b.Spans len) (h' : b.Spans len') :
    len = len' := by
  by_cases hfull : b.full = true
  · rw [h.full.mp hfull, h'.full.mp hfull]
  have hlt := Nat.lt_of_le_of_ne h.bounded fun e => hfull (h.full.mpr e)
  have hlt' := Nat.lt_of_le_of_ne h'.bounded fun e => hfull (h'.full.mpr e)
  have hmeets := h.meets.trans h'.meets.symm
  rcases Nat.lt_trichotomy len len' with hless | heq | hmore
  · exact absurd hmeets (Ring.add_mod_ne hless hlt')
  · exact heq
  · exact absurd hmeets.symm (Ring.add_mod_ne hmore hlt)

theorem Spans.getSize {b : CircularBuffer T buffSize} {len : ℕ} (h : b.Spans len) : b.getSize.toNat = len :=
  b.spans_getSize.unique h

/-! ## The queue it stands for -/

def contents (b : CircularBuffer T buffSize) : List T :=
  Ring.read b.buffer (UInt16.lt_iff_toNat_lt.mp b.pos) b.tail.toNat b.getSize.toNat

def toFifo (b : CircularBuffer T buffSize) : Fifo T buffSize.toNat where
  items := b.contents
  bounded := by rw [contents, Ring.length_read]; exact b.spans_getSize.bounded

@[simp] theorem items_toFifo (b : CircularBuffer T buffSize) : b.toFifo.items = b.contents := rfl

@[simp] theorem length_contents (b : CircularBuffer T buffSize) : b.contents.length = b.getSize.toNat :=
  Ring.length_read _ _

theorem contents_of_spans {b : CircularBuffer T buffSize} {len : ℕ} (h : b.Spans len) :
    b.contents = Ring.read b.buffer (UInt16.lt_iff_toNat_lt.mp b.pos) b.tail.toNat len := by
  rw [contents, h.getSize]

theorem toNat_next {i : UInt16} (hi : i < buffSize) :
    ((i + 1) % buffSize).toNat = (i.toNat + 1) % buffSize.toNat := by
  have hlt := UInt16.lt_iff_toNat_lt.mp hi
  have hbound := buffSize.toNat_lt
  have hadd : (i + 1).toNat = i.toNat + 1 := by
    rw [UInt16.toNat_add, UInt16.toNat_one]
    omega
  rw [UInt16.toNat_mod, hadd]

theorem isEmpty_iff (b : CircularBuffer T buffSize) : b.isEmpty = true ↔ b.getSize.toNat = 0 := by
  have hspans := b.spans_getSize
  have hpos := b.head_lt
  by_cases hfull : b.full = true
  · have := hspans.full.mp hfull
    rw [isEmpty, if_pos hfull]
    exact iff_of_false Bool.false_ne_true (by omega)
  · rw [isEmpty, if_neg hfull, beq_iff_eq]
    constructor
    · intro heq
      have hempty : b.Spans 0 := by
        refine ⟨Nat.zero_le _, ?_, iff_of_false hfull (by omega)⟩
        rw [Nat.add_zero, heq, Nat.mod_eq_of_lt hpos]
      exact hspans.unique hempty
    · intro hzero
      have hmeets := hspans.meets
      rw [hzero, Nat.add_zero, Nat.mod_eq_of_lt b.tail_lt] at hmeets
      exact UInt16.toNat_inj.mp hmeets

theorem isFull_iff (b : CircularBuffer T buffSize) : b.isFull = true ↔ b.getSize.toNat = buffSize.toNat :=
  b.spans_getSize.full

/-! ## The operations on the queue -/

section
variable {b : CircularBuffer T buffSize} {len : ℕ} (item : T)

theorem Spans.put_room (h : b.Spans len) (hfull : b.full = false) : (b.put item).Spans (len + 1) := by
  have hlt := Nat.lt_of_le_of_ne h.bounded fun e => by rw [h.full.mpr e] at hfull; cases hfull
  have htail := b.tail_lt
  have hhead : ((b.head + 1) % buffSize).toNat = (b.tail.toNat + (len + 1)) % buffSize.toNat := by
    rw [toNat_next b.headInside, ← h.meets, Nat.mod_add_mod, Nat.add_assoc]
  refine ⟨hlt, ?_, ?_⟩
  · simp only [put, hfull, Bool.false_eq_true, if_false, hhead]
  · simp only [put, hfull, Bool.false_eq_true, if_false, beq_iff_eq, ← UInt16.toNat_inj, hhead]
    constructor
    · intro hmeets
      by_contra hne
      have hstays : (b.tail.toNat + 0) % buffSize.toNat = (b.tail.toNat + (len + 1)) % buffSize.toNat := by
        rw [hmeets, Nat.add_zero, Nat.mod_eq_of_lt htail]
      exact Ring.add_mod_ne (Nat.zero_lt_succ len) (by omega) hstays
    · intro hwhole
      rw [hwhole, Nat.add_mod_right, Nat.mod_eq_of_lt htail]

theorem Spans.put_full (h : b.Spans len) (hfull : b.full = true) : (b.put item).Spans len := by
  have hlen := h.full.mp hfull
  have hmeets := b.fullMeets hfull
  refine ⟨h.bounded, ?_, ?_⟩
  · simp only [put, hfull, if_true, hmeets]
    rw [hlen, Nat.add_mod_right]
    exact Nat.mod_eq_of_lt (UInt16.lt_iff_toNat_lt.mp (UInt16.mod_lt _ b.pos))
  · simp only [put, hfull, if_true, hmeets, beq_self_eq_true, hlen]

theorem Spans.advance (h : b.Spans (len + 1)) : b.advance.Spans len := by
  have hbounded := h.bounded
  refine ⟨by omega, ?_, iff_of_false Bool.false_ne_true (by omega)⟩
  simp only [CircularBuffer.advance]
  rw [toNat_next b.tailInside, Nat.mod_add_mod, ← h.meets, Nat.add_assoc, Nat.add_comm 1]

theorem contents_put_room (hfull : b.full = false) : (b.put item).contents = b.contents ++ [item] := by
  have hspans := b.spans_getSize
  have hlt := Nat.lt_of_le_of_ne hspans.bounded fun e => by rw [hspans.full.mpr e] at hfull; cases hfull
  have hset := @Ring.read_set _ _ b.buffer (UInt16.lt_iff_toNat_lt.mp b.pos) _ _ _ hlt b.head_lt hspans.meets item
  rw [contents_of_spans (hspans.put_room item hfull), contents, ← hset]
  simp only [put, hfull, Bool.false_eq_true, if_false]

theorem contents_put_full (hfull : b.full = true) : (b.put item).contents = b.contents.tail ++ [item] := by
  have hspans := b.spans_getSize
  have hn : 0 < buffSize.toNat := UInt16.lt_iff_toNat_lt.mp b.pos
  have hsize : b.getSize.toNat = buffSize.toNat - 1 + 1 := by
    rw [hspans.full.mp hfull]
    exact (Nat.sub_add_cancel hn).symm
  -- The cell behind the last one is the oldest: the tail gives it up as the head takes it.
  have hend : (b.tail.toNat + 1 + (buffSize.toNat - 1)) % buffSize.toNat = b.head.toNat := by
    rw [Nat.add_assoc, Nat.add_sub_cancel' hn, b.fullMeets hfull, Nat.add_mod_right, Nat.mod_eq_of_lt b.tail_lt]
  have hset := @Ring.read_set _ _ b.buffer hn _ _ _ (by omega) b.head_lt hend item
  have htail : b.contents.tail = Ring.read b.buffer hn (b.tail.toNat + 1) (buffSize.toNat - 1) := by
    rw [contents, hsize, Ring.read_first, List.tail_cons]
  rw [contents_of_spans (hspans.put_full item hfull), htail, ← hset, hsize]
  simp only [put, hfull, if_true]
  rw [toNat_next b.tailInside]
  exact Ring.read_congr (Nat.mod_mod _ _) _

theorem contents_advance (h : b.Spans (len + 1)) : b.contents = b.oldest :: b.advance.contents := by
  have holdest : Ring.cell b.buffer (UInt16.lt_iff_toNat_lt.mp b.pos) b.tail.toNat = b.oldest := by
    simp only [Ring.cell, oldest, Nat.mod_eq_of_lt b.tail_lt]
  rw [contents_of_spans h, contents_of_spans h.advance, Ring.read_first, holdest]
  simp only [advance]
  rw [toNat_next b.tailInside]
  exact congrArg _ (Ring.read_congr (Nat.mod_mod _ _).symm _)

end

theorem contents_clear (b : CircularBuffer T buffSize) : b.clear.contents = [] := by
  apply List.length_eq_zero_iff.mp
  rw [length_contents]
  simp [clear, getSize]

theorem contents_of_isEmpty {b : CircularBuffer T buffSize} (h : b.isEmpty = true) : b.contents = [] :=
  List.length_eq_zero_iff.mp (b.length_contents.trans (b.isEmpty_iff.mp h))

theorem exists_len {b : CircularBuffer T buffSize} (h : b.isEmpty = false) : ∃ len, b.Spans (len + 1) := by
  have hne : b.getSize.toNat ≠ 0 := fun e => by rw [b.isEmpty_iff.mpr e] at h; cases h
  obtain ⟨len, hlen⟩ := Nat.exists_eq_succ_of_ne_zero hne
  have hspans := b.spans_getSize
  rw [hlen] at hspans
  exact ⟨len, hspans⟩

theorem isEmpty_toFifo (b : CircularBuffer T buffSize) : b.toFifo.isEmpty = b.isEmpty := by
  rw [Bool.eq_iff_iff, Fifo.isEmpty_iff, isEmpty_iff, items_toFifo, ← List.length_eq_zero_iff, length_contents]

theorem isFull_toFifo (b : CircularBuffer T buffSize) : b.toFifo.isFull = b.isFull := by
  rw [Bool.eq_iff_iff, isFull_iff, Fifo.isFull, beq_iff_eq, items_toFifo, length_contents]

theorem toFifo_put (b : CircularBuffer T buffSize) (item : T) : (b.put item).toFifo = b.toFifo.put item := by
  apply Fifo.ext
  cases hfull : b.full with
  | false =>
    rw [Fifo.items_put (by rw [isFull_toFifo, isFull, hfull]), items_toFifo, contents_put_room item hfull,
      items_toFifo]
  | true =>
    have hsize : b.contents.length = buffSize.toNat := b.length_contents.trans (b.isFull_iff.mp hfull)
    have hpos : 0 < buffSize.toNat := UInt16.lt_iff_toNat_lt.mp b.pos
    have hne : b.contents ≠ [] := List.length_pos_iff.mp (by omega)
    rw [Fifo.items_put_full (by rw [isFull_toFifo, isFull, hfull]), items_toFifo, contents_put_full item hfull,
      items_toFifo, List.tail_append_of_ne_nil hne]

/-! ## What a caller sees -/

end CircularBuffer

inductive BufferOp (T : Type*)
  | put (item : T)
  | pop
  | peek
  | clear
  | isEmpty
  | isFull
  | getCapacity
  | getSize

inductive BufferAnswer (T : Type*)
  | done
  | item (x : T)
  | flag (holds : Bool)
  | number (n : ℕ)
  deriving DecidableEq

namespace CircularBuffer

variable {T : Type*} [Inhabited T] {buffSize : UInt16}

def perform (b : CircularBuffer T buffSize) : BufferOp T → BufferAnswer T × CircularBuffer T buffSize
  | .put item => (.done, b.put item)
  | .pop => (.item b.pop.1, b.pop.2)
  | .peek => (.item b.peek, b)
  | .clear => (.done, b.clear)
  | .isEmpty => (.flag b.isEmpty, b)
  | .isFull => (.flag b.isFull, b)
  | .getCapacity => (.number b.getCapacity.toNat, b)
  | .getSize => (.number b.getSize.toNat, b)

def answers (b : CircularBuffer T buffSize) : List (BufferOp T) → List (BufferAnswer T)
  | [] => []
  | op :: ops => (b.perform op).1 :: (b.perform op).2.answers ops

end CircularBuffer

/-! The same of a bounded queue. -/

namespace BoundedQueue

variable {T : Type*} [Inhabited T] {cap : ℕ}

def perform (q : Fifo T cap) : BufferOp T → BufferAnswer T × Fifo T cap
  | .put item => (.done, q.put item)
  | .pop => (.item q.pop.1, q.pop.2)
  | .peek => (.item q.peek, q)
  | .clear => (.done, .empty)
  | .isEmpty => (.flag q.isEmpty, q)
  | .isFull => (.flag q.isFull, q)
  | .getCapacity => (.number cap, q)
  | .getSize => (.number q.items.length, q)

def answers (q : Fifo T cap) : List (BufferOp T) → List (BufferAnswer T)
  | [] => []
  | op :: ops => (perform q op).1 :: answers (perform q op).2 ops

end BoundedQueue

namespace CircularBuffer

variable {T : Type*} [Inhabited T] {buffSize : UInt16}

theorem peek_toFifo (b : CircularBuffer T buffSize) : b.toFifo.peek = b.peek := by
  cases hempty : b.isEmpty with
  | true =>
    rw [peek, if_pos hempty, Fifo.peek, items_toFifo, contents_of_isEmpty hempty, List.headD_nil]
  | false =>
    obtain ⟨len, hspans⟩ := exists_len hempty
    rw [peek, hempty, if_neg Bool.false_ne_true, Fifo.peek_cons (contents_advance hspans)]

theorem pop_toFifo (b : CircularBuffer T buffSize) :
    b.pop.1 = b.toFifo.pop.1 ∧ b.pop.2.toFifo = b.toFifo.pop.2 := by
  rw [Fifo.pop_fst, Fifo.pop_snd, peek_toFifo]
  cases hempty : b.isEmpty with
  | true =>
    rw [pop, if_pos hempty, peek, if_pos hempty]
    refine ⟨rfl, Fifo.ext ?_⟩
    rw [Fifo.items_rest, items_toFifo, contents_of_isEmpty hempty, List.tail_nil]
  | false =>
    obtain ⟨len, hspans⟩ := exists_len hempty
    rw [pop, hempty, if_neg Bool.false_ne_true, peek, hempty, if_neg Bool.false_ne_true]
    refine ⟨rfl, Fifo.ext ?_⟩
    rw [Fifo.items_rest, items_toFifo, items_toFifo, contents_advance hspans, List.tail_cons]

theorem perform_toFifo (b : CircularBuffer T buffSize) (op : BufferOp T) :
    (b.perform op).1 = (BoundedQueue.perform b.toFifo op).1 ∧
      (b.perform op).2.toFifo = (BoundedQueue.perform b.toFifo op).2 := by
  cases op with
  | put item => exact ⟨rfl, b.toFifo_put item⟩
  | pop =>
    obtain ⟨hitem, hrest⟩ := b.pop_toFifo
    exact ⟨congrArg BufferAnswer.item hitem, hrest⟩
  | peek => exact ⟨congrArg BufferAnswer.item b.peek_toFifo.symm, rfl⟩
  | clear => exact ⟨rfl, Fifo.ext b.contents_clear⟩
  | isEmpty => exact ⟨congrArg BufferAnswer.flag b.isEmpty_toFifo.symm, rfl⟩
  | isFull => exact ⟨congrArg BufferAnswer.flag b.isFull_toFifo.symm, rfl⟩
  | getCapacity => exact ⟨rfl, rfl⟩
  | getSize => exact ⟨congrArg BufferAnswer.number b.length_contents.symm, rfl⟩

theorem answers_toFifo (b : CircularBuffer T buffSize) (ops : List (BufferOp T)) :
    b.answers ops = BoundedQueue.answers b.toFifo ops := by
  induction ops generalizing b with
  | nil => rfl
  | cons op ops ih =>
    obtain ⟨hanswer, hnext⟩ := b.perform_toFifo op
    rw [answers, BoundedQueue.answers, ih, hanswer, hnext]

/-- A buffer of any capacity answers every sequence of calls as the bounded queue of that capacity does. -/
theorem answers_as_queue (hpos : 0 < buffSize) (ops : List (BufferOp T)) :
    (init hpos : CircularBuffer T buffSize).answers ops =
      BoundedQueue.answers (.empty : Fifo T buffSize.toNat) ops := by
  have hempty : (init hpos : CircularBuffer T buffSize).toFifo = .empty :=
    Fifo.ext (contents_of_isEmpty (by simp [isEmpty, init]))
  rw [answers_toFifo, hempty]

/-- Two elements pass through a buffer of one cell: the second takes the place of the first. -/
theorem answers_as_queue_one :
    (init (by decide) : CircularBuffer ℕ 1).answers [.put 7, .put 8, .getSize, .pop, .pop] =
        BoundedQueue.answers (.empty : Fifo ℕ (UInt16.toNat 1)) [.put 7, .put 8, .getSize, .pop, .pop] ∧
      BoundedQueue.answers (.empty : Fifo ℕ (UInt16.toNat 1)) [.put 7, .put 8, .getSize, .pop, .pop] =
        [.done, .done, .number 1, .item 8, .item 0] :=
  ⟨answers_as_queue (by decide) _, by decide⟩

end CircularBuffer

end CanSystems
