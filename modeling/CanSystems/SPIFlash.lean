import Mathlib.Algebra.Group.Nat.Defs
import CanSystems.Lib.Nor

/-!
# The SPI flash driver

The driver and the NOR chip behind it. Every command first waits for the chip;
`ready` holds the answers these waits and the status polls will get, so a run is
a run over one pattern of refusals and of busy times. A refused command is not
sent. The array reads 0xFF from the moment the chip takes an erase: until the
erase is over it answers no other command, so no reader can tell.
-/

namespace CanSystems

structure PageProgram where
  addr : Nat
  data : List UInt8
  deriving DecidableEq, Repr

structure SPIFlash where
  mem : Nor.Mem
  densityCode : UInt8
  ready : Nat → Bool
  issued : List PageProgram

namespace SPIFlash

def pageSize : Nat := 256

def sentAddress (addr : Nat) : Nat :=
  (addr >>> 16) % 256 * 65536 + (addr >>> 8) % 256 * 256 + addr % 256

def waitUntilReady (f : SPIFlash) : Bool × SPIFlash :=
  (f.ready 0, { f with ready := fun n => f.ready (n + 1) })

/-- A write or erase is two commands: WRITE ENABLE, then the command itself. -/
def command (f : SPIFlash) (isWrite : Bool) : Bool × SPIFlash :=
  if isWrite then
    match f.waitUntilReady with
    | (false, f) => (false, f)
    | (true, f) => f.waitUntilReady
  else f.waitUntilReady

def busy (f : SPIFlash) : Bool × SPIFlash :=
  let (ready, f) := f.waitUntilReady
  (!ready, f)

def capacity (f : SPIFlash) : Nat × SPIFlash :=
  match f.command false with
  | (false, f) => (0, f)
  | (true, f) => (if f.densityCode = 0 ∨ 32 ≤ f.densityCode then 0 else 2 ^ f.densityCode.toNat, f)

/-- What the chip holds at the addresses `addr`, `addr + 1`, ... as they are sent. -/
def bytes (f : SPIFlash) (addr len : Nat) : List UInt8 :=
  (List.range len).map fun i => f.mem (sentAddress (addr + i))

def readBytes (f : SPIFlash) (addr len : Nat) : Bool × List UInt8 × SPIFlash :=
  match f.command false with
  | (false, f) => (false, List.replicate len 0, f)
  | (true, f) => (true, f.bytes addr len, f)

def pageProgram (f : SPIFlash) (addr : Nat) (data : List UInt8) : SPIFlash :=
  { f with mem := Nor.pageProgram pageSize f.mem addr data, issued := ⟨addr, data⟩ :: f.issued }

/-- The loop of `writeBytes`; it sends at least one byte a round, so the length bounds it. -/
def writeLoop : Nat → SPIFlash → Nat → List UInt8 → Nat → Bool × SPIFlash
  | 0, f, _, _, _ => (true, f)
  | fuel + 1, f, addr, buf, maxBytes =>
    if buf = [] then (true, f) else
    let n := min buf.length maxBytes
    match f.command true with
    | (false, f) => (false, f)
    | (true, f) => writeLoop fuel (f.pageProgram (sentAddress addr) (buf.take n)) (addr + n) (buf.drop n) pageSize

def writeBytes (f : SPIFlash) (addr : Nat) (buf : List UInt8) : Bool × SPIFlash :=
  writeLoop buf.length f addr buf (pageSize - addr % pageSize)

def chipErase (f : SPIFlash) : Bool × SPIFlash :=
  match f.command true with
  | (false, f) => (false, f)
  | (true, f) => (true, { f with mem := Nor.erased })

/-! ## Addresses -/

theorem sentAddress_eq (addr : Nat) : sentAddress addr = addr % 2 ^ 24 := by
  unfold sentAddress
  simp only [Nat.shiftRight_eq_div_pow]
  omega

theorem sentAddress_of_lt {addr : Nat} (h : addr < 2 ^ 24) : sentAddress addr = addr := by
  rw [sentAddress_eq, Nat.mod_eq_of_lt h]

theorem sentAddress_add {addr i : Nat} (h : sentAddress addr + i < 2 ^ 24) :
    sentAddress (addr + i) = sentAddress addr + i := by
  simp only [sentAddress_eq] at *; omega

theorem bytes_eq_slice {f : SPIFlash} {addr len : Nat} (h : sentAddress addr + len ≤ 2 ^ 24) :
    f.bytes addr len = Nor.slice f.mem (sentAddress addr) len := by
  apply List.map_congr_left
  intro i hi
  rw [sentAddress_add (by have := List.mem_range.mp hi; omega)]

@[simp] theorem length_bytes (f : SPIFlash) (addr len : Nat) : (f.bytes addr len).length = len := by
  simp [bytes]

theorem bytes_add (f : SPIFlash) (addr n k : Nat) :
    f.bytes addr (n + k) = f.bytes addr n ++ f.bytes (addr + n) k := by
  simp [bytes, List.range_add, List.map_map, Function.comp_def, Nat.add_assoc]

/-! ## Waits change nothing but the answers to come -/

structure SameChip (f g : SPIFlash) : Prop where
  mem : g.mem = f.mem
  densityCode : g.densityCode = f.densityCode
  issued : g.issued = f.issued

theorem SameChip.refl (f : SPIFlash) : SameChip f f := ⟨rfl, rfl, rfl⟩

theorem SameChip.trans {f g h : SPIFlash} (a : SameChip f g) (b : SameChip g h) : SameChip f h :=
  ⟨b.mem.trans a.mem, b.densityCode.trans a.densityCode, b.issued.trans a.issued⟩

theorem SameChip.bytes {f g : SPIFlash} (h : SameChip f g) (addr len : Nat) :
    g.bytes addr len = f.bytes addr len := by
  simp only [SPIFlash.bytes, h.mem]

theorem waitUntilReady_same (f : SPIFlash) : SameChip f f.waitUntilReady.2 := ⟨rfl, rfl, rfl⟩

theorem command_same (f : SPIFlash) (isWrite : Bool) : SameChip f (f.command isWrite).2 := by
  unfold command
  cases isWrite with
  | false => exact f.waitUntilReady_same
  | true =>
    simp only [ite_true]
    split
    · rename_i g h; exact ⟨congrArg (·.2.mem) h.symm, congrArg (·.2.densityCode) h.symm,
        congrArg (·.2.issued) h.symm⟩
    · rename_i g h
      have e : g = f.waitUntilReady.2 := congrArg (·.2) h.symm
      subst e
      exact f.waitUntilReady_same.trans (waitUntilReady_same _)

theorem command_write (f : SPIFlash) : (f.command true).1 = (f.ready 0 && f.ready 1) := by
  cases h : f.ready 0 <;> simp [command, waitUntilReady, h]

theorem command_write_ready {f : SPIFlash} (h : (f.command true).1 = true) (n : Nat) :
    (f.command true).2.ready n = f.ready (n + 2) := by
  rw [command_write, Bool.and_eq_true] at h
  simp [command, waitUntilReady, h.1]

theorem busy_same (f : SPIFlash) : SameChip f f.busy.2 := f.waitUntilReady_same

theorem capacity_same (f : SPIFlash) : SameChip f f.capacity.2 := by
  have h := f.command_same false
  unfold capacity
  split <;> rename_i g hg <;> rw [hg] at h <;> exact h

theorem readBytes_same (f : SPIFlash) (addr len : Nat) : SameChip f (f.readBytes addr len).2.2 := by
  have h := f.command_same false
  unfold readBytes
  split <;> rename_i g hg <;> rw [hg] at h <;> exact h

theorem readBytes_ok {f : SPIFlash} {addr len : Nat} (h : (f.readBytes addr len).1 = true) :
    (f.readBytes addr len).2.1 = f.bytes addr len := by
  have hs := f.command_same false
  unfold readBytes at h ⊢
  split <;> rename_i g hg
  · rw [hg] at h; cases h
  · rw [hg] at hs; exact hs.bytes addr len

theorem readBytes_of_ready {f : SPIFlash} (h : f.ready 0 = true) (addr len : Nat) :
    (f.readBytes addr len).1 = true := by
  simp [readBytes, command, waitUntilReady, h]

theorem capacity_le {f : SPIFlash} {code : Nat} (h : f.densityCode.toNat ≤ code) : f.capacity.1 ≤ 2 ^ code := by
  have hs := (f.command_same false).densityCode
  unfold capacity
  split <;> rename_i g hg <;> rw [hg] at hs
  · exact Nat.zero_le _
  · simp only at hs ⊢
    split
    · exact Nat.zero_le _
    · rw [hs]; exact Nat.pow_le_pow_right (by omega) h

theorem chipErase_spec (f : SPIFlash) :
    f.chipErase.2.densityCode = f.densityCode ∧ f.chipErase.2.issued = f.issued ∧
      f.chipErase.2.mem = if f.chipErase.1 then Nor.erased else f.mem := by
  have h := f.command_same true
  unfold chipErase
  split <;> rename_i g hg <;> rw [hg] at h
  · exact ⟨h.densityCode, h.issued, h.mem⟩
  · exact ⟨h.densityCode, h.issued, rfl⟩

theorem chipErase_ff {f : SPIFlash} {a : Nat} (h : f.mem a = 0xFF) : f.chipErase.2.mem a = 0xFF := by
  rw [f.chipErase_spec.2.2]
  split
  · rfl
  · exact h

/-! ## Writing -/

/-- A program command that stays between `lo` and `hi`, and in its page. -/
def PageProgram.Within (lo hi : Nat) (p : PageProgram) : Prop :=
  lo ≤ p.addr ∧ p.addr + p.data.length ≤ hi ∧ p.addr % pageSize + p.data.length ≤ pageSize

/-- What a write of `buf` at `addr` has done when it ends: a prefix of `buf` is in the
cells, all of it when the write reports success. -/
structure Wrote (f : SPIFlash) (addr : Nat) (buf : List UInt8) (ok : Bool) (g : SPIFlash) : Prop where
  densityCode : g.densityCode = f.densityCode
  mem : ∃ k ≤ buf.length, g.mem = Nor.write f.mem addr (buf.take k) ∧ (ok = true → k = buf.length)
  issued : ∃ ps : List PageProgram, g.issued = ps ++ f.issued ∧
    ∀ p ∈ ps, PageProgram.Within addr (addr + buf.length) p

@[simp] theorem writeLoop_nil (fuel : Nat) (f : SPIFlash) (addr maxBytes : Nat) :
    writeLoop fuel f addr [] maxBytes = (true, f) := by
  cases fuel <;> simp [writeLoop]

theorem writeLoop_stops {fuel : Nat} {f g : SPIFlash} {buf : List UInt8} (hb : buf ≠ [])
    (hg : f.command true = (false, g)) (addr maxBytes : Nat) :
    writeLoop (fuel + 1) f addr buf maxBytes = (false, g) := by
  rw [writeLoop, if_neg hb, hg]

theorem writeLoop_sends {fuel : Nat} {f g : SPIFlash} {buf : List UInt8} (hb : buf ≠ [])
    (hg : f.command true = (true, g)) (addr : Nat) {maxBytes n : Nat} (hn : min buf.length maxBytes = n) :
    writeLoop (fuel + 1) f addr buf maxBytes =
      writeLoop fuel (g.pageProgram (sentAddress addr) (buf.take n)) (addr + n) (buf.drop n) pageSize := by
  rw [writeLoop, if_neg hb, hn, hg]

theorem Wrote.done (f : SPIFlash) (addr : Nat) : Wrote f addr [] true f :=
  ⟨rfl, ⟨0, by simp, by simp, fun _ => rfl⟩, ⟨[], rfl, by simp⟩⟩

theorem Wrote.refused {f g : SPIFlash} (h : SameChip f g) (addr : Nat) (buf : List UInt8) :
    Wrote f addr buf false g :=
  ⟨h.densityCode, ⟨0, by omega, by simpa using h.mem, by simp⟩, ⟨[], h.issued, by simp⟩⟩

/-- A program of the first `n` bytes, and then a write of `k` more, is one write. -/
theorem pageProgram_then_write {f g : SPIFlash} {addr n : Nat} {buf : List UInt8} (h : SameChip f g)
    (hn : n ≤ buf.length) (hpage : addr % pageSize + n ≤ pageSize) (k : Nat) :
    Nor.write (g.pageProgram addr (buf.take n)).mem (addr + n) ((buf.drop n).take k) =
      Nor.write f.mem addr (buf.take (n + k)) := by
  have htake : (buf.take n).length = n := by simp; omega
  have hone : (g.pageProgram addr (buf.take n)).mem = Nor.write f.mem addr (buf.take n) := by
    simp only [pageProgram]
    rw [Nor.pageProgram_eq_write (by decide) _ _ _ (by rw [htake]; exact hpage), h.mem]
  have happend := Nor.write_append f.mem addr (buf.take n) ((buf.drop n).take k)
  rw [htake] at happend
  rw [hone, happend, ← List.take_add]

theorem Wrote.command {f g r : SPIFlash} {addr n : Nat} {buf : List UInt8} {ok : Bool} (h : SameChip f g)
    (hn : n ≤ buf.length) (hpage : addr % pageSize + n ≤ pageSize) (hpos : 0 < n)
    (hr : Wrote (g.pageProgram addr (buf.take n)) (addr + n) (buf.drop n) ok r) :
    Wrote f addr buf ok r := by
  have htake : (buf.take n).length = n := by simp; omega
  obtain ⟨k, hk, hmem, hok⟩ := hr.mem
  obtain ⟨ps, hps, hin⟩ := hr.issued
  rw [List.length_drop] at hk hok
  refine ⟨hr.densityCode.trans h.densityCode, ⟨n + k, by omega, ?_, fun e => by have := hok e; omega⟩,
    ⟨ps ++ [⟨addr, buf.take n⟩], ?_, ?_⟩⟩
  · rw [hmem, pageProgram_then_write h hn hpage]
  · rw [hps]; simp [pageProgram, h.issued]
  · intro p hp
    rcases List.mem_append.mp hp with hp | hp
    · obtain ⟨h₁, h₂, h₃⟩ := hin p hp
      rw [List.length_drop] at h₂
      exact ⟨by omega, by omega, h₃⟩
    · rw [List.mem_singleton.mp hp]
      exact ⟨Nat.le_refl _, by simp only [htake]; omega, by simp only [htake]; exact hpage⟩

theorem writeLoop_spec {fuel : Nat} {f : SPIFlash} {addr : Nat} {buf : List UInt8} {maxBytes : Nat}
    (hfuel : buf.length ≤ fuel) (hmax : 0 < maxBytes) (hpage : addr % pageSize + maxBytes ≤ pageSize)
    (hnext : (addr + maxBytes) % pageSize = 0) (haddr : sentAddress addr + buf.length ≤ 2 ^ 24) :
    Wrote f (sentAddress addr) buf (writeLoop fuel f addr buf maxBytes).1
      (writeLoop fuel f addr buf maxBytes).2 := by
  induction fuel generalizing f addr buf maxBytes with
  | zero =>
    have : buf = [] := List.length_eq_zero_iff.mp (by omega)
    subst this
    exact Wrote.done f _
  | succ fuel ih =>
    by_cases hb : buf = []
    · subst hb; simpa using Wrote.done f _
    have hlen : 0 < buf.length := List.length_pos_iff.mpr hb
    have hc := f.command_same true
    rcases hg : f.command true with ⟨_ | _, g⟩ <;> rw [hg] at hc
    · rw [writeLoop_stops hb hg]
      exact Wrote.refused hc _ buf
    · rw [writeLoop_sends hb hg addr rfl]
      have hsent : sentAddress addr % pageSize = addr % pageSize := by
        rw [sentAddress_eq, Nat.mod_mod_of_dvd _ (by decide)]
      refine Wrote.command (n := min buf.length maxBytes) hc (Nat.min_le_left _ _) (by rw [hsent]; omega)
        (by omega) ?_
      by_cases hle : buf.length ≤ maxBytes
      · have hd : buf.drop (min buf.length maxBytes) = [] := by rw [Nat.min_eq_left hle]; simp
        rw [hd, writeLoop_nil]
        exact Wrote.done _ _
      · have hm : min buf.length maxBytes = maxBytes := by omega
        have hstep : sentAddress (addr + maxBytes) = sentAddress addr + maxBytes := by
          rw [sentAddress_eq] at haddr
          rw [sentAddress_eq, sentAddress_eq]; omega
        rw [hm, ← hstep]
        exact ih (by simp; omega) (by decide) (by rw [hnext]; decide) (by rw [Nat.add_mod, hnext]; decide)
          (by rw [hstep]; simp; omega)

theorem writeBytes_spec (f : SPIFlash) (addr : Nat) (buf : List UInt8)
    (haddr : sentAddress addr + buf.length ≤ 2 ^ 24) :
    Wrote f (sentAddress addr) buf (f.writeBytes addr buf).1 (f.writeBytes addr buf).2 := by
  have hlt : addr % pageSize < pageSize := Nat.mod_lt _ (by decide)
  have hnext : (addr + (pageSize - addr % pageSize)) % pageSize = 0 := by
    simp only [pageSize] at *; omega
  exact writeLoop_spec (Nat.le_refl _) (by omega) (by omega) hnext haddr

/-! ## A chip that is ready for good -/

def AlwaysReady (f : SPIFlash) : Prop := ∀ n, f.ready n = true

theorem AlwaysReady.command {f : SPIFlash} (h : f.AlwaysReady) (isWrite : Bool) :
    (f.command isWrite).1 = true ∧ (f.command isWrite).2.AlwaysReady := by
  cases isWrite with
  | false => exact ⟨h 0, fun n => h (n + 1)⟩
  | true =>
    simp only [SPIFlash.command, waitUntilReady, h 0, if_true]
    exact ⟨h 1, fun n => h (n + 2)⟩

theorem AlwaysReady.readBytes {f : SPIFlash} (h : f.AlwaysReady) (addr len : Nat) :
    (f.readBytes addr len).1 = true ∧ (f.readBytes addr len).2.1 = f.bytes addr len ∧
      (f.readBytes addr len).2.2.AlwaysReady := by
  have hok := readBytes_of_ready (h 0) addr len
  refine ⟨hok, readBytes_ok hok, ?_⟩
  have hc := h.command false
  unfold SPIFlash.readBytes
  split <;> rename_i g hg <;> rw [hg] at hc
  · exact hc.2
  · exact hc.2

theorem AlwaysReady.writeLoop {fuel : Nat} {f : SPIFlash} (h : f.AlwaysReady) (addr : Nat) (buf : List UInt8)
    (maxBytes : Nat) :
    (writeLoop fuel f addr buf maxBytes).1 = true ∧ (writeLoop fuel f addr buf maxBytes).2.AlwaysReady := by
  induction fuel generalizing f addr buf maxBytes with
  | zero => exact ⟨rfl, h⟩
  | succ fuel ih =>
    by_cases hb : buf = []
    · rw [hb, writeLoop_nil]
      exact ⟨rfl, h⟩
    have hc := h.command true
    rcases hg : f.command true with ⟨_ | _, g⟩ <;> rw [hg] at hc
    · exact absurd hc.1 (by simp)
    · rw [writeLoop_sends hb hg addr rfl]
      exact ih (f := g.pageProgram (sentAddress addr) (buf.take (min buf.length maxBytes))) hc.2 _ _ _

theorem AlwaysReady.writeBytes {f : SPIFlash} (h : f.AlwaysReady) (addr : Nat) (buf : List UInt8) :
    (f.writeBytes addr buf).1 = true ∧ (f.writeBytes addr buf).2.AlwaysReady :=
  h.writeLoop addr buf _

theorem AlwaysReady.write_mem {f : SPIFlash} (h : f.AlwaysReady) (addr : Nat) (buf : List UInt8)
    (haddr : sentAddress addr + buf.length ≤ 2 ^ 24) :
    (f.writeBytes addr buf).2.mem = Nor.write f.mem (sentAddress addr) buf := by
  obtain ⟨k, hk, hmem, hall⟩ := (f.writeBytes_spec addr buf haddr).mem
  rw [hmem, hall (h.writeBytes addr buf).1, List.take_length]

def quickFlash : SPIFlash := ⟨Nor.erased, 20, fun n => decide (n ≠ 3), []⟩

end SPIFlash

end CanSystems
