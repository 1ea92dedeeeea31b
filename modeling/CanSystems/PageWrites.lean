import CanSystems.SPIFlash

/-!
# A buffer over several pages

`writeBytes` splits a buffer at the page boundaries, in 16-bit registers. Here
its loop is run in these registers, without a bound that is its own: it ends, it
is the loop over the bytes that are left, and what it sends is one ideal write.
A refused command ends it after the pages before, which hold a prefix of the
buffer.
-/

namespace CanSystems

namespace SPIFlash

/-- The registers of the loop; `ptr` counts from the start of the caller's buffer. -/
structure WriteRegs where
  addr : UInt32
  ptr : Nat
  len : UInt16
  maxBytes : UInt16

namespace WriteRegs

def start (addr : UInt32) (len : UInt16) : WriteRegs := ⟨addr, 0, len, (256 - addr % 256).toUInt16⟩

def n (r : WriteRegs) : UInt16 := if r.len ≤ r.maxBytes then r.len else r.maxBytes

def next (r : WriteRegs) : WriteRegs := ⟨r.addr + r.n.toUInt32, r.ptr + r.n.toNat, r.len - r.n, 256⟩

end WriteRegs

/-- The loop of `writeBytes`, or `none` where it has not ended after `fuel` rounds. -/
def writeRounds (buf : List UInt8) : Nat → SPIFlash → WriteRegs → Option (Bool × SPIFlash)
  | 0, _, _ => none
  | fuel + 1, f, r =>
    if r.len = 0 then some (true, f) else
    match f.command true with
    | (false, f) => some (false, f)
    | (true, f) =>
      writeRounds buf fuel (f.pageProgram (sentAddress r.addr.toNat) ((buf.drop r.ptr).take r.n.toNat)) r.next

/-! ## The registers hold what the loop over the bytes works on -/

def WriteRegs.left (r : WriteRegs) (buf : List UInt8) : List UInt8 := (buf.drop r.ptr).take r.len.toNat

/-- The buffer holds the bytes that are left, the address does not wrap over them, and a
round sends some. -/
structure WriteRegs.Fit (r : WriteRegs) (buf : List UInt8) : Prop where
  inBuffer : r.ptr + r.len.toNat ≤ buf.length
  noWrap : r.addr.toNat + r.len.toNat < 2 ^ 32
  room : 0 < r.maxBytes.toNat

namespace WriteRegs

variable {r : WriteRegs} {buf : List UInt8}

theorem n_toNat (r : WriteRegs) : r.n.toNat = min r.len.toNat r.maxBytes.toNat := by
  unfold n
  split <;> rename_i h <;> rw [UInt16.le_iff_toNat_le] at h <;> omega

theorem Fit.length_left (h : r.Fit buf) : (r.left buf).length = r.len.toNat := by
  have := h.inBuffer
  simp only [left, List.length_take, List.length_drop]; omega

theorem Fit.next_addr (h : r.Fit buf) : r.next.addr.toNat = r.addr.toNat + r.n.toNat := by
  have := h.noWrap
  have := r.n_toNat
  simp only [next, UInt32.toNat_add, UInt16.toNat_toUInt32]
  exact Nat.mod_eq_of_lt (by omega)

theorem next_len (r : WriteRegs) : r.next.len.toNat = r.len.toNat - r.n.toNat := by
  have := r.n_toNat
  simp only [next]
  rw [UInt16.toNat_sub_of_le _ _ (by rw [UInt16.le_iff_toNat_le]; omega)]

theorem Fit.next (h : r.Fit buf) : r.next.Fit buf := by
  have haddr := h.next_addr
  have hlen := r.next_len
  have hn := r.n_toNat
  obtain ⟨hbuf, hwrap, -⟩ := h
  refine ⟨?_, by omega, ?_⟩
  · show r.ptr + r.n.toNat + r.next.len.toNat ≤ buf.length
    omega
  · simp [WriteRegs.next]

theorem left_next (r : WriteRegs) (buf : List UInt8) : r.next.left buf = (r.left buf).drop r.n.toNat := by
  have hn := r.n_toNat
  unfold left
  rw [r.next_len, List.drop_take]
  simp only [WriteRegs.next, List.drop_drop]

theorem start_maxBytes (addr : UInt32) (len : UInt16) :
    (start addr len).maxBytes.toNat = pageSize - addr.toNat % pageSize := by
  have hlt : addr.toNat % 256 < 256 := Nat.mod_lt _ (by decide)
  have hle : addr % 256 ≤ 256 := by
    rw [UInt32.le_iff_toNat_le, UInt32.toNat_mod]
    exact Nat.le_of_lt hlt
  simp only [start, UInt32.toNat_toUInt16, UInt32.toNat_sub_of_le _ _ hle, UInt32.toNat_mod, pageSize]
  exact Nat.mod_eq_of_lt (Nat.lt_of_le_of_lt (Nat.sub_le _ _) (by decide))

theorem start_fit {addr : UInt32} {len : UInt16} (hbuf : len.toNat ≤ buf.length)
    (hwrap : addr.toNat + len.toNat < 2 ^ 32) : (start addr len).Fit buf := by
  have hlt : addr.toNat % pageSize < pageSize := Nat.mod_lt _ (by decide)
  refine ⟨?_, hwrap, ?_⟩
  · show 0 + len.toNat ≤ buf.length
    omega
  · rw [start_maxBytes]; omega

end WriteRegs

/-- In its registers the loop ends, and it does what the loop over the bytes left does. -/
theorem writeRounds_eq {buf : List UInt8} {fuel bound : Nat} {f : SPIFlash} {r : WriteRegs} (h : r.Fit buf)
    (hfuel : r.len.toNat < fuel) (hbound : r.len.toNat ≤ bound) :
    writeRounds buf fuel f r = some (writeLoop bound f r.addr.toNat (r.left buf) r.maxBytes.toNat) := by
  induction fuel generalizing bound f r with
  | zero => omega
  | succ fuel ih =>
    have hleft := h.length_left
    have hn := r.n_toNat
    unfold writeRounds
    by_cases hlen : r.len = 0
    · have hnil : r.left buf = [] := List.length_eq_zero_iff.mp (by rw [hleft, hlen]; rfl)
      rw [if_pos hlen, hnil, writeLoop_nil]
    have hpos : 0 < r.len.toNat := Nat.pos_of_ne_zero fun e => hlen (UInt16.toNat_inj.mp e)
    have hroom := h.room
    obtain ⟨bound, rfl⟩ : ∃ k, bound = k + 1 := ⟨bound - 1, by omega⟩
    have hsome : r.left buf ≠ [] := List.length_pos_iff.mp (by omega)
    have hround : (buf.drop r.ptr).take r.n.toNat = (r.left buf).take r.n.toNat := by
      rw [WriteRegs.left, List.take_take, Nat.min_eq_left (by omega)]
    have hnext := r.next_len
    rw [if_neg hlen]
    rcases hg : f.command true with ⟨_ | _, g⟩
    · rw [writeLoop_stops hsome hg]
    rw [writeLoop_sends hsome hg _ (by rw [hleft, ← hn])]
    simp only
    rw [ih h.next (by omega) (show r.next.len.toNat ≤ bound by omega), h.next_addr, WriteRegs.left_next, hround]
    simp [WriteRegs.next, pageSize]

/-- The driver's loop is `writeBytes`. -/
theorem writeRounds_writeBytes {buf : List UInt8} {addr : UInt32} {len : UInt16} (f : SPIFlash)
    (hbuf : len.toNat ≤ buf.length) (hwrap : addr.toNat + len.toNat < 2 ^ 32) {fuel : Nat}
    (hfuel : len.toNat < fuel) :
    writeRounds buf fuel f (.start addr len) = some (f.writeBytes addr.toNat (buf.take len.toNat)) := by
  have hlen : (buf.take len.toNat).length = len.toNat := by rw [List.length_take]; omega
  rw [writeRounds_eq (WriteRegs.start_fit hbuf hwrap) hfuel (Nat.le_refl _), WriteRegs.start_maxBytes, writeBytes,
    hlen]
  rfl

/-! ## One command a page -/

/-- The pages that `len` bytes from `addr` on lie in. -/
def pages (addr len : Nat) : Nat := if len = 0 then 0 else (addr % pageSize + len + (pageSize - 1)) / pageSize

@[simp] theorem pages_zero (addr : Nat) : pages addr 0 = 0 := rfl

theorem pages_step {addr len n : Nat} (hlen : 0 < len) (hn : n = min len (pageSize - addr % pageSize)) :
    pages addr len = pages (addr + n) (len - n) + 1 := by
  unfold pages
  simp only [pageSize] at *
  split <;> split <;> omega

/-- A write reports success exactly when the chip answers both waits of every page. -/
theorem writeLoop_ok {fuel : Nat} {f : SPIFlash} {addr : Nat} {buf : List UInt8} {maxBytes : Nat}
    (hfuel : buf.length ≤ fuel) (hmax : maxBytes = pageSize - addr % pageSize) :
    (writeLoop fuel f addr buf maxBytes).1 = true ↔ ∀ i < 2 * pages addr buf.length, f.ready i = true := by
  induction fuel generalizing f addr buf maxBytes with
  | zero =>
    obtain rfl : buf = [] := List.length_eq_zero_iff.mp (by omega)
    simp
  | succ fuel ih =>
    by_cases hb : buf = []
    · subst hb; simp
    have hlen : 0 < buf.length := List.length_pos_iff.mpr hb
    have hlt : addr % pageSize < pageSize := Nat.mod_lt _ (by decide)
    have hc := f.command_write
    have hready (h : (f.command true).1 = true) := command_write_ready h
    rw [pages_step hlen rfl, ← hmax]
    rcases hg : f.command true with ⟨_ | _, g⟩ <;> rw [hg] at hc hready
    · rw [writeLoop_stops hb hg]
      refine iff_of_false Bool.false_ne_true fun hall => ?_
      rw [hall 0 (by omega), hall 1 (by omega)] at hc
      cases hc
    -- the command is taken: the rest goes by the answers after its two waits
    · have hfirst := Bool.and_eq_true_iff.mp hc.symm
      generalize hn : min buf.length maxBytes = n
      rw [writeLoop_sends hb hg addr hn]
      have hnext : (writeLoop fuel (g.pageProgram (sentAddress addr) (buf.take n)) (addr + n)
        (buf.drop n) pageSize).1
          = true ↔ ∀ i < 2 * pages (addr + n) (buf.length - n), g.ready i = true := by
        by_cases hle : buf.length ≤ maxBytes
        · obtain rfl : n = buf.length := by omega
          rw [List.drop_of_length_le (Nat.le_refl _), writeLoop_nil]
          simp
        · have haligned : (addr + n) % pageSize = 0 := by simp only [pageSize] at *; omega
          rw [← List.length_drop]
          exact ih (by rw [List.length_drop]; omega) (by rw [haligned]; rfl)
      rw [hnext]
      constructor
      · intro hall i hi
        rcases i with _ | _ | i
        · exact hfirst.1
        · exact hfirst.2
        · rw [← hready rfl i]; exact hall i (by omega)
      · intro hall i hi
        rw [hready rfl i]
        exact hall (i + 2) (by omega)

theorem writeLoop_refused {fuel : Nat} {f : SPIFlash} {addr : Nat} {buf : List UInt8} {maxBytes : Nat}
    (hmax : maxBytes = pageSize - addr % pageSize) (haddr : addr + buf.length ≤ 2 ^ 24)
    (h : (writeLoop fuel f addr buf maxBytes).1 = false) :
    ∃ k < buf.length, (writeLoop fuel f addr buf maxBytes).2.mem = Nor.write f.mem addr (buf.take k) := by
  induction fuel generalizing f addr buf maxBytes with
  | zero => cases h
  | succ fuel ih =>
    by_cases hb : buf = []
    · subst hb; rw [writeLoop_nil] at h; cases h
    have hlen : 0 < buf.length := List.length_pos_iff.mpr hb
    have hlt : addr % pageSize < pageSize := Nat.mod_lt _ (by decide)
    have hc := f.command_same true
    rcases hg : f.command true with ⟨_ | _, g⟩ <;> rw [hg] at hc
    · rw [writeLoop_stops hb hg]
      exact ⟨0, hlen, by simpa using hc.mem⟩
    · rw [writeLoop_sends hb hg addr rfl] at h ⊢
      have hpage : addr % pageSize + min buf.length maxBytes ≤ pageSize := by omega
      have hsent : sentAddress addr = addr := sentAddress_of_lt (by omega)
      by_cases hle : buf.length ≤ maxBytes
      · rw [Nat.min_eq_left hle, List.drop_of_length_le (Nat.le_refl _), writeLoop_nil] at h
        cases h
      · rw [Nat.min_eq_right (by omega)] at h hpage ⊢
        have haligned : (addr + maxBytes) % pageSize = 0 := by rw [hmax]; simp only [pageSize] at *; omega
        obtain ⟨k, hk, hmem⟩ := ih (by rw [haligned]; rfl) (by rw [List.length_drop]; omega) h
        rw [List.length_drop] at hk
        refine ⟨maxBytes + k, by omega, ?_⟩
        rw [hmem, hsent, pageProgram_then_write hc (by omega) hpage]

theorem writeBytes_ok (f : SPIFlash) (addr : Nat) (buf : List UInt8) :
    (f.writeBytes addr buf).1 = true ↔ ∀ i < 2 * pages addr buf.length, f.ready i = true :=
  writeLoop_ok (Nat.le_refl _) rfl

theorem writeBytes_refused {f : SPIFlash} {addr : Nat} {buf : List UInt8} (haddr : addr + buf.length ≤ 2 ^ 24)
    (h : (f.writeBytes addr buf).1 = false) :
    ∃ k < buf.length, (f.writeBytes addr buf).2.mem = Nor.write f.mem addr (buf.take k) :=
  writeLoop_refused rfl haddr h

/-! ## The ideal write -/

/-- The first `k` bytes of the buffer are ANDed into the cells from `addr` on, and nothing
else has changed. -/
structure Applied (f : SPIFlash) (addr : Nat) (buf : List UInt8) (k : Nat) (g : SPIFlash) : Prop where
  cells : ∀ i : Fin buf.length, i < k → g.mem (addr + i) = f.mem (addr + i) &&& buf.get i
  frame : ∀ a, a < addr ∨ addr + k ≤ a → g.mem a = f.mem a

theorem applied_of_write {f g : SPIFlash} {addr k : Nat} {buf : List UInt8} (hk : k ≤ buf.length)
    (h : g.mem = Nor.write f.mem addr (buf.take k)) : Applied f addr buf k g := by
  have hlen : (buf.take k).length = k := by rw [List.length_take]; omega
  constructor
  · intro i hi
    rw [h, Nor.write_at (by omega), List.getElem_take]
    rfl
  · intro a ha
    rw [h, Nor.write_frame (by rw [hlen]; exact ha)]

/-- Every write inside the 2^24 cells that three address bytes reach: the loop ends, no command
leaves its page, and it is the ideal write of the whole buffer if the chip answers all the
waits, and of a prefix if it refuses one. -/
theorem writeBytes_ideal (f : SPIFlash) (addr : UInt32) (buf : List UInt8) (len : UInt16)
    (hbuf : len.toNat ≤ buf.length) (haddr : addr.toNat < 2 ^ 24) (hchip : addr.toNat + len.toNat ≤ 2 ^ 24) :
    ∃ ok g, (∀ fuel, len.toNat < fuel → writeRounds buf fuel f (.start addr len) = some (ok, g)) ∧
      (∃ ps, g.issued = ps ++ f.issued ∧
        ∀ p ∈ ps, PageProgram.Within addr.toNat (addr.toNat + len.toNat) p) ∧
      ((∀ i < 2 * pages addr.toNat len.toNat, f.ready i = true) →
        ok = true ∧ Applied f addr.toNat buf len.toNat g) ∧
      ((∃ i < 2 * pages addr.toNat len.toNat, f.ready i = false) →
        ok = false ∧ ∃ k < len.toNat, Applied f addr.toNat buf k g) := by
  have hlen : (buf.take len.toNat).length = len.toNat := by rw [List.length_take]; omega
  have hsent := sentAddress_of_lt haddr
  have hwrote := f.writeBytes_spec addr.toNat (buf.take len.toNat) (by rw [hsent, hlen]; exact hchip)
  have hissued := hwrote.issued
  have hok := f.writeBytes_ok addr.toNat (buf.take len.toNat)
  have hrefused : (f.writeBytes addr.toNat (buf.take len.toNat)).1 = false → ∃ k < (buf.take len.toNat).length,
      (f.writeBytes addr.toNat (buf.take len.toNat)).2.mem = Nor.write f.mem addr.toNat
        ((buf.take len.toNat).take k) :=
    writeBytes_refused (by rw [hlen]; exact hchip)
  rw [hlen] at hok hrefused hissued
  rw [hsent] at hissued
  refine ⟨_, _, fun fuel hfuel => writeRounds_writeBytes f hbuf (by omega) hfuel, hissued, fun hall => ?_, ?_⟩
  · obtain ⟨k, -, hmem, hwhole⟩ := hwrote.mem
    have hk : k = len.toNat := (hwhole (hok.mpr hall)).trans hlen
    rw [hsent, hk, List.take_take, Nat.min_self] at hmem
    exact ⟨hok.mpr hall, applied_of_write hbuf hmem⟩
  · rintro ⟨i, hi, hready⟩
    have hfalse : (f.writeBytes addr.toNat (buf.take len.toNat)).1 = false := by
      refine Bool.eq_false_iff.mpr fun htrue => ?_
      rw [hok.mp htrue i hi] at hready
      cases hready
    obtain ⟨k, hk, hmem⟩ := hrefused hfalse
    rw [List.take_take, Nat.min_eq_left (by omega)] at hmem
    exact ⟨hfalse, k, hk, applied_of_write (by omega) hmem⟩

def refusesSecondPage : SPIFlash := ⟨Nor.erased, 20, fun n => decide (n < 3), []⟩

theorem writeBytes_ideal_refusesSecondPage :
    ∃ ok g, (∀ fuel, 4 < fuel → writeRounds [1, 2, 3, 4] fuel refusesSecondPage (.start 254 4) = some (ok, g)) ∧
      (∃ ps, g.issued = ps ++ refusesSecondPage.issued ∧ ∀ p ∈ ps, PageProgram.Within 254 258 p) ∧
      ((∀ i < 2 * pages 254 4, refusesSecondPage.ready i = true) →
        ok = true ∧ Applied refusesSecondPage 254 [1, 2, 3, 4] 4 g) ∧
      ((∃ i < 2 * pages 254 4, refusesSecondPage.ready i = false) →
        ok = false ∧ ∃ k < 4, Applied refusesSecondPage 254 [1, 2, 3, 4] k g) :=
  writeBytes_ideal refusesSecondPage 254 [1, 2, 3, 4] 4 (by decide) (by decide) (by decide)

end SPIFlash

end CanSystems
