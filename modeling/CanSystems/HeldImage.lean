import CanSystems.OTA

/-!
# The image a transfer holds

While a transfer is open its image is split: the first two bytes are in memory
and the rest is in the flash. `held` joins them. The closing check computes the
checksum of `held`, and the two bytes it writes back make the flash hold it.
-/

namespace CanSystems

namespace OTA

/-- What `start` grants: the block begins on a block boundary and the image fits the block. -/
structure Placed (ota : OTA) : Prop where
  aligned : ota.flashBlockBeginAddress % flashBlockTobytes = 0
  fits : ota.fwSize ≤ programMemorySize

theorem Placed.room {ota : OTA} (h : ota.Placed) :
    SPIFlash.sentAddress ota.flashBlockBeginAddress + flashBlockTobytes ≤ 2 ^ 24 := by
  have := h.aligned
  rw [SPIFlash.sentAddress_eq]
  simp only [flashBlockTobytes] at *; omega

theorem Placed.sent {ota : OTA} (h : ota.Placed) {i : Nat} (hi : i < flashBlockTobytes) :
    SPIFlash.sentAddress (ota.flashBlockBeginAddress + i) = SPIFlash.sentAddress ota.flashBlockBeginAddress +
      i := by
  have := h.room
  exact SPIFlash.sentAddress_add (by omega)

def held (ota : OTA) : List UInt8 :=
  (ota.firstFwBytes.toList ++ ota.flash.bytes (ota.flashBlockBeginAddress + 2) (ota.fwSize - 2)).take ota.fwSize

@[simp] theorem length_held (ota : OTA) : ota.held.length = ota.fwSize := by
  simp [held]; omega

/-- `held` depends on the memory, the first bytes and the place only. -/
theorem held_congr {a b : OTA} (hm : b.flash.mem = a.flash.mem) (hf : b.firstFwBytes = a.firstFwBytes)
    (hb : b.flashBlockBeginAddress = a.flashBlockBeginAddress) (hs : b.fwSize = a.fwSize) : b.held = a.held := by
  simp only [held, SPIFlash.bytes, hm, hf, hb, hs]

theorem held_first {ota : OTA} {i : Nat} (hi : i < 2) (hs : i < ota.held.length) :
    ota.held[i] = ota.firstFwBytes[i] := by
  simp [held, hi]

theorem held_flash {ota : OTA} {i n : Nat} (hi : 2 ≤ i) (hn : i + n ≤ ota.fwSize) :
    (ota.held.drop i).take n = ota.flash.bytes (ota.flashBlockBeginAddress + i) n := by
  have hsplit : ota.fwSize - 2 = (i - 2) + (n + (ota.fwSize - i - n)) := by omega
  have haddr : ota.flashBlockBeginAddress + 2 + (i - 2) = ota.flashBlockBeginAddress + i := by omega
  have hlen : ota.firstFwBytes.toList.length = 2 := by simp
  unfold held
  rw [hsplit, SPIFlash.bytes_add, SPIFlash.bytes_add, haddr, List.drop_take, List.take_take,
    List.drop_append, List.drop_of_length_le (by rw [hlen]; exact hi), List.nil_append, hlen,
    List.drop_left' (by simp), Nat.min_eq_left (by omega), List.take_left' (by simp)]

/-! ## One chunk of the check -/

structure Checked (ota : OTA) : Prop where
  cursor : ota.flashPointer ≤ ota.fwSize
  crc : ota.crc16 = Crc16.init.next (ota.held.take ota.flashPointer)

theorem Checked.done {ota : OTA} (h : ota.Checked) (hp : ota.flashPointer = ota.fwSize) :
    ota.crc16.get = crcOf ota.held := by
  rw [h.crc, List.take_of_length_le (by simp [hp]), get_next_init]

/-- A chunk comes from memory, or it is read and the chip took the read. -/
def chunkReadable (ota : OTA) : Prop := ota.flashPointer < 2 ∨ ota.flash.ready 0 = true

instance (ota : OTA) : Decidable ota.chunkReadable := inferInstanceAs (Decidable (_ ∨ _))

structure SameImage (a b : OTA) : Prop where
  chip : SPIFlash.SameChip a.flash b.flash
  first : b.firstFwBytes = a.firstFwBytes
  size : b.fwSize = a.fwSize
  crc : b.fwCrc = a.fwCrc
  block : b.flashBlockBeginAddress = a.flashBlockBeginAddress
  state : b.otaState = a.otaState

theorem SameImage.held {a b : OTA} (h : SameImage a b) : b.held = a.held :=
  held_congr h.chip.mem h.first h.block h.size

theorem SameImage.placed {a b : OTA} (h : SameImage a b) (hp : a.Placed) : b.Placed :=
  ⟨by rw [h.block]; exact hp.aligned, by rw [h.size]; exact hp.fits⟩

theorem readNextCheckChunk_same (ota : OTA) : SameImage ota ota.readNextCheckChunk := by
  unfold readNextCheckChunk
  simp only
  split
  · exact ⟨.refl _, rfl, rfl, rfl, rfl, rfl⟩
  · exact ⟨ota.flash.readBytes_same _ _, rfl, rfl, rfl, rfl, rfl⟩

theorem checkChunk_same (ota : OTA) : SameImage ota ota.checkChunk := by
  unfold checkChunk
  split
  · exact ota.readNextCheckChunk_same
  · exact ⟨.refl _, rfl, rfl, rfl, rfl, rfl⟩

theorem readNextCheckChunk_checked {ota : OTA} (h : ota.Checked) (hlt : ota.flashPointer < ota.fwSize)
    (hr : ota.chunkReadable) : ota.readNextCheckChunk.Checked := by
  have hsame := ota.readNextCheckChunk_same
  suffices hnext : ∃ n, ota.readNextCheckChunk.flashPointer = ota.flashPointer + n ∧
    ota.flashPointer + n ≤ ota.fwSize ∧
      ota.readNextCheckChunk.crc16 = ota.crc16.next ((ota.held.drop ota.flashPointer).take n) by
    obtain ⟨n, hpointer, hle, hcrc⟩ := hnext
    refine ⟨by rw [hsame.size, hpointer]; exact hle, ?_⟩
    rw [hcrc, h.crc, hsame.held, hpointer, List.take_add, Crc16.next_append]
  unfold readNextCheckChunk
  simp only
  split
  · rename_i hp
    refine ⟨1, rfl, hlt, ?_⟩
    rw [List.take_one, List.head?_drop, List.getElem?_eq_getElem (by simpa using hlt), held_first hp]
    rfl
  · rename_i hp
    refine ⟨min (ota.fwSize - ota.flashPointer) checkChunkSize, rfl, by omega, ?_⟩
    have hread := SPIFlash.readBytes_of_ready (hr.resolve_left hp) (ota.flashBlockBeginAddress + ota.flashPointer)
      (min (ota.fwSize - ota.flashPointer) checkChunkSize)
    rw [held_flash (by omega) (by omega), ← SPIFlash.readBytes_ok hread]

theorem checkChunk_checked {ota : OTA} (h : ota.Checked) (hr : ota.flashPointer < ota.fwSize → ota.chunkReadable) :
    ota.checkChunk.Checked := by
  unfold checkChunk
  split
  · rename_i hlt; exact readNextCheckChunk_checked h hlt (hr hlt)
  · exact h

/-! ## The end of the check -/

/-- `finishCheck` touches the flash, in the first two bytes of the block, and the state. -/
theorem finishCheck_cases (ota : OTA) :
    (ota.fwCrc ≠ ota.crc16.get ∧ ota.finishCheck = { ota with otaState := .INVALID }) ∨
    (ota.fwCrc = ota.crc16.get ∧ ∃ flash state, (state = .VALID ∨ state = .INVALID) ∧
      ota.finishCheck = { ota with flash := flash, otaState := state } ∧
      (ota.Placed → flash.densityCode = ota.flash.densityCode ∧
        ∃ k ≤ 2, flash.mem = Nor.write ota.flash.mem (SPIFlash.sentAddress ota.flashBlockBeginAddress)
          (ota.firstFwBytes.toList.take k)) ∧
      (state = .VALID → flash.bytes ota.flashBlockBeginAddress 2 = ota.firstFwBytes.toList)) := by
  unfold finishCheck
  by_cases hc : ota.fwCrc = ota.crc16.get
  swap
  · exact Or.inl ⟨hc, if_pos hc⟩
  refine Or.inr ⟨hc, ?_⟩
  rw [if_neg (not_not_intro hc)]
  simp only
  have hwrote (hp : ota.Placed) := ota.flash.writeBytes_spec ota.flashBlockBeginAddress
    ota.firstFwBytes.toList (by have := hp.room; simp [flashBlockTobytes] at *; omega)
  generalize hw : ota.flash.writeBytes ota.flashBlockBeginAddress ota.firstFwBytes.toList = w at hwrote
  have hread := w.2.readBytes_same ota.flashBlockBeginAddress sizeofFirstFwBytes
  have hok (h : (w.2.readBytes ota.flashBlockBeginAddress sizeofFirstFwBytes).1 = true) := SPIFlash.readBytes_ok h
  generalize w.2.readBytes ota.flashBlockBeginAddress sizeofFirstFwBytes = r at hread hok
  have hmem (hp : ota.Placed) : r.2.2.densityCode = ota.flash.densityCode ∧ ∃ k ≤ 2, r.2.2.mem =
      Nor.write ota.flash.mem (SPIFlash.sentAddress ota.flashBlockBeginAddress)
        (ota.firstFwBytes.toList.take k) := by
    obtain ⟨k, hk, hm, -⟩ := (hwrote hp).mem
    exact ⟨hread.densityCode.trans (hwrote hp).densityCode, k, by simpa using hk, hread.mem.trans hm⟩
  split
  · rename_i hcond
    rw [Bool.and_eq_true, Bool.and_eq_true, beq_iff_eq] at hcond
    refine ⟨_, .VALID, Or.inl rfl, rfl, hmem, fun _ => ?_⟩
    rw [hread.bytes, hcond.2, hok hcond.1.2]; rfl
  · exact ⟨_, .INVALID, Or.inr rfl, rfl, hmem, fun h => nomatch h⟩

theorem finishCheck_valid {ota : OTA} (hp : ota.Placed) (hpos : 0 < ota.fwSize)
    (hv : ota.finishCheck.otaState = .VALID) :
    ota.fwCrc = ota.crc16.get ∧ ota.finishCheck.flash.bytes ota.flashBlockBeginAddress ota.fwSize = ota.held := by
  rcases ota.finishCheck_cases with ⟨-, h⟩ | ⟨hc, flash, state, -, h, hmem, hback⟩
  · rw [h] at hv; cases hv
  refine ⟨hc, ?_⟩
  rw [h] at hv ⊢
  simp only at hv ⊢
  obtain ⟨k, hk, hm⟩ := (hmem hp).2
  have hroom := hp.room
  have hfits := hp.fits
  have hrest (n : Nat) (hn : n + 2 ≤ ota.fwSize) : flash.bytes (ota.flashBlockBeginAddress + 2) n =
      ota.flash.bytes (ota.flashBlockBeginAddress + 2) n := by
    apply List.map_congr_left
    intro i hi
    have := List.mem_range.mp hi
    simp only [programMemorySize, flashBlockTobytes] at *
    rw [Nat.add_assoc, hp.sent (by simp only [flashBlockTobytes]; omega), hm]
    exact Nor.write_frame (Or.inr (by simp))
  by_cases h2 : 2 ≤ ota.fwSize
  · obtain ⟨n, hn⟩ := Nat.exists_eq_add_of_le h2
    rw [held, hn, SPIFlash.bytes_add, hback hv, hrest n (by omega), List.take_of_length_le (by simp)]
    simp
  · have h1 : ota.fwSize = 1 := by omega
    have := congrArg (List.take 1) (hback hv)
    rw [SPIFlash.bytes_add _ _ 1 1, List.take_left' (by simp)] at this
    rw [held, h1, this, List.take_append_of_le_length (by simp)]

end OTA

end CanSystems
