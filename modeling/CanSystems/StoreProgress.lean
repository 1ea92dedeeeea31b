import CanSystems.StoreRuns
import CanSystems.OtaCanFrame

/-!
# The store on a fault-free flash

From a granted `start` on, a piece after a piece moves the cursor, the first two
bytes stay in memory and the rest fills erased cells. When the image is complete
the check runs to VALID and leaves it in the flash.
-/

namespace CanSystems

namespace OTA

open OtaCanFrame (padPiece take_padPiece)

variable (image : List UInt8) (b : Nat)

/-- `p` bytes of the image are in, the last of them at time `t`. -/
structure Stored (p : Nat) (t : UInt32) (ota : OTA) : Prop where
  state : ota.otaState = .STORE
  placed : ota.Placed
  size : ota.fwSize = image.length
  crc : ota.fwCrc = crcOf image
  block : ota.flashBlockBeginAddress = b
  cursor : ota.flashPointer = p
  le : p ≤ image.length
  first : ∀ i (h : i < 2), i < p → ota.firstFwBytes[i] = image.getD i 0
  mem : ota.flash.mem = Nor.write Nor.erased (SPIFlash.sentAddress b + 2) ((image.take p).drop 2)
  ready : ota.flash.AlwaysReady
  timer : ota.stallTimer = t

/-- The bytes of the piece at offset `p`. -/
def pieceAt (p : Nat) : List UInt8 := (image.drop p).take fwPieceSize

variable {image} {b}

theorem length_pieceAt (p : Nat) : (pieceAt image p).length = min fwPieceSize (image.length - p) := by
  simp [pieceAt]

theorem take_pieceAt (p : Nat) : image.take (p + (pieceAt image p).length) = image.take p ++ pieceAt image p := by
  rw [List.take_add, length_pieceAt]
  unfold pieceAt
  congr 1
  rcases Nat.le_total fwPieceSize (image.length - p) with h | h
  · rw [Nat.min_eq_left h]
  · rw [Nat.min_eq_right h, List.take_of_length_le (by simp), List.take_of_length_le (by simpa using h)]

theorem getElem_pieceAt {p i : Nat} (hp : p ≤ i) (hi : i < p + (pieceAt image p).length) :
    (pieceAt image p)[i - p]? = image[i]? := by
  rw [length_pieceAt] at hi
  simp only [pieceAt, List.getElem?_take, List.getElem?_drop]
  rw [if_pos (by omega), show p + (i - p) = i by omega]

theorem Stored.storeNextData {p : Nat} {t : UInt32} {ota : OTA} (h : Stored image b p t ota) (hp : p < image.length)
    (now : UInt32) :
    ∃ next, ota.storeNextData now (UInt8.ofNat p) (padPiece (pieceAt image p)) = (true, next) ∧
      Stored image b (p + (pieceAt image p).length) now next := by
  have hlen : (pieceAt image p).length = _ := length_pieceAt p
  have hle : p + (pieceAt image p).length ≤ image.length := by rw [hlen]; omega
  have hdata : (padPiece (pieceAt image p)).toList.take (min (ota.fwSize - ota.flashPointer) fwPieceSize) =
      pieceAt image p := by
    have e : min (ota.fwSize - ota.flashPointer) fwPieceSize = (pieceAt image p).length := by
      rw [h.size, h.cursor, hlen]; omega
    rw [e, take_padPiece (by rw [hlen]; exact Nat.min_le_left _ _)]
  have haligned : b % flashBlockTobytes = 0 := by rw [← h.block]; exact h.placed.aligned
  have hcont : ota.continues (UInt8.ofNat p) := ⟨by rw [h.size, h.cursor]; exact hp, by rw [h.cursor]⟩
  have hcall := storeNextData_taken now (padPiece (pieceAt image p)) hcont rfl
  rw [hdata, h.cursor, h.block] at hcall
  have hrest := keepFirst_rest (pieceAt image p) ota.firstFwBytes p
  have hpointer := keepFirst_pointer (pieceAt image p) ota.firstFwBytes p
  have hget := keepFirst_get (pieceAt image p) ota.firstFwBytes p
  generalize keepFirst (pieceAt image p) ota.firstFwBytes p = k at hcall hrest hpointer hget
  have hfirst (i : Nat) (hi : i < 2) (hip : i < p + (pieceAt image p).length) : k.2.1[i] = image.getD i 0 := by
    rw [hget i hi]
    by_cases hpi : p ≤ i
    · rw [if_pos hpi, List.getD_eq_getElem?_getD, getElem_pieceAt hpi hip, List.getElem?_eq_getElem (by omega),
        List.getD_eq_getElem?_getD, List.getElem?_eq_getElem (by omega)]
      rfl
    · rw [if_neg hpi, h.first i hi (by omega)]
  have hmem : (image.take (p + (pieceAt image p).length)).drop 2 = (image.take p).drop 2 ++ k.1 := by
    rw [take_pieceAt, List.drop_append, hrest]
    simp [Nat.min_eq_left h.le]
  by_cases hr : k.1 = []
  · refine ⟨_, hcall.trans (if_pos hr), ?_⟩
    have hshort : (pieceAt image p).length ≤ 2 - p := by rwa [hrest, List.drop_eq_nil_iff] at hr
    exact ⟨h.state, ⟨haligned, h.placed.fits⟩, h.size, h.crc, rfl,
      by simp only [hpointer]; omega, hle, hfirst, by simp only [hmem, hr, List.append_nil]; exact h.mem, h.ready, rfl⟩
  have hlong : 2 - p < (pieceAt image p).length := by rwa [hrest, List.drop_eq_nil_iff, Nat.not_le] at hr
  have hk : k.1.length = (pieceAt image p).length - (2 - p) := by rw [hrest, List.length_drop]
  have hroom := h.placed.room
  have hfits := h.placed.fits
  rw [h.block] at hroom
  rw [h.size] at hfits
  simp only [flashBlockTobytes, programMemorySize] at hroom hfits
  have hsent : SPIFlash.sentAddress (b + k.2.2) = SPIFlash.sentAddress b + k.2.2 :=
    SPIFlash.sentAddress_add (by omega)
  obtain ⟨hok, hready⟩ := h.ready.writeBytes (b + k.2.2) k.1
  have hwrite := h.ready.write_mem (b + k.2.2) k.1 (by omega)
  have hend : SPIFlash.sentAddress b + k.2.2 = SPIFlash.sentAddress b + 2 + ((image.take p).drop 2).length := by
    simp; omega
  refine ⟨_, hcall.trans ((if_neg hr).trans (if_pos hok)), ?_⟩
  refine ⟨h.state, ⟨haligned, h.placed.fits⟩, h.size, h.crc, rfl, by simp only; omega, hle, hfirst, ?_,
    hready, rfl⟩
  simp only
  rw [hwrite, hsent, h.mem, hmem, hend, Nor.write_append]

theorem Stored.run {p : Nat} {t now : UInt32} {ota : OTA} (h : Stored image b p t ota) (hp : p < image.length)
    (hin : Time.hasElapsed now t stallTimeoutTime = false) : ota.run now = ota := by
  have hnot : ota.stalled now = false := by simp [stalled, h.timer, hin]
  unfold OTA.run
  simp only [hnot, h.state, Bool.false_eq_true, if_false]
  rw [if_neg (by rw [h.cursor, h.size]; omega)]

/-! ## The check -/

variable (image b)

/-- The check runs over the complete image, and the first two cells of the block are erased. -/
structure Closing (ota : OTA) : Prop where
  state : ota.otaState = .CHECK
  placed : ota.Placed
  size : ota.fwSize = image.length
  crc : ota.fwCrc = crcOf image
  block : ota.flashBlockBeginAddress = b
  held : ota.held = image
  checked : ota.Checked
  blank : ∀ i < 2, ota.flash.mem (SPIFlash.sentAddress b + i) = 0xFF
  ready : ota.flash.AlwaysReady

variable {image b}

theorem Stored.held {t : UInt32} {ota : OTA} (h : Stored image b image.length t ota) : ota.held = image := by
  have hroom := h.placed.room
  have hfits := h.placed.fits
  rw [h.block] at hroom
  rw [h.size] at hfits
  simp only [flashBlockTobytes, programMemorySize] at hroom hfits
  have hsent : SPIFlash.sentAddress (b + 2) = SPIFlash.sentAddress b + 2 := SPIFlash.sentAddress_add (by omega)
  have hrest : ota.flash.bytes (b + 2) (image.length - 2) = image.drop 2 := by
    rw [SPIFlash.bytes_eq_slice (by rw [hsent]; omega), hsent, h.mem, List.take_length]
    have := Nor.slice_write_of_ff (m := Nor.erased) (a := SPIFlash.sentAddress b + 2) (image.drop 2) fun _ _ => rfl
    rwa [List.length_drop] at this
  apply List.ext_getElem (by rw [length_held, h.size])
  intro i h₁ h₂
  by_cases hi : i < 2
  · rw [held_first hi, h.first i hi h₂, List.getD_eq_getElem?_getD,
      List.getElem?_eq_getElem h₂]
    rfl
  · simp only [OTA.held, h.block, h.size, hrest]
    rw [List.getElem_take, List.getElem_append_right (by simp; omega)]
    simp only [Vector.length_toList, List.getElem_drop]
    congr 1
    omega

theorem Stored.close {t : UInt32} {ota : OTA} (h : Stored image b image.length t ota) :
    ∃ check, Closing image b check ∧ ∀ now, Time.hasElapsed now t stallTimeoutTime = false →
      ota.run now = check := by
  refine ⟨{ ota with flashPointer := 0, crc16 := ota.crc16.reset, otaState := .CHECK }, ?_, fun now hin => ?_⟩
  · have hheld : OTA.held { ota with flashPointer := 0, crc16 := ota.crc16.reset, otaState := .CHECK } = image :=
      h.held
    refine ⟨rfl, ⟨h.placed.aligned, h.placed.fits⟩, h.size, h.crc, h.block, hheld,
      ⟨Nat.zero_le _, by simp [Crc16.reset]⟩, fun i hi => ?_, h.ready⟩
    simp only [h.mem]
    exact Nor.write_below _ (by omega)
  · have hnot : ota.stalled now = false := by simp [stalled, h.timer, hin]
    unfold OTA.run
    simp only [hnot, h.state, Bool.false_eq_true, if_false]
    rw [if_pos (by rw [h.cursor, h.size])]

theorem Closing.finish {ota : OTA} (h : Closing image b ota) (hpos : image ≠ [])
    (hp : ota.flashPointer = ota.fwSize) :
    ota.finishCheck.otaState = .VALID ∧ ota.finishCheck.flash.bytes b image.length = image ∧
      ota.finishCheck.crc16.get = crcOf image := by
  have hcrc : ota.crc16.get = crcOf image := by rw [h.checked.done hp, h.held]
  have hroom := h.placed.room
  rw [h.block] at hroom
  simp only [flashBlockTobytes] at hroom
  obtain ⟨hwriteOk, hready⟩ := h.ready.writeBytes b ota.firstFwBytes.toList
  have hwrite := h.ready.write_mem b ota.firstFwBytes.toList (by simp; omega)
  obtain ⟨hreadOk, hread, -⟩ := hready.readBytes b sizeofFirstFwBytes
  have hback : (ota.flash.writeBytes b ota.firstFwBytes.toList).2.bytes b sizeofFirstFwBytes =
      ota.firstFwBytes.toList := by
    rw [SPIFlash.bytes_eq_slice (by simp only [sizeofFirstFwBytes]; omega), hwrite]
    have := Nor.slice_write_of_ff ota.firstFwBytes.toList (by simpa using h.blank)
    rwa [Vector.length_toList] at this
  have hvalid : ota.finishCheck.otaState = .VALID := by
    unfold finishCheck
    rw [if_neg (by rw [hcrc]; exact not_not_intro h.crc)]
    simp only [h.block]
    rw [if_pos (by rw [hwriteOk, hreadOk, hread, hback]; simp)]
  have hbytes := (finishCheck_valid h.placed (by rw [h.size]; exact List.length_pos_iff.mpr hpos) hvalid).2
  rw [h.block, h.size, h.held] at hbytes
  refine ⟨hvalid, hbytes, ?_⟩
  rcases ota.finishCheck_cases with ⟨-, he⟩ | ⟨-, flash, state, -, he, -⟩ <;> rw [he] <;> exact hcrc

theorem Closing.checkChunk {ota : OTA} (h : Closing image b ota) : Closing image b ota.checkChunk := by
  have hsame := ota.checkChunk_same
  refine ⟨hsame.state.trans h.state, hsame.placed h.placed, hsame.size.trans h.size, hsame.crc.trans h.crc,
    hsame.block.trans h.block, hsame.held.trans h.held, checkChunk_checked h.checked fun _ => Or.inr (h.ready 0),
    by rw [hsame.chip.mem]; exact h.blank, ?_⟩
  unfold OTA.checkChunk readNextCheckChunk
  split
  · simp only
    split
    · exact h.ready
    · exact (h.ready.readBytes _ _).2.2
  · exact h.ready

theorem checkChunk_pointer {ota : OTA} (h : ota.flashPointer < ota.fwSize) :
    ota.flashPointer < ota.checkChunk.flashPointer := by
  unfold checkChunk readNextCheckChunk
  rw [if_pos h]
  simp only [checkChunkSize]
  split
  · simp
  · simp only; omega

/-- From the check on, a number of passes that does not depend on their times ends VALID. -/
theorem Closing.passes (hpos : image ≠ []) : ∀ (left : Nat) (ota : OTA), Closing image b ota →
    ota.fwSize - ota.flashPointer ≤ left → ∃ n, ∀ ts : List UInt32, ts.length = n →
      (ts.foldl OTA.run ota).otaState = .VALID ∧ (ts.foldl OTA.run ota).flash.bytes b image.length = image ∧
        (ts.foldl OTA.run ota).crc16.get = crcOf image
  | left, ota, h, hleft => by
    have hnext := h.checkChunk
    by_cases he : ota.checkChunk.flashPointer = ota.checkChunk.fwSize
    · refine ⟨1, fun ts hts => ?_⟩
      obtain ⟨t, rfl⟩ := List.length_eq_one_iff.mp hts
      simp only [List.foldl_cons, List.foldl_nil, run_check h.state, if_pos he]
      exact hnext.finish hpos he
    · have hlt : ota.flashPointer < ota.fwSize := by
        apply Nat.lt_of_le_of_ne h.checked.cursor
        intro e
        apply he
        unfold OTA.checkChunk
        rw [if_neg (by omega)]; exact e
      have hmove := checkChunk_pointer hlt
      match left with
      | 0 => omega
      | left + 1 =>
        obtain ⟨n, hn⟩ := Closing.passes hpos left ota.checkChunk hnext (by rw [hnext.size, ← h.size]; omega)
        refine ⟨n + 1, fun ts hts => ?_⟩
        cases ts with
        | nil => simp at hts
        | cons t ts =>
          simp only [List.foldl_cons, run_check h.state, if_neg he]
          exact hn ts (by simpa using hts)

end OTA

end CanSystems
