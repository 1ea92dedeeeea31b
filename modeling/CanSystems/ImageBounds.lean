import CanSystems.FlashTraffic

/-!
# Where the store programs

Pieces are clipped to the image and go past its first two bytes, which the check
writes with a length of their own. So of all the images `start` grants, one is
programmed past its end, the image of one byte, and those in a block that the
address bytes cannot reach are programmed elsewhere.
-/

namespace CanSystems

def Transfer.Holds (t : Transfer) (p : PageProgram) : Prop :=
  t.blockBegin ≤ p.addr ∧ p.addr + p.data.length ≤ t.blockBegin + t.fwSize.toNat

instance (t : Transfer) (p : PageProgram) : Decidable (t.Holds p) := inferInstanceAs (Decidable (_ ∧ _))

namespace SPIFlash

theorem writeBytes_onePage (f : SPIFlash) {addr : Nat} {buf : List UInt8} (hb : buf ≠ [])
    (hpage : addr % pageSize + buf.length ≤ pageSize) :
    (f.writeBytes addr buf).2.issued = f.issued ∨
      (f.writeBytes addr buf).2.issued = ⟨sentAddress addr, buf⟩ :: f.issued := by
  have hc := f.command_same true
  have hlen : 0 < buf.length := List.length_pos_iff.mpr hb
  obtain ⟨fuel, hfuel⟩ : ∃ k, buf.length = k + 1 := ⟨buf.length - 1, by omega⟩
  have hall : min buf.length (pageSize - addr % pageSize) = buf.length := Nat.min_eq_left (by omega)
  rw [writeBytes, hfuel]
  rcases hg : f.command true with ⟨_ | _, g⟩ <;> rw [hg] at hc
  · rw [writeLoop_stops hb hg]
    exact Or.inl hc.issued
  · rw [writeLoop_sends hb hg addr hall, List.take_length, List.drop_length, writeLoop_nil]
    exact Or.inr (by rw [pageProgram, hc.issued])

end SPIFlash

namespace Transfer

theorem holds_of_piece {t : Transfer} {p : PageProgram} {offset n : Nat}
    (hfits : t.fwSize.toNat ≤ OTA.programMemorySize)
    (h2 : 2 ≤ offset) (hn : 0 < n) (hin : offset + n ≤ t.fwSize.toNat)
    (hp : SPIFlash.PageProgram.Within (SPIFlash.sentAddress (t.blockBegin + offset))
      (SPIFlash.sentAddress (t.blockBegin + offset) + n) p) :
    t.Holds p ↔ t.flashBlockNumber.toNat < 512 ∧ t.fwSize.toNat ≠ 1 := by
  obtain ⟨hlo, hhi, -⟩ := hp
  simp only [SPIFlash.sentAddress_eq, Holds, blockBegin, OTA.flashBlockTobytes, OTA.programMemorySize] at *
  constructor
  · rintro ⟨hfrom, -⟩
    exact ⟨by omega, by omega⟩
  · rintro ⟨hlow, -⟩
    exact ⟨by omega, by omega⟩

theorem holds_of_head {t : Transfer} {first : Vector UInt8 2} (hpos : 0 < t.fwSize.toNat) :
    t.Holds ⟨SPIFlash.sentAddress t.blockBegin, first.toList⟩ ↔
      t.flashBlockNumber.toNat < 512 ∧ t.fwSize.toNat ≠ 1 := by
  simp only [SPIFlash.sentAddress_eq, Holds, blockBegin, OTA.flashBlockTobytes, Vector.length_toList]
  omega

end Transfer

namespace Watch

theorem step_issued (w : Watch) (c : OtaCall) :
    (w.step c).ota.flash.issued = ((w.ota.flashCalls c).foldl FlashCall.perform w.ota.flash).issued := by
  cases c with
  | start now block size crc =>
    rcases w.ota.start_cases now block size crc with ⟨flash, hchip, he⟩ | ⟨flash, -, -, hissued, -, -, -, he⟩
    · simp only [step, he]; exact hchip.issued
    · simp only [step, he]; exact hissued
  | storeNextData now sequence fwData =>
    simp only [step, OTA.storeNextData_flash]
    rfl
  | run now =>
    by_cases hs : w.ota.otaState = .CHECK
    · simp only [step, OTA.run_flash hs]
    · simp only [step, OTA.flashCalls, if_neg hs]
      rcases OTA.run_outside_check hs now with ⟨hchip, -⟩ | ⟨hflash, -⟩
      · exact hchip.issued
      · rw [hflash, w.ota.flash.chipErase_spec.2.1]; rfl

/-- A command lies in the image of the opened transfer exactly where the address bytes reach
the block and the image is not of one byte. -/
def PlacedRight (w : Watch) (p : PageProgram) : Prop :=
  ∃ t, w.opened = some t ∧ (t.Holds p ↔ t.flashBlockNumber.toNat < 512 ∧ t.fwSize.toNat ≠ 1)

theorem chunkCalls_issued (ota : OTA) (f : SPIFlash) :
    (ota.chunkCalls.foldl FlashCall.perform f).issued = f.issued := by
  rcases ota.chunkCalls_cases with he | ⟨pointer, n, he, -⟩
  · rw [he]; rfl
  · rw [he]; exact (f.readBytes_same _ n).issued

theorem headCalls_issued {ota : OTA} (hp : ota.Placed) (f : SPIFlash) :
    (ota.headCalls.foldl FlashCall.perform f).issued = f.issued ∨
      (ota.headCalls.foldl FlashCall.perform f).issued =
        ⟨SPIFlash.sentAddress ota.flashBlockBeginAddress, ota.firstFwBytes.toList⟩ :: f.issued := by
  have haligned := hp.aligned
  have hread := (f.writeBytes ota.flashBlockBeginAddress ota.firstFwBytes.toList).2.readBytes_same
    ota.flashBlockBeginAddress OTA.sizeofFirstFwBytes
  have hlen : ota.firstFwBytes.toList.length = 2 := Vector.length_toList
  have hne : ota.firstFwBytes.toList ≠ [] := List.length_pos_iff.mp (by omega)
  have hpage : ota.flashBlockBeginAddress % SPIFlash.pageSize + ota.firstFwBytes.toList.length ≤
      SPIFlash.pageSize := by
    simp only [OTA.flashBlockTobytes, SPIFlash.pageSize] at *
    omega
  have hone := f.writeBytes_onePage hne hpage
  rw [← hread.issued] at hone
  exact hone

theorem Works.programs {w : Watch} (h : w.Works) (c : OtaCall) :
    ∃ ps, (w.step c).ota.flash.issued = ps ++ w.ota.flash.issued ∧ ∀ p ∈ ps, w.PlacedRight p := by
  rw [step_issued]
  cases c with
  | start now block size crc => exact ⟨[], rfl, by simp⟩
  | storeNextData now sequence fwData =>
    rcases w.ota.storeCalls_cases sequence fwData with he | ⟨pointer, rest, he, hpos, h2, hfit⟩
    · exact ⟨[], by rw [OTA.flashCalls, he]; rfl, by simp⟩
    obtain ⟨t, ht⟩ := h.image (Or.inr (by omega))
    have hfits := ht.fits
    have hroom := ht.placed.room
    simp only [OTA.programMemorySize, OTA.flashBlockTobytes] at hfits hroom
    have hsent := ht.placed.sent (i := pointer) (by simp only [OTA.flashBlockTobytes]; omega)
    have hwrote := w.ota.flash.writeBytes_spec (w.ota.flashBlockBeginAddress + pointer) rest (by omega)
    obtain ⟨ps, hps, hin⟩ := hwrote.issued
    refine ⟨ps, by rw [OTA.flashCalls, he]; exact hps, fun p hp => ⟨t, ht.opened, ?_⟩⟩
    have hp := hin p hp
    rw [ht.block] at hp
    rw [ht.size] at hfit
    exact Transfer.holds_of_piece (by rw [← ht.size]; exact hfits) h2 hpos hfit hp
  | run now =>
    rcases w.ota.runCalls_cases now with he | ⟨hs, he | he⟩
    · exact ⟨[], by rw [he]; rfl, by simp⟩
    · exact ⟨[], by rw [he, chunkCalls_issued]; rfl, by simp⟩
    obtain ⟨t, ht⟩ := h.image (Or.inl (Or.inr (Or.inr hs)))
    rw [he, List.foldl_append]
    rcases headCalls_issued ht.placed (w.ota.chunkCalls.foldl FlashCall.perform w.ota.flash) with hissued | hissued
    · exact ⟨[], by rw [hissued, chunkCalls_issued]; rfl, by simp⟩
    · refine ⟨[⟨SPIFlash.sentAddress t.blockBegin, w.ota.firstFwBytes.toList⟩], ?_, fun p hp => ⟨t, ht.opened, ?_⟩⟩
      · rw [hissued, chunkCalls_issued, ht.block]; rfl
      · rw [List.mem_singleton.mp hp]
        exact Transfer.holds_of_head (by rw [← ht.size]; exact ht.pos)

end Watch

/-- In every run, each program command of the next step lies in the image of the last granted
`start` exactly when its block is among the first 512 and its size is not 1. -/
theorem programs_inside_iff (flash : SPIFlash) (cs : List OtaCall) (c : OtaCall) :
    ∃ ps, ((Machine.run Watch.step (Watch.init flash) cs).step c).ota.flash.issued =
        ps ++ (Machine.run Watch.step (Watch.init flash) cs).ota.flash.issued ∧
      ∀ p ∈ ps, ∃ t, (Machine.run Watch.step (Watch.init flash) cs).opened = some t ∧
        (t.Holds p ↔ t.flashBlockNumber.toNat < 512 ∧ t.fwSize.toNat ≠ 1) :=
  (Machine.run_inv_all Watch.step_works cs (Watch.works_init flash)).programs c

def oneByteRun : List OtaCall :=
  [.start 0 1 1 (crcOf [0x0C]), .run 0, .storeNextData 0 0 #v[0x0C, 0, 0, 0, 0, 0, 0], .run 0]

theorem programs_not_inside :
    ¬ ∀ (flash : SPIFlash) (cs : List OtaCall) (c : OtaCall),
      ∃ ps, ((Machine.run Watch.step (Watch.init flash) cs).step c).ota.flash.issued =
          ps ++ (Machine.run Watch.step (Watch.init flash) cs).ota.flash.issued ∧
        ∀ p ∈ ps, ∃ t, (Machine.run Watch.step (Watch.init flash) cs).opened = some t ∧ t.Holds p := by
  intro h
  obtain ⟨ps, hps, hin⟩ := h (readyFlash 20) oneByteRun (.run 0)
  have hbefore : (Machine.run Watch.step (Watch.init (readyFlash 20)) oneByteRun).ota.flash.issued = [] := by
    decide +kernel
  have hafter : ((Machine.run Watch.step (Watch.init (readyFlash 20)) oneByteRun).step (.run 0)).ota.flash.issued =
      [⟨32768, [0x0C, 0]⟩] := by decide +kernel
  have hopened : (Machine.run Watch.step (Watch.init (readyFlash 20)) oneByteRun).opened =
      some ⟨1, 1, crcOf [0x0C]⟩ := by decide +kernel
  rw [hafter, hbefore, List.append_nil] at hps
  obtain ⟨t, ht, hholds⟩ := hin ⟨32768, [0x0C, 0]⟩ (by rw [← hps]; exact List.mem_singleton.mpr rfl)
  rw [hopened] at ht
  obtain rfl := Option.some.inj ht
  revert hholds
  decide

end CanSystems
