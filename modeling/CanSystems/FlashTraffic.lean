import CanSystems.CheckSound
import Mathlib.Algebra.Group.Nat.Defs

/-!
# What the store asks of the flash

`flashCalls` lists the reads and writes that one call of the store makes; a
theorem replays them. Each works on the block of the transfer: on its image, or
on its first two bytes. An address goes out as three bytes, so a block past the
first 2^24 cells is answered by another one.
-/

namespace CanSystems

inductive FlashCall
  | write (addr : Nat) (buf : List UInt8)
  | read (addr len : Nat)
  deriving DecidableEq

namespace FlashCall

def addr : FlashCall → Nat
  | write addr _ => addr
  | read addr _ => addr

def len : FlashCall → Nat
  | write _ buf => buf.length
  | read _ len => len

def perform (f : SPIFlash) : FlashCall → SPIFlash
  | write addr buf => (f.writeBytes addr buf).2
  | read addr len => (f.readBytes addr len).2.2

end FlashCall

namespace OTA

def storeCalls (ota : OTA) (sequence : UInt8) (fwData : FwPiece) : List FlashCall :=
  if ota.continues sequence then
    let k := keepFirst (fwData.toList.take (min (ota.fwSize - ota.flashPointer) fwPieceSize)) ota.firstFwBytes
      ota.flashPointer
    if k.1 = [] then [] else [.write (ota.flashBlockBeginAddress + k.2.2) k.1]
  else []

def chunkCalls (ota : OTA) : List FlashCall :=
  if ota.flashPointer < ota.fwSize ∧ 2 ≤ ota.flashPointer then
    [.read (ota.flashBlockBeginAddress + ota.flashPointer) (min (ota.fwSize - ota.flashPointer) checkChunkSize)]
  else []

def headCalls (ota : OTA) : List FlashCall :=
  [.write ota.flashBlockBeginAddress ota.firstFwBytes.toList, .read ota.flashBlockBeginAddress sizeofFirstFwBytes]

/-- The calls of `writeBytes` and `readBytes` that one call makes. -/
def flashCalls (ota : OTA) : OtaCall → List FlashCall
  | .start .. => []
  | .storeNextData _ sequence fwData => ota.storeCalls sequence fwData
  | .run _ => if ota.otaState = .CHECK then ota.chunkCalls ++ if ota.findsEqual then ota.headCalls else [] else []

/-! ## The calls are all that a piece and the check do to the flash -/

theorem storeNextData_flash (ota : OTA) (now : UInt32) (sequence : UInt8) (fwData : FwPiece) :
    (ota.storeNextData now sequence fwData).2.flash = (ota.storeCalls sequence fwData).foldl FlashCall.perform
      ota.flash := by
  unfold storeCalls
  by_cases hc : ota.continues sequence
  swap
  · rw [if_neg hc, storeNextData_refused hc]; rfl
  rw [if_pos hc, storeNextData_taken now fwData hc rfl]
  simp only
  split
  · rfl
  · split <;> rfl

theorem checkChunk_flash (ota : OTA) : ota.checkChunk.flash = ota.chunkCalls.foldl FlashCall.perform ota.flash := by
  unfold checkChunk chunkCalls
  by_cases hlt : ota.flashPointer < ota.fwSize
  swap
  · rw [if_neg hlt, if_neg fun h => hlt h.1]; rfl
  rw [if_pos hlt]
  unfold readNextCheckChunk
  simp only
  split
  · rename_i h2
    rw [if_neg fun h => by omega]; rfl
  · rename_i h2
    rw [if_pos ⟨hlt, by omega⟩]; rfl

theorem finishCheck_flash {ota : OTA} (h : ota.fwCrc = ota.crc16.get) :
    ota.finishCheck.flash = ota.headCalls.foldl FlashCall.perform ota.flash := by
  unfold finishCheck
  rw [if_neg (not_not_intro h)]
  simp only
  split <;> rfl

theorem run_flash {ota : OTA} (h : ota.otaState = .CHECK) (now : UInt32) :
    (ota.run now).flash = (ota.flashCalls (.run now)).foldl FlashCall.perform ota.flash := by
  have hsame := ota.checkChunk_same
  have hhead : ota.checkChunk.headCalls = ota.headCalls := by simp only [headCalls, hsame.block, hsame.first]
  rw [flashCalls, if_pos h, run_check h, List.foldl_append, ← checkChunk_flash, ← hhead]
  by_cases he : ota.checkChunk.flashPointer = ota.checkChunk.fwSize
  swap
  · rw [if_neg he, if_neg fun hf => he hf.2.1]; rfl
  rw [if_pos he]
  by_cases hc : ota.checkChunk.fwCrc = ota.checkChunk.crc16.get
  · rw [if_pos ⟨h, he, hc⟩, finishCheck_flash hc]
  · rw [if_neg fun hf => hc hf.2.2]
    unfold finishCheck
    rw [if_pos hc]; rfl

end OTA

namespace OTA

/-! ## Where the calls go -/

theorem storeCalls_cases (ota : OTA) (sequence : UInt8) (fwData : FwPiece) :
    ota.storeCalls sequence fwData = [] ∨
    ∃ pointer rest, ota.storeCalls sequence fwData = [.write (ota.flashBlockBeginAddress + pointer) rest] ∧
      0 < rest.length ∧ 2 ≤ pointer ∧ pointer + rest.length ≤ ota.fwSize := by
  unfold storeCalls
  split
  · rename_i hcont
    generalize hk : keepFirst _ _ _ = k
    obtain ⟨hfit, hpast⟩ := keepFirst_inside hcont.1 hk
    simp only
    split
    · exact Or.inl rfl
    · rename_i hr
      exact Or.inr ⟨k.2.2, k.1, rfl, List.length_pos_iff.mpr hr, hpast hr, hfit⟩
  · exact Or.inl rfl

theorem chunkCalls_cases (ota : OTA) :
    ota.chunkCalls = [] ∨
    ∃ pointer n, ota.chunkCalls = [.read (ota.flashBlockBeginAddress + pointer) n] ∧ 0 < n ∧ 2 ≤ pointer ∧
      pointer + n ≤ ota.fwSize := by
  unfold chunkCalls
  split
  · rename_i h
    have hlt := h.1
    refine Or.inr ⟨_, _, rfl, ?_, h.2, by omega⟩
    simp only [checkChunkSize]; omega
  · exact Or.inl rfl

theorem headCalls_inside {ota : OTA} {call : FlashCall} (hc : call ∈ ota.headCalls) :
    call.addr = ota.flashBlockBeginAddress ∧ call.len = 2 := by
  simp only [headCalls, List.mem_cons, List.not_mem_nil, or_false] at hc
  rcases hc with rfl | rfl
  · exact ⟨rfl, by simp [FlashCall.len]⟩
  · exact ⟨rfl, rfl⟩

theorem runCalls_cases (ota : OTA) (now : UInt32) :
    ota.flashCalls (.run now) = [] ∨
    (ota.otaState = .CHECK ∧ (ota.flashCalls (.run now) = ota.chunkCalls ∨
      ota.flashCalls (.run now) = ota.chunkCalls ++ ota.headCalls)) := by
  simp only [flashCalls]
  split
  · rename_i hs
    refine Or.inr ⟨hs, ?_⟩
    split
    · exact Or.inr rfl
    · exact Or.inl (List.append_nil _)
  · exact Or.inl rfl

end OTA

/-! ## The block the store works on -/

/-- A call for the image past its first two bytes, or for the first two bytes of the block. -/
def Transfer.Takes (t : Transfer) (call : FlashCall) : Prop :=
  ∃ offset, call.addr = t.blockBegin + offset ∧ 0 < call.len ∧
    ((2 ≤ offset ∧ offset + call.len ≤ t.fwSize.toNat) ∨ (offset = 0 ∧ call.len = 2))

namespace Watch

/-- A store that holds an image, or is about to, works on the transfer that was opened, and
no transfer is opened that is too long. -/
structure Works (w : Watch) : Prop where
  image : OTA.underway w.ota.otaState ∨ w.ota.fwSize ≠ 0 → ∃ t, w.Open t
  fits : ∀ t, w.opened = some t → t.fwSize.toNat ≤ OTA.programMemorySize

theorem works_init (flash : SPIFlash) : (init flash).Works := by
  constructor
  · rintro (h | h)
    · simp [init, OTA.init, OTA.underway] at h
    · exact absurd rfl h
  · intro t ht
    cases ht

/-- A step that keeps the declared values, and is under way only where the store was before. -/
theorem Works.of_kept {w v : Watch} (h : w.Works) (ho : v.opened = w.opened)
    (hst : OTA.underway v.ota.otaState → OTA.underway w.ota.otaState ∨ w.ota.fwSize ≠ 0)
    (hs : v.ota.fwSize = w.ota.fwSize) (hc : v.ota.fwCrc = w.ota.fwCrc)
    (hb : v.ota.flashBlockBeginAddress = w.ota.flashBlockBeginAddress) : v.Works := by
  constructor
  · intro hv
    obtain ⟨t, ht⟩ := h.image (hv.elim hst fun h0 => Or.inr (by rwa [← hs]))
    exact ⟨t, ht.congr ho hs hc hb⟩
  · rw [ho]; exact h.fits

theorem works_start {w : Watch} (h : w.Works) (now : UInt32) (block : UInt16) (size : UInt32) (crc : UInt16) :
    (w.step (.start now block size crc)).Works := by
  rcases w.ota.start_cases now block size crc with ⟨flash, -, he⟩ | ⟨flash, -, -, -, hpos, hsize, -, he⟩
  · simp only [step, he]
    exact h.of_kept rfl Or.inl rfl rfl rfl
  · simp only [step, he]
    have hnat : 0 < size.toNat := Nat.pos_of_ne_zero fun e => hpos (UInt32.toNat_inj.mp e)
    refine ⟨fun _ => ⟨⟨block, size, crc⟩, rfl, rfl, rfl, rfl, hnat, hsize⟩, fun t ht => ?_⟩
    obtain rfl := Option.some.inj ht
    exact hsize

theorem works_storeNextData {w : Watch} (h : w.Works) (now : UInt32) (sequence : UInt8) (fwData : FwPiece) :
    (w.step (.storeNextData now sequence fwData)).Works := by
  rcases w.ota.storeNextData_cases now sequence fwData with
    he | ⟨first, pointer, rest, hc, -, ⟨-, he⟩ | ⟨-, -, ok, flash, -, he⟩⟩
  · simpa only [step, he] using h
  · simp only [step, he]
    exact h.of_kept rfl Or.inl rfl rfl rfl
  · have hsize : w.ota.fwSize ≠ 0 := fun e => by have := hc.1; omega
    simp only [step, he]
    cases ok with
    | false => exact h.of_kept rfl (fun _ => Or.inr hsize) rfl rfl rfl
    | true => exact h.of_kept rfl (fun _ => Or.inr hsize) rfl rfl rfl

theorem works_run {w : Watch} (h : w.Works) (now : UInt32) : (w.step (.run now)).Works := by
  by_cases hs : w.ota.otaState = .CHECK
  · have hsame := w.ota.checkChunk_same
    have hunder : OTA.underway w.ota.otaState := Or.inr (Or.inr hs)
    simp only [step, OTA.run_check hs]
    split
    · rcases w.ota.checkChunk.finishCheck_cases with ⟨-, hf⟩ | ⟨-, flash, state, -, hf, -⟩
      · rw [hf]
        exact h.of_kept rfl (fun _ => Or.inl hunder) hsame.size hsame.crc hsame.block
      · rw [hf]
        exact h.of_kept rfl (fun _ => Or.inl hunder) hsame.size hsame.crc hsame.block
    · exact h.of_kept rfl (fun _ => Or.inl hunder) hsame.size hsame.crc hsame.block
  · rcases OTA.run_outside_check hs now with ⟨-, -, hsize, hcrc, hblock, -⟩ | ⟨-, hsize, -, hst⟩
    · exact h.of_kept rfl (fun hv => Or.inl (OTA.run_underway (Or.inl hv)).1) hsize hcrc hblock
    · refine ⟨fun hv => ?_, h.fits⟩
      simp [step, hst, hsize, OTA.underway] at hv

theorem step_works (w : Watch) (c : OtaCall) (h : w.Works) : (w.step c).Works := by
  cases c with
  | start now block size crc => exact works_start h now block size crc
  | storeNextData now sequence fwData => exact works_storeNextData h now sequence fwData
  | run now => exact works_run h now

theorem Works.call_takes {w : Watch} (h : w.Works) {c : OtaCall} {call : FlashCall}
    (hc : call ∈ w.ota.flashCalls c) :
    ∃ t, w.Open t ∧ t.Takes call := by
  have himage {pointer n : Nat} (hpos : 0 < n) (h2 : 2 ≤ pointer) (hfit : pointer + n ≤ w.ota.fwSize)
      (haddr : call.addr = w.ota.flashBlockBeginAddress + pointer) (hlen : call.len = n) :
      ∃ t, w.Open t ∧ t.Takes call := by
    obtain ⟨t, ht⟩ := h.image (Or.inr (by omega))
    rw [ht.size] at hfit
    exact ⟨t, ht, pointer, by rw [haddr, ht.block], by omega, Or.inl ⟨h2, by omega⟩⟩
  have hchunk (hm : call ∈ w.ota.chunkCalls) : ∃ t, w.Open t ∧ t.Takes call := by
    rcases w.ota.chunkCalls_cases with he | ⟨pointer, n, he, hpos, h2, hfit⟩
    · rw [he] at hm; cases hm
    · rw [he, List.mem_singleton] at hm
      subst hm
      exact himage hpos h2 hfit rfl rfl
  cases c with
  | start now block size crc => cases hc
  | storeNextData now sequence fwData =>
    rcases w.ota.storeCalls_cases sequence fwData with he | ⟨pointer, rest, he, hpos, h2, hfit⟩
    · rw [OTA.flashCalls, he] at hc; cases hc
    · rw [OTA.flashCalls, he, List.mem_singleton] at hc
      subst hc
      exact himage hpos h2 hfit rfl rfl
  | run now =>
    rcases w.ota.runCalls_cases now with he | ⟨hs, he | he⟩
    · rw [he] at hc; cases hc
    · rw [he] at hc
      exact hchunk hc
    · rw [he] at hc
      rcases List.mem_append.mp hc with hc | hc
      · exact hchunk hc
      · obtain ⟨t, ht⟩ := h.image (Or.inl (Or.inr (Or.inr hs)))
        obtain ⟨haddr, hlen⟩ := OTA.headCalls_inside hc
        exact ⟨t, ht, 0, by rw [haddr, ht.block, Nat.add_zero], by omega, Or.inr ⟨rfl, hlen⟩⟩

end Watch

/-- The address of every byte that a call reads or writes is the address that is sent. -/
def SentWhole (call : FlashCall) : Prop :=
  ∀ i < call.len, SPIFlash.sentAddress (call.addr + i) = call.addr + i

/-- In every run the region of the opened transfer ends below 2^32, and each address the store
passes to the flash is sent whole exactly when its block lies in the first 512. -/
theorem addresses_whole_iff (flash : SPIFlash) (cs : List OtaCall) (t : Transfer)
    (ht : (Machine.run Watch.step (Watch.init flash) cs).opened = some t) :
    (t.flashBlockNumber.toUInt32 * UInt32.ofNat OTA.flashBlockTobytes + t.fwSize).toNat =
        t.blockBegin + t.fwSize.toNat ∧
      ∀ c, ∀ call ∈ (Machine.run Watch.step (Watch.init flash) cs).ota.flashCalls c,
        SentWhole call ↔ t.flashBlockNumber.toNat < 512 := by
  have hworks := Machine.run_inv_all Watch.step_works cs (Watch.works_init flash)
  have hblock := t.flashBlockNumber.toNat_lt
  have hfits := hworks.fits t ht
  simp only [OTA.programMemorySize] at hfits
  constructor
  · simp only [UInt32.toNat_add, UInt32.toNat_mul, UInt16.toNat_toUInt32, UInt32.toNat_ofNat',
      OTA.flashBlockTobytes, Transfer.blockBegin]
    omega
  intro c call hc
  obtain ⟨t', hopen, offset, haddr, hpos, hin⟩ := hworks.call_takes hc
  obtain rfl : t' = t := Option.some.inj (hopen.opened.symm.trans ht)
  have hend : offset + call.len ≤ OTA.flashBlockTobytes := by
    simp only [OTA.flashBlockTobytes]; omega
  simp only [SentWhole, SPIFlash.sentAddress_eq, haddr, Transfer.blockBegin, OTA.flashBlockTobytes] at hend ⊢
  constructor
  · intro hall
    have := hall 0 hpos
    omega
  · intro hlow i hi
    omega

/-- A transfer to the first block past the 2^24 cells, on a chip of twice that many. -/
def farBlockRun : List OtaCall := [.start 0 512 7 0, .run 0]

theorem addresses_whole_farBlockRun :
    ((512 : UInt16).toUInt32 * UInt32.ofNat OTA.flashBlockTobytes + (7 : UInt32)).toNat = 16777216 + 7 ∧
      ∀ c, ∀ call ∈ (Machine.run Watch.step (Watch.init (readyFlash 25)) farBlockRun).ota.flashCalls c,
        SentWhole call ↔ (512 : UInt16).toNat < 512 :=
  addresses_whole_iff (readyFlash 25) farBlockRun ⟨512, 7, 0⟩ (by decide +kernel)

/-- Its first piece is written to the third cell of the chip. -/
theorem addresses_not_whole :
    ¬ ∀ (flash : SPIFlash) (cs : List OtaCall) (t : Transfer),
      (Machine.run Watch.step (Watch.init flash) cs).opened = some t →
      (t.flashBlockNumber.toUInt32 * UInt32.ofNat OTA.flashBlockTobytes + t.fwSize).toNat =
          t.blockBegin + t.fwSize.toNat ∧
        ∀ c, ∀ call ∈ (Machine.run Watch.step (Watch.init flash) cs).ota.flashCalls c, SentWhole call := by
  intro h
  obtain ⟨-, hall⟩ := h (readyFlash 25) farBlockRun ⟨512, 7, 0⟩ (by decide +kernel)
  have hmem : .write 16777218 [3, 4, 5, 6, 7] ∈
      (Machine.run Watch.step (Watch.init (readyFlash 25)) farBlockRun).ota.flashCalls
        (.storeNextData 0 0 pieceOfSeven) := by
    decide +kernel
  have hfirst := hall _ _ hmem 0 (by decide)
  revert hfirst
  decide

end CanSystems
