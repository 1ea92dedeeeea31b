import CanSystems.StoreRuns

/-!
# An incomplete image is not bootable

The bootloader takes a block whose first bytes are a jump. `start` erases them,
the store writes past them, and only a check that found the declared checksum
writes them; until then they read 0xFF, whatever the calls and whatever the chip
refuses.
-/

namespace CanSystems

def PageProgram.covers (p : PageProgram) (a : Nat) : Prop :=
  ∃ i < p.data.length, (Nor.pageNext SPIFlash.pageSize)^[i] p.addr = a

namespace SPIFlash

theorem pageNext_iterate {a i : Nat} (h : a % pageSize + i < pageSize) : (Nor.pageNext pageSize)^[i] a = a + i := by
  induction i with
  | zero => rfl
  | succ i ih =>
    rw [Function.iterate_succ_apply', ih (by omega)]
    unfold Nor.pageNext
    rw [if_neg (by simp only [pageSize] at *; omega), Nat.add_assoc]

theorem PageProgram.Within.not_covers {lo hi a : Nat} {p : PageProgram} (h : PageProgram.Within lo hi p)
    (ha : a < lo) : ¬ p.covers a := by
  rintro ⟨i, hi, e⟩
  obtain ⟨hlo, -, hpage⟩ := h
  rw [pageNext_iterate (by omega)] at e
  omega

end SPIFlash

namespace OTA

/-- `start` leaves the store placed, granted or refused. -/
theorem Placed.start {ota : OTA} (h : ota.Placed) (now : UInt32) (block : UInt16) (size : UInt32) (crc : UInt16) :
    (ota.start now block size crc).2.Placed := by
  rcases ota.start_cases now block size crc with ⟨flash, -, he⟩ | ⟨flash, -, -, -, -, hsize, -, he⟩
  · rw [he]; exact ⟨h.aligned, h.fits⟩
  · rw [he]; exact ⟨Nat.mul_mod_left _ _, hsize⟩

theorem storeNextData_place (ota : OTA) (now : UInt32) (sequence : UInt8) (fwData : FwPiece) :
    (ota.storeNextData now sequence fwData).2.flashBlockBeginAddress = ota.flashBlockBeginAddress ∧
      (ota.storeNextData now sequence fwData).2.fwSize = ota.fwSize := by
  rcases ota.storeNextData_cases now sequence fwData with
    he | ⟨first, pointer, rest, -, -, ⟨-, he⟩ | ⟨-, -, ok, flash, -, he⟩⟩
  · rw [he]; exact ⟨rfl, rfl⟩
  · rw [he]; exact ⟨rfl, rfl⟩
  · rw [he]; cases ok <;> exact ⟨rfl, rfl⟩

theorem Placed.storeNextData {ota : OTA} (h : ota.Placed) (now : UInt32) (sequence : UInt8) (fwData : FwPiece) :
    (ota.storeNextData now sequence fwData).2.flash.densityCode = ota.flash.densityCode ∧
    (∀ a, a < SPIFlash.sentAddress ota.flashBlockBeginAddress + 2 →
      (ota.storeNextData now sequence fwData).2.flash.mem a = ota.flash.mem a) ∧
    ∃ ps : List PageProgram, (ota.storeNextData now sequence fwData).2.flash.issued = ps ++ ota.flash.issued ∧
      ∀ p ∈ ps, ∀ a, a < SPIFlash.sentAddress ota.flashBlockBeginAddress + 2 → ¬ p.covers a := by
  rcases ota.storeNextData_cases now sequence fwData with
    he | ⟨first, pointer, rest, hcont, hfit, ⟨-, he⟩ | ⟨-, h2, ok, flash, hw, he⟩⟩
  · rw [he]; exact ⟨rfl, fun _ _ => rfl, [], rfl, by simp⟩
  · rw [he]; exact ⟨rfl, fun _ _ => rfl, [], rfl, by simp⟩
  have hroom := h.room
  have hfits := h.fits
  simp only [programMemorySize, flashBlockTobytes] at hroom hfits
  have hsent := h.sent (i := pointer) (by simp only [flashBlockTobytes]; omega)
  have hwrote := ota.flash.writeBytes_spec (ota.flashBlockBeginAddress + pointer) rest (by omega)
  rw [hw, hsent] at hwrote
  obtain ⟨k, -, hmem, -⟩ := hwrote.mem
  obtain ⟨ps, hps, hin⟩ := hwrote.issued
  have hframe (a : Nat) (ha : a < SPIFlash.sentAddress ota.flashBlockBeginAddress + 2) :
      flash.mem a = ota.flash.mem a := by
    rw [hmem]; exact Nor.write_below _ (by omega)
  have hcovers : ∀ p ∈ ps, ∀ a, a < SPIFlash.sentAddress ota.flashBlockBeginAddress + 2 → ¬ p.covers a :=
    fun p hp a ha => SPIFlash.PageProgram.Within.not_covers (hin p hp) (by omega)
  rw [he]
  cases ok with
  | false => exact ⟨hwrote.densityCode, hframe, ps, hps, hcovers⟩
  | true => exact ⟨hwrote.densityCode, hframe, ps, hps, hcovers⟩

/-- The store works in the block at `b`, or on no image. -/
def WorksAt (ota : OTA) (b : Nat) : Prop := ota.fwSize = 0 ∨ ota.flashBlockBeginAddress = b

theorem WorksAt.storeNextData {ota : OTA} {b : Nat} (h : ota.WorksAt b) (hp : ota.Placed) (hb : b < 2 ^ 24)
    (now : UInt32) (sequence : UInt8) (fwData : FwPiece) :
    (∀ a, a < b + 2 → (ota.storeNextData now sequence fwData).2.flash.mem a = ota.flash.mem a) ∧
    ∃ ps : List PageProgram, (ota.storeNextData now sequence fwData).2.flash.issued = ps ++ ota.flash.issued ∧
      ∀ p ∈ ps, ∀ a, a < b + 2 → ¬ p.covers a := by
  rcases h with h | h
  · have hnot : ¬ ota.continues sequence := fun hc => by have := hc.1; omega
    rw [storeNextData_refused hnot]
    exact ⟨fun _ _ => rfl, [], rfl, by simp⟩
  · have hpast := (hp.storeNextData now sequence fwData).2
    rwa [h, SPIFlash.sentAddress_of_lt hb] at hpast

end OTA

namespace Watch

/-- The store works in the block of the opened transfer, whose first two cells read 0xFF
while it is guarded. -/
structure Shut (w : Watch) : Prop where
  placed : w.ota.Placed
  density : w.ota.flash.densityCode.toNat ≤ 24
  place : ∀ t, w.opened = some t → t.blockBegin < 2 ^ 24 ∧ w.ota.WorksAt t.blockBegin
  first : ∀ t, w.opened = some t → w.guarded = true →
    w.ota.flash.mem t.blockBegin = 0xFF ∧ w.ota.flash.mem (t.blockBegin + 1) = 0xFF

theorem shut_init {flash : SPIFlash} (h : flash.densityCode.toNat ≤ 24) : (init flash).Shut :=
  ⟨⟨rfl, Nat.zero_le _⟩, h, fun _ ht => (nomatch ht), fun _ ht => (nomatch ht)⟩

theorem shut_start {w : Watch} (h : w.Shut) (now : UInt32) (block : UInt16) (size : UInt32) (crc : UInt16) :
    (w.step (.start now block size crc)).Shut := by
  have hplaced := h.placed.start now block size crc
  rcases w.ota.start_cases now block size crc with
    ⟨flash, hchip, he⟩ | ⟨flash, hmem, hdensity, -, hpos, hsize, hcap, he⟩
  · simp only [step, he] at hplaced ⊢
    refine ⟨hplaced, ?_, h.place, ?_⟩
    · simp only [hchip.densityCode]; exact h.density
    · simp only [hchip.mem]; exact h.first
  · simp only [step, he] at hplaced ⊢
    have hle := Nat.le_trans hcap (SPIFlash.capacity_le h.density)
    have hblock := block.toNat_lt
    refine ⟨hplaced, by simp only [hdensity]; exact h.density, fun t ht => ?_, fun t _ _ => ?_⟩
    · obtain rfl := Option.some.inj ht
      refine ⟨?_, Or.inr rfl⟩
      have hnat : 0 < size.toNat := Nat.pos_of_ne_zero fun e => hpos (UInt32.toNat_inj.mp e)
      simp only [UInt32.toNat_add, UInt32.toNat_mul, UInt16.toNat_toUInt32, UInt32.toNat_ofNat',
        OTA.flashBlockTobytes, OTA.programMemorySize, Transfer.blockBegin] at *
      omega
    · simp only [hmem]; exact ⟨rfl, rfl⟩

theorem shut_storeNextData {w : Watch} (h : w.Shut) (now : UInt32) (sequence : UInt8) (fwData : FwPiece) :
    (w.step (.storeNextData now sequence fwData)).Shut := by
  obtain ⟨hblock, hsize⟩ := w.ota.storeNextData_place now sequence fwData
  have hdensity := (h.placed.storeNextData now sequence fwData).1
  simp only [step]
  refine ⟨⟨by rw [hblock]; exact h.placed.aligned, by rw [hsize]; exact h.placed.fits⟩,
    by simp only [hdensity]; exact h.density, fun t ht => ?_, fun t ht hg => ?_⟩
  · simp only [OTA.WorksAt, hblock, hsize]
    exact h.place t ht
  · obtain ⟨hlt, hworks⟩ := h.place t ht
    have hsame := (hworks.storeNextData h.placed hlt now sequence fwData).1
    simp only [hsame t.blockBegin (by omega), hsame (t.blockBegin + 1) (by omega)]
    exact h.first t ht hg

/-- A pass of the check that does not find the checksums equal leaves the memory alone. -/
theorem shut_check {w : Watch} (h : w.Shut) (hs : w.ota.otaState = .CHECK) (now : UInt32) :
    (w.step (.run now)).Shut := by
  have hsame := w.ota.checkChunk_same
  have hplaced := hsame.placed h.placed
  have hdensity : w.ota.checkChunk.flash.densityCode.toNat ≤ 24 := by rw [hsame.chip.densityCode]; exact h.density
  have hplace (t : Transfer) (ht : w.opened = some t) : t.blockBegin < 2 ^ 24 ∧
      w.ota.checkChunk.WorksAt t.blockBegin := by
    simp only [OTA.WorksAt, hsame.block, hsame.size]; exact h.place t ht
  have hfirst (t : Transfer) (ht : w.opened = some t) (hg : (w.guarded && !decide w.ota.findsEqual) = true) :
      w.ota.checkChunk.flash.mem t.blockBegin = 0xFF ∧ w.ota.checkChunk.flash.mem (t.blockBegin + 1) = 0xFF := by
    rw [hsame.chip.mem]; exact h.first t ht (Bool.and_eq_true_iff.mp hg).1
  simp only [step, OTA.run_check hs]
  by_cases he : w.ota.checkChunk.flashPointer = w.ota.checkChunk.fwSize
  swap
  · rw [if_neg he]
    exact ⟨hplaced, hdensity, hplace, hfirst⟩
  rw [if_pos he]
  rcases w.ota.checkChunk.finishCheck_cases with ⟨-, hf⟩ | ⟨hc, flash, state, -, hf, hmem, -⟩
  · rw [hf]
    exact ⟨⟨hplaced.aligned, hplaced.fits⟩, hdensity, hplace, hfirst⟩
  · have hclosed : w.ota.findsEqual := ⟨hs, he, hc⟩
    rw [hf]
    refine ⟨⟨hplaced.aligned, hplaced.fits⟩, by simp only [(hmem hplaced).1]; exact hdensity, hplace,
      fun t _ hg => ?_⟩
    simp [hclosed] at hg

theorem shut_run {w : Watch} (h : w.Shut) (now : UInt32) : (w.step (.run now)).Shut := by
  by_cases hs : w.ota.otaState = .CHECK
  · exact shut_check h hs now
  simp only [step]
  rcases OTA.run_outside_check hs now with ⟨hchip, -, hsize, -, hblock, -⟩ | ⟨hflash, hsize, hblock, -⟩
  · refine ⟨⟨by rw [hblock]; exact h.placed.aligned, by rw [hsize]; exact h.placed.fits⟩,
      by simp only [hchip.densityCode]; exact h.density, ?_, fun t ht hg => ?_⟩
    · simp only [OTA.WorksAt, hblock, hsize]; exact h.place
    · simp only [hchip.mem]; exact h.first t ht (Bool.and_eq_true_iff.mp hg).1
  · refine ⟨⟨by rw [hblock]; rfl, by rw [hsize]; exact Nat.zero_le _⟩,
      by simp only [hflash, w.ota.flash.chipErase_spec.1]; exact h.density, fun t ht => ?_, fun t ht hg => ?_⟩
    · exact ⟨(h.place t ht).1, Or.inl hsize⟩
    · obtain ⟨h₁, h₂⟩ := h.first t ht (Bool.and_eq_true_iff.mp hg).1
      simp only [hflash]
      exact ⟨SPIFlash.chipErase_ff h₁, SPIFlash.chipErase_ff h₂⟩

theorem step_shut (w : Watch) (c : OtaCall) (h : w.Shut) : (w.step c).Shut := by
  cases c with
  | start now block size crc => exact shut_start h now block size crc
  | storeNextData now sequence fwData => exact shut_storeNextData h now sequence fwData
  | run now => exact shut_run h now

end Watch

/-- Over any run, with any refusals, the first two cells of the block of the last granted
`start` read 0xFF until its check finds the checksums equal, and no piece, whatever the
cursor, programs either of them. -/
theorem incomplete_image_not_bootable (flash : SPIFlash) (hchip : flash.densityCode.toNat ≤ 24) (cs : List OtaCall)
    (t : Transfer) (ht : (Machine.run Watch.step (Watch.init flash) cs).opened = some t) :
    let w := Machine.run Watch.step (Watch.init flash) cs
    (w.guarded = true → w.ota.flash.mem t.blockBegin = 0xFF ∧ w.ota.flash.mem (t.blockBegin + 1) = 0xFF) ∧
      ∀ (pointer : Nat) (now : UInt32) (sequence : UInt8) (fwData : FwPiece), ∃ ps : List PageProgram,
        (OTA.storeNextData { w.ota with flashPointer := pointer } now sequence fwData).2.flash.issued =
          ps ++ w.ota.flash.issued ∧
        ∀ p ∈ ps, ¬ p.covers t.blockBegin ∧ ¬ p.covers (t.blockBegin + 1) := by
  have h := Machine.run_inv_all Watch.step_shut cs (Watch.shut_init hchip)
  obtain ⟨hlt, hworks⟩ := h.place t ht
  refine ⟨h.first t ht, fun pointer now sequence fwData => ?_⟩
  have hanywhere : OTA.WorksAt { (Machine.run Watch.step (Watch.init flash) cs).ota with flashPointer := pointer }
    t.blockBegin := hworks
  obtain ⟨ps, hps, hcovers⟩ :=
    (hanywhere.storeNextData ⟨h.placed.aligned, h.placed.fits⟩ hlt now sequence fwData).2
  exact ⟨ps, hps, fun p hp => ⟨hcovers p hp _ (by omega), hcovers p hp _ (by omega)⟩⟩

/-- A transfer whose second piece the chip refuses: the block stays shut. -/
def refusedPieceRun : List OtaCall :=
  [.start 0 1 9 0, .run 0, .storeNextData 0 0 #v[0x0C, 0x94, 1, 2, 3, 4, 5],
    .storeNextData 0 7 #v[6, 7, 0, 0, 0, 0, 0]]

def dyingFlash : SPIFlash := ⟨fun _ => 0, 20, fun n => decide (n < 6), []⟩

theorem incomplete_image_refusedPieceRun :
    let w := Machine.run Watch.step (Watch.init dyingFlash) refusedPieceRun
    (w.guarded = true → w.ota.flash.mem 32768 = 0xFF ∧ w.ota.flash.mem 32769 = 0xFF) ∧
      ∀ (pointer : Nat) (now : UInt32) (sequence : UInt8) (fwData : FwPiece), ∃ ps : List PageProgram,
        (OTA.storeNextData { w.ota with flashPointer := pointer } now sequence fwData).2.flash.issued =
          ps ++ w.ota.flash.issued ∧
        ∀ p ∈ ps, ¬ p.covers 32768 ∧ ¬ p.covers 32769 :=
  incomplete_image_not_bootable dyingFlash (by decide) refusedPieceRun ⟨1, 9, 0⟩ (by decide +kernel)

end CanSystems
