import CanSystems.StoreRuns

/-!
# What a VALID image is

While a transfer is open the store works on the arguments its `start` was given,
and during the check the running checksum is that of the image up to the cursor.
Two things break this: a piece taken during the check moves the cursor past
bytes nobody summed, and a refused read is summed as zeros. A run in which
neither happens ends VALID only with the declared checksum in the flash.
-/

namespace CanSystems

/-- No piece is taken during the check, and no read of the check is refused. -/
def Undisturbed (w : Watch) : OtaCall → Prop
  | .start .. => True
  | .storeNextData _ sequence _ => w.ota.otaState = .CHECK → ¬ w.ota.continues sequence
  | .run _ => w.ota.otaState = .CHECK → w.ota.flashPointer < w.ota.fwSize → w.ota.chunkReadable

instance (w : Watch) (c : OtaCall) : Decidable (Undisturbed w c) := by
  cases c <;> unfold Undisturbed <;> infer_instance

namespace Watch

/-- The store works on `t`. -/
structure Open (w : Watch) (t : Transfer) : Prop where
  opened : w.opened = some t
  size : w.ota.fwSize = t.fwSize.toNat
  crc : w.ota.fwCrc = t.fwCrc
  block : w.ota.flashBlockBeginAddress = t.blockBegin
  pos : 0 < w.ota.fwSize
  fits : w.ota.fwSize ≤ OTA.programMemorySize

theorem Open.placed {w : Watch} {t : Transfer} (h : w.Open t) : w.ota.Placed :=
  ⟨by rw [h.block]; exact Nat.mul_mod_left _ _, h.fits⟩

/-- `Open` reads five fields only. -/
theorem Open.congr {w v : Watch} {t : Transfer} (h : w.Open t) (ho : v.opened = w.opened)
    (hs : v.ota.fwSize = w.ota.fwSize) (hc : v.ota.fwCrc = w.ota.fwCrc)
    (hb : v.ota.flashBlockBeginAddress = w.ota.flashBlockBeginAddress) : v.Open t :=
  ⟨ho.trans h.opened, hs.trans h.size, hc.trans h.crc, hb.trans h.block, by rw [hs]; exact h.pos,
    by rw [hs]; exact h.fits⟩

/-- A transfer is open in the three states between its `start` and its verdict. -/
structure Sound (w : Watch) : Prop where
  opened : OTA.underway w.ota.otaState → ∃ t, w.Open t
  checked : w.ota.otaState = .CHECK → w.ota.Checked

theorem Sound.of_over {w : Watch}
    (h : w.ota.otaState = .IDLE ∨ w.ota.otaState = .VALID ∨ w.ota.otaState = .INVALID) :
    w.Sound := by
  constructor <;> rcases h with h | h | h <;> simp [OTA.underway, h]

theorem Sound.of_same_state {w v : Watch} (h : w.Sound) (hc : w.ota.otaState ≠ .CHECK)
    (hst : v.ota.otaState = w.ota.otaState) (hopen : ∀ t, w.Open t → v.Open t) : v.Sound := by
  refine ⟨fun hv => ?_, fun hv => absurd (hst.symm.trans hv) hc⟩
  rw [hst] at hv
  obtain ⟨t, ht⟩ := h.opened hv
  exact ⟨t, hopen t ht⟩

theorem sound_init (flash : SPIFlash) : (init flash).Sound := Sound.of_over (Or.inl rfl)

theorem sound_start {w : Watch} (h : w.Sound) (now : UInt32) (block : UInt16) (size : UInt32) (crc : UInt16) :
    (w.step (.start now block size crc)).Sound := by
  rcases w.ota.start_cases now block size crc with ⟨flash, hchip, he⟩ | ⟨flash, -, -, -, hpos, hsize, -, he⟩
  · simp only [step, he]
    refine ⟨fun hv => ?_, fun hv => ⟨(h.checked hv).cursor, ?_⟩⟩
    · obtain ⟨t, ht⟩ := h.opened hv
      exact ⟨t, ht.congr rfl rfl rfl rfl⟩
    · have hheld : OTA.held { w.ota with flash := flash } = w.ota.held := OTA.held_congr hchip.mem rfl rfl rfl
      simp only [hheld]
      exact (h.checked hv).crc
  · simp only [step, he]
    have hnat : 0 < size.toNat := Nat.pos_of_ne_zero fun e => hpos (UInt32.toNat_inj.mp e)
    exact ⟨fun _ => ⟨⟨block, size, crc⟩, rfl, rfl, rfl, rfl, hnat, hsize⟩, fun hv => nomatch hv⟩

theorem sound_storeNextData {w : Watch} (h : w.Sound) (now : UInt32) (sequence : UInt8) (fwData : FwPiece)
    (hG : w.ota.otaState = .CHECK → ¬ w.ota.continues sequence) :
    (w.step (.storeNextData now sequence fwData)).Sound := by
  by_cases hcont : w.ota.continues sequence
  swap
  · simpa only [step, OTA.storeNextData_refused hcont] using h
  have hcheck : w.ota.otaState ≠ .CHECK := fun e => hG e hcont
  rcases w.ota.storeNextData_cases now sequence fwData with
    he | ⟨first, pointer, rest, -, -, ⟨-, he⟩ | ⟨-, -, ok, flash, -, he⟩⟩
  · simpa only [step, he] using h
  · simp only [step, he]
    exact h.of_same_state hcheck rfl fun t ht => ht.congr rfl rfl rfl rfl
  · cases ok with
    | false => simp only [step, he]; exact Sound.of_over (Or.inr (Or.inr rfl))
    | true =>
      simp only [step, he, if_true]
      exact h.of_same_state hcheck rfl fun t ht => ht.congr rfl rfl rfl rfl

theorem sound_run {w : Watch} (h : w.Sound) (now : UInt32)
    (hG : w.ota.otaState = .CHECK → w.ota.flashPointer < w.ota.fwSize → w.ota.chunkReadable) :
    (w.step (.run now)).Sound := by
  by_cases hs : w.ota.otaState = .CHECK
  · obtain ⟨t, ht⟩ := h.opened (Or.inr (Or.inr hs))
    have hsame := w.ota.checkChunk_same
    have hchecked := OTA.checkChunk_checked (h.checked hs) (hG hs)
    by_cases he : w.ota.checkChunk.flashPointer = w.ota.checkChunk.fwSize
    · refine Sound.of_over ?_
      simp only [step, OTA.run_check hs, if_pos he]
      rcases w.ota.checkChunk.finishCheck_cases with ⟨-, hf⟩ | ⟨-, flash, state, hstate, hf, -⟩
      · rw [hf]; exact Or.inr (Or.inr rfl)
      · rw [hf]; exact Or.inr hstate
    · simp only [step, OTA.run_check hs, if_neg he]
      exact ⟨fun _ => ⟨t, ht.congr rfl hsame.size hsame.crc hsame.block⟩, fun _ => hchecked⟩
  · rcases OTA.run_outside_check hs now with
      ⟨hchip, -, hsize, hcrc, hblock, hst | hst | ⟨ho, hst⟩ | ⟨ho, hst⟩ | ⟨ho, hst⟩ | ⟨ho, hst, hp, hcrc16⟩⟩ | ⟨-,
        -, -, hst⟩
    · exact Sound.of_over (Or.inr (Or.inr hst))
    · exact Sound.of_over (Or.inl hst)
    · exact h.of_same_state hs (hst.trans ho.symm) fun t ht => ht.congr rfl hsize hcrc hblock
    · obtain ⟨t, ht⟩ := h.opened (Or.inl ho)
      exact ⟨fun _ => ⟨t, ht.congr rfl hsize hcrc hblock⟩, fun hv => nomatch hst.symm.trans hv⟩
    · exact h.of_same_state hs (hst.trans ho.symm) fun t ht => ht.congr rfl hsize hcrc hblock
    · obtain ⟨t, ht⟩ := h.opened (Or.inr (Or.inl ho))
      refine ⟨fun _ => ⟨t, ht.congr rfl hsize hcrc hblock⟩, fun _ => ⟨?_, ?_⟩⟩
      · simp only [step]; rw [hp]; exact Nat.zero_le _
      · simp only [step]; rw [hp, hcrc16]; simp
    · exact Sound.of_over (Or.inl hst)

theorem step_sound {w : Watch} {c : OtaCall} (h : w.Sound) (hG : Undisturbed w c) : (w.step c).Sound := by
  cases c with
  | start now block size crc => exact sound_start h now block size crc
  | storeNextData now sequence fwData => exact sound_storeNextData h now sequence fwData hG
  | run now => exact sound_run h now hG

theorem valid_of_sound {w : Watch} (h : w.Sound) {now : UInt32} (hG : Undisturbed w (.run now))
    (hv : (w.ota.run now).otaState = .VALID) :
    ∃ t, w.opened = some t ∧
      crcOf ((w.ota.run now).flash.bytes t.blockBegin t.fwSize.toNat) = t.fwCrc := by
  by_cases hs : w.ota.otaState = .CHECK
  swap
  · rcases OTA.run_outside_check hs now with
      ⟨-, -, -, -, -, hst | hst | ⟨-, hst⟩ | ⟨-, hst⟩ | ⟨-, hst⟩ | ⟨-, hst, -⟩⟩ | ⟨-, -, -, hst⟩
    all_goals rw [hst] at hv; cases hv
  obtain ⟨t, ht⟩ := h.opened (Or.inr (Or.inr hs))
  have hsame := w.ota.checkChunk_same
  have hchecked := OTA.checkChunk_checked (h.checked hs) (hG hs)
  rw [OTA.run_check hs] at hv ⊢
  by_cases he : w.ota.checkChunk.flashPointer = w.ota.checkChunk.fwSize
  swap
  · rw [if_neg he, hsame.state, hs] at hv; cases hv
  rw [if_pos he] at hv ⊢
  obtain ⟨hcrc, himage⟩ := OTA.finishCheck_valid (hsame.placed ht.placed) (by rw [hsame.size]; exact ht.pos) hv
  refine ⟨t, ht.opened, ?_⟩
  rw [hsame.block, hsame.size, ht.block, ht.size] at himage
  rw [himage, ← ht.crc, ← hsame.crc, hcrc, hchecked.done he]

end Watch

/-- Over any undisturbed run, a pass that returns VALID leaves in the flash an image whose
checksum is the one given to the `start` that opened the transfer; it lies in the cells from
the block's own address on where that block is within the address space. -/
theorem valid_image_of_undisturbed (flash : SPIFlash) (cs : List OtaCall) (now : UInt32)
    (hG : Machine.Meets Watch.step Undisturbed (Watch.init flash) (cs ++ [.run now]))
    (hv : ((Machine.run Watch.step (Watch.init flash) cs).ota.run now).otaState = .VALID) :
    ∃ t, (Machine.run Watch.step (Watch.init flash) cs).opened = some t ∧
      crcOf (((Machine.run Watch.step (Watch.init flash) cs).ota.run now).flash.bytes
        t.blockBegin t.fwSize.toNat) = t.fwCrc ∧
      (t.blockBegin + t.fwSize.toNat ≤ 2 ^ 24 →
        crcOf (Nor.slice ((Machine.run Watch.step (Watch.init flash) cs).ota.run now).flash.mem
          t.blockBegin t.fwSize.toNat) = t.fwCrc) := by
  obtain ⟨hrun, hlast⟩ := Machine.Meets.append.mp hG
  have hsound := Machine.run_inv (I := Watch.Sound) (fun w c h hg => Watch.step_sound h hg)
    (Watch.sound_init flash) hrun
  obtain ⟨t, hopened, hcrc⟩ := Watch.valid_of_sound hsound hlast.1 hv
  refine ⟨t, hopened, hcrc, fun hinside => ?_⟩
  rw [← hcrc]
  rcases Nat.eq_zero_or_pos t.fwSize.toNat with hzero | hpos
  · rw [hzero, Nor.slice, SPIFlash.bytes, List.range_zero, List.map_nil, List.map_nil]
  · have hsent : SPIFlash.sentAddress t.blockBegin = t.blockBegin := SPIFlash.sentAddress_of_lt (by omega)
    rw [SPIFlash.bytes_eq_slice (by rw [hsent]; exact hinside), hsent]

/-! ## Both kinds of run -/

def readyFlash (densityCode : UInt8) : SPIFlash := ⟨Nor.erased, densityCode, fun _ => true, []⟩

def pieceOfSeven : FwPiece := #v[1, 2, 3, 4, 5, 6, 7]

def sevenByteRun : List OtaCall :=
  [.start 0 1 7 (crcOf pieceOfSeven.toList), .run 0, .storeNextData 0 0 pieceOfSeven, .run 0, .run 0, .run 0]

theorem valid_image_sevenByteRun :
    ∃ t, (Machine.run Watch.step (Watch.init (readyFlash 20)) sevenByteRun).opened = some t ∧
      crcOf (((Machine.run Watch.step (Watch.init (readyFlash 20)) sevenByteRun).ota.run 0).flash.bytes
        t.blockBegin t.fwSize.toNat) = t.fwCrc ∧
      (t.blockBegin + t.fwSize.toNat ≤ 2 ^ 24 →
        crcOf (Nor.slice ((Machine.run Watch.step (Watch.init (readyFlash 20)) sevenByteRun).ota.run 0).flash.mem
          t.blockBegin t.fwSize.toNat) = t.fwCrc) :=
  valid_image_of_undisturbed (readyFlash 20) sevenByteRun 0 (by decide +kernel) (by decide +kernel)

/-- The same piece once more during the check: the cursor is at the end and nothing was summed. -/
def pieceInCheckRun : List OtaCall :=
  [.start 0 0 7 0, .run 0, .storeNextData 0 0 pieceOfSeven, .run 0, .storeNextData 0 0 pieceOfSeven]

theorem valid_image_not_for_every_run :
    ¬ ∀ (flash : SPIFlash) (cs : List OtaCall) (now : UInt32),
      ((Machine.run Watch.step (Watch.init flash) cs).ota.run now).otaState = .VALID →
      ∃ t, (Machine.run Watch.step (Watch.init flash) cs).opened = some t ∧
        crcOf (((Machine.run Watch.step (Watch.init flash) cs).ota.run now).flash.bytes
          t.blockBegin t.fwSize.toNat) = t.fwCrc := by
  intro h
  obtain ⟨t, ht, hcrc⟩ := h (readyFlash 20) pieceInCheckRun 0 (by decide +kernel)
  have ht' : (Machine.run Watch.step (Watch.init (readyFlash 20)) pieceInCheckRun).opened = some ⟨0, 7, 0⟩ := by
    decide +kernel
  rw [ht'] at ht
  obtain rfl := Option.some.inj ht
  revert hcrc
  decide +kernel

end CanSystems
