import CanSystems.VerifiedContent
import CanSystems.Base64Bounds

/-!
# The text of a piece

Whether the text of a piece is taken is decided by two lengths: the one foretold
from the length of the text and the padding at its end, and the number of bytes
decoded up to the first padding character. On well-formed texts they agree. They
also agree on some texts with three padding characters or more at their end
(`slipped_accepted`).
-/

namespace CanSystems

open Machine Base64

namespace DataTransfer

/-- The room the decoder is given for the bytes of a text: it lies in `decodedData`. -/
def filePieceSize (fileData : List UInt8) : UInt16 := (UInt32.ofNat fileData.length * 3 / 4 + 1).toUInt16

def pieceTextErrors : List DataTransferError :=
  [.B64_FILE_DATA_SIZE_ERROR, .FILE_PIECE_SIZE_OVEFLOW, .FILE_PIECE_SIZE_ERROR, .B64_DECODED_SIZE_ERROR]

/-- A size or decode check refuses the text of the next piece, and nothing else happens. -/
def RefusesText (dt : DataTransfer) (io : StoreIo) (text : List UInt8) : Prop :=
  ∃ e ∈ pieceTextErrors,
    dt.storeBase64 io dt.nextFilePieceNumberLocal (some text) = ⟨false, dt.setError e, none, none⟩

/-- The bytes are what the storage of the transfer was handed; a finished image has left the updater. -/
def Writes (dt : DataTransfer) (io : StoreIo) (bytes : List UInt8) (r : StoreResult) : Prop :=
  r.dt.tempFile = (dt.write io bytes).2.tempFile ∧
    (r.dt.update = (dt.write io bytes).2.update ∨
      r.dt.update = none ∧ (r.image = none ∨ r.image = (dt.write io bytes).2.update))

/-- The texts that are taken are the well-formed ones; they stand for what goes on to the storage, and decoding
them stays in `decodedData`. -/
def TakesRightly (dt : DataTransfer) (text : List UInt8) : Prop :=
  ∀ io, (¬ dt.RefusesText io text ↔ text ≠ [] ∧ WellFormed text ∧ text.length ≤ 168) ∧
    (¬ dt.RefusesText io text →
      dt.storeBase64 io dt.nextFilePieceNumberLocal (some text) = dt.storePiece io (standardDecode text) ∧
      (UInt32.ofNat (standardDecode text).length ≤ dt.remainingFileSizeLocal →
        dt.Writes io (standardDecode text) (dt.storeBase64 io dt.nextFilePieceNumberLocal (some text))) ∧
      (standardDecode text).length ≤ 126 ∧
      ∀ decodedData : CArray UInt8 maxFilePieceLength.toNat,
        (decodeInto decodedData text (filePieceSize text).toUInt32).isSome)

/-- Padding characters at the end, more than two of them, stand in the length foretold for just the bytes that the
characters between the first padding character and the end would have been. -/
structure Slips (text : List UInt8) : Prop where
  blocks : text.length % 4 = 0
  room : text.length ≤ 168
  alphabet : ∀ c ∈ body text, InAlphabet c
  pads : 3 ≤ trailingPads text
  agree : 3 * (body text).length / 4 + trailingPads text = 3 * text.length / 4
  bytes : 0 < 3 * (body text).length / 4

/-! ## The two lengths -/

variable {text : List UInt8}

theorem toNat_filePieceSize (h : text.length < 2 ^ 16) : (filePieceSize text).toNat = 3 * text.length / 4 + 1 := by
  have hlen : (UInt32.ofNat text.length).toNat = text.length :=
    UInt32.toNat_ofNat_of_lt' (by simp only [UInt32.size]; omega)
  rw [filePieceSize, UInt32.toNat_toUInt16, UInt32.toNat_add, UInt32.toNat_div, UInt32.toNat_mul, hlen]
  change ((text.length * 3 % 2 ^ 32 / 4 + 1) % 2 ^ 32) % 2 ^ 16 = _
  rw [Nat.mod_eq_of_lt (by omega : text.length * 3 < 2 ^ 32), Nat.mul_comm]
  generalize hn : 3 * text.length / 4 = n
  have : n < 2 ^ 16 - 1 := by omega
  rw [Nat.mod_eq_of_lt (by omega : n + 1 < 2 ^ 32), Nat.mod_eq_of_lt (by omega : n + 1 < 2 ^ 16)]

theorem trailingPads_le (text : List UInt8) : (body text).length + trailingPads text ≤ text.length := by
  rcases body_trailingPads text with h | h
  · have hlen := congrArg List.length h
    rw [List.length_append, List.length_replicate] at hlen
    omega
  · omega

theorem toNat_decodedLength (h : text.length < 2 ^ 16) :
    (decodedLength text).toNat =
      if trailingPads text ≤ 3 * text.length / 4 then 3 * text.length / 4 - trailingPads text
      else 2 ^ 32 - trailingPads text + 3 * text.length / 4 := by
  have hle := trailingPads_le text
  have hlen : (UInt32.ofNat text.length).toNat = text.length :=
    UInt32.toNat_ofNat_of_lt' (by simp only [UInt32.size]; omega)
  have hpads : (UInt32.ofNat (trailingPads text)).toNat = trailingPads text :=
    UInt32.toNat_ofNat_of_lt' (by simp only [UInt32.size]; omega)
  rw [decodedLength, UInt32.toNat_sub, UInt32.toNat_div, UInt32.toNat_mul, hlen, hpads]
  change (2 ^ 32 - trailingPads text + 6 * text.length % 2 ^ 32 / 8) % 2 ^ 32 = _
  rw [Nat.mod_eq_of_lt (by omega : 6 * text.length < 2 ^ 32),
    show 6 * text.length / 8 = 3 * text.length / 4 by omega]
  have hquarter : 3 * text.length / 4 < 2 ^ 16 := by omega
  generalize 3 * text.length / 4 = n at *
  split
  · rw [show 2 ^ 32 - trailingPads text + n = n - trailingPads text + 2 ^ 32 by omega, Nat.add_mod_right]
    exact Nat.mod_eq_of_lt (by omega)
  · exact Nat.mod_eq_of_lt (by omega)

/-- Without zeros, the decoder reads the characters before the first padding character if they are all of the
alphabet. -/
theorem decodeLoop_text (hzero : 0 ∉ text) :
    decodeLoop [] [] text = if ∀ c ∈ body text, InAlphabet c then some (standardDecode text) else none := by
  have hbody : 0 ∉ body text := fun h => hzero ((List.takeWhile_prefix _).subset h)
  rw [decodeLoop_eq]
  by_cases hall : ∀ c ∈ body text, InAlphabet c
  · rw [if_pos hall, readBlocks_alphabet hall]
    rfl
  · rw [if_neg hall, if_neg fun hread => hall (readBlocks_read hbody hread)]

theorem decodePiece_ok_iff (hzero : 0 ∉ text) (hlen : text.length < 2 ^ 16) (bytes : List UInt8) :
    decodePiece (some text) = .ok bytes ↔
      text.length % 4 = 0 ∧ text.length ≤ 168 ∧ (∀ c ∈ body text, InAlphabet c) ∧
        3 * (body text).length / 4 + trailingPads text = 3 * text.length / 4 ∧ 0 < 3 * (body text).length / 4 ∧
        bytes = standardDecode text := by
  have hle := trailingPads_le text
  have hpiece := toNat_filePieceSize hlen
  have hpre := toNat_decodedLength hlen
  have hpost := length_standardDecode text
  have hsize : (UInt32.ofNat text.length).toNat = text.length :=
    UInt32.toNat_ofNat_of_lt' (by simp only [UInt32.size]; omega)
  have hblocks : (UInt32.ofNat text.length = 0 ∨ UInt32.ofNat text.length % 4 ≠ 0) ↔
      ¬ (text.length ≠ 0 ∧ text.length % 4 = 0) := by
    rw [ne_eq, ← UInt32.toNat_inj, ← UInt32.toNat_inj, UInt32.toNat_mod, hsize]
    change (_ = 0 ∨ ¬ _ % 4 = 0) ↔ _
    omega
  have hbig : filePieceSize text > maxFilePieceLength ↔ ¬ 3 * text.length / 4 + 1 ≤ 127 := by
    rw [gt_iff_lt, UInt16.lt_iff_toNat_lt, hpiece]
    change 127 < _ ↔ _
    omega
  have hforetold : (decodedLength text > (filePieceSize text).toUInt32 ∨ decodedLength text = 0) ↔
      ¬ trailingPads text < 3 * text.length / 4 := by
    rw [gt_iff_lt, UInt32.lt_iff_toNat_lt, ← UInt32.toNat_inj, UInt16.toNat_toUInt32, hpiece, hpre]
    change (_ ∨ _ = 0) ↔ _
    split <;> omega
  have hfits : ¬ (filePieceSize text).toUInt32 < decodedLength text ∨
      ¬ trailingPads text < 3 * text.length / 4 := by
    by_cases h : trailingPads text < 3 * text.length / 4
    · exact Or.inl fun hlt => absurd h (hforetold.mp (Or.inl hlt))
    · exact Or.inr h
  unfold decodePiece
  simp only [show (UInt32.ofNat text.length * 3 / 4 + 1).toUInt16 = filePieceSize text from rfl, hblocks, hbig,
    hforetold, decodeBase64, decodeLoop_text hzero]
  by_cases h1 : text.length ≠ 0 ∧ text.length % 4 = 0
  swap
  · rw [if_pos h1]
    exact iff_of_false (fun h => by cases h) fun h => h1 ⟨by omega, h.1⟩
  rw [if_neg (not_not.mpr h1)]
  by_cases h2 : 3 * text.length / 4 + 1 ≤ 127
  swap
  · rw [if_pos h2]
    exact iff_of_false (fun h => by cases h) fun h => h2 (by omega)
  rw [if_neg (not_not.mpr h2)]
  by_cases h3 : trailingPads text < 3 * text.length / 4
  swap
  · rw [if_pos h3]
    exact iff_of_false (fun h => by cases h) fun h => h3 (by omega)
  rw [if_neg (not_not.mpr h3), if_neg (hfits.resolve_right (not_not.mpr h3))]
  rw [if_pos (by omega)] at hpre
  by_cases halphabet : ∀ c ∈ body text, InAlphabet c
  swap
  · have hne : decodedLength text ≠ UInt32.ofNat ([] : List UInt8).length := by
      intro heq
      rw [heq] at hpre
      have hzero : (UInt32.ofNat ([] : List UInt8).length).toNat = 0 := rfl
      omega
    simp only [if_neg halphabet]
    rw [if_pos hne]
    exact iff_of_false (fun h => by cases h) fun h => halphabet h.2.2.1
  have hroom : ¬ (filePieceSize text).toUInt32.toNat ≤ (standardDecode text).length := by
    rw [UInt16.toNat_toUInt32, hpiece, hpost]
    omega
  have hdecoded : (UInt32.ofNat (standardDecode text).length).toNat = 3 * (body text).length / 4 := by
    rw [hpost]
    exact UInt32.toNat_ofNat_of_lt' (by simp only [UInt32.size]; omega)
  have hagree : decodedLength text ≠ UInt32.ofNat (standardDecode text).length ↔
      ¬ 3 * (body text).length / 4 + trailingPads text = 3 * text.length / 4 := by
    rw [ne_eq, ← UInt32.toNat_inj, hpre, hdecoded]
    omega
  simp only [if_pos halphabet, if_neg hroom, hagree]
  by_cases h4 : 3 * (body text).length / 4 + trailingPads text = 3 * text.length / 4
  swap
  · rw [if_pos h4]
    exact iff_of_false (fun h => by cases h) fun h => h4 h.2.2.2.1
  rw [if_neg (not_not.mpr h4)]
  constructor
  · intro h
    cases h
    exact ⟨h1.2, by omega, halphabet, h4, by omega, rfl⟩
  · rintro ⟨-, -, -, -, -, rfl⟩
    rfl

/-! ## What passes -/

theorem passes_iff (hzero : 0 ∉ text) (hlen : text.length < 2 ^ 16) :
    (∃ bytes, decodePiece (some text) = .ok bytes) ↔
      (text ≠ [] ∧ WellFormed text ∧ text.length ≤ 168) ∨ Slips text := by
  have hne : text ≠ [] ↔ text.length ≠ 0 := by rw [ne_eq, ne_eq, List.length_eq_zero_iff]
  simp only [decodePiece_ok_iff hzero hlen, wellFormed_iff, hne]
  constructor
  · rintro ⟨bytes, hblocks, hroom, halphabet, hagree, hbytes, -⟩
    by_cases hpads : trailingPads text ≤ 2
    · left
      rcases body_trailingPads text with hall | hmore
      · have hlen := congrArg List.length hall
        rw [List.length_append, List.length_replicate] at hlen
        exact ⟨by omega, ⟨by omega, hpads, halphabet, hblocks⟩, hroom⟩
      · omega
    · exact Or.inr ⟨hblocks, hroom, halphabet, by omega, hagree, hbytes⟩
  · rintro (⟨hpos, ⟨hall, hpads, halphabet, hblocks⟩, hroom⟩ | hslips)
    · exact ⟨_, hblocks, hroom, halphabet, by omega, by omega, rfl⟩
    · exact ⟨_, hslips.blocks, hslips.room, hslips.alphabet, hslips.agree, hslips.bytes, rfl⟩

/-- What passes is decoded as it stands, into `decodedData`. -/
theorem passed_inside (hzero : 0 ∉ text) (hlen : text.length < 2 ^ 16) {bytes : List UInt8}
    (h : decodePiece (some text) = .ok bytes) :
    bytes = standardDecode text ∧ bytes.length ≤ 126 ∧
      ∀ decodedData : CArray UInt8 maxFilePieceLength.toNat,
        (decodeInto decodedData text (filePieceSize text).toUInt32).isSome := by
  obtain ⟨-, hroom, halphabet, -, -, rfl⟩ := (decodePiece_ok_iff hzero hlen bytes).mp h
  have hle := trailingPads_le text
  have hpost := length_standardDecode text
  have hcap : maxFilePieceLength.toNat = 127 := rfl
  refine ⟨rfl, by omega, fun decodedData => ?_⟩
  have hpiece : (filePieceSize text).toUInt32.toNat ≤ maxFilePieceLength.toNat := by
    rw [UInt16.toNat_toUInt32, toNat_filePieceSize hlen]
    omega
  refine (decodeInto_isSome hpiece).mpr (Or.inr ?_)
  rw [← length_readBlocks, readBlocks_alphabet halphabet, length_regroup, List.length_map]
  omega

/-! ## Every state -/

theorem begin_remaining (dt : DataTransfer) (io : BeginIo) (fileInUse : String → Bool) (fileSize : UInt32)
    (fileMd5 : Option (List UInt8)) (fileName : Option String) :
    (∃ e, (dt.begin io fileInUse fileSize fileMd5 fileName).2 = dt.setError e) ∨
      (dt.begin io fileInUse fileSize fileMd5 fileName).2.remainingFileSizeLocal ≠ 0 := by
  unfold begin
  cases hcheck : checkBegin fileInUse fileSize fileMd5 fileName with
  | error e => exact Or.inl ⟨e, rfl⟩
  | ok arguments =>
    right
    have hsize := (checkBegin_ok hcheck).1
    simp only [openStorage]
    repeat' split
    all_goals exact hsize

def Left (s : Watched) : Prop := s.dt.transferState = .STORING → s.dt.remainingFileSizeLocal ≠ 0

theorem left_step (md5 : Md5) (s : Watched) (e : TransferCall) (h : Left s) : Left (s.step md5 e) := by
  cases e with
  | «begin» io fileInUse fileSize fileMd5 fileName =>
    show (s.dt.begin io fileInUse fileSize fileMd5 fileName).2.transferState = .STORING → _
    rcases s.dt.begin_remaining io fileInUse fileSize fileMd5 fileName with ⟨e, hrefused⟩ | hsize
    · show _ → (s.dt.begin io fileInUse fileSize fileMd5 fileName).2.remainingFileSizeLocal ≠ 0
      rw [hrefused]
      exact h
    · exact fun _ => hsize
  | storeBase64 io filePieceNumber fileData =>
    have hend : ∀ {r : StoreResult}, r.dt.transferState = .CLEANUP → r.dt.transferState = .STORING →
        r.dt.remainingFileSizeLocal ≠ 0 := fun hover hs => by
      rw [hover] at hs
      cases hs
    show (s.dt.storeBase64 io filePieceNumber fileData).dt.transferState = .STORING →
      (s.dt.storeBase64 io filePieceNumber fileData).dt.remainingFileSizeLocal ≠ 0
    rcases s.dt.storeBase64_cases io filePieceNumber fileData with ⟨-, hr⟩ | ⟨-, -, hr⟩ |
      ⟨-, -, ⟨e, -, hr⟩ | hfails | ⟨bytes, -, -, -, hstored⟩⟩
    · rw [hr]
      exact h
    · rw [hr]
      exact h
    · rw [hr]
      exact h
    · exact hend hfails.2.2.2.1
    · cases hstored with
      | more hleft hr =>
        rw [hr]
        exact fun _ => hleft
      | firmware hleft hfw hr =>
        rw [hr]
        exact fun hs => by cases hs
      | file hleft hfw all htemp hsize hr =>
        rw [hr]
        exact fun hs => by cases hs
  | runValidityCheck io =>
    show (s.dt.runValidityCheck md5 io).dt.transferState = .STORING →
      (s.dt.runValidityCheck md5 io).dt.remainingFileSizeLocal ≠ 0
    rcases runValidityCheck_cases md5 s.dt io with ⟨-, hr⟩ | ⟨-,
      ⟨hidle, hr⟩ | ⟨-, hr⟩ | ⟨hcheck, -, hr⟩ | ⟨hcheck, -, hr⟩⟩
    · rw [hr]
      exact fun hs => by cases hs
    · rw [hr]
      exact fun hs => absurd (hidle.symm.trans hs) (by decide)
    · rw [hr]
      exact h
    · rw [hr]
      intro hs
      rcases s.dt.readChunk_cases io with ⟨handle, sum, hchunk⟩ | ⟨hover, -⟩
      · rw [hchunk] at hs
        exact absurd (hcheck.symm.trans hs) (by decide)
      · exact absurd (hover.symm.trans hs) (by decide)
    · rw [hr]
      intro hs
      rcases finishCheck_cases md5 s.dt io with ⟨dt', hfinish, hover, -⟩ | ⟨bytes, -, -, hfinish⟩
      · rw [hfinish] at hs
        exact absurd (hover.symm.trans hs) (by decide)
      · rw [hfinish] at hs
        cases hs
  | getErrorCode => exact h

/-! ## The call -/

theorem decodePiece_text_error {e : DataTransferError} (h : decodePiece (some text) = .error e) :
    e ∈ pieceTextErrors := by
  unfold decodePiece at h
  simp only at h
  repeat' split at h
  all_goals
    cases h
    try decide

/-- What comes behind the checks on the text leaves STORING where it returns false. -/
theorem storePiece_ends (dt : DataTransfer) (io : StoreIo) {bytes : List UInt8} (hne : bytes ≠ [])
    (hok : (dt.storePiece io bytes).ok = false) : (dt.storePiece io bytes).dt.transferState = .CLEANUP := by
  rcases dt.storePiece_cases io hne with hfails | ⟨-, -, ⟨-, hr⟩ | ⟨-, hr⟩⟩
  · exact hfails.2.2.2.1
  · rw [hr] at hok
    cases hok
  · rw [hr] at hok ⊢
    rcases (dt.stored io bytes).finalizeTransfer_cases io with hfails | ⟨-, -, hf⟩ | ⟨-, all, -, -, hf⟩
    · exact hfails.2.2.2.1
    · rw [hf] at hok
      cases hok
    · rw [hf] at hok
      cases hok

/-- The end of a transfer leaves the temp file alone, and takes the image from the updater. -/
theorem finalizeTransfer_storage (dt : DataTransfer) (io : StoreIo) :
    (dt.finalizeTransfer io).dt.tempFile = dt.tempFile ∧
      ((dt.finalizeTransfer io).dt.update = dt.update ∨
        (dt.finalizeTransfer io).dt.update = none ∧
          ((dt.finalizeTransfer io).image = none ∨ (dt.finalizeTransfer io).image = dt.update)) := by
  unfold finalizeTransfer
  by_cases hfw : dt.isFwTransfer = true
  · rw [if_pos hfw]
    simp only
    split
    · exact ⟨rfl, Or.inr ⟨rfl, Or.inr rfl⟩⟩
    · exact ⟨rfl, Or.inr ⟨rfl, Or.inl rfl⟩⟩
  · rw [if_neg hfw]
    split
    · exact ⟨rfl, Or.inl rfl⟩
    split
    · exact ⟨rfl, Or.inl rfl⟩
    simp only
    split
    · exact ⟨rfl, Or.inl rfl⟩
    · exact ⟨rfl, Or.inl rfl⟩

theorem storePiece_writes (dt : DataTransfer) (io : StoreIo) {bytes : List UInt8}
    (hroom : UInt32.ofNat bytes.length ≤ dt.remainingFileSizeLocal) :
    dt.Writes io bytes (dt.storePiece io bytes) := by
  unfold Writes storePiece
  rw [if_neg (UInt32.not_lt.mpr hroom)]
  generalize dt.write io bytes = written
  obtain ⟨n, dt'⟩ := written
  simp only
  split
  · exact ⟨rfl, Or.inl rfl⟩
  split
  · exact finalizeTransfer_storage _ io
  · exact ⟨rfl, Or.inl rfl⟩

theorem storeBase64_awaited {dt : DataTransfer} (hstate : dt.transferState = .STORING)
    (hleft : dt.remainingFileSizeLocal ≠ 0) (io : StoreIo) (text : List UInt8) :
    dt.storeBase64 io dt.nextFilePieceNumberLocal (some text) =
      match decodePiece (some text) with
      | .error e => ⟨false, dt.setError e, none, none⟩
      | .ok bytes => dt.storePiece io bytes := by
  cases hdecode : decodePiece (some text) with
  | error e => simp [storeBase64, hstate, hleft, hdecode]
  | ok bytes => simp [storeBase64, hstate, hleft, hdecode]

theorem not_refusesText_iff {dt : DataTransfer} (hstate : dt.transferState = .STORING)
    (hleft : dt.remainingFileSizeLocal ≠ 0) (io : StoreIo) (text : List UInt8) :
    ¬ dt.RefusesText io text ↔ ∃ bytes, decodePiece (some text) = .ok bytes := by
  unfold RefusesText
  rw [storeBase64_awaited hstate hleft]
  cases hdecode : decodePiece (some text) with
  | error e =>
    refine iff_of_false (not_not.mpr ⟨e, decodePiece_text_error hdecode, rfl⟩) ?_
    rintro ⟨bytes, hok⟩
    cases hok
  | ok bytes =>
    refine iff_of_true ?_ ⟨bytes, rfl⟩
    rintro ⟨e, -, hresult⟩
    simp only at hresult
    have hends := dt.storePiece_ends io (decodePiece_ok hdecode).1 (by rw [hresult])
    rw [hresult] at hends
    exact absurd (hstate.symm.trans hends) (by decide)

/-- In every state that waits for a piece, a text shorter than a packet buffer is dealt with rightly, unless it
slips through. -/
theorem piece_texts_iff (md5 : Md5) (tempFile : Option (List UInt8)) (calls : List TransferCall) {dt : DataTransfer}
    (hdt : dt = (run (Watched.step md5) (.init tempFile) calls).dt) (hstate : dt.transferState = .STORING)
    (bufferSize : UInt16) {text : List UInt8} (hzero : 0 ∉ text) (hlen : text.length < bufferSize.toNat) :
    TakesRightly dt text ↔ ¬ Slips text := by
  have hshort : text.length < 2 ^ 16 := Nat.lt_trans hlen bufferSize.toNat_lt
  have hleft : dt.remainingFileSizeLocal ≠ 0 := by
    have hinit : Left (.init tempFile) := fun hs => by cases hs
    have hrun := run_inv_all (left_step md5) calls hinit
    rw [hdt] at hstate ⊢
    exact hrun hstate
  have hpasses := passes_iff hzero hshort
  unfold TakesRightly
  simp only [not_refusesText_iff hstate hleft]
  constructor
  · intro htakes hslips
    obtain ⟨-, hwell, -⟩ := (htakes .smooth).1.mp (hpasses.mpr (Or.inr hslips))
    have hpads := ((wellFormed_iff text).mp hwell).2.1
    have := hslips.pads
    omega
  · intro hno io
    refine ⟨?_, ?_⟩
    · rw [hpasses]
      exact or_iff_left hno
    · rintro ⟨bytes, hdecode⟩
      obtain ⟨rfl, hsmall, hinside⟩ := passed_inside hzero hshort hdecode
      have hcall : dt.storeBase64 io dt.nextFilePieceNumberLocal (some text) =
          dt.storePiece io (standardDecode text) := by
        rw [storeBase64_awaited hstate hleft, hdecode]
      refine ⟨hcall, fun hroom => ?_, hsmall, hinside⟩
      rw [hcall]
      exact storePiece_writes dt io hroom

def waiting : List TransferCall :=
  [.begin .smooth (fun _ => false) 3 (some md5OfA) (some FileName.tubeConfigLocation)]

def slipped : List UInt8 := [0x41, 0x41, 0x41, 0x41, 0x41, 0x3D, 0x3D, 0x3D]

theorem slipped_accepted :
    (run (Watched.step sampleMd5) (.init none) waiting).dt.transferState = .STORING ∧ 0 ∉ slipped ∧
      slipped.length < (256 : UInt16).toNat ∧ ¬ WellFormed slipped ∧
      (run (Watched.step sampleMd5) (.init none) waiting).dt.storeBase64 .smooth
          (run (Watched.step sampleMd5) (.init none) waiting).dt.nextFilePieceNumberLocal (some slipped) =
        (run (Watched.step sampleMd5) (.init none) waiting).dt.storePiece .smooth [0, 0, 0] ∧
      ¬ TakesRightly (run (Watched.step sampleMd5) (.init none) waiting).dt slipped := by
  have hcall : (run (Watched.step sampleMd5) (.init none) waiting).dt.storeBase64 .smooth
        (run (Watched.step sampleMd5) (.init none) waiting).dt.nextFilePieceNumberLocal (some slipped) =
      (run (Watched.step sampleMd5) (.init none) waiting).dt.storePiece .smooth [0, 0, 0] := by
    decide +kernel
  have hill : ¬ WellFormed slipped := by
    rw [wellFormed_iff]
    decide
  have hpast : ¬ (run (Watched.step sampleMd5) (.init none) waiting).dt.RefusesText .smooth slipped := by
    have hok : ((run (Watched.step sampleMd5) (.init none) waiting).dt.storePiece .smooth [0, 0, 0]).ok = true := by
      decide +kernel
    rintro ⟨e, -, hrefused⟩
    rw [← hcall, hrefused] at hok
    cases hok
  exact ⟨by decide +kernel, by decide, by decide, hill, hcall, fun h => hill ((h .smooth).1.mp hpast).2.1⟩

theorem taken_rightly :
    TakesRightly (run (Watched.step sampleMd5) (.init none) waiting).dt (b64encode [0x4D, 0x61, 0x6E]) :=
  (piece_texts_iff sampleMd5 none waiting rfl (by decide +kernel) 256 (by decide) (by decide)).mpr fun h => by
    have := h.pads
    revert this
    decide

end DataTransfer

end CanSystems
