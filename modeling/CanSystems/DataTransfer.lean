import CanSystems.Common
import CanSystems.Base64

/-!
# A file arriving in pieces

`DataTransfer` writes the pieces of a file to a temp file, checks its size and
its MD5, and renames it into place; the device's own firmware goes to the
updater instead. What the file system and the updater answer is an argument of
each call. The temp file and the image the updater holds belong to this object
alone, so they are kept with it. A bounded C string is the list of its bytes, or
a `String` where it is a name.
-/

namespace CanSystems

namespace FileName

def otaFwLocation : String := "espFirmware"
def mqttServerCertLocation : String := "/config/mosq-ca.crt"
def mqttServerCredLocation : String := "/config/server.json"
def canAlertFwLocation : String := "/canAlertFw.bin"
def tubeConfigLocation : String := "/config/tube.json"

def allowedLocations : List String :=
  [otaFwLocation, mqttServerCertLocation, mqttServerCredLocation, canAlertFwLocation, tubeConfigLocation]

def isValidFileName (fileName : String) : Bool := allowedLocations.contains fileName

def isOwnFirmwareFileName (fileName : String) : Bool := fileName == otaFwLocation

end FileName

inductive DataTransferError
  | FILE_SIZE_ZERO | FILE_MD5_NULLPTR | FILE_MD5_INVALID | FILE_NAME_NULLPTR | FILE_NAME_INVALID
  | FILE_NAME_NOT_ALLOWED | NOT_ENOUGH_STORAGE | BEGIN_NOT_CALLED | WRONG_FILE_PIECE_NUMBER | FILE_ALREADY_STORED
  | FILE_DATA_NULLPTR | B64_FILE_DATA_SIZE_ERROR | FILE_PIECE_SIZE_OVEFLOW | FILE_PIECE_SIZE_ERROR
  | B64_DECODED_SIZE_ERROR | TEMP_FILE_OPENING_ERROR | TEMP_FILE_WRITING_ERROR | RECEIVED_FILE_SIZE_ERROR
  | FILE_MD5_ERROR | TEMP_FILE_RENAMING_ERROR | FW_UPGRADE_BEGIN_FAILED | FW_UPGRADE_SET_MD5_FAILED
  | FW_UPGRADE_WRITE_FAILED | FW_UPGRADE_END_FAILED | RECEIVED_DATA_OVERRUN | TEMP_FILE_READING_ERROR | FILE_IN_USE
  deriving DecidableEq, Repr

def DataTransferError.code (e : DataTransferError) : UInt32 := 1 <<< UInt32.ofNat e.ctorIdx

example : DataTransferError.WRONG_FILE_PIECE_NUMBER.code = 256 ∧ DataTransferError.FILE_IN_USE.code = 67108864 := by
  decide

abbrev Md5 := List UInt8 → Vector UInt8 32

inductive DataTransfer.TransferState
  | IDLE | STORING | CHECK | CLEANUP
  deriving DecidableEq, Repr

/-- The temp file opened for writing, or for reading with the bytes read so far. -/
inductive TempHandle
  | w
  | r (pos : Nat)
  deriving DecidableEq, Repr

structure DataTransfer where
  fileSizeLocal : UInt32
  fileMd5Local : List UInt8
  nextFilePieceNumberLocal : UInt32
  remainingFileSizeLocal : UInt32
  fileNameLocal : String
  isFwTransfer : Bool
  transferState : DataTransfer.TransferState
  dataTransferErrState : UInt32
  transferTimeoutTimer : UInt32
  receivedFile : Option TempHandle
  /-- The bytes added since `md5.begin()`. -/
  md5 : List UInt8
  tempFile : Option (List UInt8)
  /-- The image the updater holds open. -/
  update : Option (List UInt8)
  deriving DecidableEq, Repr

/-- What a `begin` call asks of the world. -/
structure BeginIo where
  now : UInt32
  openOk : Bool
  freeSpace : UInt32
  updateBeginOk : Bool
  setMd5Ok : Bool
  deriving DecidableEq, Repr

/-- What a piece asks of the world; `lost` counts the bytes a short write leaves out, and `sizeOff` is how far
from the length of the temp file the answer is that the file system gives for it. -/
structure StoreIo where
  now : UInt32
  lost : Nat
  openOk : Bool
  updateEndOk : Bool
  sizeOff : UInt32
  deriving DecidableEq, Repr

structure CheckIo where
  now : UInt32
  readOk : Bool
  renameOk : Bool
  deriving DecidableEq, Repr

/-- What a piece leaves, the argument of `checkOkCallback` if it was called, and the image `Update.end()`
accepted. -/
structure StoreResult where
  ok : Bool
  dt : DataTransfer
  checked : Option Bool
  image : Option (List UInt8)
  deriving DecidableEq, Repr

/-- What a pass leaves, the argument of `checkOkCallback` if it was called, and the name the
temp file was renamed onto with what the file held. -/
structure CheckResult where
  dt : DataTransfer
  checked : Option Bool
  renamed : Option (String × List UInt8)
  deriving DecidableEq, Repr

def BeginIo.smooth : BeginIo := ⟨0, true, 4096, true, true⟩
def StoreIo.smooth : StoreIo := ⟨0, 0, true, true, 0⟩
def CheckIo.smooth : CheckIo := ⟨0, true, true⟩

def toLower (c : UInt8) : UInt8 := if 0x41 ≤ c ∧ c ≤ 0x5A then c + 0x20 else c

/-- `strncasecmp` finds no difference. -/
def equalsIgnoreCase (a b : List UInt8) : Bool := a.map toLower == b.map toLower

def ascii (text : String) : List UInt8 := text.toList.map fun c => UInt8.ofNat c.toNat

def md5OfNothing : List UInt8 := ascii "d41d8cd98f00b204e9800998ecf8427e"
def md5OfA : List UInt8 := ascii "7FC56270E7A70FA81A5935B72EACBE29"

def sampleMd5 : Md5 := fun bytes =>
  Vector.ofFn fun i => ((if bytes = [] then md5OfNothing else md5OfA.map toLower).getD i.val 0)

namespace DataTransfer

def fileNameSize : Nat := 32
def fileMd5Size : Nat := 33
def transferTimeoutTime : UInt32 := Time.minToMs 15
def readBufferSize : Nat := 64
def invalidFilePieceNumber : UInt32 := 0xFFFFFFFF
def maxFilePieceLength : UInt16 := 126 + 1

/-- The object after a start, over the temp file an earlier run may have left. -/
def init (tempFile : Option (List UInt8)) : DataTransfer where
  fileSizeLocal := 0
  fileMd5Local := []
  nextFilePieceNumberLocal := invalidFilePieceNumber
  remainingFileSizeLocal := 0
  fileNameLocal := ""
  isFwTransfer := false
  transferState := .IDLE
  dataTransferErrState := 0
  transferTimeoutTimer := 0
  receivedFile := none
  md5 := []
  tempFile := tempFile
  update := none

def setError (dt : DataTransfer) (e : DataTransferError) : DataTransfer :=
  { dt with dataTransferErrState := dt.dataTransferErrState ||| e.code }

def getErrorCode (dt : DataTransfer) : UInt32 × DataTransfer :=
  (dt.dataTransferErrState, { dt with dataTransferErrState := 0 })

def getFileName (dt : DataTransfer) : String := dt.fileNameLocal

def isFirmwareTransfer (dt : DataTransfer) : Bool := dt.isFwTransfer

/-! ## `begin` -/

/-- The checks made before anything is touched, and the arguments that pass them. -/
def checkBegin (fileInUse : String → Bool) (fileSize : UInt32) (fileMd5 : Option (List UInt8))
    (fileName : Option String) : Except DataTransferError (List UInt8 × String) :=
  if fileSize = 0 then .error .FILE_SIZE_ZERO else
  match fileMd5 with
  | none => .error .FILE_MD5_NULLPTR
  | some fileMd5 =>
    if fileMd5 = [] then .error .FILE_MD5_INVALID else
    match fileName with
    | none => .error .FILE_NAME_NULLPTR
    | some fileName =>
      if fileName = "" then .error .FILE_NAME_INVALID else
      if FileName.isValidFileName fileName = false then .error .FILE_NAME_NOT_ALLOWED else
      if fileInUse fileName then .error .FILE_IN_USE else .ok (fileMd5, fileName)

def copyName (fileName : String) : String := String.ofList (fileName.toList.take (fileNameSize - 1))

/-- The new transfer's facts replace the old ones, and what was open is released. -/
def adopt (dt : DataTransfer) (fileSize : UInt32) (fileMd5 : List UInt8) (fileName : String) : DataTransfer :=
  { dt with
    fileSizeLocal := fileSize
    fileMd5Local := fileMd5.take (fileMd5Size - 1)
    nextFilePieceNumberLocal := 0
    remainingFileSizeLocal := fileSize
    fileNameLocal := copyName fileName
    receivedFile := none
    update := if dt.isFwTransfer then none else dt.update
    isFwTransfer := FileName.isOwnFirmwareFileName (copyName fileName) }

def openStorage (dt : DataTransfer) (io : BeginIo) : Bool × DataTransfer :=
  if dt.isFwTransfer then
    if (io.updateBeginOk && dt.update.isNone) = false then
      (false, { dt.setError .FW_UPGRADE_BEGIN_FAILED with isFwTransfer := false })
    else if io.setMd5Ok = false then
      (false, { dt.setError .FW_UPGRADE_SET_MD5_FAILED with update := none, isFwTransfer := false })
    else (true, { dt with update := some [], transferTimeoutTimer := io.now, transferState := .STORING })
  else
    if io.openOk = false then (false, dt.setError .TEMP_FILE_OPENING_ERROR)
    else if ¬ io.freeSpace > dt.fileSizeLocal then
      (false, { dt.setError .NOT_ENOUGH_STORAGE with tempFile := some [], receivedFile := none })
    else
      (true, { dt with
        tempFile := some []
        receivedFile := some .w
        transferTimeoutTimer := io.now
        transferState := .STORING })

def begin (dt : DataTransfer) (io : BeginIo) (fileInUse : String → Bool) (fileSize : UInt32)
    (fileMd5 : Option (List UInt8)) (fileName : Option String) : Bool × DataTransfer :=
  match checkBegin fileInUse fileSize fileMd5 fileName with
  | .error e => (false, dt.setError e)
  | .ok (fileMd5, fileName) => (dt.adopt fileSize fileMd5 fileName).openStorage io

/-! ## `storeBase64` -/

def decodePiece (fileData : Option (List UInt8)) : Except DataTransferError (List UInt8) :=
  match fileData with
  | none => .error .FILE_DATA_NULLPTR
  | some fileData =>
    let filePieceB64Size := UInt32.ofNat fileData.length
    if filePieceB64Size = 0 ∨ filePieceB64Size % 4 ≠ 0 then .error .B64_FILE_DATA_SIZE_ERROR else
    let filePieceSize := (filePieceB64Size * 3 / 4 + 1).toUInt16
    if filePieceSize > maxFilePieceLength then .error .FILE_PIECE_SIZE_OVEFLOW else
    let decodedPreSize := Base64.decodedLength fileData
    if decodedPreSize > filePieceSize.toUInt32 ∨ decodedPreSize = 0 then .error .FILE_PIECE_SIZE_ERROR else
    let decodedData := Base64.decodeBase64 fileData filePieceSize.toUInt32
    if decodedPreSize ≠ UInt32.ofNat decodedData.length then .error .B64_DECODED_SIZE_ERROR else
    .ok decodedData

def finalizeTransfer (dt : DataTransfer) (io : StoreIo) : StoreResult :=
  if dt.isFwTransfer then
    let image := dt.update
    let dt := { dt with update := none, transferState := .CLEANUP }
    if io.updateEndOk then ⟨true, dt, some true, image⟩ else ⟨false, dt.setError .FW_UPGRADE_END_FAILED, none, none⟩
  else
    match dt.tempFile with
    | none =>
      ⟨false, { dt.setError .TEMP_FILE_OPENING_ERROR with receivedFile := none, transferState := .CLEANUP }, none,
        none⟩
    | some bytes =>
      if io.openOk = false then
        ⟨false, { dt.setError .TEMP_FILE_OPENING_ERROR with receivedFile := none, transferState := .CLEANUP }, none,
          none⟩
      else
        let dt := { dt with receivedFile := some (.r 0) }
        if UInt32.ofNat bytes.length + io.sizeOff ≠ dt.fileSizeLocal then
          ⟨false, { dt.setError .RECEIVED_FILE_SIZE_ERROR with transferState := .CLEANUP }, none, none⟩
        else ⟨true, { dt with md5 := [], transferState := .CHECK, transferTimeoutTimer := io.now }, none, none⟩

/-- How many bytes reached the storage of the transfer, and what it holds then. -/
def write (dt : DataTransfer) (io : StoreIo) (bytes : List UInt8) : Nat × DataTransfer :=
  let written := bytes.take (bytes.length - io.lost)
  if dt.isFwTransfer then (written.length, { dt with update := dt.update.map (· ++ written) }) else
  match dt.receivedFile with
  | some .w => (written.length, { dt with tempFile := dt.tempFile.map (· ++ written) })
  | _ => (0, dt)

def storePiece (dt : DataTransfer) (io : StoreIo) (bytes : List UInt8) : StoreResult :=
  if UInt32.ofNat bytes.length > dt.remainingFileSizeLocal then
    ⟨false, { dt.setError .RECEIVED_DATA_OVERRUN with transferState := .CLEANUP }, none, none⟩ else
  let (writtenBytes, dt) := dt.write io bytes
  if writtenBytes ≠ bytes.length then
    let e := if dt.isFwTransfer then .FW_UPGRADE_WRITE_FAILED else .TEMP_FILE_WRITING_ERROR
    ⟨false, { dt.setError e with transferState := .CLEANUP }, none, none⟩
  else
    let dt := { dt with
      nextFilePieceNumberLocal := dt.nextFilePieceNumberLocal + 1
      remainingFileSizeLocal := dt.remainingFileSizeLocal - UInt32.ofNat bytes.length
      transferTimeoutTimer := io.now }
    if dt.remainingFileSizeLocal = 0 then dt.finalizeTransfer io else ⟨true, dt, none, none⟩

def storeBase64 (dt : DataTransfer) (io : StoreIo) (filePieceNumber : UInt32) (fileData : Option (List UInt8)) :
    StoreResult :=
  if dt.transferState ≠ .STORING then ⟨false, dt.setError .BEGIN_NOT_CALLED, none, none⟩ else
  if filePieceNumber ≠ dt.nextFilePieceNumberLocal then
    ⟨false, dt.setError .WRONG_FILE_PIECE_NUMBER, none, none⟩ else
  if dt.remainingFileSizeLocal = 0 then ⟨false, dt.setError .FILE_ALREADY_STORED, none, none⟩ else
  match decodePiece fileData with
  | .error e => ⟨false, dt.setError e, none, none⟩
  | .ok bytes => dt.storePiece io bytes

/-! ## `runValidityCheck` -/

def cleanupTransfer (dt : DataTransfer) : CheckResult where
  dt := { dt with
    update := if dt.isFwTransfer ∧ 0 < dt.remainingFileSizeLocal then none else dt.update
    fileSizeLocal := 0
    fileMd5Local := []
    nextFilePieceNumberLocal := invalidFilePieceNumber
    remainingFileSizeLocal := 0
    isFwTransfer := false
    receivedFile := none
    transferState := .IDLE }
  checked := if 0 < dt.dataTransferErrState then some false else none
  renamed := none

def available (dt : DataTransfer) : Nat :=
  match dt.receivedFile, dt.tempFile with
  | some (.r pos), some bytes => bytes.length - pos
  | _, _ => 0

def readChunk (dt : DataTransfer) (io : CheckIo) : DataTransfer :=
  match dt.receivedFile, dt.tempFile with
  | some (.r pos), some bytes =>
    if io.readOk then
      let readBuffer := (bytes.drop pos).take readBufferSize
      { dt with receivedFile := some (.r (pos + readBuffer.length)), md5 := dt.md5 ++ readBuffer }
    else { dt.setError .TEMP_FILE_READING_ERROR with transferState := .CLEANUP }
  | _, _ => { dt.setError .TEMP_FILE_READING_ERROR with transferState := .CLEANUP }

def finishCheck (md5 : Md5) (dt : DataTransfer) (io : CheckIo) : CheckResult :=
  let dt := { dt with transferState := .CLEANUP }
  if equalsIgnoreCase (md5 dt.md5).toList dt.fileMd5Local = false then
    ⟨dt.setError .FILE_MD5_ERROR, none, none⟩ else
  let dt := { dt with receivedFile := none }
  match dt.tempFile with
  | none => ⟨dt.setError .TEMP_FILE_RENAMING_ERROR, none, none⟩
  | some bytes =>
    if io.renameOk = false then ⟨dt.setError .TEMP_FILE_RENAMING_ERROR, none, none⟩
    else ⟨{ dt with tempFile := none }, some true, some (dt.fileNameLocal, bytes)⟩

def timesOut (dt : DataTransfer) (now : UInt32) : Bool :=
  (dt.transferState == .STORING || dt.transferState == .CHECK) &&
    Time.hasElapsed now dt.transferTimeoutTimer transferTimeoutTime

def runValidityCheck (md5 : Md5) (dt : DataTransfer) (io : CheckIo) : CheckResult :=
  let dt := if dt.timesOut io.now then { dt with transferState := .CLEANUP } else dt
  match dt.transferState with
  | .IDLE => ⟨{ dt with transferTimeoutTimer := io.now }, none, none⟩
  | .STORING => ⟨dt, none, none⟩
  | .CHECK => if 0 < dt.available then ⟨dt.readChunk io, none, none⟩ else finishCheck md5 dt io
  | .CLEANUP => dt.cleanupTransfer

/-! ## What the calls can do -/

def Errs (dt dt' : DataTransfer) : Prop :=
  ∃ e ≠ DataTransferError.WRONG_FILE_PIECE_NUMBER, dt'.dataTransferErrState = dt.dataTransferErrState ||| e.code

theorem checkBegin_error {fileInUse : String → Bool} {fileSize : UInt32} {fileMd5 : Option (List UInt8)}
    {fileName : Option String} {e : DataTransferError}
    (h : checkBegin fileInUse fileSize fileMd5 fileName = .error e) :
    e ≠ .WRONG_FILE_PIECE_NUMBER := by
  unfold checkBegin at h
  rintro rfl
  repeat' split at h
  all_goals cases h

theorem checkBegin_ok {fileInUse : String → Bool} {fileSize : UInt32} {fileMd5 : Option (List UInt8)}
    {fileName : Option String} {md5 : List UInt8} {name : String}
    (h : checkBegin fileInUse fileSize fileMd5 fileName = .ok (md5, name)) :
    fileSize ≠ 0 ∧ fileMd5 = some md5 ∧ fileName = some name ∧ FileName.isValidFileName name = true ∧
      fileInUse name = false := by
  unfold checkBegin at h
  split at h
  · cases h
  rename_i hsize
  cases fileMd5 with
  | none => cases h
  | some md5' =>
    simp only at h
    split at h
    · cases h
    cases fileName with
    | none => cases h
    | some name' =>
      simp only at h
      split at h
      · cases h
      split at h
      · cases h
      split at h
      · cases h
      rename_i hvalid huse
      cases h
      exact ⟨hsize, rfl, rfl, by simpa using hvalid, by simpa using huse⟩

theorem copyName_of_valid {fileName : String} (h : FileName.isValidFileName fileName = true) :
    copyName fileName = fileName := by
  simp only [FileName.isValidFileName, List.contains_iff_mem, FileName.allowedLocations, List.mem_cons,
    List.not_mem_nil, or_false] at h
  rcases h with rfl | rfl | rfl | rfl | rfl <;> decide

/-- The calls of a `begin` that has passed its checks all succeed. -/
def storageReady (dt : DataTransfer) (io : BeginIo) (fileSize : UInt32) (fileName : String) : Bool :=
  if FileName.isOwnFirmwareFileName fileName then
    io.updateBeginOk && (dt.isFwTransfer || dt.update.isNone) && io.setMd5Ok
  else io.openOk && decide (fileSize < io.freeSpace)

/-- `begin` is refused before anything is touched, fails with its storage closed, or opens the updater or
the temp file. -/
theorem begin_cases (dt : DataTransfer) (io : BeginIo) (fileInUse : String → Bool) (fileSize : UInt32)
    (fileMd5 : Option (List UInt8)) (fileName : Option String) :
    (∃ e, checkBegin fileInUse fileSize fileMd5 fileName = .error e ∧
      dt.begin io fileInUse fileSize fileMd5 fileName = (false, dt.setError e)) ∨
    ∃ md5 name, checkBegin fileInUse fileSize fileMd5 fileName = .ok (md5, name) ∧
      ((dt.storageReady io fileSize name = false ∧ ∃ dt',
        dt.begin io fileInUse fileSize fileMd5 fileName = (false, dt') ∧
          dt'.transferState = dt.transferState ∧ dt'.receivedFile = none ∧ dt'.isFwTransfer = false ∧
          dt'.fileNameLocal = name ∧ dt.Errs dt') ∨
        (dt.storageReady io fileSize name = true ∧ FileName.isOwnFirmwareFileName name = true ∧
          dt.begin io fileInUse fileSize fileMd5 fileName = (true, { dt.adopt fileSize md5 name with
            update := some [], transferTimeoutTimer := io.now, transferState := .STORING })) ∨
        (dt.storageReady io fileSize name = true ∧ FileName.isOwnFirmwareFileName name = false ∧
          dt.begin io fileInUse fileSize fileMd5 fileName = (true, { dt.adopt fileSize md5 name with
            tempFile := some [], receivedFile := some .w, transferTimeoutTimer := io.now, transferState :=
              .STORING }))) := by
  unfold begin
  cases hcheck : checkBegin fileInUse fileSize fileMd5 fileName with
  | error e => exact Or.inl ⟨e, rfl, rfl⟩
  | ok arguments =>
    obtain ⟨md5, name⟩ := arguments
    refine Or.inr ⟨md5, name, rfl, ?_⟩
    have hname := copyName_of_valid (checkBegin_ok hcheck).2.2.2.1
    have hupdate : (if dt.isFwTransfer then none else dt.update).isNone =
        (dt.isFwTransfer || dt.update.isNone) := by
      cases dt.isFwTransfer <;> rfl
    simp only [openStorage, adopt, hname, hupdate, storageReady]
    cases hown : FileName.isOwnFirmwareFileName name with
    | true =>
      simp only [if_true]
      split
      · rename_i hbegin
        exact Or.inl ⟨by rw [hbegin]; rfl, _, rfl, rfl, rfl, rfl, rfl, _, by decide, rfl⟩
      split
      · rename_i hset
        exact Or.inl ⟨by rw [hset, Bool.and_false], _, rfl, rfl, rfl, rfl, rfl, _, by decide, rfl⟩
      · rename_i hbegin hset
        exact Or.inr (Or.inl ⟨by simp only [Bool.not_eq_false] at hbegin hset; rw [hbegin, hset]; rfl, trivial,
          rfl⟩)
    | false =>
      simp only [Bool.false_eq_true, if_false]
      split
      · rename_i hopen
        exact Or.inl ⟨by rw [hopen]; rfl, _, rfl, rfl, rfl, rfl, rfl, _, by decide, rfl⟩
      split
      · rename_i hspace
        exact Or.inl ⟨by simp only [gt_iff_lt] at hspace; simp [hspace], _, rfl, rfl, rfl, rfl, rfl, _, by decide,
          rfl⟩
      · rename_i hopen hspace
        simp only [Bool.not_eq_false, gt_iff_lt, not_not] at hopen hspace
        exact Or.inr (Or.inr ⟨by simp [hopen, hspace], trivial, rfl⟩)

theorem decodePiece_ok {fileData : Option (List UInt8)} {bytes : List UInt8}
    (h : decodePiece fileData = .ok bytes) :
    bytes ≠ [] ∧ bytes.length ≤ 126 := by
  unfold decodePiece at h
  cases fileData with
  | none => cases h
  | some fileData =>
    simp only at h
    split at h
    · cases h
    split at h
    · cases h
    split at h
    · cases h
    split at h
    · cases h
    rename_i hsize hpre hpost
    cases h
    have hne : Base64.decodeBase64 fileData (UInt32.ofNat fileData.length * 3 / 4 + 1).toUInt16.toUInt32 ≠ [] := by
      intro hnil
      rw [ne_eq, not_not, hnil] at hpost
      exact hpre (Or.inr hpost)
    refine ⟨hne, ?_⟩
    have hlt := Base64.length_decodeBase64 hne
    rw [gt_iff_lt, UInt16.not_lt, UInt16.le_iff_toNat_le] at hsize
    have : maxFilePieceLength.toNat = 127 := rfl
    rw [UInt16.toNat_toUInt32] at hlt
    omega

theorem decodePiece_b64encode {bytes : List UInt8} (hpos : 0 < bytes.length) (hlen : bytes.length ≤ 126) :
    decodePiece (some (Base64.b64encode bytes)) = .ok bytes := by
  have hsize : (UInt32.ofNat (Base64.b64encode bytes).length).toNat = 4 * ((bytes.length + 2) / 3) := by
    rw [Base64.length_b64encode]
    exact UInt32.toNat_ofNat_of_lt' (by simp only [UInt32.size]; omega)
  have hpre : Base64.decodedLength (Base64.b64encode bytes) = UInt32.ofNat bytes.length :=
    Base64.decodedLength_b64encode (by omega)
  have hbytes : (UInt32.ofNat bytes.length).toNat = bytes.length :=
    UInt32.toNat_ofNat_of_lt' (by simp only [UInt32.size]; omega)
  unfold decodePiece
  simp only [hpre]
  generalize UInt32.ofNat (Base64.b64encode bytes).length = filePieceB64Size at *
  have hpiece : (filePieceB64Size * 3 / 4 + 1).toUInt16.toNat = 3 * ((bytes.length + 2) / 3) + 1 := by
    rw [UInt32.toNat_toUInt16, UInt32.toNat_add, UInt32.toNat_div, UInt32.toNat_mul, hsize]
    change ((4 * ((bytes.length + 2) / 3) * 3 % 2 ^ 32 / 4 + 1) % 2 ^ 32) % 2 ^ 16 = _
    omega
  have hne : ¬ (filePieceB64Size = 0 ∨ filePieceB64Size % 4 ≠ 0) := by
    rw [ne_eq, ← UInt32.toNat_inj (a := filePieceB64Size), ← UInt32.toNat_inj (a := filePieceB64Size % 4),
      UInt32.toNat_mod, hsize]
    change ¬ (_ = 0 ∨ ¬ _ % 4 = 0)
    omega
  generalize (filePieceB64Size * 3 / 4 + 1).toUInt16 = filePieceSize at *
  have hsmall : ¬ filePieceSize > maxFilePieceLength := by
    rw [gt_iff_lt, UInt16.lt_iff_toNat_lt, hpiece]
    change ¬ 127 < _
    omega
  have hroom : ¬ (UInt32.ofNat bytes.length > filePieceSize.toUInt32 ∨ UInt32.ofNat bytes.length = 0) := by
    rw [gt_iff_lt, UInt32.lt_iff_toNat_lt, ← UInt32.toNat_inj, hbytes, UInt16.toNat_toUInt32, hpiece]
    change ¬ (_ ∨ _ = 0)
    omega
  have hdecode : Base64.decodeBase64 (Base64.b64encode bytes) filePieceSize.toUInt32 = bytes :=
    Base64.decodeBase64_b64encode (by omega) (by rw [UInt16.toNat_toUInt32, hpiece]; omega)
  rw [if_neg hne, if_neg hsmall, if_neg hroom, hdecode, if_neg (by simp)]

theorem decodePiece_error {fileData : Option (List UInt8)} {e : DataTransferError}
    (h : decodePiece fileData = .error e) : e ≠ .WRONG_FILE_PIECE_NUMBER := by
  unfold decodePiece at h
  rintro rfl
  split at h
  · cases h
  · simp only at h
    repeat' split at h
    all_goals cases h

theorem write_spec (dt : DataTransfer) (io : StoreIo) (bytes : List UInt8) :
    ∃ n tempFile update, dt.write io bytes = (n, { dt with tempFile := tempFile, update := update }) ∧
      (n = bytes.length → bytes ≠ [] →
        (dt.isFwTransfer = true ∧ tempFile = dt.tempFile ∧ update = dt.update.map (· ++ bytes)) ∨
        (dt.isFwTransfer = false ∧ dt.receivedFile = some .w ∧ tempFile = dt.tempFile.map (· ++ bytes) ∧
          update = dt.update)) ∧
      (io.lost = 0 → (dt.isFwTransfer = true ∨ dt.receivedFile = some .w) → n = bytes.length) := by
  have hall : (bytes.take (bytes.length - io.lost)).length = bytes.length →
      bytes.take (bytes.length - io.lost) = bytes := by
    intro h
    rw [List.length_take] at h
    exact List.take_of_length_le (by omega)
  unfold write
  by_cases hfw : dt.isFwTransfer = true
  · simp only [if_pos hfw]
    exact ⟨_, dt.tempFile, _, rfl, fun hn _ => Or.inl ⟨hfw, rfl, by rw [hall hn]⟩, fun hlost _ => by simp [hlost]⟩
  · simp only [if_neg hfw]
    replace hfw : dt.isFwTransfer = false := by simpa using hfw
    split
    · rename_i hw
      exact ⟨_, _, dt.update, rfl, fun hn _ => Or.inr ⟨hfw, hw, by rw [hall hn], rfl⟩,
        fun hlost _ => by simp [hlost]⟩
    · rename_i hw
      refine ⟨_, dt.tempFile, dt.update, rfl, fun hn hne => ?_, fun _ h => ?_⟩
      · exact absurd (List.length_eq_zero_iff.mp hn.symm) hne
      · rcases h with h | h
        · rw [hfw] at h; cases h
        · exact absurd h hw

def stored (dt : DataTransfer) (io : StoreIo) (bytes : List UInt8) : DataTransfer :=
  { dt with
    update := if dt.isFwTransfer then dt.update.map (· ++ bytes) else dt.update
    tempFile := if dt.isFwTransfer then dt.tempFile else dt.tempFile.map (· ++ bytes)
    nextFilePieceNumberLocal := dt.nextFilePieceNumberLocal + 1
    remainingFileSizeLocal := dt.remainingFileSizeLocal - UInt32.ofNat bytes.length
    transferTimeoutTimer := io.now }

/-- The transfer is given up with an error other than a wrong piece number. -/
def Fails (dt : DataTransfer) (r : StoreResult) : Prop :=
  r.ok = false ∧ r.checked = none ∧ r.image = none ∧ r.dt.transferState = .CLEANUP ∧ dt.Errs r.dt

theorem finalizeTransfer_cases (dt : DataTransfer) (io : StoreIo) :
    dt.Fails (dt.finalizeTransfer io) ∨
    (dt.isFwTransfer = true ∧ io.updateEndOk = true ∧
      dt.finalizeTransfer io = ⟨true, { dt with update := none, transferState := .CLEANUP }, some true,
        dt.update⟩) ∨
    (dt.isFwTransfer = false ∧ ∃ bytes, dt.tempFile = some bytes ∧ UInt32.ofNat bytes.length +
      io.sizeOff = dt.fileSizeLocal ∧
      dt.finalizeTransfer io = ⟨true, { dt with
        receivedFile := some (.r 0), md5 := [], transferState := .CHECK, transferTimeoutTimer := io.now }, none,
          none⟩) := by
  unfold finalizeTransfer
  by_cases hfw : dt.isFwTransfer = true
  · simp only [if_pos hfw]
    split
    · rename_i hend
      exact Or.inr (Or.inl ⟨hfw, hend, rfl⟩)
    · exact Or.inl ⟨rfl, rfl, rfl, rfl, _, by decide, rfl⟩
  · simp only [if_neg hfw]
    split
    · exact Or.inl ⟨rfl, rfl, rfl, rfl, _, by decide, rfl⟩
    rename_i bytes htemp
    split
    · exact Or.inl ⟨rfl, rfl, rfl, rfl, _, by decide, rfl⟩
    split
    · exact Or.inl ⟨rfl, rfl, rfl, rfl, _, by decide, rfl⟩
    · rename_i hsize
      exact Or.inr (Or.inr ⟨by simpa using hfw, bytes, htemp, by simpa using hsize, rfl⟩)

theorem stored_of_write {dt : DataTransfer} {io : StoreIo} {bytes : List UInt8}
    {tempFile update : Option (List UInt8)}
    (h : (dt.isFwTransfer = true ∧ tempFile = dt.tempFile ∧ update = dt.update.map (· ++ bytes)) ∨
      (dt.isFwTransfer = false ∧ dt.receivedFile = some .w ∧ tempFile = dt.tempFile.map (· ++ bytes) ∧
        update = dt.update)) :
    { dt with
      tempFile := tempFile
      update := update
      nextFilePieceNumberLocal := dt.nextFilePieceNumberLocal + 1
      remainingFileSizeLocal := dt.remainingFileSizeLocal - UInt32.ofNat bytes.length
      transferTimeoutTimer := io.now } = dt.stored io bytes := by
  rcases h with ⟨hfw, rfl, rfl⟩ | ⟨hfw, -, rfl, rfl⟩
  · simp [stored, hfw]
  · simp [stored, hfw]

theorem storePiece_cases (dt : DataTransfer) (io : StoreIo) {bytes : List UInt8} (hne : bytes ≠ []) :
    dt.Fails (dt.storePiece io bytes) ∨
    (UInt32.ofNat bytes.length ≤ dt.remainingFileSizeLocal ∧
      (dt.isFwTransfer = true ∨ dt.isFwTransfer = false ∧ dt.receivedFile = some .w) ∧
      (((dt.stored io bytes).remainingFileSizeLocal ≠ 0 ∧
        dt.storePiece io bytes = ⟨true, dt.stored io bytes, none, none⟩) ∨
        ((dt.stored io bytes).remainingFileSizeLocal = 0 ∧
          dt.storePiece io bytes = (dt.stored io bytes).finalizeTransfer io))) := by
  unfold storePiece
  split
  · exact Or.inl ⟨rfl, rfl, rfl, rfl, _, by decide, rfl⟩
  rename_i hroom
  obtain ⟨n, tempFile, update, hwrite, hwhole, -⟩ := dt.write_spec io bytes
  rw [hwrite]
  simp only
  split
  · refine Or.inl ⟨rfl, rfl, rfl, rfl, _, ?_, rfl⟩
    split <;> decide
  rename_i hn
  right
  refine ⟨by simpa using hroom, ?_, ?_⟩
  · rcases hwhole (by simpa using hn) hne with h | h
    · exact Or.inl h.1
    · exact Or.inr ⟨h.1, h.2.1⟩
  have hstored := @stored_of_write dt io bytes _ _ (hwhole (by simpa using hn) hne)
  split
  · rename_i hlast
    exact Or.inr ⟨hlast, by rw [hstored]⟩
  · rename_i hmore
    exact Or.inl ⟨hmore, by rw [hstored]⟩

/-- What a piece that was stored makes of the transfer: more is to come, or it was the last one. -/
inductive Stored (dt : DataTransfer) (io : StoreIo) (bytes : List UInt8) (r : StoreResult) : Prop
  | more (left : (dt.stored io bytes).remainingFileSizeLocal ≠ 0)
    (result : r = ⟨true, dt.stored io bytes, none, none⟩)
  | firmware (left : (dt.stored io bytes).remainingFileSizeLocal = 0) (fw : dt.isFwTransfer = true)
      (result : r = ⟨true, { dt.stored io bytes with update := none, transferState := .CLEANUP }, some true,
        (dt.stored io bytes).update⟩)
  | file (left : (dt.stored io bytes).remainingFileSizeLocal = 0) (fw : dt.isFwTransfer = false) (all : List UInt8)
      (temp : (dt.stored io bytes).tempFile = some all)
      (size : UInt32.ofNat all.length + io.sizeOff = dt.fileSizeLocal)
      (result : r = ⟨true, { dt.stored io bytes with
        receivedFile := some (.r 0), md5 := [], transferState := .CHECK, transferTimeoutTimer := io.now }, none,
          none⟩)

theorem storeBase64_cases (dt : DataTransfer) (io : StoreIo) (filePieceNumber : UInt32)
    (fileData : Option (List UInt8)) :
    (dt.transferState ≠ .STORING ∧
      dt.storeBase64 io filePieceNumber fileData = ⟨false, dt.setError .BEGIN_NOT_CALLED, none, none⟩) ∨
    (dt.transferState = .STORING ∧ filePieceNumber ≠ dt.nextFilePieceNumberLocal ∧
      dt.storeBase64 io filePieceNumber fileData = ⟨false, dt.setError .WRONG_FILE_PIECE_NUMBER, none, none⟩) ∨
    (dt.transferState = .STORING ∧ filePieceNumber = dt.nextFilePieceNumberLocal ∧
      ((∃ e ≠ DataTransferError.WRONG_FILE_PIECE_NUMBER,
          dt.storeBase64 io filePieceNumber fileData = ⟨false, dt.setError e, none, none⟩) ∨
        dt.Fails (dt.storeBase64 io filePieceNumber fileData) ∨
        ∃ bytes, decodePiece fileData = .ok bytes ∧ UInt32.ofNat bytes.length ≤ dt.remainingFileSizeLocal ∧
          (dt.isFwTransfer = true ∨ dt.isFwTransfer = false ∧ dt.receivedFile = some .w) ∧
          dt.Stored io bytes (dt.storeBase64 io filePieceNumber fileData))) := by
  unfold storeBase64
  split
  · rename_i hstate
    exact Or.inl ⟨hstate, rfl⟩
  rename_i hstate
  replace hstate : dt.transferState = .STORING := by simpa using hstate
  right
  split
  · rename_i hnumber
    exact Or.inl ⟨hstate, hnumber, rfl⟩
  rename_i hnumber
  refine Or.inr ⟨hstate, by simpa using hnumber, ?_⟩
  split
  · exact Or.inl ⟨_, by decide, rfl⟩
  split
  · rename_i e hdecode
    exact Or.inl ⟨e, decodePiece_error hdecode, rfl⟩
  rename_i bytes hdecode
  right
  rcases dt.storePiece_cases io (decodePiece_ok hdecode).1 with h | ⟨hroom, hopen, ⟨hmore, h⟩ | ⟨hlast, h⟩⟩
  · exact Or.inl h
  · exact Or.inr ⟨bytes, hdecode, hroom, hopen, .more hmore h⟩
  · rw [h]
    rcases (dt.stored io bytes).finalizeTransfer_cases io with hf | ⟨hfw, -, hf⟩ | ⟨hfw, all, htemp, hsize, hf⟩
    · exact Or.inl hf
    · exact Or.inr ⟨bytes, hdecode, hroom, hopen, .firmware hlast hfw hf⟩
    · exact Or.inr ⟨bytes, hdecode, hroom, hopen, .file hlast hfw all htemp hsize hf⟩

theorem readChunk_cases (dt : DataTransfer) (io : CheckIo) :
    (∃ handle md5, dt.readChunk io = { dt with receivedFile := handle, md5 := md5 }) ∨
    ((dt.readChunk io).transferState = .CLEANUP ∧ dt.Errs (dt.readChunk io)) := by
  unfold readChunk
  split
  · split
    · exact Or.inl ⟨_, _, rfl⟩
    · exact Or.inr ⟨rfl, _, by decide, rfl⟩
  · exact Or.inr ⟨rfl, _, by decide, rfl⟩

theorem finishCheck_cases (md5 : Md5) (dt : DataTransfer) (io : CheckIo) :
    (∃ dt', finishCheck md5 dt io = ⟨dt', none, none⟩ ∧ dt'.transferState = .CLEANUP ∧ dt.Errs dt') ∨
    ∃ bytes, dt.tempFile = some bytes ∧ equalsIgnoreCase (md5 dt.md5).toList dt.fileMd5Local = true ∧
      finishCheck md5 dt io = ⟨{ dt with transferState := .CLEANUP, receivedFile := none, tempFile := none },
        some true, some (dt.fileNameLocal, bytes)⟩ := by
  unfold finishCheck
  simp only
  split
  · exact Or.inl ⟨_, rfl, rfl, _, by decide, rfl⟩
  rename_i hequal
  split
  · exact Or.inl ⟨_, rfl, rfl, _, by decide, rfl⟩
  rename_i bytes htemp
  split
  · exact Or.inl ⟨_, rfl, rfl, _, by decide, rfl⟩
  · exact Or.inr ⟨bytes, htemp, by simpa using hequal, rfl⟩

theorem runValidityCheck_cases (md5 : Md5) (dt : DataTransfer) (io : CheckIo) :
    ((dt.transferState = .CLEANUP ∨ dt.timesOut io.now = true) ∧
      runValidityCheck md5 dt io = cleanupTransfer { dt with transferState := .CLEANUP }) ∨
    (dt.timesOut io.now = false ∧
      ((dt.transferState = .IDLE ∧ runValidityCheck md5 dt io = ⟨{ dt with transferTimeoutTimer := io.now }, none,
        none⟩) ∨
      (dt.transferState = .STORING ∧ runValidityCheck md5 dt io = ⟨dt, none, none⟩) ∨
      (dt.transferState = .CHECK ∧ 0 < dt.available ∧ runValidityCheck md5 dt io = ⟨dt.readChunk io, none, none⟩) ∨
      (dt.transferState = .CHECK ∧ dt.available = 0 ∧ runValidityCheck md5 dt io = finishCheck md5 dt io))) := by
  unfold runValidityCheck
  by_cases ht : dt.timesOut io.now = true
  · exact Or.inl ⟨Or.inr ht, by simp only [ht, if_true]⟩
  simp only [if_neg ht]
  replace ht : dt.timesOut io.now = false := by simpa using ht
  cases hs : dt.transferState with
  | IDLE => exact Or.inr ⟨ht, Or.inl ⟨rfl, rfl⟩⟩
  | STORING => exact Or.inr ⟨ht, Or.inr (Or.inl ⟨rfl, rfl⟩)⟩
  | CHECK =>
    refine Or.inr ⟨ht, Or.inr (Or.inr ?_)⟩
    by_cases hleft : 0 < dt.available
    · exact Or.inl ⟨rfl, hleft, if_pos hleft⟩
    · exact Or.inr ⟨rfl, by omega, if_neg hleft⟩
  | CLEANUP => exact Or.inl ⟨Or.inl rfl, rfl⟩

end DataTransfer

end CanSystems
