import CanSystems.OtaCanFrame

/-!
# The gateway's side of an update

`CanOta` reads a file, sums it, announces it and sends it a piece at a time, one
piece for each answer. What it asks of the world in a pass (the clock, whether
the file reads back what it should, whether the frame found room) is an argument
of the pass; what it leaves there is part of the result. The image facts shared
with other targets are the gateway's, so they go in and out as well. A file has
fewer than 2^32 bytes, so the counters are naturals.
-/

namespace CanSystems

structure FileData where
  bytes : List UInt8
  fits : bytes.length < 2 ^ 32
  deriving DecidableEq, Repr

structure File where
  data : FileData
  pos : Nat
  deriving DecidableEq, Repr

abbrev LittleFS := String → Option FileData

namespace File

def available (f : File) : Nat := f.data.bytes.length - f.pos
def size (f : File) : UInt32 := UInt32.ofNat f.data.bytes.length
def rewind (f : File) : File := { f with pos := 0 }
def next (f : File) (n : Nat) : List UInt8 := (f.data.bytes.drop f.pos).take n

end File

def oneByte : FileData := ⟨[0x42], by decide⟩

structure OtaImageInfo where
  size : UInt32
  crc : UInt16
  valid : Bool
  deriving DecidableEq, Repr

def OtaImageInfo.empty : OtaImageInfo := ⟨0, 0, false⟩

inductive TransferState
  | IDLE | WAIT_FOR_ACK | START | STORE | VALID | INVALID
  deriving DecidableEq, Repr

structure CanOta where
  receivedFile : Option File
  frameNumber : Nat
  storageNumber : UInt16
  fileSize : UInt32
  transferState : TransferState
  crc16 : ImageCrc
  otaTimeoutTimer : UInt32
  fileNamePtr : Option String
  imageCrc : UInt16
  imageCrcKnown : Bool
  sharesImage : Bool
  deriving DecidableEq, Repr

structure PassIo where
  now : UInt32
  readOk : Bool
  sendOk : Bool
  deriving DecidableEq, Repr

def PassIo.smooth : PassIo := ⟨0, true, true⟩

/-- What a pass leaves: the object, the shared image facts, the frame it sent and the
status it published. -/
structure Pass where
  ota : CanOta
  image : OtaImageInfo
  sent : Option CanFrame
  status : Option Bool
  deriving DecidableEq, Repr

namespace CanOta

def otaTimeoutTime : UInt32 := Time.minToMs 5
def readBufferSize : Nat := 64
def filePieceSize : Nat := OtaCanFrame.dataPieceSize

def FILE_NAME_NULLPTR : UInt8 := 1
def FILE_LOCATION_INVALID : UInt8 := 2
def FILE_OPEN_FAILED : UInt8 := 4
def FILE_EMPTY : UInt8 := 8
def ALREADY_IN_PROGRESS : UInt8 := 16

def init : CanOta where
  receivedFile := none
  frameNumber := 0
  storageNumber := 0
  fileSize := 0
  transferState := .IDLE
  crc16 := Crc16.init
  otaTimeoutTimer := 0
  fileNamePtr := none
  imageCrc := 0
  imageCrcKnown := false
  sharesImage := false

def isOtaInProgress (ota : CanOta) : Bool := ota.transferState != .IDLE

/-- The facts another target left are used when they are about a file of this size. -/
def knownFrom (image : Option OtaImageInfo) (fileSize : UInt32) : Bool :=
  match image with
  | none => false
  | some image => image.valid && image.size == fileSize

def startOta (ota : CanOta) (now : UInt32) (fs : LittleFS) (fileName : Option String) (storageNumber : UInt16)
    (image : Option OtaImageInfo) : UInt8 × CanOta :=
  if ota.isOtaInProgress then (ALREADY_IN_PROGRESS, ota) else
  match fileName with
  | none => (FILE_NAME_NULLPTR, ota)
  | some fileName =>
    if fileName.toList.head? ≠ some '/' then (FILE_LOCATION_INVALID, ota) else
    let ota := { ota with fileNamePtr := some fileName }
    match fs fileName with
    | none => (FILE_OPEN_FAILED, { ota with receivedFile := none, transferState := .INVALID })
    | some data =>
      let file : File := ⟨data, 0⟩
      if file.size = 0 then
        (FILE_EMPTY, { ota with receivedFile := none, fileSize := file.size, transferState := .INVALID })
      else
        (0, { ota with
          receivedFile := some file
          fileSize := file.size
          frameNumber := 0
          storageNumber := storageNumber
          transferState := .START
          crc16 := ota.crc16.reset
          sharesImage := image.isSome
          imageCrcKnown := knownFrom image file.size
          imageCrc := if knownFrom image file.size then (image.getD .empty).crc else 0
          otaTimeoutTimer := now })

def handleOtaCanFrames (ota : CanOta) (frame : CanFrame) : CanOta :=
  if ota.transferState ≠ .WAIT_FOR_ACK then ota else
  match frame.cmd with
  | .OTA_START | .OTA_SEND => { ota with transferState := if frame.isAck then .STORE else .INVALID }
  | .OTA_END => { ota with transferState := if frame.isAck then .VALID else .INVALID }
  | _ => ota

def available (ota : CanOta) : Nat :=
  match ota.receivedFile with
  | none => 0
  | some file => file.available

/-- The bytes read, or the transfer ended when fewer came back than were asked for. -/
def readFilePiece (ota : CanOta) (io : PassIo) (length : Nat) : Option (List UInt8) × CanOta :=
  match ota.receivedFile with
  | some file =>
    if io.readOk && decide (length ≤ file.available) then
      (some (file.next length), { ota with receivedFile := some { file with pos := file.pos + length } })
    else (none, { ota with transferState := .INVALID })
  | none => (none, { ota with transferState := .INVALID })

def sendStart (ota : CanOta) (io : PassIo) (image : OtaImageInfo) : Pass :=
  let ota := { ota with receivedFile := ota.receivedFile.map File.rewind }
  let frame : CanFrame := ⟨.OTA_START, OtaCanFrame.packStart ⟨ota.storageNumber, ota.fileSize, ota.imageCrc⟩⟩
  if io.sendOk then ⟨{ ota with transferState := .WAIT_FOR_ACK }, image, some frame, none⟩
  else ⟨{ ota with transferState := .INVALID }, image, none, none⟩

def checksumOrSendStart (ota : CanOta) (io : PassIo) (image : OtaImageInfo) : Pass :=
  if ota.imageCrcKnown then ota.sendStart io image else
  if 0 < ota.available then
    match ota.readFilePiece io (min ota.available readBufferSize) with
    | (none, ota) => ⟨ota, image, none, none⟩
    | (some readBuffer, ota) => ⟨{ ota with crc16 := ota.crc16.next readBuffer }, image, none, none⟩
  else
    let ota := { ota with imageCrc := ota.crc16.get, imageCrcKnown := true }
    ota.sendStart io (if ota.sharesImage then ⟨ota.fileSize, ota.imageCrc, true⟩ else image)

def sendNextPiece (ota : CanOta) (io : PassIo) (image : OtaImageInfo) : Pass :=
  if ota.available = 0 then ⟨{ ota with transferState := .WAIT_FOR_ACK }, image, none, none⟩ else
  let bytesNumber := min ota.available filePieceSize
  match ota.readFilePiece io bytesNumber with
  | (none, ota) => ⟨ota, image, none, none⟩
  | (some bytes, ota) =>
    let frame : CanFrame := ⟨.OTA_SEND,
      OtaCanFrame.packSend ⟨OtaCanFrame.padPiece bytes, UInt8.ofNat ota.frameNumber⟩⟩
    let ota := { ota with frameNumber := ota.frameNumber + bytesNumber }
    if io.sendOk then ⟨{ ota with transferState := .WAIT_FOR_ACK }, image, some frame, none⟩
    else ⟨{ ota with transferState := .INVALID }, image, none, none⟩

def otaInProgress (ota : CanOta) : Bool :=
  ota.transferState == .START || ota.transferState == .STORE || ota.transferState == .WAIT_FOR_ACK

def timesOut (ota : CanOta) (now : UInt32) : Bool :=
  Time.hasElapsed now ota.otaTimeoutTimer otaTimeoutTime && ota.otaInProgress

def conclude (ota : CanOta) (image : OtaImageInfo) : Pass where
  ota := { ota with
    receivedFile := none
    frameNumber := 0
    storageNumber := 0
    fileSize := 0
    transferState := .IDLE
    crc16 := ota.crc16.reset
    fileNamePtr := none }
  image := image
  sent := none
  status := some (ota.transferState == .VALID)

def runOta (ota : CanOta) (io : PassIo) (image : OtaImageInfo) : Pass :=
  let ota := if ota.timesOut io.now then { ota with transferState := .INVALID } else ota
  match ota.transferState with
  | .IDLE => ⟨{ ota with otaTimeoutTimer := io.now }, image, none, none⟩
  | .WAIT_FOR_ACK => ⟨ota, image, none, none⟩
  | .START => ota.checksumOrSendStart io image
  | .STORE => sendNextPiece { ota with otaTimeoutTimer := io.now } io image
  | .VALID | .INVALID => ota.conclude image

/-! ## What the calls can do -/

/-- `startOta` refuses and changes nothing, or fails to open the file, or opens it. -/
theorem startOta_cases (ota : CanOta) (now : UInt32) (fs : LittleFS) (fileName : Option String)
    (storageNumber : UInt16)
    (image : Option OtaImageInfo) :
    (∃ code ≠ 0, ota.startOta now fs fileName storageNumber image = (code, ota)) ∨
    (∃ code ≠ 0, ∃ name size, ota.transferState = .IDLE ∧ fileName = some name ∧
      ota.startOta now fs fileName storageNumber image = (code, { ota with
        fileNamePtr := some name, receivedFile := none, fileSize := size, transferState := .INVALID })) ∨
    (∃ name data, ota.transferState = .IDLE ∧ fileName = some name ∧ fs name = some data ∧
      (⟨data, 0⟩ : File).size ≠ 0 ∧
      ota.startOta now fs fileName storageNumber image = (0, { ota with
        fileNamePtr := some name
        receivedFile := some ⟨data, 0⟩
        fileSize := (⟨data, 0⟩ : File).size
        frameNumber := 0
        storageNumber := storageNumber
        transferState := .START
        crc16 := Crc16.init
        sharesImage := image.isSome
        imageCrcKnown := knownFrom image (⟨data, 0⟩ : File).size
        imageCrc := if knownFrom image (⟨data, 0⟩ : File).size then (image.getD .empty).crc else 0
        otaTimeoutTimer := now })) := by
  unfold startOta
  split
  · exact Or.inl ⟨_, by decide, rfl⟩
  rename_i hidle
  replace hidle : ota.transferState = .IDLE := by simpa [isOtaInProgress] using hidle
  cases fileName with
  | none => exact Or.inl ⟨_, by decide, rfl⟩
  | some name =>
    simp only
    split
    · exact Or.inl ⟨_, by decide, rfl⟩
    cases hfile : fs name with
    | none => exact Or.inr (Or.inl ⟨_, by decide, name, ota.fileSize, hidle, rfl, rfl⟩)
    | some data =>
      simp only
      split
      · exact Or.inr (Or.inl ⟨_, by decide, name, _, hidle, rfl, rfl⟩)
      · rename_i hsize
        exact Or.inr (Or.inr ⟨name, data, hidle, rfl, hfile, hsize, rfl⟩)

theorem handleOtaCanFrames_of_ne {ota : CanOta} (h : ota.transferState ≠ .WAIT_FOR_ACK) (frame : CanFrame) :
    ota.handleOtaCanFrames frame = ota := if_pos h

theorem handleOtaCanFrames_cases (ota : CanOta) (frame : CanFrame) :
    ota.handleOtaCanFrames frame = ota ∨
    (ota.transferState = .WAIT_FOR_ACK ∧ ∃ state,
      ota.handleOtaCanFrames frame = { ota with transferState := state } ∧
      (state = .INVALID ∨ (state = .STORE ∧ (frame.cmd = .OTA_START ∨ frame.cmd = .OTA_SEND)) ∨
        (state = .VALID ∧ frame.cmd = .OTA_END)) ∧ (state = .INVALID ↔ frame.isAck = false)) := by
  by_cases hwait : ota.transferState = .WAIT_FOR_ACK
  swap
  · exact Or.inl (handleOtaCanFrames_of_ne hwait frame)
  unfold handleOtaCanFrames
  rw [if_neg (not_not_intro hwait)]
  cases hcmd : frame.cmd <;> cases hack : frame.isAck <;> simp [hwait]

theorem readFilePiece_cases (ota : CanOta) (io : PassIo) (length : Nat) :
    ota.readFilePiece io length = (none, { ota with transferState := .INVALID }) ∨
    ∃ file, ota.receivedFile = some file ∧ length ≤ file.available ∧ io.readOk = true ∧
      ota.readFilePiece io length =
        (some (file.next length), { ota with receivedFile := some { file with pos := file.pos + length } }) := by
  unfold readFilePiece
  cases hfile : ota.receivedFile with
  | none => exact Or.inl rfl
  | some file =>
    simp only
    split
    · rename_i hok
      rw [Bool.and_eq_true, decide_eq_true_eq] at hok
      exact Or.inr ⟨file, rfl, hok.2, hok.1, rfl⟩
    · exact Or.inl rfl

theorem sendStart_cases (ota : CanOta) (io : PassIo) (image : OtaImageInfo) :
    (∃ sent, ota.sendStart io image =
      ⟨{ ota with receivedFile := ota.receivedFile.map File.rewind, transferState := .WAIT_FOR_ACK }, image,
        some sent, none⟩ ∧
      sent = ⟨.OTA_START, OtaCanFrame.packStart ⟨ota.storageNumber, ota.fileSize, ota.imageCrc⟩⟩ ∧
        io.sendOk = true) ∨
    ota.sendStart io image =
      ⟨{ ota with receivedFile := ota.receivedFile.map File.rewind, transferState := .INVALID }, image, none,
        none⟩ := by
  unfold sendStart
  simp only
  split
  · rename_i hok
    exact Or.inl ⟨_, rfl, rfl, hok⟩
  · exact Or.inr rfl

/-- A START pass announces what it knows, sums one more chunk, or announces what it summed. -/
theorem checksumOrSendStart_cases (ota : CanOta) (io : PassIo) (image : OtaImageInfo) :
    (ota.imageCrcKnown = true ∧ ota.checksumOrSendStart io image = ota.sendStart io image) ∨
    (ota.imageCrcKnown = false ∧
      ota.checksumOrSendStart io image = ⟨{ ota with transferState := .INVALID }, image, none, none⟩) ∨
    (ota.imageCrcKnown = false ∧ ∃ file n, ota.receivedFile = some file ∧ n ≤ file.available ∧
      ota.checksumOrSendStart io image =
        ⟨{ ota with receivedFile := some { file with pos := file.pos + n }, crc16 := ota.crc16.next (file.next n) },
          image, none, none⟩) ∨
    (ota.imageCrcKnown = false ∧ ota.available = 0 ∧
      ota.checksumOrSendStart io image =
        sendStart { ota with imageCrc := ota.crc16.get, imageCrcKnown := true } io
          (if ota.sharesImage then ⟨ota.fileSize, ota.crc16.get, true⟩ else image)) := by
  unfold checksumOrSendStart
  split
  · rename_i hk
    exact Or.inl ⟨hk, rfl⟩
  rename_i hk
  replace hk : ota.imageCrcKnown = false := by simpa using hk
  split
  · rcases ota.readFilePiece_cases io (min ota.available readBufferSize) with h | ⟨file, hfile, hn, -, h⟩
    · rw [h]; exact Or.inr (Or.inl ⟨hk, rfl⟩)
    · rw [h]; exact Or.inr (Or.inr (Or.inl ⟨hk, file, _, hfile, hn, rfl⟩))
  · rename_i hdone
    exact Or.inr (Or.inr (Or.inr ⟨hk, by omega, rfl⟩))

theorem sendNextPiece_cases (ota : CanOta) (io : PassIo) (image : OtaImageInfo) :
    (ota.available = 0 ∧ ota.sendNextPiece io image = ⟨{ ota with transferState := .WAIT_FOR_ACK }, image, none,
      none⟩) ∨
    (∃ file frameNumber, (∀ f, file = some f → ∃ f', ota.receivedFile = some f' ∧ f'.data = f.data) ∧
      ota.sendNextPiece io image = ⟨{ ota with receivedFile := file, frameNumber := frameNumber, transferState := .INVALID }, image, none, none⟩) ∨
    (∃ file, ota.receivedFile = some file ∧ 0 < file.available ∧ ota.sendNextPiece io image =
      ⟨{ ota with
          receivedFile := some { file with pos := file.pos + min file.available filePieceSize }
          frameNumber := ota.frameNumber + min file.available filePieceSize
          transferState := .WAIT_FOR_ACK }, image,
        some ⟨.OTA_SEND, OtaCanFrame.packSend
          ⟨OtaCanFrame.padPiece (file.next (min file.available filePieceSize)), UInt8.ofNat ota.frameNumber⟩⟩,
            none⟩) := by
  unfold sendNextPiece
  split
  · rename_i hdone
    exact Or.inl ⟨hdone, rfl⟩
  rename_i hleft
  simp only
  rcases ota.readFilePiece_cases io (min ota.available filePieceSize) with h | ⟨file, hfile, -, -, h⟩
  · rw [h]; exact Or.inr (Or.inl ⟨_, _, fun f hf => ⟨f, hf, rfl⟩, rfl⟩)
  have havail : ota.available = file.available := by simp [available, hfile]
  rw [h]
  simp only [havail] at hleft ⊢
  split
  · exact Or.inr (Or.inr ⟨file, hfile, by omega, rfl⟩)
  · exact Or.inr (Or.inl ⟨_, _, by rintro f ⟨⟩; exact ⟨file, hfile, rfl⟩, rfl⟩)

theorem runOta_cases (ota : CanOta) (io : PassIo) (image : OtaImageInfo) :
    (ota.timesOut io.now = true ∧ ota.runOta io image = conclude { ota with transferState := .INVALID } image) ∨
    (ota.transferState = .IDLE ∧ ota.runOta io image = ⟨{ ota with otaTimeoutTimer := io.now }, image, none,
      none⟩) ∨
    (ota.transferState = .WAIT_FOR_ACK ∧ ota.runOta io image = ⟨ota, image, none, none⟩) ∨
    (ota.transferState = .START ∧ ota.runOta io image = ota.checksumOrSendStart io image) ∨
    (ota.transferState = .STORE ∧ ota.runOta io image = sendNextPiece { ota with otaTimeoutTimer := io.now } io
      image) ∨
    ((ota.transferState = .VALID ∨ ota.transferState = .INVALID) ∧ ota.runOta io image = ota.conclude image) := by
  unfold runOta
  by_cases ht : ota.timesOut io.now = true
  · exact Or.inl ⟨ht, by simp only [ht, if_true]⟩
  right
  simp only [ht]
  split <;> rename_i hs
  · exact Or.inl ⟨hs, rfl⟩
  · exact Or.inr (Or.inl ⟨hs, rfl⟩)
  · exact Or.inr (Or.inr (Or.inl ⟨hs, rfl⟩))
  · exact Or.inr (Or.inr (Or.inr (Or.inl ⟨hs, rfl⟩)))
  · exact Or.inr (Or.inr (Or.inr (Or.inr ⟨Or.inl hs, rfl⟩)))
  · exact Or.inr (Or.inr (Or.inr (Or.inr ⟨Or.inr hs, rfl⟩)))

end CanOta

end CanSystems
