import CanSystems.DataTransfer

/-!
# Uploads over MQTT

A JSON message is what the handler reads of it: each field, if it is there and
of the right type. A restart leaves the temp file and forgets the rest. The
string the build was made for is a parameter.
-/

namespace CanSystems

structure Payload where
  cmd : Option String
  binId : Option String
  name : Option String
  fileSize : Option UInt32
  md5 : Option (List UInt8)
  piece : Option UInt32
  data : Option (List UInt8)
  deriving DecidableEq, Repr

/-- What `sendResult` publishes. -/
structure ResultMessage where
  ack : Bool
  err : UInt32
  deriving DecidableEq, Repr

structure MqttCommon where
  dataTransfer : DataTransfer
  isFileCheckDone : Bool
  isFileValid : Bool
  isRestartRequired : Bool
  deriving DecidableEq, Repr

structure CommonIo where
  begin : BeginIo
  store : StoreIo
  check : CheckIo
  deriving DecidableEq, Repr

def CommonIo.smooth : CommonIo := ⟨.smooth, .smooth, .smooth⟩

/-- What a message or a pass leaves: the answers it published, the file it queued for the targets, the name the
temp file was renamed onto with what it held, the image the updater accepted, and whether the device restarted. -/
structure CommonResult where
  common : MqttCommon
  answers : List ResultMessage
  queued : Option String
  renamed : Option (String × List UInt8)
  image : Option (List UInt8)
  restarted : Bool
  deriving DecidableEq, Repr

namespace MqttCommon

def cmdReboot : String := "reboot"

def init (tempFile : Option (List UInt8)) : MqttCommon := ⟨.init tempFile, false, false, false⟩

/-- `checkOkCallback`, if it was called. -/
def fileValidCb (c : MqttCommon) : Option Bool → MqttCommon
  | none => c
  | some isValid => { c with isFileCheckDone := true, isFileValid := isValid }

def reboot (c : MqttCommon) (answers : List ResultMessage) : CommonResult :=
  ⟨init c.dataTransfer.tempFile, answers, none, none, none, true⟩

def dispatchCommand (c : MqttCommon) (cmd : String) : CommonResult :=
  if cmd = cmdReboot then c.reboot [⟨true, 0⟩] else ⟨c, [⟨false, 0⟩], none, none, none, false⟩

/-- The device's own firmware has to name a build, and a named build has to be this one. -/
def acceptsBuild (pioEnv fileName : String) : Option String → Bool
  | none => !FileName.isOwnFirmwareFileName fileName
  | some binId => binId == pioEnv

def handleStart (pioEnv : String) (c : MqttCommon) (io : BeginIo) (fileInUse : String → Bool) (fileName : String)
    (fileSize : UInt32) (fileMd5 : List UInt8) (binId : Option String) : CommonResult :=
  if acceptsBuild pioEnv fileName binId = false then ⟨c, [⟨false, 0⟩], none, none, none, false⟩ else
  let (transferBeginResult, dt) := c.dataTransfer.begin io fileInUse fileSize (some fileMd5) (some fileName)
  let isRestartRequired := if transferBeginResult then dt.isFirmwareTransfer else c.isRestartRequired
  let (beginErrCode, dt) := dt.getErrorCode
  ⟨{ c with dataTransfer := dt, isRestartRequired := isRestartRequired }, [⟨transferBeginResult, beginErrCode⟩],
    none, none, none, false⟩

def handlePiece (c : MqttCommon) (io : StoreIo) (filePieceNumber : UInt32)
    (filePieceB64 : List UInt8) : CommonResult :=
  let r := c.dataTransfer.storeBase64 io filePieceNumber (some filePieceB64)
  let (storingErrCode, dt) := r.dt.getErrorCode
  ⟨{ c with dataTransfer := dt }.fileValidCb r.checked, [⟨r.ok, storingErrCode⟩], none, none, r.image, false⟩

def messageArrivedCallback (pioEnv : String) (c : MqttCommon) (io : CommonIo) (fileInUse : String → Bool)
    (payload : Payload) : CommonResult :=
  match payload.cmd with
  | some cmd => c.dispatchCommand cmd
  | none =>
    match payload.name, payload.fileSize, payload.md5 with
    | some fileName, some fileSize, some fileMd5 =>
      handleStart pioEnv c io.begin fileInUse fileName fileSize fileMd5 payload.binId
    | _, _, _ =>
      match payload.piece, payload.data with
      | some filePieceNumber, some filePieceB64 => c.handlePiece io.store filePieceNumber filePieceB64
      | _, _ => ⟨c, [], none, none, none, false⟩

/-- The end of the pass, after the answers and the file queued before it. -/
def checkPass (md5 : Md5) (c : MqttCommon) (io : CheckIo) (answers : List ResultMessage) (queued : Option String) :
    CommonResult :=
  let r := c.dataTransfer.runValidityCheck md5 io
  ⟨{ c with dataTransfer := r.dt }.fileValidCb r.checked, answers, queued, r.renamed, none, false⟩

def run (md5 : Md5) (c : MqttCommon) (io : CheckIo) : CommonResult :=
  if c.isFileCheckDone = false then c.checkPass md5 io [] none else
  let (errCode, dt) := c.dataTransfer.getErrorCode
  let c := { c with isFileCheckDone := false, dataTransfer := dt }
  let answers := [ResultMessage.mk c.isFileValid errCode]
  if c.isFileValid = false then c.checkPass md5 io answers none else
  if c.isRestartRequired then c.reboot answers else c.checkPass md5 io answers (some c.dataTransfer.getFileName)

end MqttCommon

end CanSystems
