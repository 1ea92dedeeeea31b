import CanSystems.Lib.Machine
import CanSystems.BaseTransfer

/-!
# An upload over two lossy channels

The sender and the device joined by two channels that deliver in order, as late
as they like, and lose what they like. A sender processes the answers it finds
one by one, so how many a pass finds is up to the channel. Each answer is kept
with the message it is about, which the wire does not carry; the verdict of a
check is about none. What the device has verified is kept, too.
-/

namespace CanSystems

open Machine

structure Answer where
  message : ResultMessage
  about : Option SenderMessage
  deriving DecidableEq, Repr

structure UploadLink where
  sender : BaseTransfer
  device : MqttCommon
  toDevice : List SenderMessage
  toSender : List Answer
  /-- The name and the bytes last renamed into place, or accepted by `Update.end()`. -/
  published : Option (String × List UInt8)
  deriving DecidableEq, Repr

inductive UploadEvent
  | deviceMessage (io : CommonIo) (fileInUse : String → Bool)
  | deviceRun (io : CheckIo)
  | respond
  | act (expired : Bool)
  | loseToDevice (i : Nat)
  | loseToSender (i : Nat)

structure MqttCommon.AtRest (c : MqttCommon) : Prop where
  idle : c.dataTransfer.transferState = .IDLE
  quiet : c.isFileCheckDone = false
  noError : c.dataTransfer.dataTransferErrState = 0

theorem MqttCommon.atRest_init (tempFile : Option (List UInt8)) : (MqttCommon.init tempFile).AtRest :=
    ⟨rfl, rfl, rfl⟩

def CommonResult.verified (r : CommonResult) : Option (String × List UInt8) :=
  match r.renamed with
  | some file => some file
  | none => r.image.map (FileName.otaFwLocation, ·)

namespace UploadLink

variable (pioEnv : String) (md5 : Md5) (job : Job)

def init (device : MqttCommon) : UploadLink :=
  let (sender, message) := BaseTransfer.init.sendStartMessage job.size
  ⟨sender, device, [message], [], none⟩

def afterDevice (s : UploadLink) (r : CommonResult) (about : Option SenderMessage) : UploadLink :=
  { s with
    device := r.common
    toSender := s.toSender ++ r.answers.map (⟨·, about⟩)
    published := r.verified <|> s.published }

def step (s : UploadLink) : UploadEvent → UploadLink
  | .deviceMessage io fileInUse =>
    match s.toDevice with
    | [] => s
    | message :: rest => { s with toDevice := rest }.afterDevice
        (s.device.messageArrivedCallback pioEnv io fileInUse (job.payload md5 message)) (some message)
  | .deviceRun io => s.afterDevice (s.device.run md5 io) none
  | .respond =>
    match s.toSender with
    | [] => s
    | answer :: rest => { s with toSender := rest, sender := s.sender.processResponse answer.message }
  | .act expired =>
    let (sender, message) := s.sender.processState job.size expired
    { s with sender := sender, toDevice := s.toDevice ++ message.toList }
  | .loseToDevice i => { s with toDevice := s.toDevice.eraseIdx i }
  | .loseToSender i => { s with toSender := s.toSender.eraseIdx i }

def SuccessIsReal (s : UploadLink) : Prop :=
  s.sender.state = .DONE → s.published = some (job.name, job.data)

/-- A refusal that the sender takes for the answer to the piece on the wire is about that piece. -/
def Fresh (s : UploadLink) : UploadEvent → Prop
  | .respond => ∀ answer ∈ s.toSender.head?, s.sender.confirmsThePieceInFlight answer.message = true →
      answer.about = s.sender.lastPiece.map .piece
  | _ => True

instance (s : UploadLink) : (e : UploadEvent) → Decidable (s.Fresh e)
  | .respond => by unfold Fresh; infer_instance
  | .deviceMessage _ _ | .deviceRun _ | .act _ | .loseToDevice _ | .loseToSender _ => isTrue trivial

end UploadLink

/-! ## Pieces of the job -/

namespace Job

variable (job : Job)

def pieces : Nat := (job.size + 99) / 100

def pieceAt (k : Nat) : SentPiece := ⟨k, 100 * k, min (job.size - 100 * k) 100⟩

/-- The bytes of piece `k`. -/
def bytesAt (k : Nat) : List UInt8 := job.slice (job.pieceAt k).offset (job.pieceAt k).readSize

theorem length_bytesAt (k : Nat) : (job.bytesAt k).length = min (job.size - 100 * k) 100 := by
  simp only [bytesAt, slice, pieceAt, List.length_take, List.length_drop, size]
  omega

theorem length_bytesAt_pos {k : Nat} (h : k < job.pieces) : 0 < (job.bytesAt k).length := by
  rw [length_bytesAt]
  simp only [pieces] at h
  omega

theorem take_append_bytesAt (k : Nat) :
    job.data.take (100 * k) ++ job.bytesAt k = job.data.take (100 * (k + 1)) := by
  have hcut : min (job.size - 100 * k) 100 = min 100 (job.data.drop (100 * k)).length := by
    rw [List.length_drop, size]; omega
  rw [bytesAt, slice, pieceAt]
  simp only
  rw [hcut, ← List.take_eq_take_min, Nat.mul_succ, List.take_add]

theorem take_pieces : job.data.take (100 * job.pieces) = job.data := by
  apply List.take_of_length_le
  simp only [pieces, size]
  omega

end Job

end CanSystems
