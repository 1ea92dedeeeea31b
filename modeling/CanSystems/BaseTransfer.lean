import CanSystems.MqttCommon

/-!
# The sender of an upload

`_BaseTransfer` puts the file on the wire a piece at a time, one piece for each
answer, and repeats a piece whose answer does not come. The clock is read for one
question only, whether the time for an answer has run out, so each pass is given
the answer to it. The answers a pass finds waiting are processed one by one
before it looks at its state.
-/

namespace CanSystems

structure Job where
  data : List UInt8
  name : String
  binId : Option String
  deriving DecidableEq, Repr

inductive SenderState
  | IDLE | WAIT_START_ACK | SENDING_FW | WAIT_PIECE_ACK | WAIT_CHECK_ACK | DONE | ERROR
  deriving DecidableEq, Repr

structure SentPiece where
  number : Nat
  offset : Nat
  readSize : Nat
  deriving DecidableEq, Repr

inductive SenderMessage
  | start
  | piece (p : SentPiece)
  deriving DecidableEq, Repr

structure BaseTransfer where
  state : SenderState
  pieceNumber : Nat
  remainingBytes : Nat
  lastPiece : Option SentPiece
  pieceRetries : Nat
  resentPiece : Option Nat
  deriving DecidableEq, Repr

namespace Job

def size (job : Job) : Nat := job.data.length

def slice (job : Job) (offset readSize : Nat) : List UInt8 := (job.data.drop offset).take readSize

def jsonUInt32 (n : Nat) : Option UInt32 := if n < 2 ^ 32 then some (UInt32.ofNat n) else none

def payload (md5 : Md5) (job : Job) : SenderMessage → Payload
  | .start => ⟨none, job.binId, some job.name, jsonUInt32 job.size, some (md5 job.data).toList, none, none⟩
  | .piece p =>
    ⟨none, none, none, none, none, jsonUInt32 p.number, some (Base64.b64encode (job.slice p.offset p.readSize))⟩

end Job

namespace BaseTransfer

def pieceSize : Nat := 100
def maxPieceRetries : Nat := 3
def WRONG_FILE_PIECE_NUMBER : UInt32 := 256

example : WRONG_FILE_PIECE_NUMBER = DataTransferError.WRONG_FILE_PIECE_NUMBER.code := by decide

def init : BaseTransfer := ⟨.IDLE, 0, 0, none, 0, none⟩

def sendStartMessage (t : BaseTransfer) (size : Nat) : BaseTransfer × SenderMessage :=
  ({ t with state := .WAIT_START_ACK, remainingBytes := size, resentPiece := none }, .start)

def finishSending (t : BaseTransfer) : BaseTransfer := { t with state := .WAIT_CHECK_ACK }

def advanceAfterPiece (t : BaseTransfer) : BaseTransfer :=
  let t := { t with pieceRetries := 0 }
  if 0 < t.remainingBytes then { t with state := .SENDING_FW } else t.finishSending

/-- A refusal that can only mean that a repeated piece was stored before. -/
def answersARepeat (t : BaseTransfer) (message : ResultMessage) : Bool :=
  !message.ack && t.resentPiece.isSome && message.err == WRONG_FILE_PIECE_NUMBER

def confirmsThePieceInFlight (t : BaseTransfer) (message : ResultMessage) : Bool :=
  t.answersARepeat message && t.state == .WAIT_PIECE_ACK && t.lastPiece.isSome &&
    t.lastPiece.map SentPiece.number == t.resentPiece

def processResponse (t : BaseTransfer) (message : ResultMessage) : BaseTransfer :=
  if t.state = .WAIT_START_ACK ∧ message.ack = true then { t with state := .SENDING_FW }
  else if t.state = .WAIT_PIECE_ACK ∧ message.ack = true then t.advanceAfterPiece
  else if t.confirmsThePieceInFlight message then advanceAfterPiece { t with resentPiece := none }
  else if t.state = .WAIT_CHECK_ACK ∧ message.ack = true then { t with state := .DONE }
  else if t.answersARepeat message then { t with resentPiece := none }
  else { t with state := .ERROR }

def publishPiece (t : BaseTransfer) (p : SentPiece) : BaseTransfer × SenderMessage :=
  ({ t with state := .WAIT_PIECE_ACK }, .piece p)

def sendPiece (t : BaseTransfer) (size : Nat) : BaseTransfer × SenderMessage :=
  let resentPiece := t.resentPiece.filter fun resent => !decide (t.pieceNumber > resent + 1)
  let p : SentPiece := ⟨t.pieceNumber, size - t.remainingBytes, min t.remainingBytes pieceSize⟩
  let (t, message) := publishPiece { t with resentPiece := resentPiece, lastPiece := some p, pieceRetries := 0 } p
  ({ t with pieceNumber := t.pieceNumber + 1, remainingBytes := t.remainingBytes - p.readSize }, message)

def processState (t : BaseTransfer) (size : Nat) (expired : Bool) : BaseTransfer × Option SenderMessage :=
  match t.state with
  | .SENDING_FW =>
    if 0 < t.remainingBytes then
      let (t, message) := t.sendPiece size
      (t, some message)
    else (t.finishSending, none)
  | .WAIT_START_ACK | .WAIT_PIECE_ACK | .WAIT_CHECK_ACK =>
    if expired = false then (t, none) else
    match t.lastPiece with
    | some p =>
      if t.state = .WAIT_PIECE_ACK ∧ t.pieceRetries < maxPieceRetries then
        let t := { t with pieceRetries := t.pieceRetries + 1, resentPiece := some p.number }
        let (t, message) := t.publishPiece p
        (t, some message)
      else ({ t with state := .ERROR }, none)
    | none => ({ t with state := .ERROR }, none)
  | _ => (t, none)

end BaseTransfer

end CanSystems
