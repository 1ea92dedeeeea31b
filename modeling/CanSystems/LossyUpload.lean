import Mathlib.Logic.Function.Basic
import CanSystems.UploadSound

/-!
# An upload that loses answers to pieces

The sender's messages arrive in order, whatever the device asks of the world
succeeds, and the first answers to each piece are lost, as many as `toLose` says.
Other answers come in time: a late pass of the sender finds the time for an
answer run out only if no answer is on the way or to come.
-/

namespace CanSystems

open Machine

def CommonIo.succeeding (freeSpace now : UInt32) : CommonIo :=
  ⟨⟨now, true, freeSpace, true, true⟩, ⟨now, 0, true, true, 0⟩, ⟨now, true, true⟩⟩

structure UploadSetting where
  pioEnv : String
  md5 : Md5
  job : Job
  fileInUse : String → Bool
  freeSpace : UInt32

structure LossyUpload where
  link : UploadLink
  /-- How many of the next answers to each piece are lost. -/
  toLose : Nat → Nat

inductive LossyEvent
  | deviceMessage (now : UInt32)
  | deviceRun (now : UInt32)
  | respond
  | act (late : Bool)

inductive LossyKind
  | deviceMessage | deviceRun | respond | act

/-- The kinds of events that bring an upload on; only a late pass can repeat a piece. -/
def LossyEvent.IsOf : LossyEvent → LossyKind → Prop
  | .deviceMessage _, .deviceMessage | .deviceRun _, .deviceRun | .respond, .respond | .act true, .act => True
  | _, _ => False

def MqttCommon.verdictComes (c : MqttCommon) : Bool := c.isFileCheckDone || c.dataTransfer.transferState == .CHECK

/-- An answer is on the way to the sender, or the device has one to give. -/
def UploadLink.answerComes (s : UploadLink) : Bool :=
  !s.toDevice.isEmpty || !s.toSender.isEmpty || s.device.verdictComes

namespace LossyUpload

variable (w : UploadSetting)

def init (device : MqttCommon) (lost : Nat → Nat) : LossyUpload := ⟨.init w.job device, lost⟩

def step (s : LossyUpload) : LossyEvent → LossyUpload
  | .deviceMessage now =>
    let link := s.link.step w.pioEnv w.md5 w.job (.deviceMessage (.succeeding w.freeSpace now) w.fileInUse)
    match s.link.toDevice with
    | .piece p :: _ =>
      if s.toLose p.number = 0 then { s with link := link } else
      ⟨link.step w.pioEnv w.md5 w.job (.loseToSender s.link.toSender.length),
        Function.update s.toLose p.number (s.toLose p.number - 1)⟩
    | _ => { s with link := link }
  | .deviceRun now => { s with link := s.link.step w.pioEnv w.md5 w.job (.deviceRun ⟨now, true, true⟩) }
  | .respond => { s with link := s.link.step w.pioEnv w.md5 w.job .respond }
  | .act late => { s with link := s.link.step w.pioEnv w.md5 w.job (.act (late && !s.link.answerComes)) }

/-- The transfer is never left alone for the quarter of an hour after which the device gives it up. -/
def InTime (s : LossyUpload) : LossyEvent → Prop
  | .deviceRun now => s.link.device.dataTransfer.timesOut now = false
  | _ => True

/-- Every run keeps the sender from failing, and every run of so many rounds brings it to success with the data
published. -/
def Recovers (device : MqttCommon) (lost : Nat → Nat) : Prop :=
  (∀ es, Meets (step w) InTime (init w device lost) es →
    (run (step w) (init w device lost) es).link.sender.state ≠ .ERROR) ∧
  ∃ n, ∀ rounds : List (List LossyEvent), (∀ es ∈ rounds, Round LossyEvent.IsOf es) → n ≤ rounds.length →
    Meets (step w) InTime (init w device lost) rounds.flatten →
      (run (step w) (init w device lost) rounds.flatten).link.sender.state = .DONE ∧
      (run (step w) (init w device lost) rounds.flatten).link.published = some (w.job.name, w.job.data)

end LossyUpload

structure UploadSetting.Takes (w : UploadSetting) (device : MqttCommon) : Prop where
  rest : device.AtRest
  closed : device.dataTransfer.update = none
  build : MqttCommon.acceptsBuild w.pioEnv w.job.name w.job.binId = true
  allowed : FileName.isValidFileName w.job.name = true
  unused : w.fileInUse w.job.name = false
  nonempty : w.job.data ≠ []
  room : w.job.size < w.freeSpace.toNat

end CanSystems
