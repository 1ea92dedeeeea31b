import CanSystems.CanOta
import CanSystems.Lib.Machine

/-!
# One update at the gateway

What an observer of the gateway's side sees of one update, whatever calls are
made and whatever frames arrive: one status message at its end, and the pieces of
the file in their order, each after an answer to the frame before it. An answer
carries the command of the frame it is to, and the gateway does not look which of
the two it is (`stale_answer_sends`).
-/

namespace CanSystems

open Machine

inductive CanOtaCall
  | startOta (now : UInt32) (fs : LittleFS) (fileName : Option String) (storageNumber : UInt16)
    (image : Option OtaImageInfo)
  | handleOtaCanFrames (frame : CanFrame)
  | runOta (io : PassIo) (image : OtaImageInfo)

structure OtaWatch where
  ota : CanOta
  opened : Option FileData
  statuses : Nat
  sent : List CanFrame
  /-- The frames that arrived after the last one sent. -/
  arrived : List CanFrame

namespace OtaWatch

open CanOta

def init : OtaWatch := ⟨.init, none, 0, [], []⟩

def step (w : OtaWatch) : CanOtaCall → OtaWatch
  | .startOta now fs fileName storageNumber image =>
    let ota := (w.ota.startOta now fs fileName storageNumber image).2
    if w.ota.transferState = .IDLE ∧ ota.transferState ≠ .IDLE then ⟨ota, fileName.bind fs, 0, [], []⟩
    else { w with ota := ota }
  | .handleOtaCanFrames frame => { w with ota := w.ota.handleOtaCanFrames frame, arrived := w.arrived ++ [frame] }
  | .runOta io image =>
    let p := w.ota.runOta io image
    { w with
      ota := p.ota
      statuses := w.statuses + p.status.toList.length
      sent := w.sent ++ p.sent.toList
      arrived := if p.sent.isSome then [] else w.arrived }

def sends (w : OtaWatch) : List CanFrame := w.sent.filter (·.cmd == .OTA_SEND)

/-- Piece `k` of the file, with the low byte of where it begins. -/
def pieceFrame (bytes : List UInt8) (k : Nat) : CanFrame :=
  ⟨.OTA_SEND, OtaCanFrame.packSend
    ⟨OtaCanFrame.padPiece ((bytes.drop (filePieceSize * k)).take filePieceSize), UInt8.ofNat (filePieceSize * k)⟩⟩

def Ends (w : OtaWatch) (e : CanOtaCall) : Prop :=
  w.ota.transferState ≠ .IDLE ∧ (w.step e).ota.transferState = .IDLE

structure Closed (ota : CanOta) : Prop where
  file : ota.receivedFile = none
  number : ota.frameNumber = 0
  size : ota.fileSize = 0
  crc : ota.crc16 = Crc16.init

def AnswerTo (frame answer : CanFrame) : Prop := answer.isAck = true ∧ answer.cmd = frame.cmd

def AnswerToAny (_ answer : CanFrame) : Prop :=
  answer.isAck = true ∧ (answer.cmd = .OTA_START ∨ answer.cmd = .OTA_SEND)

/-- The pass sends the piece at which the file stands, the next one after those sent, and an answer to the frame
before it has arrived. -/
def SendsNext (Answers : CanFrame → CanFrame → Prop) (w : OtaWatch) (frame : CanFrame) : Prop :=
  ∃ file k, w.ota.receivedFile = some file ∧ w.opened = some file.data ∧ file.pos = filePieceSize * k ∧
    file.pos < file.data.bytes.length ∧ w.ota.frameNumber = file.pos ∧
    w.sends = (List.range k).map (pieceFrame file.data.bytes) ∧ frame = pieceFrame file.data.bytes k ∧
    ∃ before answer, w.sent.getLast? = some before ∧ answer ∈ w.arrived ∧ Answers before answer

def AllSent (w : OtaWatch) : Prop :=
  ∃ data, w.opened = some data ∧
    w.sends = (List.range ((data.bytes.length + (filePieceSize - 1)) / filePieceSize)).map (pieceFrame data.bytes)

structure Disciplined (Answers : CanFrame → CanFrame → Prop) (w : OtaWatch) (e : CanOtaCall) : Prop where
  ends : w.Ends e → (w.step e).statuses = 1 ∧ Closed (w.step e).ota
  sends : ∀ io image frame, e = .runOta io image → (w.ota.runOta io image).sent = some frame →
    frame.cmd = .OTA_SEND →
    w.SendsNext Answers frame
  covers : ∀ io image, e = .runOta io image → w.ota.transferState = .STORE → (w.ota.runOta io image).sent = none →
    (w.ota.runOta io image).ota.transferState = .WAIT_FOR_ACK → w.AllSent

/-! ## The invariant -/

/-- `k` pieces have been sent, and the file stands behind them. -/
structure Sending (w : OtaWatch) (file : File) (k : Nat) : Prop where
  receivedFile : w.ota.receivedFile = some file
  opened : w.opened = some file.data
  number : w.ota.frameNumber = file.pos
  pos : file.pos = min (filePieceSize * k) file.data.bytes.length
  few : filePieceSize * k < file.data.bytes.length + filePieceSize
  sends : w.sends = (List.range k).map (pieceFrame file.data.bytes)
  before : w.sent ≠ []

structure Inv (w : OtaWatch) : Prop where
  quiet : w.ota.transferState ≠ .IDLE → w.statuses = 0
  starting : w.ota.transferState = .START →
    w.sent = [] ∧ w.ota.frameNumber = 0 ∧ ∃ file, w.ota.receivedFile = some file ∧ w.opened = some file.data
  sending : w.ota.transferState = .WAIT_FOR_ACK ∨ w.ota.transferState = .STORE → ∃ file k, w.Sending file k
  answered : w.ota.transferState = .STORE → ∃ answer ∈ w.arrived, AnswerToAny answer answer

theorem inv_init : init.Inv where
  quiet h := absurd rfl h
  starting h := by cases h
  sending h := by rcases h with h | h <;> cases h
  answered h := by cases h

theorem inv_of_over {w : OtaWatch} (hquiet : w.ota.transferState ≠ .IDLE → w.statuses = 0)
    (h : w.ota.transferState = .IDLE ∨ w.ota.transferState = .VALID ∨ w.ota.transferState = .INVALID) : w.Inv := by
  refine ⟨hquiet, fun hs => ?_, fun hs => ?_, fun hs => ?_⟩
  · rw [hs] at h
    rcases h with h | h | h <;> cases h
  · rcases hs with hs | hs <;> rw [hs] at h <;> rcases h with h | h | h <;> cases h
  · rw [hs] at h
    rcases h with h | h | h <;> cases h

/-! ## The calls -/

theorem inv_startOta {w : OtaWatch} (h : w.Inv) (now : UInt32) (fs : LittleFS) (fileName : Option String)
    (storageNumber : UInt16) (image : Option OtaImageInfo) :
    (w.step (.startOta now fs fileName storageNumber image)).Inv := by
  rcases w.ota.startOta_cases now fs fileName storageNumber image with ⟨code, -, hr⟩ |
    ⟨code, -, name, size, hidle, -, hr⟩ | ⟨name, data, hidle, rfl, hdata, -, hr⟩
  · have hstep : w.step (.startOta now fs fileName storageNumber image) = w := by
      simp only [step, hr]
      split
      · rename_i hleft
        exact absurd hleft.1 hleft.2
      · rfl
    rw [hstep]
    exact h
  · simp only [step, hr, hidle, true_and]
    rw [if_pos (by simp)]
    exact inv_of_over (fun _ => rfl) (Or.inr (Or.inr rfl))
  · simp only [step, hr, hidle, true_and]
    rw [if_pos (by simp)]
    exact ⟨fun _ => rfl, fun _ => ⟨rfl, rfl, _, rfl, hdata⟩, fun hs => (by rcases hs with hs | hs <;> cases hs),
      fun hs => (by cases hs)⟩

theorem startOta_stays {w : OtaWatch} {now : UInt32} {fs : LittleFS} {fileName : Option String}
    {storageNumber : UInt16}
    {image : Option OtaImageInfo} : ¬ w.Ends (.startOta now fs fileName storageNumber image) := by
  rintro ⟨hbusy, hidle⟩
  have hr : (w.ota.startOta now fs fileName storageNumber image).2 = w.ota := by
    unfold startOta
    rw [if_pos (by simpa [isOtaInProgress] using hbusy)]
  simp only [step, hr] at hidle
  split at hidle
  · exact hbusy hidle
  · exact hbusy hidle

theorem inv_handleOtaCanFrames {w : OtaWatch} (h : w.Inv) (frame : CanFrame) :
    (w.step (.handleOtaCanFrames frame)).Inv := by
  rcases w.ota.handleOtaCanFrames_cases frame with hr | ⟨hwait, state, hr, hverdict, hack⟩
  · simp only [step, hr]
    refine ⟨h.quiet, h.starting, fun hs => ?_, fun hs => ?_⟩
    · obtain ⟨file, k, hsending⟩ := h.sending hs
      exact ⟨file, k, hsending.receivedFile, hsending.opened, hsending.number, hsending.pos, hsending.few,
        hsending.sends, hsending.before⟩
    · obtain ⟨answer, hmem, hanswer⟩ := h.answered hs
      exact ⟨answer, List.mem_append_left _ hmem, hanswer⟩
  · have hquiet : w.statuses = 0 := h.quiet (by rw [hwait]; decide)
    simp only [step, hr]
    rcases hverdict with rfl | ⟨rfl, hcmd⟩ | ⟨rfl, -⟩
    · exact inv_of_over (fun _ => hquiet) (Or.inr (Or.inr rfl))
    · obtain ⟨file, k, hsending⟩ := h.sending (Or.inl hwait)
      have hyes : frame.isAck = true := by
        by_contra hno
        exact absurd (hack.mpr (by simpa using hno)) (by decide)
      exact ⟨fun _ => hquiet, fun hs => (by cases hs),
        fun _ => ⟨file, k, hsending.receivedFile, hsending.opened, hsending.number, hsending.pos, hsending.few,
          hsending.sends, hsending.before⟩,
        fun _ => ⟨frame, List.mem_append_right _ (List.mem_singleton.mpr rfl), hyes, hcmd⟩⟩
    · exact inv_of_over (fun _ => hquiet) (Or.inr (Or.inl rfl))

theorem handleOtaCanFrames_stays {w : OtaWatch} {frame : CanFrame} : ¬ w.Ends (.handleOtaCanFrames frame) := by
  rintro ⟨hbusy, hidle⟩
  rcases w.ota.handleOtaCanFrames_cases frame with hr | ⟨-, state, hr, hverdict, -⟩
  · simp only [step, hr] at hidle
    exact hbusy hidle
  · simp only [step, hr] at hidle
    subst hidle
    rcases hverdict with h | ⟨h, -⟩ | ⟨h, -⟩ <;> cases h

/-! ## A pass -/

theorem inv_sendStart {w : OtaWatch} (hsent : w.sent = []) (hnumber : w.ota.frameNumber = 0)
    (hquiet : w.statuses = 0)
    {file : File} (hfile : w.ota.receivedFile = some file) (hopened : w.opened = some file.data) (io : PassIo)
    (image : OtaImageInfo) (arrived : List CanFrame) :
    (⟨(w.ota.sendStart io image).ota, w.opened, w.statuses + (w.ota.sendStart io image).status.toList.length,
      w.sent ++ (w.ota.sendStart io image).sent.toList, arrived⟩ : OtaWatch).Inv := by
  rcases w.ota.sendStart_cases io image with ⟨sent, hr, rfl, -⟩ | hr
  · rw [hr]
    refine ⟨fun _ => hquiet, fun hs => (by cases hs),
      fun _ => ⟨file.rewind, 0, ?_, hopened, hnumber, ?_, ?_, ?_, ?_⟩, fun hs => (by cases hs)⟩
    · simp only [hfile, Option.map_some]
    · exact (Nat.zero_min _).symm
    · show 7 * 0 < file.data.bytes.length + 7
      omega
    · simp only [OtaWatch.sends, hsent]
      rfl
    · simp
  · rw [hr]
    exact inv_of_over (fun _ => hquiet) (Or.inr (Or.inr rfl))

theorem inv_checksumOrSendStart {w : OtaWatch} (h : w.Inv) (hstate : w.ota.transferState = .START) (io : PassIo)
    (image : OtaImageInfo) (arrived : List CanFrame) :
    (⟨(w.ota.checksumOrSendStart io image).ota, w.opened,
      w.statuses + (w.ota.checksumOrSendStart io image).status.toList.length,
        w.sent ++ (w.ota.checksumOrSendStart io image).sent.toList, arrived⟩ : OtaWatch).Inv := by
  have hquiet : w.statuses = 0 := h.quiet (by rw [hstate]; decide)
  obtain ⟨hsent, hnumber, file, hfile, hopened⟩ := h.starting hstate
  rcases w.ota.checksumOrSendStart_cases io image with ⟨-, hr⟩ | ⟨-, hr⟩ | ⟨-, file', n, hfile', -, hr⟩ | ⟨-, -, hr⟩
  · rw [hr]
    exact inv_sendStart hsent hnumber hquiet hfile hopened io image arrived
  · rw [hr]
    exact inv_of_over (fun _ => hquiet) (Or.inr (Or.inr rfl))
  · rw [hr]
    have heq : file' = file := by
      rw [hfile] at hfile'
      exact (Option.some.inj hfile').symm
    subst heq
    refine ⟨fun _ => hquiet, fun _ => ⟨by simp [hsent], hnumber, _, rfl, hopened⟩, fun hs => ?_, fun hs => ?_⟩
    · rcases hs with hs | hs <;> exact absurd (hstate.symm.trans hs) (by decide)
    · exact absurd (hstate.symm.trans hs) (by decide)
  · rw [hr]
    exact inv_sendStart
      (w := { w with ota := { w.ota with imageCrc := w.ota.crc16.get, imageCrcKnown := true } })
      hsent hnumber hquiet hfile hopened io _ arrived

theorem Sending.next {w : OtaWatch} {file : File} {k : Nat} (h : w.Sending file k) (hleft : 0 < file.available) :
    file.pos = filePieceSize * k ∧ file.pos < file.data.bytes.length ∧
      (⟨.OTA_SEND, OtaCanFrame.packSend ⟨OtaCanFrame.padPiece (file.next (min file.available filePieceSize)),
        UInt8.ofNat w.ota.frameNumber⟩⟩ : CanFrame) = pieceFrame file.data.bytes k := by
  have hpos := h.pos
  have havailable : file.available = file.data.bytes.length - file.pos := rfl
  have hat : file.pos = filePieceSize * k := by omega
  refine ⟨hat, by omega, ?_⟩
  have hnext : file.next (min file.available filePieceSize) = (file.data.bytes.drop (filePieceSize * k)).take
      filePieceSize := by
    rw [File.next, hat, Nat.min_comm, ← List.take_take, havailable, hat]
    congr 1
    exact List.take_of_length_le (by rw [List.length_drop])
  rw [hnext, h.number, hat]
  rfl

theorem Sending.allSent {w : OtaWatch} {file : File} {k : Nat} (h : w.Sending file k) (hdone : file.available = 0) :
    w.AllSent := by
  have hpos := h.pos
  have hfew := h.few
  have havailable : file.available = file.data.bytes.length - file.pos := rfl
  have hpiece : filePieceSize = 7 := rfl
  refine ⟨file.data, h.opened, ?_⟩
  have hk : (file.data.bytes.length + (filePieceSize - 1)) / filePieceSize = k := by
    rw [hpiece] at hpos hfew ⊢
    omega
  rw [hk]
  exact h.sends

theorem inv_sendNextPiece {w : OtaWatch} (h : w.Inv) (hstate : w.ota.transferState = .STORE) (io : PassIo)
    (image : OtaImageInfo) (hrun : w.ota.runOta io image = sendNextPiece { w.ota with otaTimeoutTimer := io.now } io
      image) :
    (w.step (.runOta io image)).Inv := by
  have hquiet : w.statuses = 0 := h.quiet (by rw [hstate]; decide)
  obtain ⟨file, k, hsending⟩ := h.sending (Or.inr hstate)
  simp only [step, hrun]
  rcases sendNextPiece_cases { w.ota with otaTimeoutTimer := io.now } io image with ⟨-, hr⟩ | ⟨file', n, -, hr⟩ |
    ⟨file', hfile', hleft, hr⟩
  · rw [hr]
    refine ⟨fun _ => hquiet, fun hs => (by cases hs),
      fun _ => ⟨file, k, hsending.receivedFile, hsending.opened, hsending.number, hsending.pos, hsending.few, ?_,
        ?_⟩, fun hs => (by cases hs)⟩
    · simpa [OtaWatch.sends] using hsending.sends
    · simpa using hsending.before
  · rw [hr]
    exact inv_of_over (fun _ => hquiet) (Or.inr (Or.inr rfl))
  · have heq : file' = file := by
      have hfile := hsending.receivedFile
      rw [hfile'] at hfile
      exact Option.some.inj hfile
    subst heq
    obtain ⟨hpos, hlt, hframe⟩ := hsending.next hleft
    have hpiece : filePieceSize = 7 := rfl
    have havailable : file'.available = file'.data.bytes.length - file'.pos := rfl
    rw [hr]
    refine ⟨fun _ => hquiet, fun hs => (by cases hs), fun _ => ⟨_, k + 1, rfl, hsending.opened, ?_, ?_, ?_, ?_, ?_⟩,
      fun hs => (by cases hs)⟩
    · show w.ota.frameNumber + _ = _
      rw [hsending.number]
    · show file'.pos + min file'.available filePieceSize = min (filePieceSize * (k + 1)) file'.data.bytes.length
      rw [hpiece] at hpos ⊢
      omega
    · show filePieceSize * (k + 1) < file'.data.bytes.length + filePieceSize
      rw [hpiece] at hpos ⊢
      omega
    · have hsends := hsending.sends
      simp only [OtaWatch.sends] at hsends ⊢
      rw [hframe, Option.toList_some, List.filter_append, hsends, List.range_succ, List.map_append]
      rfl
    · simp

theorem conclude_closed (ota : CanOta) (image : OtaImageInfo) : Closed (ota.conclude image).ota :=
    ⟨rfl, rfl, rfl, rfl⟩

theorem inv_runOta {w : OtaWatch} (h : w.Inv) (io : PassIo) (image : OtaImageInfo) :
    (w.step (.runOta io image)).Inv := by
  rcases w.ota.runOta_cases io image with ⟨-, hr⟩ | ⟨hidle, hr⟩ | ⟨hwait, hr⟩ | ⟨hstart, hr⟩ | ⟨hstore, hr⟩ | ⟨-,
    hr⟩
  · simp only [step, hr]
    exact inv_of_over (fun hs => absurd rfl hs) (Or.inl rfl)
  · simp only [step, hr]
    exact inv_of_over (fun hs => absurd hidle hs) (Or.inl hidle)
  · have hstep : w.step (.runOta io image) = w := by
      simp [step, hr]
    rw [hstep]
    exact h
  · simp only [step, hr]
    exact inv_checksumOrSendStart h hstart io image _
  · exact inv_sendNextPiece h hstore io image hr
  · simp only [step, hr]
    exact inv_of_over (fun hs => absurd rfl hs) (Or.inl rfl)

theorem inv_step (w : OtaWatch) (e : CanOtaCall) (h : w.Inv) : (w.step e).Inv := by
  cases e with
  | startOta now fs fileName storageNumber image => exact inv_startOta h now fs fileName storageNumber image
  | handleOtaCanFrames frame => exact inv_handleOtaCanFrames h frame
  | runOta io image => exact inv_runOta h io image

/-! ## The discipline -/

theorem sendStart_announces (ota : CanOta) (io : PassIo) (image : OtaImageInfo) :
    (ota.sendStart io image).ota.transferState ≠ .IDLE ∧
      ∀ frame, (ota.sendStart io image).sent = some frame → frame.cmd ≠ .OTA_SEND := by
  rcases ota.sendStart_cases io image with ⟨sent, hs, rfl, -⟩ | hs
  · rw [hs]
    refine ⟨TransferState.noConfusion, fun frame hsent => ?_⟩
    cases hsent
    exact CanCmd.noConfusion
  · rw [hs]
    exact ⟨TransferState.noConfusion, nofun⟩

theorem checksumOrSendStart_announces (ota : CanOta) (io : PassIo) (image : OtaImageInfo)
    (hstate : ota.transferState ≠ .IDLE) :
    (ota.checksumOrSendStart io image).ota.transferState ≠ .IDLE ∧
      ∀ frame, (ota.checksumOrSendStart io image).sent = some frame → frame.cmd ≠ .OTA_SEND := by
  rcases ota.checksumOrSendStart_cases io image with ⟨-, hc⟩ | ⟨-, hc⟩ | ⟨-, file, n, -, -, hc⟩ | ⟨-, -, hc⟩
  · rw [hc]
    exact sendStart_announces _ io _
  · rw [hc]
    exact ⟨TransferState.noConfusion, nofun⟩
  · rw [hc]
    exact ⟨hstate, nofun⟩
  · rw [hc]
    exact sendStart_announces _ io _

theorem runOta_sends {w : OtaWatch} (h : w.Inv) {io : PassIo} {image : OtaImageInfo} {frame : CanFrame}
    (hsent : (w.ota.runOta io image).sent = some frame)
    (hcmd : frame.cmd = .OTA_SEND) : w.SendsNext AnswerToAny frame := by
  rcases w.ota.runOta_cases io image with ⟨-, hr⟩ | ⟨-, hr⟩ | ⟨-, hr⟩ | ⟨hcheck, hr⟩ | ⟨hstore, hr⟩ | ⟨-, hr⟩
  · rw [hr] at hsent
    cases hsent
  · rw [hr] at hsent
    cases hsent
  · rw [hr] at hsent
    cases hsent
  · rw [hr] at hsent
    exact absurd hcmd ((checksumOrSendStart_announces w.ota io image (by rw [hcheck]; decide)).2 frame hsent)
  · obtain ⟨file, k, hsending⟩ := h.sending (Or.inr hstore)
    obtain ⟨answer, hmem, hanswer⟩ := h.answered hstore
    rw [hr] at hsent
    rcases sendNextPiece_cases { w.ota with otaTimeoutTimer := io.now } io image with ⟨-, hs⟩ | ⟨file', n, -, hs⟩ |
      ⟨file', hfile', hleft, hs⟩
    · rw [hs] at hsent
      cases hsent
    · rw [hs] at hsent
      cases hsent
    · rw [hs] at hsent
      have heq : file' = file := by
        have hfile := hsending.receivedFile
        rw [hfile'] at hfile
        exact Option.some.inj hfile
      subst heq
      obtain ⟨hpos, hlt, hframe⟩ := hsending.next hleft
      refine ⟨file', k, hsending.receivedFile, hsending.opened, hpos, hlt, hsending.number, hsending.sends, ?_, ?_⟩
      · rw [← hframe]
        exact (Option.some.inj hsent).symm
      · exact ⟨_, answer, List.getLast?_eq_some_getLast hsending.before, hmem, hanswer⟩
  · rw [hr] at hsent
    cases hsent

/-- A pass of STORE that goes back to waiting without a frame has found nothing left. -/
theorem runOta_covers {w : OtaWatch} (h : w.Inv) {io : PassIo} {image : OtaImageInfo}
    (hstate : w.ota.transferState = .STORE)
    (hnone : (w.ota.runOta io image).sent = none)
    (hwaits : (w.ota.runOta io image).ota.transferState = .WAIT_FOR_ACK) :
    w.AllSent := by
  obtain ⟨file, k, hsending⟩ := h.sending (Or.inr hstate)
  have hother : w.ota.transferState ≠ .STORE → w.AllSent := fun hno => absurd hstate hno
  rcases w.ota.runOta_cases io image with ⟨-, hr⟩ | ⟨hs, -⟩ | ⟨hs, -⟩ | ⟨hs, -⟩ | ⟨-, hr⟩ | ⟨-, hr⟩
  · rw [hr] at hwaits
    cases hwaits
  · exact hother (by rw [hs]; decide)
  · exact hother (by rw [hs]; decide)
  · exact hother (by rw [hs]; decide)
  · rw [hr] at hnone hwaits
    rcases sendNextPiece_cases { w.ota with otaTimeoutTimer := io.now } io image with ⟨hdone, -⟩ | ⟨file', n, -,
      hs⟩ |
      ⟨file', -, -, hs⟩
    · refine hsending.allSent ?_
      have hfile := hsending.receivedFile
      simpa only [available, hfile] using hdone
    · rw [hs] at hwaits
      cases hwaits
    · rw [hs] at hnone
      cases hnone
  · rw [hr] at hwaits
    cases hwaits

/-- A pass that gives the gateway back to IDLE publishes, for the first time since it left it. -/
theorem runOta_ends {w : OtaWatch} (h : w.Inv) {io : PassIo} {image : OtaImageInfo}
    (hends : w.Ends (.runOta io image)) :
    (w.step (.runOta io image)).statuses = 1 ∧ Closed (w.step (.runOta io image)).ota := by
  have hquiet := h.quiet hends.1
  have hclose : ∀ ota : CanOta, w.ota.runOta io image = ota.conclude image →
      (w.step (.runOta io image)).statuses = 1 ∧ Closed (w.step (.runOta io image)).ota := by
    intro ota hr
    simp only [step, hr]
    exact ⟨by rw [hquiet]; rfl, conclude_closed ota image⟩
  have hidle : (w.ota.runOta io image).ota.transferState = .IDLE := hends.2
  rcases w.ota.runOta_cases io image with ⟨-, hr⟩ | ⟨hs, -⟩ | ⟨-, hr⟩ | ⟨-, hr⟩ | ⟨-, hr⟩ | ⟨-, hr⟩
  · exact hclose _ hr
  · exact absurd hs hends.1
  · rw [hr] at hidle
    exact absurd hidle hends.1
  · rw [hr] at hidle
    exact absurd hidle (checksumOrSendStart_announces w.ota io image hends.1).1
  · rw [hr] at hidle
    rcases sendNextPiece_cases { w.ota with otaTimeoutTimer := io.now } io image with ⟨-, hs⟩ | ⟨file', n, -, hs⟩ |
      ⟨file', -, -, hs⟩
    all_goals
      rw [hs] at hidle
      cases hidle
  · exact hclose _ hr

theorem step_disciplined (w : OtaWatch) (e : CanOtaCall) (h : w.Inv) : w.Disciplined AnswerToAny e where
  ends hends := by
    cases e with
    | startOta now fs fileName storageNumber image => exact absurd hends startOta_stays
    | handleOtaCanFrames frame => exact absurd hends handleOtaCanFrames_stays
    | runOta io image => exact runOta_ends h hends
  sends io image frame _ hsent hcmd := runOta_sends h hsent hcmd
  covers io image _ hstate hnone hwaits := runOta_covers h hstate hnone hwaits

/-- Every call of every run keeps the discipline, where any ACK to the announcement or to a piece counts as an
answer. -/
theorem run_disciplined (calls : List CanOtaCall) : Meets step (Disciplined AnswerToAny) init calls :=
  meets_of_inv inv_step step_disciplined calls inv_init

def twoPieces : FileData := ⟨[1, 2, 3, 4, 5, 6, 7, 8], by decide⟩

def staleAnswer : List CanOtaCall :=
  [.startOta 0 (fun _ => some twoPieces) (some "/canAlertFw.bin") 0 none, .runOta .smooth .empty,
    .runOta .smooth .empty, .handleOtaCanFrames (.answer .OTA_START .ACK), .runOta .smooth .empty,
      .handleOtaCanFrames (.answer .OTA_START .ACK)]

theorem stale_answer_sends :
    ((run step init staleAnswer).ota.runOta .smooth .empty).sent = some (pieceFrame twoPieces.bytes 1) ∧
      (run step init staleAnswer).arrived = [.answer .OTA_START .ACK] ∧
      ¬ Meets step (Disciplined AnswerTo) init (staleAnswer ++ [.runOta .smooth .empty]) := by
  have hsent : ((run step init staleAnswer).ota.runOta .smooth .empty).sent = some
      (pieceFrame twoPieces.bytes 1) := by
    decide +kernel
  have harrived : (run step init staleAnswer).arrived = [.answer .OTA_START .ACK] := by decide +kernel
  have hbefore : (run step init staleAnswer).sent.getLast? = some (pieceFrame twoPieces.bytes 0) := by
    decide +kernel
  refine ⟨hsent, harrived, fun h => ?_⟩
  obtain ⟨-, hlast, -⟩ := Meets.append.mp h
  obtain ⟨file, k, -, -, -, -, -, -, -, before, answer, hlast', hanswer, -, hcmd⟩ := hlast.sends _ _ _ rfl hsent rfl
  rw [harrived, List.mem_singleton] at hanswer
  rw [hbefore] at hlast'
  subst hanswer
  cases hlast'
  exact absurd hcmd (by decide)

end OtaWatch

end CanSystems
