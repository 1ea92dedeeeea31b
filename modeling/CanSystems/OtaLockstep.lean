import CanSystems.CanOta
import CanSystems.CanNode
import CanSystems.StoreRuns

/-!
# Gateway and node in lockstep

Two queues join the gateway and the node; what the node sends arrives, in order.
One side at a time has something to say, so a queue holds one frame at most,
until the last piece: the node answers it and, some passes later, sends its
verdict. A verdict that is dispatched before the gateway has stepped from STORE
back to WAIT_FOR_ACK is dropped.
-/

namespace CanSystems

structure SentFrame where
  transfer : Nat
  frame : CanFrame
  deriving DecidableEq, Repr

/-- `verdict` says that the node's store was VALID for the gateway's transfer, and
`published` is the status published for it. -/
structure OtaLink where
  gateway : CanOta
  current : Nat
  node : CanNode
  accepted : Nat
  toNode : List SentFrame
  toGateway : List CanFrame
  verdict : Bool
  published : Option Bool

inductive LinkEvent
  | startOta (now : UInt32) (fs : LittleFS) (fileName : Option String) (storageNumber : UInt16)
      (image : Option OtaImageInfo)
  | gatewayPass (io : PassIo) (image : OtaImageInfo)
  | dispatch
  | nodePass (now : UInt32) (pending : Nat)
  | loseToNode

namespace OtaLink

def init (flash : SPIFlash) : OtaLink where
  gateway := .init
  current := 0
  node := .init flash
  accepted := 0
  toNode := []
  toGateway := []
  verdict := false
  published := none

/-- The transfer of the last OTA_START the store granted, after these frames. -/
def acceptedAfter : CanNode → UInt32 → List SentFrame → Nat → Nat
  | _, _, [], accepted => accepted
  | node, now, m :: ms, accepted =>
    acceptedAfter (node.handleRxFrame now m.frame).2 now ms
      (if node.grants now m.frame then m.transfer else accepted)

/-- The frames a node pass takes, of those the controller has received. -/
def taken (s : OtaLink) (pending : Nat) : List SentFrame := s.toNode.take (min pending CanNode.maxRxFramesPerRun)

def drained (s : OtaLink) (now : UInt32) (pending : Nat) : List CanFrame × CanNode :=
  s.node.drain now ((s.taken pending).map SentFrame.frame)

def step (s : OtaLink) : LinkEvent → OtaLink
  | .startOta now fs fileName storageNumber image =>
    let gateway := (s.gateway.startOta now fs fileName storageNumber image).2
    if s.gateway.transferState = .IDLE ∧ gateway.transferState ≠ .IDLE then
      { s with gateway := gateway, current := s.current + 1, verdict := false, published := none }
    else { s with gateway := gateway }
  | .gatewayPass io image =>
    let pass := s.gateway.runOta io image
    { s with
      gateway := pass.ota
      toNode := s.toNode ++ pass.sent.toList.map (⟨s.current, ·⟩)
      published := pass.status.or s.published }
  | .dispatch =>
    match s.toGateway with
    | [] => s
    | frame :: frames => { s with gateway := s.gateway.handleOtaCanFrames frame, toGateway := frames }
  | .nodePass now pending =>
    let (answers, node) := s.drained now pending
    let accepted := acceptedAfter s.node now (s.taken pending) s.accepted
    let (more, after) := node.runStore now
    { s with
      node := after
      accepted := accepted
      toNode := s.toNode.drop (min pending CanNode.maxRxFramesPerRun)
      toGateway := s.toGateway ++ (answers ++ more)
      verdict := s.verdict || (decide ((node.ota.run now).otaState = .VALID) && accepted == s.current) }
  | .loseToNode => { s with toNode := s.toNode.tail }

def InTime (s : OtaLink) : LinkEvent → Prop
  | .gatewayPass io _ => s.gateway.timesOut io.now = false
  | .nodePass now pending => (s.drained now pending).2.ota.stalled now = false
  | _ => True

/-- A pass of the gateway lies between the last answer and the node's positive verdict. -/
def VerdictAfterPass (s : OtaLink) : LinkEvent → Prop
  | .dispatch => s.gateway.transferState = .STORE →
      ∀ frame ∈ s.toGateway.head?, ¬ (frame.cmd = .OTA_END ∧ frame.isAck = true)
  | _ => True

instance (s : OtaLink) (e : LinkEvent) : Decidable (InTime s e) := by
  cases e <;> unfold InTime <;> infer_instance

instance (s : OtaLink) (e : LinkEvent) : Decidable (VerdictAfterPass s e) := by
  cases e <;> unfold VerdictAfterPass <;> infer_instance

end OtaLink

/-! ## The node, between passes -/

namespace CanNode

def Quiet (n : CanNode) : Prop :=
  n.lastOtaState = n.ota.otaState ∧ (n.ota.otaState = .IDLE ∨ n.ota.otaState = .VALID ∨ n.ota.otaState = .INVALID ∨
    (n.ota.otaState = .STORE ∧ n.ota.flashPointer < n.ota.fwSize))

/-- The node waits for the piece at `p` of an image of `len` bytes. -/
structure Receiving (p len : Nat) (n : CanNode) : Prop where
  last : n.lastOtaState = .STORE
  state : n.ota.otaState = .STORE
  cursor : n.ota.flashPointer = p
  size : n.ota.fwSize = len
  lt : p < len

structure Starting (len : Nat) (n : CanNode) : Prop where
  last : n.lastOtaState = .START
  state : n.ota.otaState = .START
  cursor : n.ota.flashPointer = 0
  size : n.ota.fwSize = len
  pos : 0 < len

structure Checking (n : CanNode) : Prop where
  last : n.lastOtaState = .CHECK
  state : n.ota.otaState = .CHECK

theorem Receiving.quiet {p len : Nat} {n : CanNode} (h : n.Receiving p len) : n.Quiet :=
  ⟨h.last.trans h.state.symm, Or.inr (Or.inr (Or.inr ⟨h.state, by rw [h.cursor, h.size]; exact h.lt⟩))⟩

theorem quiet_init (flash : SPIFlash) : (init flash).Quiet := ⟨rfl, Or.inl rfl⟩

theorem run_store {ota : OTA} (hs : ota.otaState = .STORE) (hlt : ota.flashPointer < ota.fwSize) {now : UInt32}
    (hin : ota.stalled now = false) : ota.run now = ota := by
  unfold OTA.run
  simp only [hin, hs, Bool.false_eq_true, if_false]
  rw [if_neg (by omega)]

theorem runStore_silent {n : CanNode} {now : UInt32} {ota : OTA} (hrun : n.ota.run now = ota)
    (hstart : ¬ (n.lastOtaState = .START ∧ ota.otaState = .STORE)) (hvalid : ota.otaState ≠ .VALID)
    (hinvalid : ota.otaState ≠ .INVALID) : n.runStore now = ([], ⟨ota, ota.otaState⟩) := by
  have hnone : OtaCanResponse.decide n.lastOtaState ota.otaState ota.isOwnFw = ⟨.NONE, false⟩ := by
    unfold OtaCanResponse.decide
    rw [if_neg hstart, if_neg hvalid, if_neg hinvalid]
  simp only [CanNode.runStore, hrun, hnone]
  rfl

theorem Receiving.runStore {p len : Nat} {n : CanNode} (h : n.Receiving p len) {now : UInt32}
    (hin : n.ota.stalled now = false) : n.runStore now = ([], n) := by
  have hrun := run_store h.state (by rw [h.cursor, h.size]; exact h.lt) hin
  rw [runStore_silent hrun (by simp [h.last]) (by simp [h.state]) (by simp [h.state]), h.state, ← h.last]

theorem Quiet.runStore {n : CanNode} (h : n.Quiet) {now : UInt32} (hin : n.ota.stalled now = false) :
    (n.runStore now).1 = [] ∧ (n.runStore now).2.Quiet ∧ (n.ota.run now).otaState ≠ .VALID := by
  obtain ⟨hlast, hs | hs | hs | ⟨hs, hlt⟩⟩ := h
  · have hrun : n.ota.run now = n.ota := by
      unfold OTA.run
      simp only [hin, hs, Bool.false_eq_true, if_false]
    rw [runStore_silent hrun (by simp [hs]) (by simp [hs]) (by simp [hs]), hrun]
    exact ⟨rfl, ⟨rfl, Or.inl hs⟩, by simp [hs]⟩
  · have hrun : n.ota.run now = { n.ota with otaState := .IDLE } := by
      unfold OTA.run
      simp only [hin, hs, Bool.false_eq_true, if_false]
    rw [runStore_silent hrun (by simp) (by simp) (by simp), hrun]
    exact ⟨rfl, ⟨rfl, Or.inl rfl⟩, by simp⟩
  · have hidle : (n.ota.run now).otaState = .IDLE := by
      unfold OTA.run
      simp only [hin, hs, Bool.false_eq_true, if_false]
    rw [runStore_silent rfl (by simp [hidle]) (by simp [hidle]) (by simp [hidle])]
    exact ⟨rfl, ⟨rfl, Or.inl hidle⟩, by simp [hidle]⟩
  · have hr : n.Receiving n.ota.flashPointer n.ota.fwSize := ⟨hlast.trans hs, hs, rfl, rfl, hlt⟩
    rw [hr.runStore hin, run_store hs hlt hin]
    exact ⟨rfl, hr.quiet, by simp [hs]⟩

theorem Starting.runStore {len : Nat} {n : CanNode} (h : n.Starting len) {now : UInt32}
    (hin : n.ota.stalled now = false) :
    (n.ota.run now).otaState ≠ .VALID ∧
      (((n.runStore now).1 = [] ∧ (n.runStore now).2.Starting len) ∨
       ((n.runStore now).1 = [.answer .OTA_START .ACK] ∧ (n.runStore now).2.Receiving 0 len)) := by
  have hrun : ∃ flash, n.ota.run now = { n.ota with flash := flash } ∨
      n.ota.run now = { n.ota with flash := flash, otaState := .STORE } := by
    refine ⟨n.ota.flash.busy.2, ?_⟩
    unfold OTA.run
    simp only [hin, h.state, Bool.false_eq_true, if_false]
    split
    · exact Or.inl rfl
    · exact Or.inr rfl
  obtain ⟨flash, hrun | hrun⟩ := hrun
  · simp only [CanNode.runStore, hrun, h.last, h.state]
    exact ⟨by simp, Or.inl ⟨rfl, rfl, rfl, h.cursor, h.size, h.pos⟩⟩
  · simp only [CanNode.runStore, hrun, h.last]
    exact ⟨by simp, Or.inr ⟨rfl, rfl, rfl, h.cursor, h.size, h.pos⟩⟩

theorem Checking.runStore {n : CanNode} (h : n.Checking) (now : UInt32) :
    ((n.runStore now).1 = [] ∧ (n.runStore now).2.Checking ∧ (n.ota.run now).otaState ≠ .VALID) ∨
    ((n.runStore now).1 = [.answer .OTA_END .ACK] ∧ (n.runStore now).2.Quiet ∧ (n.ota.run now).otaState = .VALID) ∨
    ((n.runStore now).1 = [.answer .OTA_END .NACK] ∧ (n.runStore now).2.Quiet ∧
      (n.ota.run now).otaState ≠ .VALID) := by
  have hrun : (n.ota.run now).otaState = .CHECK ∨ (n.ota.run now).otaState = .VALID ∨
      (n.ota.run now).otaState = .INVALID := by
    rw [OTA.run_check h.state]
    split
    · rcases n.ota.checkChunk.finishCheck_cases with ⟨-, he⟩ | ⟨-, flash, state, hstate, he, -⟩
      · rw [he]; exact Or.inr (Or.inr rfl)
      · rw [he]; exact Or.inr hstate
    · exact Or.inl ((n.ota.checkChunk_same).state.trans h.state)
  rcases hrun with hs | hs | hs
  · refine Or.inl ⟨?_, ?_, by simp [hs]⟩
    · simp only [CanNode.runStore, hs, h.last]; rfl
    · simp only [CanNode.runStore, hs, h.last]; exact ⟨rfl, hs⟩
  · refine Or.inr (Or.inl ⟨?_, ?_, hs⟩)
    · simp only [CanNode.runStore, hs, h.last]; rfl
    · simp only [CanNode.runStore, hs, h.last, OtaCanResponse.decide]
      cases (n.ota.run now).isOwnFw with
      | true => exact quiet_init _
      | false => exact ⟨hs.symm, Or.inr (Or.inl hs)⟩
  · refine Or.inr (Or.inr ⟨?_, ?_, by simp [hs]⟩)
    · simp only [CanNode.runStore, hs, h.last]; rfl
    · simp only [CanNode.runStore, hs, h.last]; exact ⟨hs.symm, Or.inr (Or.inr (Or.inl hs))⟩

end CanNode

/-! ## The gateway's file -/

namespace CanOta

/-- A file of `len` bytes is open, and nothing of it has been sent. -/
structure Opened (len : Nat) (g : CanOta) : Prop where
  file : ∃ data pos, g.receivedFile = some ⟨data, pos⟩ ∧ data.bytes.length = len
  frame : g.frameNumber = 0
  size : g.fileSize.toNat = len
  pos : 0 < len

/-- `p` of the `len` bytes of the file have been sent. -/
structure Reading (p len : Nat) (g : CanOta) : Prop where
  file : ∃ data, g.receivedFile = some ⟨data, p⟩ ∧ data.bytes.length = len
  frame : g.frameNumber = p
  size : g.fileSize.toNat = len
  le : p ≤ len
  pos : 0 < len

theorem Reading.available {p len : Nat} {g : CanOta} (h : g.Reading p len) : g.available = len - p := by
  obtain ⟨data, hfile, hlen⟩ := h.file
  simp [CanOta.available, hfile, File.available, hlen]

/-- `Reading` does not look at the state. -/
theorem Reading.withState {p len : Nat} {g : CanOta} (h : g.Reading p len) (state : TransferState) :
    Reading p len { g with transferState := state } := ⟨h.file, h.frame, h.size, h.le, h.pos⟩

end CanOta

/-! ## The invariant -/

namespace OtaLink

inductive Closing (s : OtaLink) : List CanFrame → Prop
  | checking (node : s.node.Checking) (same : s.accepted = s.current) (open' : s.verdict = false) : Closing s []
  | valid (node : s.node.Quiet) (given : s.verdict = true) : Closing s [.answer .OTA_END .ACK]
  | invalid (node : s.node.Quiet) (open' : s.verdict = false) : Closing s [.answer .OTA_END .NACK]
  | dropped (node : s.node.Quiet) (open' : s.verdict = false) : Closing s []

inductive Lockstep (s : OtaLink) : Prop
  | free (gateway : s.gateway.transferState = .IDLE) (sent : s.toNode = []) (answered : s.toGateway = [])
      (node : s.node.Quiet) (told : s.verdict = true → s.published = some true)
  | opening (len : Nat) (gateway : s.gateway.transferState = .START) (file : s.gateway.Opened len)
      (sent : s.toNode = []) (answered : s.toGateway = []) (node : s.node.Quiet) (open' : s.verdict = false)
  | failed (gateway : s.gateway.transferState = .INVALID) (sent : s.toNode = []) (answered : s.toGateway = [])
      (node : s.node.Quiet) (open' : s.verdict = false)
  | valid (gateway : s.gateway.transferState = .VALID) (sent : s.toNode = []) (answered : s.toGateway = [])
      (node : s.node.Quiet)
  | startSent (len : Nat) (fields : OtaCanFrame.StartFrame) (gateway : s.gateway.transferState = .WAIT_FOR_ACK)
      (file : s.gateway.Reading 0 len) (hsize : fields.fwSize.toNat = len)
      (sent : s.toNode = [⟨s.current, .OTA_START, OtaCanFrame.packStart fields⟩]) (answered : s.toGateway = [])
      (node : s.node.Quiet) (open' : s.verdict = false)
  | starting (len : Nat) (gateway : s.gateway.transferState = .WAIT_FOR_ACK) (file : s.gateway.Reading 0 len)
      (sent : s.toNode = []) (answered : s.toGateway = []) (node : s.node.Starting len)
      (same : s.accepted = s.current) (open' : s.verdict = false)
  | acked (p len : Nat) (cmd : CanCmd) (gateway : s.gateway.transferState = .WAIT_FOR_ACK)
      (file : s.gateway.Reading p len) (hcmd : cmd = .OTA_START ∨ cmd = .OTA_SEND) (sent : s.toNode = [])
      (answered : s.toGateway = [.answer cmd .ACK]) (node : s.node.Receiving p len)
      (same : s.accepted = s.current) (open' : s.verdict = false)
  | storing (p len : Nat) (gateway : s.gateway.transferState = .STORE) (file : s.gateway.Reading p len)
      (sent : s.toNode = []) (answered : s.toGateway = []) (node : s.node.Receiving p len)
      (same : s.accepted = s.current) (open' : s.verdict = false)
  | pieceSent (p len : Nat) (data : FwPiece) (gateway : s.gateway.transferState = .WAIT_FOR_ACK)
      (file : s.gateway.Reading (p + min (len - p) 7) len)
      (sent : s.toNode = [⟨s.current, .OTA_SEND, OtaCanFrame.packSend ⟨data, UInt8.ofNat p⟩⟩])
      (answered : s.toGateway = []) (node : s.node.Receiving p len) (same : s.accepted = s.current)
      (open' : s.verdict = false)
  | lastAcked (len : Nat) (rest : List CanFrame) (gateway : s.gateway.transferState = .WAIT_FOR_ACK)
      (file : s.gateway.Reading len len) (sent : s.toNode = [])
      (answered : s.toGateway = .answer .OTA_SEND .ACK :: rest) (closing : s.Closing rest)
  | closing (len : Nat) (gateway : s.gateway.transferState = .STORE ∨ s.gateway.transferState = .WAIT_FOR_ACK)
      (file : s.gateway.Reading len len) (sent : s.toNode = []) (closing : s.Closing s.toGateway)
  | refused (cmd : CanCmd) (gateway : s.gateway.transferState = .WAIT_FOR_ACK)
      (hcmd : cmd = .OTA_START ∨ cmd = .OTA_SEND) (sent : s.toNode = [])
      (answered : s.toGateway = [.answer cmd .NACK])
      (node : s.node.Quiet) (open' : s.verdict = false)
  | dead (gateway : s.gateway.transferState = .WAIT_FOR_ACK) (sent : s.toNode = []) (answered : s.toGateway = [])
      (node : s.node.Quiet) (open' : s.verdict = false)

theorem lockstep_init (flash : SPIFlash) : (init flash).Lockstep :=
  .free rfl rfl rfl (CanNode.quiet_init flash) nofun

/-- `Closing` looks at the node and the ghosts only. -/
theorem Closing.congr {s t : OtaLink} {rest : List CanFrame} (h : s.Closing rest) (hn : t.node = s.node)
    (ha : t.accepted = s.accepted) (hc : t.current = s.current) (hv : t.verdict = s.verdict) : t.Closing rest := by
  cases h with
  | checking node same open' => exact .checking (by rwa [hn]) (by rwa [ha, hc]) (by rwa [hv])
  | valid node given => exact .valid (by rwa [hn]) (by rwa [hv])
  | invalid node open' => exact .invalid (by rwa [hn]) (by rwa [hv])
  | dropped node open' => exact .dropped (by rwa [hn]) (by rwa [hv])

theorem Lockstep.idle {s : OtaLink} (h : s.Lockstep) (hs : s.gateway.transferState = .IDLE) :
    s.toNode = [] ∧ s.toGateway = [] ∧ s.node.Quiet := by
  cases h with
  | free gateway sent answered node told => exact ⟨sent, answered, node⟩
  | closing len gateway => rcases gateway with g | g <;> rw [hs] at g <;> cases g
  | opening _ gateway | failed gateway | valid gateway | startSent _ _ gateway | starting _ gateway
  | acked _ _ _ gateway
  | storing _ _ gateway | pieceSent _ _ _ gateway | lastAcked _ _ gateway | refused _ gateway | dead gateway =>
    rw [hs] at gateway; cases gateway

theorem lockstep_startOta {s : OtaLink} (h : s.Lockstep) (now : UInt32) (fs : LittleFS) (fileName : Option String)
    (storageNumber : UInt16) (image : Option OtaImageInfo) :
    (s.step (.startOta now fs fileName storageNumber image)).Lockstep := by
  rcases s.gateway.startOta_cases now fs fileName storageNumber image with
    ⟨code, -, he⟩ | ⟨code, -, name, size, hidle, -, he⟩ | ⟨name, data, hidle, -, -, hsize, he⟩
  · simp only [step, he]
    rw [if_neg fun e => e.2 e.1]
    exact h
  · obtain ⟨hsent, hanswered, hquiet⟩ := h.idle hidle
    simp only [step, he]
    rw [if_pos ⟨hidle, nofun⟩]
    exact .failed rfl hsent hanswered hquiet rfl
  · obtain ⟨hsent, hanswered, hquiet⟩ := h.idle hidle
    simp only [step, he]
    rw [if_pos ⟨hidle, nofun⟩]
    have hfits := data.fits
    have hnat : (⟨data, 0⟩ : File).size.toNat = data.bytes.length := by
      simp only [File.size, UInt32.toNat_ofNat']; omega
    have hpos : 0 < data.bytes.length :=
      Nat.pos_of_ne_zero fun e => hsize (UInt32.toNat_inj.mp (by rw [hnat, e]; rfl))
    exact .opening data.bytes.length rfl ⟨⟨data, 0, rfl, rfl⟩, rfl, hnat, hpos⟩ hsent hanswered hquiet rfl

/-! ## Gateway passes -/

theorem lockstep_sendStart {s : OtaLink} {len : Nat} (g : CanOta) (file : g.Opened len) (sent : s.toNode = [])
    (answered : s.toGateway = []) (node : s.node.Quiet) (open' : s.verdict = false) (io : PassIo)
    (image : OtaImageInfo) :
    Lockstep { s with
      gateway := (g.sendStart io image).ota
      toNode := s.toNode ++ (g.sendStart io image).sent.toList.map (⟨s.current, ·⟩)
      published := (g.sendStart io image).status.or s.published } := by
  obtain ⟨data, pos, hfile, hlen⟩ := file.file
  rcases g.sendStart_cases io image with ⟨frame, he, hframe, -⟩ | he
  · rw [he]
    subst hframe
    refine .startSent len ⟨g.storageNumber, g.fileSize, g.imageCrc⟩ rfl ⟨⟨data, ?_, hlen⟩, file.frame, file.size,
      Nat.zero_le _, file.pos⟩ file.size ?_ answered
      node open'
    · simp only [hfile]; rfl
    · simp [sent]
  · rw [he]
    exact .failed rfl (by simp [sent]) answered node open'

theorem lockstep_gatewayPass {s : OtaLink} (h : s.Lockstep) (io : PassIo) (image : OtaImageInfo)
    (hin : s.gateway.timesOut io.now = false) : (s.step (.gatewayPass io image)).Lockstep := by
  have hcases := s.gateway.runOta_cases io image
  rw [hin] at hcases
  replace hcases := hcases.resolve_left (by simp)
  have hstore (hs : s.gateway.transferState = .STORE) : s.gateway.runOta io image =
      CanOta.sendNextPiece { s.gateway with otaTimeoutTimer := io.now } io image := by
    rcases hcases with ⟨e, -⟩ | ⟨e, -⟩ | ⟨e, -⟩ | ⟨-, he⟩ | ⟨e | e, -⟩
    · rw [hs] at e; cases e
    · rw [hs] at e; cases e
    · rw [hs] at e; cases e
    · exact he
    · rw [hs] at e; cases e
    · rw [hs] at e; cases e
  -- A waiting gateway's pass changes nothing.
  have hwait (hs : s.gateway.transferState = .WAIT_FOR_ACK) : s.step (.gatewayPass io image) = s := by
    have he : s.gateway.runOta io image = ⟨s.gateway, image, none, none⟩ := by simpa [hs] using hcases
    simp [step, he]
  by_cases hs : s.gateway.transferState = .WAIT_FOR_ACK
  · rw [hwait hs]; exact h
  cases h with
  | startSent _ _ gateway | starting _ gateway | acked _ _ _ gateway | pieceSent _ _ _ gateway
  | lastAcked _ _ gateway
  | refused _ gateway | dead gateway => exact absurd gateway hs
  | free gateway sent answered node told =>
    have he : s.gateway.runOta io image = ⟨{ s.gateway with otaTimeoutTimer := io.now }, image, none, none⟩ := by
      simpa [gateway] using hcases
    simp only [step, he]
    exact .free gateway (by simp [sent]) answered node told
  | failed gateway sent answered node open' =>
    have he : s.gateway.runOta io image = s.gateway.conclude image := by simpa [gateway] using hcases
    simp only [step, he]
    exact .free rfl (by simp [CanOta.conclude, sent]) answered node (by simp [open'])
  | valid gateway sent answered node =>
    have he : s.gateway.runOta io image = s.gateway.conclude image := by simpa [gateway] using hcases
    simp only [step, he]
    exact .free rfl (by simp [CanOta.conclude, sent]) answered node (by simp [CanOta.conclude, gateway])
  | opening len gateway file sent answered node open' =>
    have he : s.gateway.runOta io image = s.gateway.checksumOrSendStart io image := by simpa [gateway] using hcases
    simp only [step, he]
    rcases s.gateway.checksumOrSendStart_cases io image with
      ⟨-, hc⟩ | ⟨-, hc⟩ | ⟨-, f, n, hfile, -, hc⟩ | ⟨-, -, hc⟩
    · rw [hc]; exact lockstep_sendStart _ file sent answered node open' io image
    · rw [hc]; exact .failed rfl (by simp [sent]) answered node open'
    · rw [hc]
      obtain ⟨data, pos, hdata, hlen⟩ := file.file
      obtain rfl : f = ⟨data, pos⟩ := Option.some.inj (hfile.symm.trans hdata)
      exact .opening len gateway ⟨⟨data, _, rfl, hlen⟩, file.frame, file.size, file.pos⟩ (by simp [sent]) answered
        node open'
    · rw [hc]
      have hsummed : CanOta.Opened len { s.gateway with imageCrc := s.gateway.crc16.get, imageCrcKnown := true } :=
        ⟨file.file, file.frame, file.size, file.pos⟩
      exact lockstep_sendStart _ hsummed sent answered node open' io _
  | storing p len gateway file sent answered node same open' =>
    obtain ⟨data, hdata, hlen⟩ := file.file
    simp only [step, hstore gateway]
    rcases CanOta.sendNextPiece_cases { s.gateway with otaTimeoutTimer := io.now } io image with
      ⟨hdone, -⟩ | ⟨f, frameNumber, -, hc⟩ | ⟨f, hfile, hleft, hc⟩
    · have := file.available
      have := node.lt
      simp only [CanOta.available] at *
      omega
    · rw [hc]; exact .failed rfl (by simp [sent]) answered node.quiet open'
    · rw [hc]
      obtain rfl : f = ⟨data, p⟩ := Option.some.inj (hfile.symm.trans hdata)
      have hlt := node.lt
      have hmin : min (⟨data, p⟩ : File).available CanOta.filePieceSize = min (len - p) 7 := by
        simp only [File.available, hlen]; rfl
      rw [hmin]
      refine .pieceSent p len (OtaCanFrame.padPiece ((⟨data, p⟩ : File).next (min (len - p) 7))) rfl
        ⟨⟨data, rfl, hlen⟩, ?_, file.size, ?_, file.pos⟩ ?_ answered node same open'
      · simp only [file.frame]
      · omega
      · simp only [sent, file.frame]; rfl
  | closing len gateway file sent closing =>
    rcases gateway with gateway | gateway
    · have hdone : CanOta.available { s.gateway with otaTimeoutTimer := io.now } = 0 := by
        have := file.available
        simp only [CanOta.available] at *
        omega
      have hc : CanOta.sendNextPiece { s.gateway with otaTimeoutTimer := io.now } io image = _ := if_pos hdone
      simp only [step, hstore gateway, hc]
      exact .closing len (Or.inr rfl) ⟨file.file, file.frame, file.size, file.le, file.pos⟩ (by simp [sent])
        (closing.congr rfl rfl rfl rfl)
    · exact absurd gateway hs

/-! ## Answers -/

theorem lockstep_dispatch {s : OtaLink} (h : s.Lockstep) (hG : VerdictAfterPass s .dispatch) :
    (s.step .dispatch).Lockstep := by
  -- With nothing to dispatch the step does nothing.
  have hnone (he : s.toGateway = []) : s.step .dispatch = s := by simp only [step, he]
  have hsome {frame : CanFrame} {rest : List CanFrame} (he : s.toGateway = frame :: rest) :
      s.step .dispatch = { s with gateway := s.gateway.handleOtaCanFrames frame, toGateway := rest } := by
    simp only [step, he]
  have hack {cmd : CanCmd} (hs : s.gateway.transferState = .WAIT_FOR_ACK) (hcmd : cmd = .OTA_START ∨
    cmd = .OTA_SEND) :
      s.gateway.handleOtaCanFrames (.answer cmd .ACK) = { s.gateway with transferState := .STORE } := by
    rcases hcmd with rfl | rfl <;> exact if_neg (not_not_intro hs)
  have hnack {cmd : CanCmd} (hs : s.gateway.transferState = .WAIT_FOR_ACK) (hcmd : cmd = .OTA_START ∨
    cmd = .OTA_SEND) :
      s.gateway.handleOtaCanFrames (.answer cmd .NACK) = { s.gateway with transferState := .INVALID } := by
    rcases hcmd with rfl | rfl <;> exact if_neg (not_not_intro hs)
  have hend (hs : s.gateway.transferState = .WAIT_FOR_ACK) (response : Response) :
      s.gateway.handleOtaCanFrames (.answer .OTA_END response) =
        { s.gateway with transferState := if response = .ACK then .VALID else .INVALID } := by
    cases response <;> exact if_neg (not_not_intro hs)
  by_cases hempty : s.toGateway = []
  · rw [hnone hempty]; exact h
  cases h with
  | free _ _ answered | opening _ _ _ _ answered | failed _ _ answered | valid _ _ answered
  | startSent _ _ _ _ _ _ answered | starting _ _ _ _ answered | storing _ _ _ _ _ answered
  | pieceSent _ _ _ _ _ _ answered | dead _ _ answered => exact absurd answered hempty
  | acked p len cmd gateway file hcmd sent answered node same open' =>
    rw [hsome answered, hack gateway hcmd]
    exact .storing p len rfl (file.withState _) sent rfl node same open'
  | refused cmd gateway hcmd sent answered node open' =>
    rw [hsome answered, hnack gateway hcmd]
    exact .failed rfl sent rfl node open'
  | lastAcked len rest gateway file sent answered closing =>
    rw [hsome answered, hack gateway (Or.inr rfl)]
    exact .closing len (Or.inl rfl) (file.withState _) sent (closing.congr rfl rfl rfl rfl)
  | closing len gateway file sent closing =>
    generalize ha : s.toGateway = answers at closing
    cases closing with
    | checking | dropped => exact absurd ha hempty
    | valid node given =>
      rw [hsome ha]
      rcases gateway with gateway | gateway
      · exact absurd ⟨rfl, rfl⟩ (hG gateway (.answer .OTA_END .ACK) (by rw [ha]; rfl))
      · rw [hend gateway .ACK]
        exact .valid rfl sent rfl node
    | invalid node open' =>
      rw [hsome ha]
      rcases gateway with gateway | gateway
      · rw [CanOta.handleOtaCanFrames_of_ne (by simp [gateway])]
        exact .closing len (Or.inl gateway) file sent (.dropped node open')
      · rw [hend gateway .NACK]
        exact .failed rfl sent rfl node open'

/-! ## Node passes -/

def pass (s : OtaLink) (now : UInt32) : OtaLink :=
  { s with
    node := (s.node.runStore now).2
    toGateway := s.toGateway ++ (s.node.runStore now).1
    verdict := s.verdict || (decide ((s.node.ota.run now).otaState = .VALID) && s.accepted == s.current) }

/-- The node takes the frame `m`. -/
def handle (s : OtaLink) (now : UInt32) (m : SentFrame) : OtaLink :=
  { s with
    node := (s.node.handleRxFrame now m.frame).2
    accepted := if s.node.grants now m.frame then m.transfer else s.accepted
    toNode := []
    toGateway := s.toGateway ++ (s.node.handleRxFrame now m.frame).1 }

theorem nodePass_cases {s : OtaLink} {now : UInt32} {pending : Nat} (hin : InTime s (.nodePass now pending))
    (h : s.toNode = [] ∨ ∃ m, s.toNode = [m]) :
    (s.step (.nodePass now pending) = s.pass now ∧ s.node.ota.stalled now = false) ∨
    (∃ m, s.toNode = [m] ∧ s.step (.nodePass now pending) = (s.handle now m).pass now ∧
      (s.handle now m).node.ota.stalled now = false) := by
  rcases h with h | ⟨m, h⟩
  · have htaken : s.taken pending = [] := by simp [taken, h]
    refine Or.inl ⟨?_, by simpa [InTime, drained, htaken, CanNode.drain] using hin⟩
    simp [step, drained, htaken, CanNode.drain, acceptedAfter, pass, h]
  · rcases Nat.eq_zero_or_pos (min pending CanNode.maxRxFramesPerRun) with h0 | hpos
    · have htaken : s.taken pending = [] := by simp [taken, h0]
      refine Or.inl ⟨?_, by simpa [InTime, drained, htaken, CanNode.drain] using hin⟩
      simp [step, drained, htaken, CanNode.drain, acceptedAfter, pass, h0]
    · obtain ⟨n, hn⟩ := Nat.exists_eq_succ_of_ne_zero (Nat.ne_of_gt hpos)
      have htaken : s.taken pending = [m] := by simp [taken, h, hn]
      refine Or.inr ⟨m, h, ?_, by simpa [InTime, drained, htaken, CanNode.drain, handle] using hin⟩
      simp [step, drained, htaken, CanNode.drain, acceptedAfter, pass, handle, h, hn]
      rfl

theorem pass_silent {s : OtaLink} {now : UInt32} {ota : OTA} (hrun : s.node.ota.run now = ota)
    (hstart : ¬ (s.node.lastOtaState = .START ∧ ota.otaState = .STORE)) (hvalid : ota.otaState ≠ .VALID)
    (hinvalid : ota.otaState ≠ .INVALID) : s.pass now = { s with node := ⟨ota, ota.otaState⟩ } := by
  simp [pass, CanNode.runStore_silent hrun hstart hvalid hinvalid, hrun, hvalid]

theorem pass_quiet {s : OtaLink} (h : s.node.Quiet) {now : UInt32} (hin : s.node.ota.stalled now = false) :
    ∃ node, node.Quiet ∧ s.pass now = { s with node := node } := by
  obtain ⟨hout, hq, hv⟩ := h.runStore hin
  exact ⟨_, hq, by simp [pass, hout, hv]⟩

theorem pass_receiving {s : OtaLink} {p len : Nat} (h : s.node.Receiving p len) {now : UInt32}
    (hin : s.node.ota.stalled now = false) : s.pass now = s := by
  have hv := (h.quiet.runStore hin).2.2
  simp [pass, h.runStore hin, hv]

theorem pass_closing {s : OtaLink} {rest : List CanFrame} (h : s.Closing rest) (answers : List CanFrame)
    (ha : s.toGateway = answers ++ rest)
    {now : UInt32} (hin : s.node.ota.stalled now = false) :
    ∃ rest', (s.pass now).Closing rest' ∧ (s.pass now).toGateway = answers ++ rest' := by
  cases h with
  | checking node same open' =>
    rcases node.runStore now with ⟨hout, hnode, hv⟩ | ⟨hout, hnode, hv⟩ | ⟨hout, hnode, hv⟩
    · exact ⟨[], .checking hnode same (by simp [pass, open', hv]), by simp [pass, hout, ha]⟩
    · exact ⟨_, .valid hnode (by simp [pass, hv, same]), by simp [pass, hout, ha]⟩
    · exact ⟨_, .invalid hnode (by simp [pass, open', hv]), by simp [pass, hout, ha]⟩
  | valid node given =>
    obtain ⟨next, hq, he⟩ := pass_quiet node hin
    rw [he]; exact ⟨_, .valid hq given, ha⟩
  | invalid node open' =>
    obtain ⟨next, hq, he⟩ := pass_quiet node hin
    rw [he]; exact ⟨_, .invalid hq open', ha⟩
  | dropped node open' =>
    obtain ⟨next, hq, he⟩ := pass_quiet node hin
    rw [he]; exact ⟨_, .dropped hq open', ha⟩

theorem handle_startSent {s : OtaLink} {len : Nat} {fields : OtaCanFrame.StartFrame}
    (gateway : s.gateway.transferState = .WAIT_FOR_ACK) (file : s.gateway.Reading 0 len)
    (hsize : fields.fwSize.toNat = len)
    (answered : s.toGateway = []) (node : s.node.Quiet) (open' : s.verdict = false) (now : UInt32)
    (hin : (s.handle now ⟨s.current, .OTA_START, OtaCanFrame.packStart fields⟩).node.ota.stalled now = false) :
    ((s.handle now ⟨s.current, .OTA_START, OtaCanFrame.packStart fields⟩).pass now).Lockstep := by
  have hnot : s.node.lastOtaState ≠ .START := by
    rw [node.1]
    rcases node.2 with e | e | e | ⟨e, -⟩ <;> simp [e]
  rcases s.node.ota.start_cases now fields.storageNumber fields.fwSize fields.fwCrc with
    ⟨flash, -, he⟩ | ⟨flash, -, -, -, -, -, -, he⟩
  · have hhandle : s.handle now ⟨s.current, .OTA_START, OtaCanFrame.packStart fields⟩ = { s with
        node := { s.node with ota := { s.node.ota with flash := flash } }
        toNode := [], toGateway := [.answer .OTA_START .NACK] } := by
      simp [handle, CanNode.handleRxFrame, CanNode.grants, he, answered]
    rw [hhandle] at hin ⊢
    obtain ⟨next, hq, hpass⟩ := pass_quiet (s := { s with
        node := { s.node with ota := { s.node.ota with flash := flash } }
        toNode := [], toGateway := [.answer .OTA_START .NACK] }) node hin
    rw [hpass]
    exact .refused .OTA_START gateway (Or.inl rfl) rfl rfl hq open'
  · let ota : OTA := { s.node.ota with
        flash := flash, fwSize := fields.fwSize.toNat, fwCrc := fields.fwCrc,
        flashBlockBeginAddress := fields.storageNumber.toNat * OTA.flashBlockTobytes,
        flashPointer := 0, stallTimer := now, otaState := .START }
    have hhandle : s.handle now ⟨s.current, .OTA_START, OtaCanFrame.packStart fields⟩ = { s with
        node := { s.node with ota := ota }, accepted := s.current, toNode := [] } := by
      simp [handle, CanNode.handleRxFrame, CanNode.grants, he, answered, ota]
    rw [hhandle] at hin ⊢
    have hpos : 0 < len := file.pos
    have hrun : ota.run now = { ota with flash := flash.busy.2 } ∨
        ota.run now = { ota with flash := flash.busy.2, otaState := .STORE } := by
      have hin' : ota.stalled now = false := hin
      unfold OTA.run
      simp only [hin', Bool.false_eq_true, if_false, ota]
      split
      · exact Or.inl rfl
      · exact Or.inr rfl
    rcases hrun with hrun | hrun
    · rw [pass_silent hrun (by simp [ota]) (by simp [ota]) (by simp [ota])]
      exact .starting len gateway file rfl answered ⟨rfl, rfl, rfl, hsize, hpos⟩ rfl open'
    · rw [pass_silent hrun (by intro e; exact hnot e.1) (by simp) (by simp)]
      exact .dead gateway rfl answered ⟨rfl, Or.inr (Or.inr (Or.inr ⟨rfl, by simp only [ota, hsize]; exact hpos⟩))⟩
        open'

theorem handle_pieceSent {s : OtaLink} {p len : Nat} {data : FwPiece}
    (gateway : s.gateway.transferState = .WAIT_FOR_ACK) (file : s.gateway.Reading (p + min (len - p) 7) len)
    (answered : s.toGateway = []) (node : s.node.Receiving p len) (same : s.accepted = s.current)
    (open' : s.verdict = false) (now : UInt32)
    (hin : (s.handle now ⟨s.current, .OTA_SEND, OtaCanFrame.packSend ⟨data, UInt8.ofNat p⟩⟩).node.ota.stalled now =
      false) :
    ((s.handle now ⟨s.current, .OTA_SEND, OtaCanFrame.packSend ⟨data, UInt8.ofNat p⟩⟩).pass now).Lockstep := by
  have hcont : s.node.ota.continues (UInt8.ofNat p) :=
    ⟨by rw [node.cursor, node.size]; exact node.lt, by rw [node.cursor]⟩
  have hlt := node.lt
  rcases OTA.storeNextData_advance hcont now data with ⟨next, he, hstate, hsize, -, hpointer⟩ | ⟨next, he, hstate⟩
  · have hhandle : s.handle now ⟨s.current, .OTA_SEND, OtaCanFrame.packSend ⟨data, UInt8.ofNat p⟩⟩ = { s with
        node := { s.node with ota := next }, toNode := [], toGateway := [.answer .OTA_SEND .ACK] } := by
      simp [handle, CanNode.handleRxFrame, CanNode.grants, he, answered]
    rw [hhandle] at hin ⊢
    rw [node.cursor, node.size] at hpointer
    rw [node.size] at hsize
    by_cases hlast : p + min (len - p) 7 = len
    · have hrun : (next.run now).otaState = .CHECK := by
        have hin' : next.stalled now = false := hin
        unfold OTA.run
        simp only [hin', hstate, node.state, Bool.false_eq_true, if_false]
        rw [if_pos (by rw [hpointer, hsize]; exact hlast)]
      rw [hlast] at file
      rw [pass_silent rfl (by simp [hrun]) (by simp [hrun]) (by simp [hrun])]
      exact .lastAcked len [] gateway file rfl rfl (.checking ⟨hrun, hrun⟩ same open')
    · have hnode : CanNode.Receiving (p + min (len - p) 7) len { s.node with ota := next } :=
        ⟨node.last, hstate.trans node.state, hpointer, hsize, by omega⟩
      rw [pass_receiving (s := { s with
        node := { s.node with ota := next }, toNode := [], toGateway := [.answer .OTA_SEND .ACK] }) hnode hin]
      exact .acked _ len .OTA_SEND gateway file (Or.inr rfl) rfl rfl hnode same open'
  · have hhandle : s.handle now ⟨s.current, .OTA_SEND, OtaCanFrame.packSend ⟨data, UInt8.ofNat p⟩⟩ = { s with
        node := { s.node with ota := next }, toNode := [], toGateway := [.answer .OTA_SEND .NACK] } := by
      simp [handle, CanNode.handleRxFrame, CanNode.grants, he, answered]
    rw [hhandle] at hin ⊢
    have hrun : (next.run now).otaState = .IDLE := by
      have hin' : next.stalled now = false := hin
      unfold OTA.run
      simp only [hin', hstate, Bool.false_eq_true, if_false]
    rw [pass_silent rfl (by simp [hrun]) (by simp [hrun]) (by simp [hrun])]
    exact .refused .OTA_SEND gateway (Or.inr rfl) rfl rfl ⟨rfl, Or.inl hrun⟩ open'

theorem Lockstep.toNode_short {s : OtaLink} (h : s.Lockstep) : s.toNode = [] ∨ ∃ m, s.toNode = [m] := by
  cases h with
  | startSent _ _ _ _ _ sent | pieceSent _ _ _ _ _ sent => exact Or.inr ⟨_, sent⟩
  | free _ sent | opening _ _ _ sent | failed _ sent | valid _ sent | starting _ _ _ sent | acked _ _ _ _ _ _ sent
  | storing _ _ _ _ sent | lastAcked _ _ _ _ sent | closing _ _ _ sent | refused _ _ _ sent | dead _ sent =>
    exact Or.inl sent

theorem lockstep_pass {s : OtaLink} (h : s.Lockstep) {now : UInt32} (hin : s.node.ota.stalled now = false) :
    (s.pass now).Lockstep := by
  cases h with
  | free gateway sent answered node told =>
    obtain ⟨next, hq, he⟩ := pass_quiet node hin
    rw [he]; exact .free gateway sent answered hq told
  | opening len gateway file sent answered node open' =>
    obtain ⟨next, hq, he⟩ := pass_quiet node hin
    rw [he]; exact .opening len gateway file sent answered hq open'
  | failed gateway sent answered node open' =>
    obtain ⟨next, hq, he⟩ := pass_quiet node hin
    rw [he]; exact .failed gateway sent answered hq open'
  | valid gateway sent answered node =>
    obtain ⟨next, hq, he⟩ := pass_quiet node hin
    rw [he]; exact .valid gateway sent answered hq
  | startSent len fields gateway file hsize sent answered node open' =>
    obtain ⟨next, hq, he⟩ := pass_quiet node hin
    rw [he]; exact .startSent len fields gateway file hsize sent answered hq open'
  | refused cmd gateway hcmd sent answered node open' =>
    obtain ⟨next, hq, he⟩ := pass_quiet node hin
    rw [he]; exact .refused cmd gateway hcmd sent answered hq open'
  | dead gateway sent answered node open' =>
    obtain ⟨next, hq, he⟩ := pass_quiet node hin
    rw [he]; exact .dead gateway sent answered hq open'
  | acked p len cmd gateway file hcmd sent answered node same open' =>
    rw [pass_receiving node hin]; exact .acked p len cmd gateway file hcmd sent answered node same open'
  | storing p len gateway file sent answered node same open' =>
    rw [pass_receiving node hin]; exact .storing p len gateway file sent answered node same open'
  | pieceSent p len data gateway file sent answered node same open' =>
    rw [pass_receiving node hin]; exact .pieceSent p len data gateway file sent answered node same open'
  | starting len gateway file sent answered node same open' =>
    obtain ⟨hv, ⟨hout, hnode⟩ | ⟨hout, hnode⟩⟩ := node.runStore hin
    · exact .starting len gateway file sent (by simp [pass, hout, answered]) hnode same (by simp [pass, hv, open'])
    · exact .acked 0 len .OTA_START gateway file (Or.inl rfl) sent (by simp [pass, hout, answered]) hnode same
        (by simp [pass, hv, open'])
  | lastAcked len rest gateway file sent answered closing =>
    obtain ⟨rest', hclosing, hback⟩ := pass_closing closing [_] answered hin
    exact .lastAcked len rest' gateway file sent hback hclosing
  | closing len gateway file sent closing =>
    obtain ⟨rest', hclosing, hback⟩ := pass_closing closing [] rfl hin
    exact .closing len gateway file sent (by rw [hback]; exact hclosing)

theorem lockstep_nodePass {s : OtaLink} (h : s.Lockstep) {now : UInt32} {pending : Nat}
    (hin : InTime s (.nodePass now pending)) : (s.step (.nodePass now pending)).Lockstep := by
  rcases nodePass_cases hin h.toNode_short with ⟨he, hpass⟩ | ⟨m, hm, he, hpass⟩
  · rw [he]; exact lockstep_pass h hpass
  rw [he]
  cases h with
  | startSent len fields gateway file hsize sent answered node open' =>
    obtain rfl : _ = m := by simpa [sent] using hm
    exact handle_startSent gateway file hsize answered node open' now hpass
  | pieceSent p len data gateway file sent answered node same open' =>
    obtain rfl : _ = m := by simpa [sent] using hm
    exact handle_pieceSent gateway file answered node same open' now hpass
  | free _ sent | opening _ _ _ sent | failed _ sent | valid _ sent | starting _ _ _ sent | acked _ _ _ _ _ _ sent
  | storing _ _ _ _ sent | lastAcked _ _ _ _ sent | closing _ _ _ sent | refused _ _ _ sent | dead _ sent =>
    rw [sent] at hm; cases hm

theorem lockstep_loseToNode {s : OtaLink} (h : s.Lockstep) : (s.step .loseToNode).Lockstep := by
  have hnone (he : s.toNode = []) : s.step .loseToNode = s := by
    cases s
    simp only at he
    simp [step, he]
  by_cases hempty : s.toNode = []
  · rw [hnone hempty]; exact h
  cases h with
  | startSent len fields gateway file hsize sent answered node open' =>
    exact .dead gateway (by simp [step, sent]) answered node open'
  | pieceSent p len data gateway file sent answered node same open' =>
    exact .dead gateway (by simp [step, sent]) answered node.quiet open'
  | free _ sent | opening _ _ _ sent | failed _ sent | valid _ sent | starting _ _ _ sent | acked _ _ _ _ _ _ sent
  | storing _ _ _ _ sent | lastAcked _ _ _ _ sent | closing _ _ _ sent | refused _ _ _ sent | dead _ sent =>
    exact absurd sent hempty

theorem step_lockstep {s : OtaLink} {e : LinkEvent} (h : s.Lockstep) (hG : InTime s e ∧ VerdictAfterPass s e) :
    (s.step e).Lockstep := by
  cases e with
  | startOta now fs fileName storageNumber image => exact lockstep_startOta h now fs fileName storageNumber image
  | gatewayPass io image => exact lockstep_gatewayPass h io image hG.1
  | dispatch => exact lockstep_dispatch h hG.2
  | nodePass now pending => exact lockstep_nodePass h hG.1
  | loseToNode => exact lockstep_loseToNode h

/-- A positive verdict whose answers are all dispatched is published, or it will be by the next pass. -/
theorem Lockstep.verdict {s : OtaLink} (h : s.Lockstep) (hv : s.verdict = true) (ha : s.toGateway = []) :
    s.gateway.transferState = .VALID ∨ (s.gateway.transferState = .IDLE ∧ s.published = some true) := by
  cases h with
  | free gateway sent answered node told => exact Or.inr ⟨gateway, told hv⟩
  | valid gateway => exact Or.inl gateway
  | closing len gateway file sent closing =>
    rw [ha] at closing
    cases closing <;> simp_all
  | lastAcked len rest gateway file sent answered => rw [ha] at answered; cases answered
  | opening _ _ _ _ _ _ open' | failed _ _ _ _ open' | startSent _ _ _ _ _ _ _ _ open'
  | starting _ _ _ _ _ _ _ open'
  | acked _ _ _ _ _ _ _ _ _ _ open' | storing _ _ _ _ _ _ _ _ open' | pieceSent _ _ _ _ _ _ _ _ _ open'
  | refused _ _ _ _ _ _ open' | dead _ _ _ _ open' => rw [open'] at hv; cases hv

end OtaLink

/-- In every run in time in which a pass of the gateway lies between the answer to the last piece
and the positive verdict: when the node's store was VALID for the gateway's transfer and all its
frames are dispatched, two passes of the gateway later [OK] is published for it. -/
theorem verdict_is_published (flash : SPIFlash) (es : List LinkEvent)
    (hG : Machine.Meets OtaLink.step (fun s e => OtaLink.InTime s e ∧ OtaLink.VerdictAfterPass s e)
      (OtaLink.init flash) es)
    (hv : (Machine.run OtaLink.step (OtaLink.init flash) es).verdict = true)
    (ha : (Machine.run OtaLink.step (OtaLink.init flash) es).toGateway = [])
    (io₁ io₂ : PassIo) (image₁ image₂ : OtaImageInfo) :
    (Machine.run OtaLink.step (Machine.run OtaLink.step (OtaLink.init flash) es)
      [.gatewayPass io₁ image₁, .gatewayPass io₂ image₂]).published = some true := by
  have hlock := Machine.run_inv (fun _ _ h hg => OtaLink.step_lockstep h hg) (OtaLink.lockstep_init flash) hG
  generalize Machine.run OtaLink.step (OtaLink.init flash) es = s at hv ha hlock ⊢
  -- A pass of an idle gateway publishes nothing and leaves it idle.
  have hidle (t : OtaLink) (io : PassIo) (image : OtaImageInfo) (ht : t.gateway.transferState = .IDLE) :
      (t.step (.gatewayPass io image)).gateway.transferState = .IDLE ∧
        (t.step (.gatewayPass io image)).published = t.published := by
    have hin : t.gateway.timesOut io.now = false := by simp [CanOta.timesOut, CanOta.otaInProgress, ht]
    have he : t.gateway.runOta io image = ⟨{ t.gateway with otaTimeoutTimer := io.now }, image, none, none⟩ := by
      simp only [CanOta.runOta, hin, ht, Bool.false_eq_true, if_false]
    simp only [OtaLink.step, he]
    exact ⟨ht, rfl⟩
  simp only [Machine.run_cons, Machine.run_nil]
  rcases hlock.verdict hv ha with hs | ⟨hs, hp⟩
  · have hin : s.gateway.timesOut io₁.now = false := by simp [CanOta.timesOut, CanOta.otaInProgress, hs]
    have he : s.gateway.runOta io₁ image₁ = s.gateway.conclude image₁ := by
      simp only [CanOta.runOta, hin, hs, Bool.false_eq_true, if_false]
    rw [(hidle (s.step (.gatewayPass io₁ image₁)) io₂ image₂ (by simp only [OtaLink.step, he]; rfl)).2]
    simp [OtaLink.step, he, CanOta.conclude, hs]
  · rw [(hidle _ io₂ image₂ (hidle s io₁ image₁ hs).1).2, (hidle s io₁ image₁ hs).2, hp]

/-! ## Both kinds of run -/

namespace OtaLink

def smoothPass : LinkEvent := .gatewayPass .smooth .empty

/-- The transfer of one byte to block 1, to the moment its answer and its verdict are both on the way. -/
def twoAnswers : List LinkEvent :=
  [.startOta 0 (fun _ => some oneByte) (some "/fw.bin") 1 none, smoothPass, smoothPass, .nodePass 0 1,
    .nodePass 0 0,
   .dispatch, smoothPass, .nodePass 0 1, .nodePass 0 0]

def pacedRun : List LinkEvent := twoAnswers ++ [.dispatch, smoothPass, .dispatch]

def hastyRun : List LinkEvent := twoAnswers ++ [.dispatch, .dispatch]

end OtaLink

theorem verdict_is_published_pacedRun :
    (Machine.run OtaLink.step (Machine.run OtaLink.step (OtaLink.init SPIFlash.quickFlash) OtaLink.pacedRun)
      [OtaLink.smoothPass, OtaLink.smoothPass]).published = some true :=
  verdict_is_published SPIFlash.quickFlash OtaLink.pacedRun (by decide +kernel) (by decide +kernel)
    (by decide +kernel)
    .smooth .smooth .empty .empty

theorem verdict_not_always_published :
    ¬ ∀ (flash : SPIFlash) (es : List LinkEvent),
      Machine.Meets OtaLink.step OtaLink.InTime (OtaLink.init flash) es →
      (Machine.run OtaLink.step (OtaLink.init flash) es).verdict = true →
      (Machine.run OtaLink.step (OtaLink.init flash) es).toGateway = [] →
      ∀ (io₁ io₂ : PassIo) (image₁ image₂ : OtaImageInfo),
        (Machine.run OtaLink.step (Machine.run OtaLink.step (OtaLink.init flash) es)
          [.gatewayPass io₁ image₁, .gatewayPass io₂ image₂]).published = some true := by
  intro h
  have hlost := h SPIFlash.quickFlash OtaLink.hastyRun (by decide +kernel) (by decide +kernel) (by decide +kernel)
    .smooth .smooth .empty .empty
  revert hlost
  decide +kernel

end CanSystems
