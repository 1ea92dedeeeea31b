import CanSystems.CanCommissioner

/-!
# The node's side of an update

One pass of the node's handler takes at most four frames off the bus, runs the
store once and answers what the store's step calls for. A node that stored its
own firmware restarts; its store comes up idle over the same flash. `CanNode` is
what the store needs of the handler, `CanHandlerAtmega328P` has the addresses too.
-/

namespace CanSystems

namespace OtaCanResponse

inductive Action
  | NONE | ACK_START | ACK_END | NACK_END
  deriving DecidableEq, Repr

structure Decision where
  action : Action
  reboot : Bool
  deriving DecidableEq, Repr

def decide (prev curr : OtaState) (isOwnFw : Bool) : Decision :=
  if prev = .START ∧ curr = .STORE then ⟨.ACK_START, false⟩ else
  if curr = .VALID then ⟨.ACK_END, isOwnFw⟩ else
  if curr = .INVALID then ⟨.NACK_END, false⟩ else ⟨.NONE, false⟩

def Action.answers : Action → List CanFrame
  | .NONE => []
  | .ACK_START => [.answer .OTA_START .ACK]
  | .ACK_END => [.answer .OTA_END .ACK]
  | .NACK_END => [.answer .OTA_END .NACK]

end OtaCanResponse

structure CanNode where
  ota : OTA
  lastOtaState : OtaState

namespace CanNode

def maxRxFramesPerRun : Nat := 4

def init (flash : SPIFlash) : CanNode := ⟨OTA.init flash, .IDLE⟩

def restartMCU (node : CanNode) : CanNode := init node.ota.flash

def handleRxFrame (node : CanNode) (now : UInt32) (frame : CanFrame) : List CanFrame × CanNode :=
  match frame.cmd with
  | .PING => ([⟨.PING, Vector.replicate 8 0⟩], node)
  | .RESTART => ([], node.restartMCU)
  | .OTA_START =>
    let startFrame := OtaCanFrame.unpackStart frame.data
    let (ok, ota) := node.ota.start now startFrame.storageNumber startFrame.fwSize startFrame.fwCrc
    (if ok then [] else [.answer .OTA_START .NACK], { node with ota := ota })
  | .OTA_SEND =>
    let sendFrame := OtaCanFrame.unpackSend frame.data
    let (ok, ota) := node.ota.storeNextData now sendFrame.sequence sendFrame.data
    ([.answer .OTA_SEND (if ok then .ACK else .NACK)], { node with ota := ota })
  | _ => ([], node)

def grants (node : CanNode) (now : UInt32) (frame : CanFrame) : Bool :=
  let startFrame := OtaCanFrame.unpackStart frame.data
  frame.cmd == .OTA_START && (node.ota.start now startFrame.storageNumber startFrame.fwSize startFrame.fwCrc).1

def drain (node : CanNode) (now : UInt32) : List CanFrame → List CanFrame × CanNode
  | [] => ([], node)
  | frame :: frames =>
    let (answers, node) := node.handleRxFrame now frame
    let (more, node) := node.drain now frames
    (answers ++ more, node)

def decision (node : CanNode) (now : UInt32) : OtaCanResponse.Decision :=
  OtaCanResponse.decide node.lastOtaState (node.ota.run now).otaState (node.ota.run now).isOwnFw

def runStore (node : CanNode) (now : UInt32) : List CanFrame × CanNode :=
  let ota := node.ota.run now
  let decision := OtaCanResponse.decide node.lastOtaState ota.otaState ota.isOwnFw
  let node : CanNode := ⟨ota, ota.otaState⟩
  (decision.action.answers, if decision.reboot then node.restartMCU else node)

def run (node : CanNode) (now : UInt32) (frames : List CanFrame) : List CanFrame × CanNode :=
  let (answers, node) := node.drain now (frames.take maxRxFramesPerRun)
  let (more, node) := node.runStore now
  (answers ++ more, node)

end CanNode

/-- A frame with what the EEPROM makes of the record that it may have the node write. -/
structure NodeFrame where
  frame : BusFrame
  saved : Bool
  deriving DecidableEq, Repr

def NodeFrame.canFrame (f : NodeFrame) : CanFrame := ⟨f.frame.cmd, f.frame.data⟩

structure CanHandlerAtmega328P where
  node : CanNode
  ids : IdNode

namespace CanHandlerAtmega328P

def init (build : NodeBuild) (stored : Option CanId) (flash : SPIFlash) : CanHandlerAtmega328P :=
  ⟨.init flash, .init build stored⟩

/-- The SET_CAN_ID is obeyed, and its record written: the node restarts. -/
def renumbers (h : CanHandlerAtmega328P) (f : NodeFrame) : Bool :=
  CanIdAssign.isAcceptable (CanIdAssign.unpack f.frame.data) h.ids.canId.localCanId h.ids.canId.masterCanId
    f.frame.sender && f.saved

def sent (frames : List BusFrame) : List CanFrame := frames.map fun frame => ⟨frame.cmd, frame.data⟩

def handleRxFrame (build : NodeBuild) (h : CanHandlerAtmega328P) (now : UInt32) (f : NodeFrame) :
    List CanFrame × CanHandlerAtmega328P :=
  match f.frame.cmd with
  | .RESTART => ([], ⟨h.node.restartMCU, h.ids.restartMCU build⟩)
  | .SET_CAN_ID =>
    let (answers, ids) := h.ids.handleSetCanId build f.frame f.saved
    (sent answers, ⟨if h.renumbers f then h.node.restartMCU else h.node, ids⟩)
  | _ =>
    let (answers, node) := h.node.handleRxFrame now f.canFrame
    (answers, { h with node := node })

def drain (build : NodeBuild) (h : CanHandlerAtmega328P) (now : UInt32) :
    List NodeFrame → List CanFrame × CanHandlerAtmega328P
  | [] => ([], h)
  | f :: frames =>
    let (answers, h) := h.handleRxFrame build now f
    let (more, h) := h.drain build now frames
    (answers ++ more, h)

def run (build : NodeBuild) (h : CanHandlerAtmega328P) (now : UInt32) (frames : List NodeFrame) :
    List CanFrame × CanHandlerAtmega328P :=
  let (answers, h) := h.drain build now (frames.take CanNode.maxRxFramesPerRun)
  let (announcement, ids) := h.ids.announce build now
  let (more, node) := h.node.runStore now
  let reboot := (h.node.decision now).reboot
  (answers ++ sent announcement ++ more, ⟨node, if reboot then ids.restartMCU build else ids⟩)

end CanHandlerAtmega328P

end CanSystems
