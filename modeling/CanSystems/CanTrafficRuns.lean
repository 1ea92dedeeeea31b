import CanSystems.CanTraffic
import CanSystems.Lib.Machine

/-!
# Runs of the CAN handler

Interrupts and the calls of other tasks come at any time, also between any two
calls that a pass makes. Both ways the frames keep their order and none of them
is lost but those that a full queue refuses, which are counted, and those that
the chip is handed while it is off the bus.
-/

namespace CanSystems

inductive CanEvent
  | receive (window : Nat → UInt8)
  | release
  | enterBusOff
  | leaveBusOff
  | send (frame : ExtFrame)
  | sendCommand (command : UInt16) (data : CanData)
  | sendCanFrame (clientCanId command : UInt16) (data : CanData)
  | registerCallback (clientCanId : UInt16)
  | setUnclaimedFrameCallback (isSet : Bool)

namespace CanEvent

def perform (handler : CanTraffic) : CanEvent → CanTraffic
  | receive window => handler.receive window
  | release => { handler with controller.chip := handler.controller.chip.release }
  | enterBusOff => { handler with controller.chip := handler.controller.chip.enterBusOff }
  | leaveBusOff => { handler with controller.chip := handler.controller.chip.leaveBusOff }
  | send frame => (handler.send frame).2
  | sendCommand command data => (handler.sendCommand command data).2
  | sendCanFrame clientCanId command data => (handler.sendCanFrame clientCanId command data).2
  | registerCallback clientCanId => handler.registerCallback clientCanId
  | setUnclaimedFrameCallback isSet => { handler with hasUnclaimedFrameCallback := isSet }

/-- The frames that come off the bus, whether or not there is room for them. -/
def arrives (handler : CanTraffic) : CanEvent → List WireFrame
  | receive window =>
    if handler.controller.chip.isInResetMode || !handler.controller.chip.passes
      (ESP32SJA1000.windowFrame window) then [] else
    [ESP32SJA1000.windowFrame window]
  | _ => []

def accepts (handler : CanTraffic) : CanEvent → List ExtFrame
  | send frame => if (handler.send frame).1 then [frame] else []
  | sendCommand command data =>
    if (handler.sendCommand command data).1 then
      [.pack handler.canId.masterCanId command handler.canId.localCanId data] else []
  | sendCanFrame clientCanId command data =>
    if (handler.sendCanFrame clientCanId command data).1 then
      [.pack clientCanId command handler.canId.localCanId data] else []
  | _ => []

def isQuiet : CanEvent → Bool
  | enterBusOff => false
  | _ => true

end CanEvent

structure Gap where
  events : List CanEvent
  now : UInt32

/-- A frame that was handed to the controller: whether the chip held none then, and whether it was on the bus. -/
structure Handover where
  frame : ExtFrame
  free : Bool
  operating : Bool

/-- A frame that was dispatched, whom it was given to, and who was there to take it. -/
structure Dispatch where
  frame : ExtFrame
  receiver : FrameReceiver
  deviceList : List UInt16
  hasUnclaimedFrameCallback : Bool
  deriving DecidableEq

structure CanWatch where
  handler : CanTraffic
  arrived : List WireFrame
  queued : List ExtFrame
  refused : List ExtFrame
  dispatched : List Dispatch
  accepted : List ExtFrame
  handed : List Handover
  /-- The places in `handed` of the frames that the driver gave up. -/
  abandoned : List ℕ
  /-- The sums of the two counts over all reports. -/
  reportedFull : ℕ
  reportedAbandoned : ℕ

inductive CanHandlerEvent
  | between (event : CanEvent)
  | run (mutexTaken : Bool) (gap : ℕ → Gap)

namespace CanWatch

def start (regs : Nat → UInt8) (handler : CanHandlerEsp32) : CanWatch where
  handler := .init regs handler
  arrived := []
  queued := []
  refused := []
  dispatched := []
  accepted := []
  handed := []
  abandoned := []
  reportedFull := 0
  reportedAbandoned := 0

def event (w : CanWatch) (e : CanEvent) : CanWatch :=
  let frames := (e.arrives w.handler).filterMap WireFrame.framed
  { w with
    handler := e.perform w.handler
    arrived := w.arrived ++ e.arrives w.handler
    queued := w.queued ++ if w.handler.canRxQueue.isFull then [] else frames
    refused := w.refused ++ if w.handler.canRxQueue.isFull then frames else []
    accepted := w.accepted ++ e.accepts w.handler }

abbrev meanwhile : CanWatch → List CanEvent → CanWatch := Machine.run event

/-! ## A pass -/

def begin (w : CanWatch) (gap : Gap) : CanWatch :=
  let w := { w with handler := w.handler.recover }.meanwhile gap.events
  let report := w.handler.reportDroppedFrames
  { w with
    handler := report.2
    reportedFull := w.reportedFull + report.1.1.toNat
    reportedAbandoned := w.reportedAbandoned + report.1.2.toNat }

section
variable (gap : ℕ → Gap)

def takeRx (s : CanWatch × ℕ) : Option ExtFrame × (CanWatch × ℕ) :=
  let w := s.1.meanwhile (gap s.2).events
  (w.handler.canRxQueue.items.head?, { w with handler.canRxQueue := w.handler.canRxQueue.rest }, s.2 + 1)

def handleRx (frame : ExtFrame) (s : CanWatch × ℕ) : Bool × (CanWatch × ℕ) :=
  let handler := s.1.handler
  let dispatch := ⟨frame, handler.dispatchRxFrame frame, handler.deviceList, handler.hasUnclaimedFrameCallback⟩
  (true, { s.1 with dispatched := s.1.dispatched ++ [dispatch] }, s.2)

def takeTx (s : CanWatch × ℕ) : Option ExtFrame × (CanWatch × ℕ) :=
  let w := s.1.meanwhile (gap s.2).events
  let ready := w.handler.controller.txReady (gap s.2).now
  let gaveUp := if ready.2.abandonedTxFrames = w.handler.controller.abandonedTxFrames then [] else
    [w.handed.length - 1]
  let w := { w with handler.controller := ready.2, abandoned := w.abandoned ++ gaveUp }
  if ready.1 = false then (none, w, s.2 + 1) else
  (w.handler.canTxQueue.items.head?, { w with handler.canTxQueue := w.handler.canTxQueue.rest }, s.2 + 1)

def handleTx (frame : ExtFrame) (s : CanWatch × ℕ) : Bool × (CanWatch × ℕ) :=
  let w := s.1.meanwhile (gap s.2).events
  let sent := w.handler.transmitFrame (gap s.2).now frame
  let handover := ⟨frame, w.handler.controller.bufferFree, !w.handler.controller.chip.isInResetMode⟩
  (sent.1, { w with handler := sent.2, handed := w.handed ++ [handover] }, s.2 + 1)

/-- `run`, which is told whether the device list could be taken. -/
def pass (w : CanWatch) (mutexTaken : Bool) : Bool × CanWatch :=
  let s := (w.begin (gap 0), 1)
  let s := if mutexTaken then (CanFramePump.drain (takeRx gap) handleRx CanTraffic.maxFramesPerRun s).2 else s
  let txResult := CanFramePump.drain (takeTx gap) (handleTx gap) CanTraffic.maxFramesPerRun s
  (!txResult.1.failed, txResult.2.1)

end

def step (w : CanWatch) : CanHandlerEvent → CanWatch
  | .between e => w.event e
  | .run mutexTaken gap => (w.pass gap mutexTaken).2

abbrev run : CanWatch → List CanHandlerEvent → CanWatch := Machine.run step

end CanWatch

/-! ## What an event leaves -/

structure CanEvent.Effect (e : CanEvent) (handler handler' : CanTraffic) : Prop where
  rx : handler'.canRxQueue.items = handler.canRxQueue.items ++
    if handler.canRxQueue.isFull then [] else (e.arrives handler).filterMap WireFrame.framed
  full : handler'.rxQueueFullFrames = handler.rxQueueFullFrames +
    UInt32.ofNat (if handler.canRxQueue.isFull then (e.arrives handler).filterMap WireFrame.framed else []).length
  tx : handler'.canTxQueue.items = handler.canTxQueue.items ++ e.accepts handler
  fullReporter : handler'.rxQueueFullReporter = handler.rxQueueFullReporter
  abandonedReporter : handler'.txAbandonedReporter = handler.txAbandonedReporter
  abandoned : handler'.controller.abandonedTxFrames = handler.controller.abandonedTxFrames
  pending : handler'.controller.txPending = handler.controller.txPending
  transmitted : handler'.controller.chip.transmitted = handler.controller.chip.transmitted
  acceptance : handler'.controller.chip.acceptance = handler.controller.chip.acceptance
  free : handler.controller.bufferFree = true → handler'.controller.bufferFree = true
  canId : handler'.canId = handler.canId
  devices : ∃ more, handler'.deviceList = handler.deviceList ++ more
  mode : e.isQuiet = true → handler'.controller.chip.isInResetMode = handler.controller.chip.isInResetMode

namespace CanEvent

theorem free_or (x : UInt8) {bits : UInt8} (h : bits.toBitVec.getLsbD 2 = true) :
    (x ||| bits) &&& ESP32SJA1000.srTxBufferFree = ESP32SJA1000.srTxBufferFree := by
  apply UInt8.eq_of_toBitVec_eq
  apply BitVec.eq_of_getLsbD_eq
  intro i hi
  simp only [ESP32SJA1000.srTxBufferFree]
  interval_cases i <;> simp [h]

theorem free_or_receive (x : UInt8) :
    (x ||| ESP32SJA1000.srReceiveBuffer) &&& ESP32SJA1000.srTxBufferFree = x &&& ESP32SJA1000.srTxBufferFree := by
  apply UInt8.eq_of_toBitVec_eq
  apply BitVec.eq_of_getLsbD_eq
  intro i hi
  simp only [ESP32SJA1000.srTxBufferFree, ESP32SJA1000.srReceiveBuffer]
  interval_cases i <;> simp

theorem effect_chip {e : CanEvent} {handler : CanTraffic} {chip : ESP32SJA1000.Chip}
    (hperform : e.perform handler = { handler with controller.chip := chip }) (harrives : e.arrives handler = [])
    (haccepts : e.accepts handler = []) (htransmitted : chip.transmitted = handler.controller.chip.transmitted)
    (hacceptance : chip.acceptance = handler.controller.chip.acceptance)
    (hfree : handler.controller.bufferFree = true → { handler.controller with chip := chip }.bufferFree = true)
    (hmode : e.isQuiet = true → chip.isInResetMode = handler.controller.chip.isInResetMode) :
    e.Effect handler (e.perform handler) := by
  rw [hperform]
  refine ⟨?_, ?_, ?_, rfl, rfl, rfl, rfl, htransmitted, hacceptance, hfree, rfl, ⟨[], (List.append_nil _).symm⟩,
    hmode⟩
  · simp [harrives]
  · simp [harrives]
  · simp [haccepts]

theorem effect_send (handler : CanTraffic) (frame : ExtFrame) :
    (send frame).Effect handler (handler.send frame).2 := by
  rw [CanTraffic.send]
  split
  · rename_i hfull
    refine ⟨?_, ?_, ?_, rfl, rfl, rfl, rfl, rfl, rfl, id, rfl, ⟨[], (List.append_nil _).symm⟩, fun _ => rfl⟩
    · simp [arrives]
    · simp [arrives]
    · simp [accepts, CanTraffic.send, hfull]
  · rename_i hfull
    rw [Bool.not_eq_true] at hfull
    refine ⟨?_, ?_, ?_, rfl, rfl, rfl, rfl, rfl, rfl, id, rfl, ⟨[], (List.append_nil _).symm⟩, fun _ => rfl⟩
    · simp [arrives]
    · simp [arrives]
    · simp [accepts, CanTraffic.send, hfull, Fifo.items_put hfull]

theorem Effect.congr {e e' : CanEvent} {handler handler' : CanTraffic} (h : e.Effect handler handler')
    (harrives : e'.arrives handler = e.arrives handler) (haccepts : e'.accepts handler = e.accepts handler)
    (hquiet : e'.isQuiet = e.isQuiet) : e'.Effect handler handler' := by
  refine ⟨?_, ?_, ?_, h.fullReporter, h.abandonedReporter, h.abandoned, h.pending, h.transmitted, h.acceptance,
    h.free, h.canId, h.devices, ?_⟩
  · rw [harrives]
    exact h.rx
  · rw [harrives]
    exact h.full
  · rw [haccepts]
    exact h.tx
  · rw [hquiet]
    exact h.mode

theorem effect_receive (handler : CanTraffic) (window : Nat → UInt8) :
    (receive window).Effect handler (handler.receive window) := by
  cases hoff : handler.controller.chip.isInResetMode || !handler.controller.chip.passes
    (ESP32SJA1000.windowFrame window) with
  | true =>
    rw [handler.receive_off hoff]
    refine ⟨?_, ?_, (List.append_nil _).symm, rfl, rfl, rfl, rfl, rfl, rfl, id, rfl, ⟨[], (List.append_nil _).symm⟩,
      fun _ => rfl⟩
    · simp [arrives, hoff]
    · simp [arrives, hoff]
  | false =>
    obtain ⟨c, hreceive⟩ := handler.receive_on hoff
    rw [hreceive]
    have hmodes := (handler.controller.chip.offer window).command_modes 0x04 0x04
    have hquiet := (handler.controller.chip.offer window).command_quiet (by decide : (0x04 : UInt8) &&& 0x11 = 0)
      0x04
    have hfree : handler.controller.bufferFree = true → (handler.setDriver c
        ((handler.controller.chip.offer window).modifyRegister ESP32SJA1000.regCmr 0x04
          0x04)).controller.bufferFree = true := by
      intro h
      refine beq_iff_eq.mpr (hquiet.2.trans (Eq.trans ?_ (beq_iff_eq.mp h)))
      show (handler.controller.chip.regs ESP32SJA1000.regSr ||| ESP32SJA1000.srReceiveBuffer) &&&
        ESP32SJA1000.srTxBufferFree = _
      exact free_or_receive _
    cases hframed : (ESP32SJA1000.windowFrame window).framed with
    | none =>
      refine ⟨?_, ?_, (List.append_nil _).symm, rfl, rfl, rfl, rfl, hquiet.1, hmodes.1, hfree, rfl,
        ⟨[], (List.append_nil _).symm⟩, fun _ => hmodes.2⟩
      · simp [arrives, hoff, hframed, CanTraffic.setDriver]
      · simp [arrives, hoff, hframed, CanTraffic.setDriver]
    | some frame =>
      rw [Option.elim_some, CanTraffic.queueRxFrame]
      cases hfull : handler.canRxQueue.isFull with
      | true =>
        rw [if_pos (by exact hfull)]
        refine ⟨?_, ?_, (List.append_nil _).symm, rfl, rfl, rfl, rfl, hquiet.1, hmodes.1, hfree, rfl,
          ⟨[], (List.append_nil _).symm⟩, fun _ => hmodes.2⟩
        · simp [hfull, CanTraffic.setDriver]
        · simp [arrives, hoff, hframed, hfull, CanTraffic.setDriver]
      | false =>
        rw [if_neg (by rw [CanTraffic.setDriver, hfull]; exact Bool.false_ne_true)]
        refine ⟨?_, ?_, (List.append_nil _).symm, rfl, rfl, rfl, rfl, hquiet.1, hmodes.1, hfree, rfl,
          ⟨[], (List.append_nil _).symm⟩, fun _ => hmodes.2⟩
        · simp [arrives, hoff, hframed, hfull, CanTraffic.setDriver, Fifo.items_put hfull]
        · simp [hfull, CanTraffic.setDriver]

theorem effect (handler : CanTraffic) (e : CanEvent) : e.Effect handler (e.perform handler) := by
  cases e with
  | receive window => exact effect_receive handler window
  | release =>
    refine effect_chip rfl rfl rfl rfl rfl (fun _ => ?_) fun _ => rfl
    exact beq_iff_eq.mpr (free_or _ (by decide))
  | enterBusOff =>
    refine effect_chip rfl rfl rfl rfl rfl (fun _ => ?_) fun h => absurd h Bool.false_ne_true
    exact beq_iff_eq.mpr (free_or _ (by decide))
  | leaveBusOff =>
    refine effect_chip rfl rfl rfl ?_ ?_ ?_ fun _ => ESP32SJA1000.Chip.isInResetMode_leaveBusOff _
    · rw [ESP32SJA1000.Chip.leaveBusOff]
      split <;> rfl
    · rw [ESP32SJA1000.Chip.leaveBusOff]
      split <;> rfl
    · intro h
      rw [CanDriver.bufferFree, ESP32SJA1000.Chip.leaveBusOff]
      split
      · exact h
      · refine beq_iff_eq.mpr (Eq.trans ?_ (beq_iff_eq.mp h))
        show (handler.controller.chip.regs ESP32SJA1000.regSr &&& ~~~0x80) &&& ESP32SJA1000.srTxBufferFree = _
        rw [UInt8.and_assoc]
        rfl
  | send frame => exact effect_send handler frame
  | sendCommand command data =>
    by_cases hmaster : handler.isDeviceMaster = true
    · have hrefused : handler.sendCommand command data = (false, handler) := if_pos hmaster
      refine ⟨?_, ?_, ?_, ?_, ?_, ?_, ?_, ?_, ?_, ?_, ?_, ⟨[], ?_⟩, ?_⟩ <;>
        simp [perform, hrefused, arrives, accepts]
    · have hsend : handler.sendCommand command data =
          handler.send (.pack handler.canId.masterCanId command handler.canId.localCanId data) := if_neg hmaster
      rw [perform, hsend]
      refine (effect_send handler _).congr rfl ?_ rfl
      show (if (handler.sendCommand command data).1 then _ else _) = _
      rw [hsend]
      rfl
  | sendCanFrame clientCanId command data => exact (effect_send handler _).congr rfl rfl rfl
  | registerCallback clientCanId =>
    refine ⟨?_, ?_, ?_, rfl, rfl, rfl, rfl, rfl, rfl, id, rfl, ⟨[clientCanId], rfl⟩, fun _ => rfl⟩ <;>
      simp [perform, arrives, accepts, CanTraffic.registerCallback]
  | setUnclaimedFrameCallback isSet =>
    refine ⟨?_, ?_, ?_, rfl, rfl, rfl, rfl, rfl, rfl, id, rfl, ⟨[], (List.append_nil _).symm⟩, fun _ => rfl⟩ <;>
      simp [perform, arrives, accepts]

end CanEvent

/-- A device gets a frame exactly as the first one of the sender's id, and the callback gets what no device
claims. -/
structure Dispatch.Rightly (d : Dispatch) : Prop where
  device : ∀ index, d.receiver = .device index ↔
    d.deviceList[index]? = some d.frame.sender ∧ d.frame.sender ∉ d.deviceList.take index
  unclaimed : d.receiver = .unclaimedFrameCallback ↔
    d.frame.sender ∉ d.deviceList ∧ d.hasUnclaimedFrameCallback = true

theorem CanTraffic.dispatch_rightly (handler : CanTraffic) (frame : ExtFrame) :
    Dispatch.Rightly ⟨frame, handler.dispatchRxFrame frame, handler.deviceList,
      handler.hasUnclaimedFrameCallback⟩ := by
  cases hfound : handler.deviceList.findIdx? (fun clientCanId => clientCanId == frame.sender) with
  | some first =>
    have hreceiver : handler.dispatchRxFrame frame = .device first := by simp only [dispatchRxFrame, hfound]
    obtain ⟨hlt, hfirst, hbefore⟩ := List.findIdx?_eq_some_iff_getElem.mp hfound
    have hsender : handler.deviceList[first] = frame.sender := beq_iff_eq.mp hfirst
    have hnot : ∀ i, (hi : i < first) → handler.deviceList[i] ≠ frame.sender := by
      intro i hi heq
      exact hbefore i hi (beq_iff_eq.mpr heq)
    constructor
    · intro index
      simp only [hreceiver, FrameReceiver.device.injEq]
      constructor
      · rintro rfl
        refine ⟨by rw [List.getElem?_eq_getElem hlt, hsender], fun hmem => ?_⟩
        obtain ⟨i, hi, heq⟩ := List.mem_take_iff_getElem.mp hmem
        exact hnot i (by omega) heq
      · rintro ⟨hget, hnew⟩
        obtain ⟨hindex, hget⟩ := List.getElem?_eq_some_iff.mp hget
        rcases Nat.lt_trichotomy first index with hlt' | heq | hgt
        · exact absurd (List.mem_take_iff_getElem.mpr ⟨first, by omega, hsender⟩) hnew
        · exact heq
        · exact absurd hget (hnot index hgt)
    · simp only [hreceiver, reduceCtorEq, false_iff, not_and]
      intro hnew
      exact absurd (hsender ▸ List.getElem_mem hlt) hnew
  | none =>
    have hnew : frame.sender ∉ handler.deviceList := by
      intro hmem
      exact absurd (beq_self_eq_true frame.sender)
        (by simpa using List.findIdx?_eq_none_iff.mp hfound frame.sender hmem)
    have hnone : ∀ index, ¬ (handler.deviceList[index]? = some frame.sender ∧
        frame.sender ∉ handler.deviceList.take index) :=
      fun index h => hnew (List.mem_of_getElem? h.1)
    constructor
    · intro index
      refine iff_of_false ?_ (hnone index)
      simp only [dispatchRxFrame, hfound]
      split <;> simp
    · simp only [dispatchRxFrame, hfound]
      cases handler.hasUnclaimedFrameCallback <;> simp [hnew]

namespace CanWatch

/-! ## The order of the frames -/

/-- `rx` and `tx` are the frames that a pass has in hand. -/
structure Ordered (w : CanWatch) (rx tx : List ExtFrame) : Prop where
  arrived : w.queued.Sublist (w.arrived.filterMap WireFrame.framed)
  counted : w.queued.length + w.refused.length = (w.arrived.filterMap WireFrame.framed).length
  received : w.dispatched.map Dispatch.frame ++ rx ++ w.handler.canRxQueue.items = w.queued
  /-- Devices are added behind those that are there. -/
  devices : ∀ d ∈ w.dispatched, d.Rightly ∧ d.deviceList <+: w.handler.deviceList
  sent : w.handed.map Handover.frame ++ tx ++ w.handler.canTxQueue.items = w.accepted
  /-- No frame takes the place of one that the chip still holds. -/
  free : ∀ h ∈ w.handed, h.free = true
  transmitted : w.handler.controller.chip.transmitted =
    (w.handed.filter fun h => h.operating && h.frame.fits).map fun h => h.frame.wire
  full : w.handler.rxQueueFullFrames = UInt32.ofNat w.refused.length
  reportedFull : w.handler.rxQueueFullReporter.lastSeen = UInt32.ofNat w.reportedFull
  abandoned : w.handler.controller.abandonedTxFrames = UInt32.ofNat w.abandoned.length
  reportedAbandoned : w.handler.txAbandonedReporter.lastSeen = UInt32.ofNat w.reportedAbandoned
  once : w.abandoned.Pairwise (· < ·)
  /-- The frame that the driver waits for is the last one, and has not been given up. -/
  behind : ∀ i ∈ w.abandoned, i + 1 + w.handler.controller.txPending.toNat ≤ w.handed.length
  pending : w.handler.controller.txPending.toNat ≤ w.handed.length

/-- A report brings the sums of both counts level, on 32 bits, with what was refused and given up so far. -/
structure Reported (w : CanWatch) : Prop where
  full : UInt32.ofNat w.reportedFull = UInt32.ofNat w.refused.length
  abandoned : UInt32.ofNat w.reportedAbandoned = UInt32.ofNat w.abandoned.length

theorem ordered_start (regs : Nat → UInt8) (handler : CanHandlerEsp32) : (start regs handler).Ordered [] [] where
  arrived := List.Sublist.refl _
  counted := rfl
  received := rfl
  devices := fun _ hp => absurd hp List.not_mem_nil
  sent := rfl
  free := fun _ hh => absurd hh List.not_mem_nil
  transmitted := CanTraffic.transmitted_init regs handler
  full := rfl
  reportedFull := rfl
  abandoned := rfl
  reportedAbandoned := rfl
  once := List.Pairwise.nil
  behind := fun _ hi => absurd hi List.not_mem_nil
  pending := Nat.le_refl 0

variable {w : CanWatch} {rx tx : List ExtFrame}

theorem Ordered.event (h : w.Ordered rx tx) (e : CanEvent) : (w.event e).Ordered rx tx := by
  have heffect := e.effect w.handler
  obtain ⟨more, hdevices⟩ := heffect.devices
  refine ⟨?_, ?_, ?_, ?_, ?_, h.free, heffect.transmitted.trans h.transmitted, ?_, ?_,
    heffect.abandoned.trans h.abandoned, ?_, h.once, ?_, ?_⟩
  · show (w.queued ++ _).Sublist ((w.arrived ++ _).filterMap _)
    rw [List.filterMap_append]
    refine h.arrived.append ?_
    split
    · exact List.nil_sublist _
    · exact List.Sublist.refl _
  · show (w.queued ++ _).length + (w.refused ++ _).length = ((w.arrived ++ _).filterMap _).length
    have hcounted := h.counted
    rw [List.filterMap_append]
    split <;> simp only [List.length_append, List.length_nil] <;> omega
  · show _ ++ _ ++ (e.perform w.handler).canRxQueue.items = w.queued ++ _
    rw [heffect.rx, ← h.received]
    exact (List.append_assoc _ _ _).symm
  · intro d hd
    obtain ⟨hrightly, hprefix⟩ := h.devices d hd
    exact ⟨hrightly, hprefix.trans ⟨more, hdevices.symm⟩⟩
  · show _ ++ _ ++ (e.perform w.handler).canTxQueue.items = w.accepted ++ _
    rw [heffect.tx, ← h.sent]
    exact (List.append_assoc _ _ _).symm
  · show (e.perform w.handler).rxQueueFullFrames = UInt32.ofNat (w.refused ++ _).length
    rw [heffect.full, h.full, List.length_append, UInt32.ofNat_add]
  · exact (congrArg DeltaCounter.lastSeen heffect.fullReporter).trans h.reportedFull
  · exact (congrArg DeltaCounter.lastSeen heffect.abandonedReporter).trans h.reportedAbandoned
  · show ∀ i ∈ w.abandoned, i + 1 + (e.perform w.handler).controller.txPending.toNat ≤ _
    rw [heffect.pending]
    exact h.behind
  · show (e.perform w.handler).controller.txPending.toNat ≤ _
    rw [heffect.pending]
    exact h.pending

theorem Ordered.meanwhile (h : w.Ordered rx tx) (es : List CanEvent) : (w.meanwhile es).Ordered rx tx :=
  Machine.run_inv_all (I := fun w : CanWatch => w.Ordered rx tx) (fun _ e h => h.event e) es h

theorem pending_meanwhile (es : List CanEvent) :
    (w.meanwhile es).handler.controller.txPending = w.handler.controller.txPending :=
  Machine.run_inv_all (I := fun w' : CanWatch => w'.handler.controller.txPending = w.handler.controller.txPending)
    (fun w' e h => (e.effect w'.handler).pending.trans h) es rfl

theorem free_meanwhile (h : w.handler.controller.bufferFree = true) (es : List CanEvent) :
    (w.meanwhile es).handler.controller.bufferFree = true :=
  Machine.run_inv_all (I := fun w' : CanWatch => w'.handler.controller.bufferFree = true)
    (fun w' e h => (e.effect w'.handler).free h) es h

/-! ## A pass keeps the order -/

theorem Ordered.begin (h : w.Ordered rx tx) (gap : Gap) : (w.begin gap).Ordered rx tx := by
  have hrecover : { w with handler := w.handler.recover }.Ordered rx tx := by
    rw [CanTraffic.recover]
    split
    · exact ⟨h.arrived, h.counted, h.received, h.devices, h.sent, h.free, h.transmitted, h.full, h.reportedFull,
        h.abandoned, h.reportedAbandoned, h.once, h.behind, h.pending⟩
    · exact h
  have hmeanwhile := hrecover.meanwhile gap.events
  rw [CanWatch.begin]
  generalize { w with handler := w.handler.recover }.meanwhile gap.events = w' at hmeanwhile
  have hgrowth : ∀ (counter : DeltaCounter) (current : UInt32) (total : ℕ), counter.lastSeen = UInt32.ofNat total →
      (counter.takeGrowth current).2.lastSeen = UInt32.ofNat (total + (counter.takeGrowth current).1.toNat) := by
    intro counter current total htotal
    rw [UInt32.ofNat_add, UInt32.ofNat_toNat, ← htotal]
    show current = counter.lastSeen + (current - counter.lastSeen)
    rw [UInt32.add_comm, UInt32.sub_add_cancel]
  exact ⟨hmeanwhile.arrived, hmeanwhile.counted, hmeanwhile.received, hmeanwhile.devices, hmeanwhile.sent,
    hmeanwhile.free, hmeanwhile.transmitted, hmeanwhile.full, hgrowth _ _ _ hmeanwhile.reportedFull,
      hmeanwhile.abandoned,
    hgrowth _ _ _ hmeanwhile.reportedAbandoned, hmeanwhile.once, hmeanwhile.behind, hmeanwhile.pending⟩

theorem Ordered.reported (h : w.Ordered rx tx) (gap : Gap) : (w.begin gap).Reported := by
  have hbegun := h.begin gap
  constructor
  · rw [← hbegun.reportedFull, ← hbegun.full]
    rfl
  · rw [← hbegun.reportedAbandoned, ← hbegun.abandoned]
    rfl

section
variable (gap : ℕ → Gap) {s : CanWatch × ℕ} {frame : ExtFrame}

theorem ordered_takeRx (h : s.1.Ordered [] []) : ((takeRx gap s).2.1).Ordered (takeRx gap s).1.toList [] := by
  have hmeanwhile := h.meanwhile (gap s.2).events
  rw [takeRx]
  generalize s.1.meanwhile (gap s.2).events = w at hmeanwhile
  refine ⟨hmeanwhile.arrived, hmeanwhile.counted, ?_, hmeanwhile.devices, hmeanwhile.sent, hmeanwhile.free,
    hmeanwhile.transmitted, hmeanwhile.full, hmeanwhile.reportedFull, hmeanwhile.abandoned,
      hmeanwhile.reportedAbandoned, hmeanwhile.once,
    hmeanwhile.behind, hmeanwhile.pending⟩
  have hreceived := hmeanwhile.received
  simp only [Fifo.items_rest]
  cases hitems : w.handler.canRxQueue.items with
  | nil => simpa [hitems] using hreceived
  | cons frame frames => simpa [hitems] using hreceived

theorem ordered_handleRx (h : s.1.Ordered [frame] []) : ((handleRx frame s).2.1).Ordered [] [] := by
  refine ⟨h.arrived, h.counted, ?_, ?_, h.sent, h.free, h.transmitted, h.full, h.reportedFull, h.abandoned,
    h.reportedAbandoned, h.once, h.behind, h.pending⟩
  · have hreceived := h.received
    simpa [handleRx] using hreceived
  · intro d hd
    rcases List.mem_append.mp hd with hd | hd
    · exact h.devices d hd
    · obtain rfl := List.mem_singleton.mp hd
      exact ⟨s.1.handler.dispatch_rightly frame, List.prefix_rfl⟩

theorem Ordered.ready (h : w.Ordered [] []) {can : CanDriver}
    (htransmitted : can.chip.transmitted = w.handler.controller.chip.transmitted)
    (habandoned : can.abandonedTxFrames = w.handler.controller.abandonedTxFrames)
    (hpending : can.txPending.toNat ≤ w.handler.controller.txPending.toNat) :
    { w with handler.controller := can, abandoned := w.abandoned ++ [] }.Ordered [] [] := by
  simp only [List.append_nil]
  exact ⟨h.arrived, h.counted, h.received, h.devices, h.sent, h.free, htransmitted.trans h.transmitted, h.full,
    h.reportedFull, habandoned.trans h.abandoned, h.reportedAbandoned, h.once,
    fun i hi => (Nat.add_le_add_left hpending _).trans (h.behind i hi), hpending.trans h.pending⟩

theorem Ordered.givesUp (h : w.Ordered [] []) {can : CanDriver} (hwaits : w.handler.controller.txPending = true)
    (htransmitted : can.chip.transmitted = w.handler.controller.chip.transmitted)
    (habandoned : can.abandonedTxFrames = w.handler.controller.abandonedTxFrames + 1)
    (hpending : can.txPending = false) :
    { w with handler.controller := can, abandoned := w.abandoned ++ [w.handed.length - 1] }.Ordered [] [] := by
  have hbehind := h.behind
  have hone := h.pending
  rw [hwaits, Bool.toNat_true] at hbehind hone
  refine ⟨h.arrived, h.counted, h.received, h.devices, h.sent, h.free, htransmitted.trans h.transmitted, h.full,
    h.reportedFull, ?_, h.reportedAbandoned, ?_, ?_, ?_⟩
  · rw [List.length_append, UInt32.ofNat_add, ← h.abandoned]
    exact habandoned
  · refine List.pairwise_append.mpr ⟨h.once, List.pairwise_singleton _ _, ?_⟩
    intro i hi j hj
    rw [List.mem_singleton.mp hj]
    have hlt := hbehind i hi
    omega
  · intro i hi
    show i + 1 + can.txPending.toNat ≤ w.handed.length
    rw [hpending, Bool.toNat_false]
    rcases List.mem_append.mp hi with hi | hi
    · have hlt := hbehind i hi
      omega
    · rw [List.mem_singleton.mp hi]
      omega
  · show can.txPending.toNat ≤ w.handed.length
    rw [hpending]
    exact Nat.zero_le _

theorem ordered_takeTx (h : s.1.Ordered [] []) :
    ((takeTx gap s).2.1).Ordered [] (takeTx gap s).1.toList ∧
      ((takeTx gap s).1 ≠ none → (takeTx gap s).2.1.handler.controller.bufferFree = true ∧
        (takeTx gap s).2.1.handler.controller.txPending = false) := by
  have hmeanwhile := h.meanwhile (gap s.2).events
  rw [takeTx]
  generalize s.1.meanwhile (gap s.2).events = w at hmeanwhile
  cases hready : (w.handler.controller.txReady (gap s.2).now).1 with
  | false =>
    simp only [if_true]
    refine ⟨?_, fun hne => absurd rfl hne⟩
    obtain hsame | ⟨hpending, chip, hgone, htransmitted, -, -⟩ := CanDriver.txReady_busy hready
    · rw [hsame, if_pos rfl]
      exact hmeanwhile.ready rfl rfl (Nat.le_refl _)
    · rw [hgone, if_neg (by simp)]
      exact hmeanwhile.givesUp hpending htransmitted rfl rfl
  | true =>
    obtain ⟨hfree, hdriver⟩ := CanDriver.txReady_ready hready
    simp only [Bool.true_eq_false, if_false, hdriver, if_true]
    refine ⟨?_, fun _ => ⟨hfree, trivial⟩⟩
    have hnext := @Ordered.ready _ hmeanwhile { w.handler.controller with txPending := false } rfl rfl
      (Nat.zero_le _)
    refine ⟨hnext.arrived, hnext.counted, hnext.received, hnext.devices, ?_, hnext.free, hnext.transmitted,
      hnext.full, hnext.reportedFull, hnext.abandoned, hnext.reportedAbandoned, hnext.once, hnext.behind,
        hnext.pending⟩
    have hsent := hmeanwhile.sent
    simp only [Fifo.items_rest]
    cases hitems : w.handler.canTxQueue.items with
    | nil => simpa [hitems] using hsent
    | cons frame frames => simpa [hitems] using hsent

theorem ordered_handleTx (h : s.1.Ordered [] [frame]) (hfree : s.1.handler.controller.bufferFree = true)
    (hpending : s.1.handler.controller.txPending = false) : ((handleTx gap frame s).2.1).Ordered [] [] := by
  have hmeanwhile := h.meanwhile (gap s.2).events
  have hfree' := free_meanwhile hfree (gap s.2).events
  have hpending' := (pending_meanwhile (gap s.2).events).trans hpending
  rw [handleTx]
  generalize s.1.meanwhile (gap s.2).events = w at hmeanwhile hfree' hpending'
  have hsent : w.handed.map Handover.frame ++ [frame] ++ w.handler.canTxQueue.items = w.accepted := by
    simpa using hmeanwhile.sent
  have hall : ∀ x ∈ w.handed ++ [⟨frame, w.handler.controller.bufferFree,
      !w.handler.controller.chip.isInResetMode⟩], x.free = true := by
    intro x hx
    rcases List.mem_append.mp hx with hx | hx
    · exact hmeanwhile.free x hx
    · rw [List.mem_singleton.mp hx]
      exact hfree'
  have hbehind := hmeanwhile.behind
  rw [hpending', Bool.toNat_false] at hbehind
  cases hfits : frame.fits with
  | false =>
    rw [w.handler.transmitFrame_unfit _ hfits]
    refine ⟨hmeanwhile.arrived, hmeanwhile.counted, hmeanwhile.received, hmeanwhile.devices, ?_, hall, ?_,
      hmeanwhile.full, hmeanwhile.reportedFull, hmeanwhile.abandoned, hmeanwhile.reportedAbandoned, hmeanwhile.once,
        ?_, ?_⟩
    · simpa using hsent
    · simpa [hfits] using hmeanwhile.transmitted
    · intro i hi
      rw [List.length_append]
      exact Nat.le_succ_of_le (hmeanwhile.behind i hi)
    · rw [List.length_append]
      exact Nat.le_succ_of_le hmeanwhile.pending
  | true =>
    obtain ⟨sja, hsentFrame, hsjaPending, -, hoff, hon⟩ := w.handler.transmitFrame_fits (gap s.2).now hfits
    rw [hsentFrame]
    refine ⟨hmeanwhile.arrived, hmeanwhile.counted, hmeanwhile.received, hmeanwhile.devices, ?_, hall, ?_,
      hmeanwhile.full, hmeanwhile.reportedFull, hmeanwhile.abandoned, hmeanwhile.reportedAbandoned, hmeanwhile.once,
        ?_, ?_⟩
    · simpa using hsent
    · show sja.chip.transmitted = _
      have htransmitted := hmeanwhile.transmitted
      cases hmode : w.handler.controller.chip.isInResetMode with
      | true => simpa [hoff hmode] using htransmitted
      | false => simpa [(hon hmode).2, hfits] using htransmitted
    · intro i hi
      show i + 1 + sja.txPending.toNat ≤ (w.handed ++ [_]).length
      rw [hsjaPending, List.length_append]
      exact Nat.succ_le_succ (hbehind i hi)
    · show sja.txPending.toNat ≤ (w.handed ++ [_]).length
      rw [hsjaPending, List.length_append]
      exact Nat.le_add_left 1 _

end

theorem Ordered.pass (h : w.Ordered [] []) (gap : ℕ → Gap) (mutexTaken : Bool) :
    (w.pass gap mutexTaken).2.Ordered [] [] := by
  have hrx : (if mutexTaken then (CanFramePump.drain (takeRx gap) handleRx CanTraffic.maxFramesPerRun
    (w.begin (gap 0), 1)).2 else
      (w.begin (gap 0), 1)).1.Ordered [] [] := by
    split
    · refine @CanFramePump.drain_inv _ _ _ _ (fun s : CanWatch × ℕ => s.1.Ordered [] [])
        (fun frame (s : CanWatch × ℕ) => s.1.Ordered [frame] []) ?_ ?_ ?_ _ _
        (h.begin (gap 0))
      · intro s hs hnone
        have htaken := ordered_takeRx gap hs
        rwa [hnone] at htaken
      · intro s frame hs hsome
        have htaken := ordered_takeRx gap hs
        rwa [hsome] at htaken
      · intro frame s hs
        exact ordered_handleRx hs
    · exact h.begin (gap 0)
  refine @CanFramePump.drain_inv _ _ _ _ (fun s : CanWatch × ℕ => s.1.Ordered [] [])
    (fun frame (s : CanWatch × ℕ) => s.1.Ordered [] [frame] ∧
    s.1.handler.controller.bufferFree = true ∧ s.1.handler.controller.txPending = false) ?_ ?_ ?_ _ _ hrx
  · intro s hs hnone
    have htaken := (ordered_takeTx gap hs).1
    rwa [hnone] at htaken
  · intro s frame hs hsome
    obtain ⟨htaken, hchip⟩ := ordered_takeTx gap hs
    rw [hsome] at htaken
    exact ⟨htaken, hchip (by rw [hsome]; exact Option.some_ne_none frame)⟩
  · intro frame s hs
    exact ordered_handleTx gap hs.1 hs.2.1 hs.2.2

section
variable (gap : ℕ → Gap)

theorem dispatched_meanwhile (es : List CanEvent) :
    (w.meanwhile es).dispatched = w.dispatched ∧ (w.meanwhile es).handed = w.handed :=
  @Machine.run_inv_all _ _ event (fun w' : CanWatch => w'.dispatched = w.dispatched ∧ w'.handed = w.handed)
    (fun _ _ h => h) _ es
    ⟨rfl, rfl⟩

theorem dispatched_takeTx (s : CanWatch × ℕ) :
    (takeTx gap s).2.1.dispatched = s.1.dispatched ∧ (takeTx gap s).2.1.handed = s.1.handed := by
  have hmeanwhile := @dispatched_meanwhile s.1 (gap s.2).events
  rw [takeTx]
  dsimp only
  split <;> exact hmeanwhile

theorem dispatched_handleTx (frame : ExtFrame) (s : CanWatch × ℕ) :
    (handleTx gap frame s).2.1.dispatched = s.1.dispatched ∧
    (handleTx gap frame s).2.1.handed.length = s.1.handed.length + 1 := by
  obtain ⟨hdispatched, hhanded⟩ := @dispatched_meanwhile s.1 (gap s.2).events
  refine ⟨hdispatched, ?_⟩
  show (_ ++ [_]).length = _
  rw [hhanded, List.length_append]
  rfl

theorem pass_bounded (w : CanWatch) (mutexTaken : Bool) :
    (w.pass gap mutexTaken).2.dispatched.length ≤ w.dispatched.length + CanTraffic.maxFramesPerRun ∧
      (w.pass gap mutexTaken).2.handed.length ≤ w.handed.length + CanTraffic.maxFramesPerRun := by
  have hbegin : (w.begin (gap 0)).dispatched = w.dispatched ∧ (w.begin (gap 0)).handed = w.handed :=
    @dispatched_meanwhile { w with handler := w.handler.recover } (gap 0).events
  have htakeRx : ∀ s : CanWatch × ℕ, (takeRx gap s).2.1.dispatched = s.1.dispatched ∧
      (takeRx gap s).2.1.handed = s.1.handed :=
    fun s => @dispatched_meanwhile s.1 (gap s.2).events
  -- the first loop hands over nothing, the second dispatches nothing
  have hrx : ∀ s : CanWatch × ℕ, (CanFramePump.drain (takeRx gap) handleRx CanTraffic.maxFramesPerRun
      s).2.1.handed = s.1.handed := by
    intro s
    refine @CanFramePump.drain_inv _ _ _ _ (fun s' : CanWatch × ℕ => s'.1.handed = s.1.handed)
      (fun _ (s' : CanWatch × ℕ) => s'.1.handed = s.1.handed) ?_ ?_ (fun _ _ h => h) _ _ rfl
    · exact fun s' hs' _ => (htakeRx s').2.trans hs'
    · exact fun s' _ hs' _ => (htakeRx s').2.trans hs'
  have htx : ∀ s : CanWatch × ℕ,
      (CanFramePump.drain (takeTx gap) (handleTx gap) CanTraffic.maxFramesPerRun s).2.1.dispatched =
        s.1.dispatched := by
    intro s
    refine @CanFramePump.drain_inv _ _ _ _ (fun s' : CanWatch × ℕ => s'.1.dispatched = s.1.dispatched)
      (fun _ (s' : CanWatch × ℕ) => s'.1.dispatched = s.1.dispatched) ?_ ?_ ?_ _ _ rfl
    · exact fun s' hs' _ => (dispatched_takeTx gap s').1.trans hs'
    · exact fun s' _ hs' _ => (dispatched_takeTx gap s').1.trans hs'
    · exact fun frame s' hs' => (dispatched_handleTx gap frame s').1.trans hs'
  have hrxCount : ∀ s : CanWatch × ℕ,
    (CanFramePump.drain (takeRx gap) handleRx CanTraffic.maxFramesPerRun s).2.1.dispatched.length ≤
      s.1.dispatched.length + CanTraffic.maxFramesPerRun := by
    intro s
    refine @CanFramePump.drain_count _ _ _ _ (fun s' : CanWatch × ℕ => s'.1.dispatched.length) ?_ ?_ _ s
    · exact fun s' => congrArg List.length (htakeRx s').1
    · intro frame s'
      rw [handleRx]
      exact Nat.le_of_eq List.length_append
  have htxCount : ∀ s : CanWatch × ℕ,
    (CanFramePump.drain (takeTx gap) (handleTx gap) CanTraffic.maxFramesPerRun s).2.1.handed.length ≤
      s.1.handed.length + CanTraffic.maxFramesPerRun := by
    intro s
    refine @CanFramePump.drain_count _ _ _ _ (fun s' : CanWatch × ℕ => s'.1.handed.length) ?_ ?_ _ s
    · exact fun s' => congrArg List.length (dispatched_takeTx gap s').2
    · exact fun frame s' => Nat.le_of_eq (dispatched_handleTx gap frame s').2
  rw [pass, ← hbegin.1, ← hbegin.2]
  constructor
  · dsimp only
    rw [htx]
    split
    · exact hrxCount _
    · exact Nat.le_add_right _ _
  · refine (htxCount _).trans (Nat.le_of_eq (congrArg (fun handed : List Handover => handed.length + _) ?_))
    split
    · exact hrx _
    · rfl

end

theorem ordered_run (regs : Nat → UInt8) (handler : CanHandlerEsp32) (es : List CanHandlerEvent) :
    ((start regs handler).run es).Ordered [] [] := by
  refine Machine.run_inv_all (I := fun w : CanWatch => w.Ordered [] []) ?_ es (ordered_start regs handler)
  intro w e h
  cases e with
  | between e => exact h.event e
  | run mutexTaken gap => exact h.pass gap mutexTaken

/-- In any run frames keep their order both ways, and the next pass reports all that were dropped by then and
moves eight at most each way. -/
theorem frames_in_order (regs : Nat → UInt8) (handler : CanHandlerEsp32) (es : List CanHandlerEvent) :
    ((start regs handler).run es).Ordered [] [] ∧ ∀ (gap : ℕ → Gap) (mutexTaken : Bool),
      (((start regs handler).run es).begin (gap 0)).Reported ∧
      (((start regs handler).run es).pass gap mutexTaken).2.dispatched.length ≤
        ((start regs handler).run es).dispatched.length + 8 ∧
        (((start regs handler).run es).pass gap mutexTaken).2.handed.length ≤
          ((start regs handler).run es).handed.length + 8 :=
  ⟨ordered_run regs handler es, fun gap mutexTaken =>
    ⟨(ordered_run regs handler es).reported (gap 0), pass_bounded gap _ mutexTaken⟩⟩

/-! ## On the bus -/

/-- What holds while the filter is the one that `init` set, for frames that were queued and frames that were
handed over. -/
structure OnBus (regs : Nat → UInt8) (handler : CanHandlerEsp32) (w : CanWatch) : Prop where
  acceptance : w.handler.controller.chip.acceptance = (CanTraffic.init regs handler).controller.chip.acceptance
  addressed : ∀ frame ∈ w.queued, frame.extId.toNat < 2048 ∨ frame.receiver = handler.canId.localCanId &&&
    CanIdAssign.idMask
  operating : ∀ h ∈ w.handed, h.operating = true

def OffKnown (w : CanWatch) : Prop :=
  w.handler.controller.chip.isInResetMode = true → w.handler.controller.isBusOff = true

def Operating (w : CanWatch) : Prop := w.handler.controller.chip.isInResetMode = false

variable {regs : Nat → UInt8} {handler : CanHandlerEsp32}

theorem OnBus.event (h : OnBus regs handler w) (e : CanEvent) : OnBus regs handler (w.event e) := by
  refine ⟨(e.effect w.handler).acceptance.trans h.acceptance, ?_, h.operating⟩
  intro frame hframe
  rcases List.mem_append.mp hframe with hframe | hframe
  · exact h.addressed frame hframe
  split at hframe
  · exact absurd hframe List.not_mem_nil
  obtain ⟨f, hf, hframed⟩ := List.mem_filterMap.mp hframe
  cases e with
  | receive window =>
    simp only [CanEvent.arrives] at hf
    split at hf
    · exact absurd hf List.not_mem_nil
    · rename_i hon
      obtain rfl := List.mem_singleton.mp hf
      rw [Bool.not_eq_true, Bool.or_eq_false_iff, Bool.not_eq_false'] at hon
      exact CanTraffic.addressed h.acceptance hon.2 hframed
  | release => exact absurd hf List.not_mem_nil
  | enterBusOff => exact absurd hf List.not_mem_nil
  | leaveBusOff => exact absurd hf List.not_mem_nil
  | send frame => exact absurd hf List.not_mem_nil
  | sendCommand command data => exact absurd hf List.not_mem_nil
  | sendCanFrame clientCanId command data => exact absurd hf List.not_mem_nil
  | registerCallback clientCanId => exact absurd hf List.not_mem_nil
  | setUnclaimedFrameCallback isSet => exact absurd hf List.not_mem_nil

theorem Operating.quiet (h : w.Operating) {e : CanEvent} (he : e.isQuiet = true) : (w.event e).Operating :=
  ((e.effect w.handler).mode he).trans h

theorem busOff_or {x : UInt8} (bits : UInt8) (h : x.toBitVec.getLsbD 7 = true ∨ bits.toBitVec.getLsbD 7 = true) :
    ((x ||| bits) &&& CanDriver.srBusOff != 0) = true := by
  refine (@and_bit _ _ 7 rfl (by decide)).trans ?_
  rw [UInt8.toBitVec_or, BitVec.getLsbD_or, Bool.or_eq_true]
  exact h

theorem controller_send (handler : CanTraffic) (frame : ExtFrame) :
    (handler.send frame).2.controller = handler.controller := by
  rw [CanTraffic.send]
  split <;> rfl

theorem offKnown_event (h : w.OffKnown) (e : CanEvent) : (w.event e).OffKnown := by
  intro hafter
  have hkept : e.isQuiet = true → w.handler.controller.isBusOff = true :=
    fun he => h (((e.effect w.handler).mode he).symm.trans hafter)
  cases e with
  | receive window =>
    have hoff : w.handler.controller.chip.isInResetMode = true :=
      (((CanEvent.receive window).effect w.handler).mode rfl).symm.trans hafter
    show (w.handler.receive window).controller.isBusOff = true
    rw [w.handler.receive_off (by rw [hoff]; rfl)]
    exact hkept rfl
  | release => exact busOff_or _ (Or.inl ((@and_bit _ _ 7 rfl (by decide)).symm.trans (hkept rfl)))
  | enterBusOff => exact busOff_or _ (Or.inr (by decide))
  | leaveBusOff =>
    have hoff : w.handler.controller.chip.isInResetMode = true :=
      (CanEvent.leaveBusOff.effect w.handler).mode rfl |>.symm.trans hafter
    show CanDriver.isBusOff { w.handler.controller with chip := w.handler.controller.chip.leaveBusOff } = true
    rw [ESP32SJA1000.Chip.leaveBusOff, if_pos hoff]
    exact hkept rfl
  | send frame => exact (congrArg CanDriver.isBusOff (controller_send w.handler frame)).trans (hkept rfl)
  | sendCommand command data =>
    refine (congrArg CanDriver.isBusOff ?_).trans (hkept rfl)
    show (w.handler.sendCommand command data).2.controller = _
    rw [CanTraffic.sendCommand]
    split
    · rfl
    · exact controller_send _ _
  | sendCanFrame clientCanId command data =>
    exact (congrArg CanDriver.isBusOff (controller_send w.handler _)).trans (hkept rfl)
  | registerCallback clientCanId => exact hkept rfl
  | setUnclaimedFrameCallback isSet => exact hkept rfl

/-- `recover` puts the chip back on the bus. -/
theorem operating_recover (h : w.OffKnown) : { w with handler := w.handler.recover }.Operating := by
  rw [CanTraffic.recover]
  split
  · exact w.handler.controller.operating_recoverFromBusOff
  · rename_i hon
    exact Bool.eq_false_iff.mpr fun hoff => hon (h hoff)

structure Calm (regs : Nat → UInt8) (handler : CanHandlerEsp32) (w : CanWatch) : Prop where
  onBus : OnBus regs handler w
  operating : w.Operating

theorem Calm.meanwhile (h : Calm regs handler w) {es : List CanEvent} (hes : ∀ e ∈ es, e.isQuiet = true) :
    Calm regs handler (w.meanwhile es) := by
  induction es generalizing w with
  | nil => exact h
  | cons e es ih =>
    exact ih ⟨h.onBus.event e, h.operating.quiet (hes e List.mem_cons_self)⟩ fun e' he' =>
      hes e' (List.mem_cons_of_mem _ he')

section
variable {gap : ℕ → Gap} {s : CanWatch × ℕ} (hgap : ∀ n, ∀ e ∈ (gap n).events, e.isQuiet = true)
include hgap

theorem calm_takeTx (h : Calm regs handler s.1) : Calm regs handler (takeTx gap s).2.1 := by
  have hmeanwhile := h.meanwhile (hgap s.2)
  rw [takeTx]
  generalize s.1.meanwhile (gap s.2).events = w at hmeanwhile
  have hready : ((w.handler.controller.txReady (gap s.2).now).2.chip.acceptance =
    w.handler.controller.chip.acceptance) ∧
      (w.handler.controller.txReady (gap s.2).now).2.chip.isInResetMode =
        w.handler.controller.chip.isInResetMode := by
    cases hready : (w.handler.controller.txReady (gap s.2).now).1 with
    | true =>
      rw [(CanDriver.txReady_ready hready).2]
      exact ⟨rfl, rfl⟩
    | false =>
      obtain hsame | ⟨-, chip, hgone, -, hacceptance, hmode⟩ := CanDriver.txReady_busy hready
      · rw [hsame]
        exact ⟨rfl, rfl⟩
      · rw [hgone]
        exact ⟨hacceptance, hmode⟩
  have hbus := hmeanwhile.onBus
  dsimp only
  split <;> exact ⟨⟨hready.1.trans hbus.acceptance, hbus.addressed, hbus.operating⟩,
    hready.2.trans hmeanwhile.operating⟩

theorem calm_handleTx (h : Calm regs handler s.1) (frame : ExtFrame) :
    Calm regs handler (handleTx gap frame s).2.1 := by
  have hmeanwhile := h.meanwhile (hgap s.2)
  rw [handleTx]
  generalize s.1.meanwhile (gap s.2).events = w at hmeanwhile
  have hbus := hmeanwhile.onBus
  have hoperating : w.handler.controller.chip.isInResetMode = false := hmeanwhile.operating
  have hall : ∀ x ∈ w.handed ++ [⟨frame, w.handler.controller.bufferFree,
      !w.handler.controller.chip.isInResetMode⟩], x.operating = true := by
    intro x hx
    rcases List.mem_append.mp hx with hx | hx
    · exact hbus.operating x hx
    · rw [List.mem_singleton.mp hx, hoperating]
      rfl
  cases hfits : frame.fits with
  | false =>
    rw [w.handler.transmitFrame_unfit _ hfits]
    exact ⟨⟨hbus.acceptance, hbus.addressed, hall⟩, hoperating⟩
  | true =>
    obtain ⟨sja, hsent, -, hmode, -, hon⟩ := w.handler.transmitFrame_fits (gap s.2).now hfits
    rw [hsent]
    exact ⟨⟨(hon hoperating).1.trans hbus.acceptance, hbus.addressed, hall⟩, hmode.trans hoperating⟩

theorem calm_pass (h : OnBus regs handler w) (hoff : w.OffKnown) (mutexTaken : Bool) :
    Calm regs handler (w.pass gap mutexTaken).2 := by
  have hbegin : Calm regs handler (w.begin (gap 0)) := by
    have hrecovered : Calm regs handler { w with handler := w.handler.recover } := by
      refine ⟨⟨?_, h.addressed, h.operating⟩, operating_recover hoff⟩
      refine Eq.trans ?_ h.acceptance
      rw [CanTraffic.recover]
      split <;> rfl
    obtain ⟨hbus, hoperating⟩ := hrecovered.meanwhile (hgap 0)
    exact ⟨⟨hbus.acceptance, hbus.addressed, hbus.operating⟩, hoperating⟩
  have hrx : Calm regs handler (if mutexTaken then
      (CanFramePump.drain (takeRx gap) handleRx CanTraffic.maxFramesPerRun (w.begin (gap 0), 1)).2 else
        (w.begin (gap 0), 1)).1 := by
    split
    · refine @CanFramePump.drain_inv _ _ _ _ (fun s : CanWatch × ℕ => Calm regs handler s.1)
        (fun _ (s : CanWatch × ℕ) => Calm regs handler s.1) ?_ ?_ ?_ _ _ hbegin
      · intro s hs _
        obtain ⟨hbus, hoperating⟩ := hs.meanwhile (hgap s.2)
        exact ⟨⟨hbus.acceptance, hbus.addressed, hbus.operating⟩, hoperating⟩
      · intro s frame hs _
        obtain ⟨hbus, hoperating⟩ := hs.meanwhile (hgap s.2)
        exact ⟨⟨hbus.acceptance, hbus.addressed, hbus.operating⟩, hoperating⟩
      · intro frame s hs
        exact ⟨⟨hs.onBus.acceptance, hs.onBus.addressed, hs.onBus.operating⟩, hs.operating⟩
    · exact hbegin
  refine @CanFramePump.drain_inv _ _ _ _ (fun s : CanWatch × ℕ => Calm regs handler s.1)
    (fun _ (s : CanWatch × ℕ) => Calm regs handler s.1) ?_ ?_ ?_ _ _ hrx
  · exact fun s hs _ => calm_takeTx hgap hs
  · exact fun s _ hs _ => calm_takeTx hgap hs
  · exact fun frame s hs => calm_handleTx hgap hs frame

end

end CanWatch

def CanHandlerEvent.Undisturbed : CanHandlerEvent → Prop
  | .between _ => True
  | .run _ gap => ∀ n, ∀ e ∈ (gap n).events, e.isQuiet = true

namespace CanWatch

theorem onBus_run (regs : Nat → UInt8) (handler : CanHandlerEsp32) {es : List CanHandlerEvent}
    (hes : ∀ e ∈ es, e.Undisturbed) :
    OnBus regs handler ((start regs handler).run es) := by
  have hstart : OnBus regs handler (start regs handler) ∧ (start regs handler).OffKnown := by
    refine ⟨⟨rfl, fun _ h => absurd h List.not_mem_nil, fun _ h => absurd h List.not_mem_nil⟩, ?_⟩
    intro hoff
    exact absurd (hoff.symm.trans (CanTraffic.operating_init regs handler)) (by decide)
  generalize start regs handler = w at hstart
  induction es generalizing w with
  | nil => exact hstart.1
  | cons e es ih =>
    refine ih (fun e' he' => hes e' (List.mem_cons_of_mem _ he')) _ ?_
    cases e with
    | between e => exact ⟨hstart.1.event e, offKnown_event hstart.2 e⟩
    | run mutexTaken gap =>
      have hgap : CanHandlerEvent.Undisturbed (.run mutexTaken gap) := hes _ List.mem_cons_self
      obtain ⟨hbus, hoperating⟩ := calm_pass hgap hstart.1 hstart.2 mutexTaken
      exact ⟨hbus, fun hoff => absurd (hoff.symm.trans hoperating) (by decide)⟩

/-! ## Two handlers on a bus -/

/-- Frames that come from `sender`, as the other end makes them of what it reads off the bus. -/
def fromSender (sender : UInt16) (f : WireFrame) : Bool := f.framed.any fun frame => frame.sender == sender

theorem filter_framed (sender : UInt16) (frames : List WireFrame) :
    (frames.filterMap WireFrame.framed).filter (fun frame => frame.sender == sender) =
      (frames.filter (fromSender sender)).filterMap WireFrame.framed := by
  induction frames with
  | nil => rfl
  | cons f frames ih =>
    cases hframed : f.framed with
    | none =>
      have hnot : fromSender sender f = false := by rw [fromSender, hframed]; rfl
      rw [List.filterMap_cons_none hframed, ih, List.filter_cons_of_neg (by rw [hnot]; exact Bool.false_ne_true)]
    | some frame =>
      have hfrom : fromSender sender f = (frame.sender == sender) := by rw [fromSender, hframed]; rfl
      rw [List.filterMap_cons_some hframed, List.filter_cons, List.filter_cons, hfrom, ih]
      split
      · rw [List.filterMap_cons_some hframed]
      · rfl

theorem filterMap_wire {handed : List Handover} (h : ∀ x ∈ handed, x.frame.fits = true) :
    (handed.map fun x => x.frame.wire).filterMap WireFrame.framed = handed.map Handover.frame := by
  induction handed with
  | nil => rfl
  | cons x handed ih =>
    rw [List.map_cons, List.filterMap_cons_some (ExtFrame.framed_wire (h x List.mem_cons_self)),
      ih fun y hy => h y (List.mem_cons_of_mem _ hy)]
    rfl

/-- Of what a chip was asked to transmit the other end can make what was handed over, and no more. -/
theorem Ordered.framed_transmitted {w : CanWatch} (h : w.Ordered [] []) :
    (w.handler.controller.chip.transmitted.filterMap WireFrame.framed).Sublist w.accepted := by
  rw [h.transmitted, filterMap_wire fun x hx => (Bool.and_eq_true_iff.mp (List.mem_filter.mp hx).2).2, ← h.sent,
    List.append_nil]
  exact (List.filter_sublist.map _).trans (List.sublist_append_left _ _)

theorem Ordered.dispatched_sublist {w : CanWatch} (h : w.Ordered [] []) :
    (w.dispatched.map Dispatch.frame).Sublist w.queued := by
  rw [← h.received, List.append_nil]
  exact List.sublist_append_left _ _

/-- What one handler dispatches as coming from another, the tasks of the other have sent, in this order and no frame
twice, as long as what the bus carries under that address is what the other chip was asked to transmit. -/
theorem frames_exchanged (regs regs' : Nat → UInt8) (handler handler' : CanHandlerEsp32) (sender : UInt16)
    {es es' : List CanHandlerEvent}
    (hes : ∀ e ∈ es, e.Undisturbed) (hes' : ∀ e ∈ es', e.Undisturbed)
    (hbus : (((start regs' handler').run es').arrived.filter (fromSender sender)).Sublist
      ((start regs handler).run es).handler.controller.chip.transmitted) :
    ((((start regs' handler').run es').dispatched.map Dispatch.frame).filter fun frame =>
      frame.sender == sender).Sublist
        ((start regs handler).run es).accepted ∧
      (∀ d ∈ ((start regs' handler').run es').dispatched,
        d.frame.extId.toNat < 2048 ∨ d.frame.receiver = handler'.canId.localCanId &&& CanIdAssign.idMask) ∧
      ((start regs handler).run es).handler.controller.chip.transmitted ++
          (((start regs handler).run es).handler.canTxQueue.items.filter ExtFrame.fits).map ExtFrame.wire =
        (((start regs handler).run es).accepted.filter ExtFrame.fits).map ExtFrame.wire := by
  have hsender := ordered_run regs handler es
  have hreceiver := ordered_run regs' handler' es'
  have hsenderBus := onBus_run regs handler hes
  have hreceiverBus := onBus_run regs' handler' hes'
  refine ⟨?_, ?_, ?_⟩
  · refine ((hreceiver.dispatched_sublist.trans hreceiver.arrived).filter _).trans ?_
    rw [filter_framed]
    exact (hbus.filterMap _).trans hsender.framed_transmitted
  · intro d hd
    exact hreceiverBus.addressed _ (hreceiver.dispatched_sublist.subset (List.mem_map_of_mem hd))
  · have hoperating : ((start regs handler).run es).handed.filter (fun h => h.operating && h.frame.fits) =
        ((start regs handler).run es).handed.filter fun h => h.frame.fits := by
      apply List.filter_congr
      intro h hh
      rw [hsenderBus.operating h hh, Bool.true_and]
    rw [hsender.transmitted, hoperating, ← hsender.sent, List.append_nil, List.filter_append, List.map_append,
      List.filter_map, List.map_map]
    rfl

/-- Two frames from node 2 to node 1. -/
theorem frames_exchanged_twice :
    let regs : Nat → UInt8 := fun a => if a = 2 then 4 else 0
    let window : Nat → UInt8 := fun a => [0x88, 0, 129, 96, 8, 1, 2, 3, 4, 5, 6, 7, 8].getD (a - 0x10) 0
    let window' : Nat → UInt8 := fun a => [0x88, 0, 129, 96, 8, 8, 7, 6, 5, 4, 3, 2, 1].getD (a - 0x10) 0
    let frame : ExtFrame := .pack 1 11 2 #v[1, 2, 3, 4, 5, 6, 7, 8]
    let frame' : ExtFrame := .pack 1 11 2 #v[8, 7, 6, 5, 4, 3, 2, 1]
    let pass : CanHandlerEvent := .run true fun _ => ⟨[], 0⟩
    let sender := (start regs ⟨⟨1, 2⟩, []⟩).run
      [.between (.send frame), .between (.send frame'), pass, .between .release, pass]
    let receiver := (start regs ⟨⟨1, 1⟩, [2]⟩).run [.between (.receive window), .between (.receive window'), pass]
    receiver.dispatched = [⟨frame, .device 0, [2], false⟩, ⟨frame', .device 0, [2], false⟩] ∧
      ((receiver.dispatched.map Dispatch.frame).filter fun frame => frame.sender == 2).Sublist sender.accepted := by
  intro regs window window' frame frame' pass sender receiver
  refine ⟨by decide +kernel, (frames_exchanged regs regs ⟨⟨1, 2⟩, []⟩ ⟨⟨1, 1⟩, [2]⟩ 2 ?_ ?_ ?_).1⟩
  · simp [CanHandlerEvent.Undisturbed, pass]
  · simp [CanHandlerEvent.Undisturbed, pass]
  · decide +kernel

end CanWatch

end CanSystems
