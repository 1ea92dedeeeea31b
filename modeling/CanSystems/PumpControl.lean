import CanSystems.Common
import CanSystems.Lib.Fifo
import Mathlib.Data.Vector.Basic
import Mathlib.Data.List.FinRange

/-!
# Irrigation

`PumpControl` runs the irrigations of its queue one after the other: it selects
the channel of the oldest one on an I/O expander, switches the pump on, and
takes the irrigation off the queue when its time is up. Everything a pass reads
from the outside is in `PumpIo`. The LEDs are left out.
-/

namespace CanSystems

structure PCF8574 where
  registerValue : UInt8
  deviceExists : Bool
  /-- The last value the chip took. -/
  chip : UInt8
  deriving DecidableEq, Repr

namespace PCF8574

def init (deviceExists : Bool) : PCF8574 := ⟨0xFF, deviceExists, 0xFF⟩

/-- `acknowledged`: the transfer on the wire ends without an error. -/
def write (pcf : PCF8574) (reg : UInt8) (acknowledged : Bool) : Bool × PCF8574 :=
  if pcf.deviceExists = false then (false, pcf) else
  if acknowledged then (true, { pcf with registerValue := reg, chip := reg }) else (false, pcf)

def getRegisterValue (pcf : PCF8574) : UInt8 := pcf.registerValue

end PCF8574

inductive IrrigationState
  | IDLE | RUN | STOP | ERROR | CALIBRATION
  deriving DecidableEq, Repr

inductive PumpControlError
  | CH_SELECT | FLOW_STUCK | FLOW_OVERRUN | PUMP_OVERRUN | PUMP_OC | PUMP_UC | QUEUE_FULL
  deriving DecidableEq, Repr

def PumpControlError.code (e : PumpControlError) : UInt8 := 1 <<< UInt8.ofNat e.ctorIdx

structure IrrigationQueueElement where
  irrigationInfo : UInt8
  pwmValue : UInt8
  repeatNum : UInt8
  deriving DecidableEq, Repr

namespace IrrigationQueueElement

instance : Inhabited IrrigationQueueElement := ⟨⟨0, 0, 0⟩⟩

/-! The fields packed into `irrigationInfo`. -/

def channel (e : IrrigationQueueElement) : Fin 4 := Fin.ofNat 4 e.irrigationInfo.toNat

def duration (e : IrrigationQueueElement) : UInt8 := (e.irrigationInfo >>> 2) &&& (7 : UInt8)

def checkFlow (e : IrrigationQueueElement) : Bool := ((e.irrigationInfo >>> 5) &&& (1 : UInt8)) != 0

def checkCurrent (e : IrrigationQueueElement) : Bool := ((e.irrigationInfo >>> 6) &&& (1 : UInt8)) != 0

def ofFields (channel duration : UInt8) (checkFlow checkCurrent : Bool) (pwmValue repeatNum : UInt8) :
    IrrigationQueueElement where
  irrigationInfo :=
    (channel &&& (3 : UInt8)) ||| ((duration &&& (7 : UInt8)) <<< (2 : UInt8)) |||
      (checkFlow.toUInt8 <<< (5 : UInt8)) ||| (checkCurrent.toUInt8 <<< (6 : UInt8))
  pwmValue := pwmValue
  repeatNum := repeatNum

def durationMs (e : IrrigationQueueElement) : UInt32 := Time.minToMs e.duration.toUInt16

end IrrigationQueueElement

structure SafetyIrrigationElement where
  time : UInt16
  timer : UInt32
  irrigation : IrrigationQueueElement
  deriving DecidableEq, Repr

structure PumpControl where
  pcf : PCF8574
  /-- What the PWM pin puts out. -/
  pwm : UInt8
  flowCounter : UInt16
  prevFlowCounter : UInt16
  irrigationQueue : Fifo IrrigationQueueElement 4
  irrigationState : IrrigationState
  analogValue : UInt16
  eventTimer : UInt32
  errorCheckTimer : UInt32
  pumpControlErrState : UInt8
  /-- A function to report an error to is there. -/
  reportError : Bool
  /-- The channels that have a limit switch. -/
  limitSwitches : Vector Bool 4
  calibrationValue : Int16
  safetyIrrigation : Vector SafetyIrrigationElement 4
  deriving DecidableEq

/-- What a pass reads: the clock, the current sensor, the flow pulses since the last pass, the answer of the
expander and of the limit switch, and the clock again at each safety timer and at the reset of one. -/
structure PumpIo where
  now : UInt32
  adc : Int16
  pulses : UInt16
  acknowledged : Bool
  limitSwitch : Bool
  safetyClock : Vector UInt32 4
  resetClock : UInt32
  deriving DecidableEq

namespace PumpControl

def errorCheckTime : UInt32 := Time.secToMs 1
def maxAllowedStandbyCurrent : UInt16 := 100
def maxAllowedCurrent : UInt16 := 1000

/-- The object after `init`. -/
def init (pcf : PCF8574) (reportError : Bool) (now : UInt32) : PumpControl where
  pcf := pcf
  pwm := 0
  flowCounter := 0
  prevFlowCounter := 0
  irrigationQueue := .empty
  irrigationState := .CALIBRATION
  analogValue := 0
  eventTimer := now
  errorCheckTimer := 0
  pumpControlErrState := 0
  reportError := reportError
  limitSwitches := Vector.replicate 4 false
  calibrationValue := 0
  safetyIrrigation := Vector.replicate 4 ⟨0, 0, default⟩

def setError (pc : PumpControl) (e : PumpControlError) : PumpControl :=
  { pc with pumpControlErrState := pc.pumpControlErrState ||| e.code }

def fail (pc : PumpControl) (e : PumpControlError) : PumpControl := { pc.setError e with irrigationState := .ERROR }

/-- `Analog::complementaryFilter10`. -/
def complementaryFilter10 (newValue oldValue : UInt16) : UInt16 :=
  ((25 * newValue.toUInt32 + 230 * oldValue.toUInt32) / 255).toUInt16

def calculateCurrent (pc : PumpControl) : Int16 :=
  let sensorVoltageMV := ((pc.analogValue.toNat : Int) * 5000).tdiv 1024
  Int16.ofInt (((sensorVoltageMV - 2500) * 1000).tdiv 185)

def getPositiveCurrent (pc : PumpControl) : UInt16 :=
  let current := pc.calculateCurrent
  if current < 0 then 0 else current.toUInt16

def selectChannel (pc : PumpControl) (channel : Fin 4) (acknowledged : Bool) : Bool × PCF8574 :=
  let newRegValue := (pc.pcf.getRegisterValue &&& 0xF0) ||| ((1 : UInt8) <<< UInt8.ofNat channel)
  pc.pcf.write newRegValue acknowledged

def createIrrigation (pc : PumpControl) (irrigationElement : IrrigationQueueElement) : PumpControl :=
  if pc.irrigationQueue.isFull = false then
    { pc with irrigationQueue := pc.irrigationQueue.put irrigationElement }
  else pc.setError .QUEUE_FULL

def SafetyDue (element : SafetyIrrigationElement) (now : UInt32) : Prop :=
  0 < element.time ∧ now - element.timer > Time.minToMs element.time

instance (element : SafetyIrrigationElement) (now : UInt32) : Decidable (SafetyDue element now) :=
  inferInstanceAs (Decidable (_ ∧ _))

def checkSafety (pc : PumpControl) (clock : Vector UInt32 4) (i : Fin 4) : PumpControl :=
  if SafetyDue pc.safetyIrrigation[i] clock[i] then pc.createIrrigation pc.safetyIrrigation[i].irrigation else pc

def checkSafetyIrrigations (pc : PumpControl) (clock : Vector UInt32 4) : PumpControl :=
  (List.finRange 4).foldl (fun pc i => pc.checkSafety clock i) pc

def resetSafetyIrrigationTimer (pc : PumpControl) (channel : Fin 4) (now : UInt32) : PumpControl :=
  { pc with safetyIrrigation := pc.safetyIrrigation.set channel { pc.safetyIrrigation[channel] with timer := now } }

/-! ## A pass -/

def startHead (pc : PumpControl) (io : PumpIo) : PumpControl :=
  let head := pc.irrigationQueue.peek
  match pc.selectChannel head.channel io.acknowledged with
  | (true, pcf) =>
    { pc.resetSafetyIrrigationTimer head.channel io.resetClock with
      pcf := pcf
      pwm := head.pwmValue
      eventTimer := io.now
      errorCheckTimer := io.now
      flowCounter := 0
      prevFlowCounter := 0
      irrigationState := .RUN }
  | (false, pcf) => { pc with pcf := pcf }.fail .CH_SELECT

/-! Water or current while nothing should be running. -/

def watchFlow (pc : PumpControl) : PumpControl := if pc.flowCounter > 0 then pc.fail .FLOW_OVERRUN else pc

def watchCurrent (pc : PumpControl) : PumpControl :=
  if pc.getPositiveCurrent > maxAllowedStandbyCurrent then pc.fail .PUMP_OVERRUN else pc

def watchIdle (pc : PumpControl) (io : PumpIo) : PumpControl :=
  (pc.checkSafetyIrrigations io.safetyClock).watchFlow.watchCurrent

/-- The code handed to `reportError`, if it was called. -/
def report (pc : PumpControl) : Option UInt8 × PumpControl :=
  if pc.pumpControlErrState > 0 ∧ pc.reportError then
    (some pc.pumpControlErrState, { pc with pumpControlErrState := 0 })
  else (none, pc)

def handleIdle (pc : PumpControl) (io : PumpIo) : Option UInt8 × PumpControl :=
  (if pc.irrigationQueue.isEmpty then pc.watchIdle io else pc.startHead io).report

def checkFlow (pc : PumpControl) : PumpControl :=
  if pc.irrigationQueue.peek.checkFlow then
    if pc.flowCounter > pc.prevFlowCounter then { pc with prevFlowCounter := pc.flowCounter } else
      pc.fail .FLOW_STUCK
  else pc

def checkCurrent (pc : PumpControl) : PumpControl :=
  if pc.irrigationQueue.peek.checkCurrent then
    let actualCurrent := pc.getPositiveCurrent
    let pc := if actualCurrent < maxAllowedStandbyCurrent then pc.fail .PUMP_UC else pc
    if actualCurrent > maxAllowedCurrent then pc.fail .PUMP_OC else pc
  else pc

/-- The time of the oldest irrigation is up, or its limit switch is closed. -/
def ended (pc : PumpControl) (io : PumpIo) : Bool :=
  let head := pc.irrigationQueue.peek
  let limitSwitchReached := pc.limitSwitches[head.channel] && io.limitSwitch
  Time.hasElapsed io.now pc.eventTimer head.durationMs || limitSwitchReached

def handleRun (pc : PumpControl) (io : PumpIo) : PumpControl :=
  if pc.ended io then { pc with flowCounter := 0, prevFlowCounter := 0, irrigationState := .STOP } else
  if Time.hasElapsed io.now pc.errorCheckTimer errorCheckTime then
    { pc with errorCheckTimer := io.now }.checkFlow.checkCurrent
  else pc

/-- Put back an irrigation that has repeats left; nothing else is offered the free place before. -/
def requeue (pc : PumpControl) (io : PumpIo) (actualElement : IrrigationQueueElement) : PumpControl :=
  if actualElement.repeatNum > 0 then
    (pc.createIrrigation { actualElement with repeatNum := actualElement.repeatNum - 1 }).checkSafetyIrrigations
      io.safetyClock
  else pc

def handleStop (pc : PumpControl) (io : PumpIo) : PumpControl :=
  let (actualElement, irrigationQueue) := pc.irrigationQueue.pop
  let pc := { pc with irrigationQueue := irrigationQueue }.requeue io actualElement
  let pumpOff := pc.irrigationQueue.isEmpty || actualElement.channel != pc.irrigationQueue.peek.channel
  let pwm : UInt8 := if pumpOff then 0 else pc.pwm
  { pc with pwm := pwm, irrigationState := .IDLE }

def handleError (pc : PumpControl) : PumpControl :=
  let irrigationQueue := if pc.irrigationQueue.isEmpty then pc.irrigationQueue else pc.irrigationQueue.pop.2
  { pc with pwm := 0, irrigationQueue := irrigationQueue, irrigationState := .IDLE }

def handleCalibration (pc : PumpControl) (io : PumpIo) : PumpControl :=
  if Time.hasElapsed io.now pc.eventTimer (Time.secToMs 5) then
    let calValue := 511 - pc.analogValue.toInt16
    let pc := if calValue.abs.toUInt16 < 20 then { pc with calibrationValue := calValue } else pc
    { pc with irrigationState := .IDLE }
  else pc

def sense (pc : PumpControl) (io : PumpIo) : PumpControl :=
  let offsetReading := io.adc + pc.calibrationValue
  let correctedReading := if offsetReading < 0 then 0 else offsetReading.toUInt16
  { pc with
    flowCounter := pc.flowCounter + io.pulses
    analogValue := complementaryFilter10 correctedReading pc.analogValue }

def run (pc : PumpControl) (io : PumpIo) : Option UInt8 × PumpControl :=
  let pc := pc.sense io
  match pc.irrigationState with
  | .IDLE => pc.handleIdle io
  | .RUN => (none, pc.handleRun io)
  | .STOP => (none, pc.handleStop io)
  | .ERROR => (none, pc.handleError)
  | .CALIBRATION => (none, pc.handleCalibration io)

/-! ## The other calls -/

def addLimitSwitch (pc : PumpControl) (channel : UInt8) (limitSwitch : Bool) : PumpControl :=
  { pc with limitSwitches := pc.limitSwitches.set (Fin.ofNat 4 channel.toNat) limitSwitch }

def skipActualIrrigation (pc : PumpControl) (now : UInt32) : PumpControl :=
  if pc.irrigationState = .RUN then { pc with eventTimer := now - pc.irrigationQueue.peek.durationMs } else pc

def skipAllIrrigations (pc : PumpControl) (now : UInt32) : PumpControl :=
  { pc with
    irrigationQueue := .empty
    safetyIrrigation := pc.safetyIrrigation.map fun element => { element with timer := now }
    irrigationState := .ERROR }

def addSafetyIrrigation (pc : PumpControl) (time : UInt16) (channel duration : UInt8)
    (checkFlow checkCurrent : Bool)
    (pwmValue repeatNum : UInt8) (now : UInt32) : PumpControl :=
  let channel := channel &&& 3
  let element : SafetyIrrigationElement :=
    ⟨time, now, .ofFields channel duration checkFlow checkCurrent pwmValue repeatNum⟩
  { pc with safetyIrrigation := pc.safetyIrrigation.set (Fin.ofNat 4 channel.toNat) element }

/-! ## What the calls can do -/

def Selects (pc : PumpControl) (e : IrrigationQueueElement) : Prop :=
  pc.pcf.chip &&& 0x0F = (1 : UInt8) <<< UInt8.ofNat e.channel

/-- Nothing but puts: the queue grew at its end, or an error was noted. -/
def Puts (pc pc' : PumpControl) : Prop :=
  ∃ queue err, pc' = { pc with irrigationQueue := queue, pumpControlErrState := err } ∧
    pc.irrigationQueue.items <+: queue.items

theorem Puts.refl (pc : PumpControl) :
    Puts pc pc := ⟨pc.irrigationQueue, pc.pumpControlErrState, rfl, List.prefix_rfl⟩

theorem Puts.trans {pc pc' pc'' : PumpControl} (h : Puts pc pc') (h' : Puts pc' pc'') : Puts pc pc'' := by
  obtain ⟨queue, err, rfl, hgrow⟩ := h
  obtain ⟨queue', err', rfl, hgrow'⟩ := h'
  exact ⟨queue', err', rfl, hgrow.trans hgrow'⟩

theorem createIrrigation_puts (pc : PumpControl) (e : IrrigationQueueElement) :
    Puts pc (pc.createIrrigation e) := by
  unfold createIrrigation
  split
  · rename_i hroom
    refine ⟨_, _, rfl, ?_⟩
    rw [Fifo.items_put hroom]
    exact List.prefix_append _ _
  · exact ⟨_, _, rfl, List.prefix_rfl⟩

theorem checkSafety_puts (pc : PumpControl) (clock : Vector UInt32 4) (i : Fin 4) :
    Puts pc (pc.checkSafety clock i) := by
  unfold checkSafety
  split
  · exact pc.createIrrigation_puts _
  · exact .refl pc

theorem checkSafetyIrrigations_puts (pc : PumpControl) (clock : Vector UInt32 4) :
    Puts pc (pc.checkSafetyIrrigations clock) := by
  unfold checkSafetyIrrigations
  generalize List.finRange 4 = channels
  induction channels generalizing pc with
  | nil => exact .refl pc
  | cons i channels ih => exact (pc.checkSafety_puts clock i).trans (ih _)

theorem lowNibble_or (reg bits : UInt8) : (reg &&& 0xF0 ||| bits) &&& 0x0F = bits &&& 0x0F := by
  have hhigh : (0x0F : BitVec 8) &&& 0xF0 = 0 := by decide
  apply UInt8.toBitVec_inj.mp
  show (reg.toBitVec &&& 0xF0 ||| bits.toBitVec) &&& 0x0F = bits.toBitVec &&& 0x0F
  rw [BitVec.and_comm, BitVec.and_or_distrib_left, BitVec.and_comm reg.toBitVec, ← BitVec.and_assoc, hhigh]
  rw [BitVec.and_comm bits.toBitVec]
  simp

theorem selectChannel_acknowledged {pc : PumpControl} (hexists : pc.pcf.deviceExists = true) (channel : Fin 4) :
    ∃ pcf, pc.selectChannel channel true = (true, pcf) := by
  simp only [selectChannel, PCF8574.write, hexists, Bool.true_eq_false, if_false, if_true]
  exact ⟨_, rfl⟩

theorem selectChannel_cases (pc : PumpControl) (channel : Fin 4) (acknowledged : Bool) :
    (∃ pcf, pc.selectChannel channel acknowledged = (true, pcf) ∧
      pcf.chip &&& 0x0F = (1 : UInt8) <<< UInt8.ofNat channel) ∨
    pc.selectChannel channel acknowledged = (false, pc.pcf) := by
  unfold selectChannel PCF8574.write
  simp only
  split
  · exact Or.inr rfl
  split
  · refine Or.inl ⟨_, rfl, ?_⟩
    have hbit : ∀ i : Fin 4, ((1 : UInt8) <<< UInt8.ofNat i) &&& 0x0F = (1 : UInt8) <<< UInt8.ofNat i := by decide
    exact (lowNibble_or _ _).trans (hbit channel)
  · exact Or.inr rfl

/-! ## What a pass can do, by the state it finds -/

structure Still (pc pc' : PumpControl) : Prop where
  pwm : pc'.pwm = pc.pwm
  pcf : pc'.pcf = pc.pcf

theorem Puts.still {pc pc' : PumpControl} (h : Puts pc pc') : Still pc pc' := by
  obtain ⟨queue, err, rfl, -⟩ := h
  exact ⟨rfl, rfl⟩

theorem Puts.state {pc pc' : PumpControl} (h : Puts pc pc') : pc'.irrigationState = pc.irrigationState := by
  obtain ⟨queue, err, rfl, -⟩ := h
  rfl

theorem Puts.items {pc pc' : PumpControl} (h : Puts pc pc') :
    ∃ added, pc'.irrigationQueue.items = pc.irrigationQueue.items ++ added := by
  obtain ⟨queue, err, rfl, added, hadded⟩ := h
  exact ⟨added, hadded.symm⟩

theorem report_cases (pc : PumpControl) : ∃ err, pc.report.2 = { pc with pumpControlErrState := err } := by
  unfold report
  split
  · exact ⟨0, rfl⟩
  · exact ⟨pc.pumpControlErrState, rfl⟩

theorem run_idle_cons {pc : PumpControl} (io : PumpIo) {e : IrrigationQueueElement}
    {rest : List IrrigationQueueElement}
    (hstate : pc.irrigationState = .IDLE) (hqueue : pc.irrigationQueue.items = e :: rest) :
    (pc.run io).2 = ((pc.sense io).startHead io).report.2 := by
  have hempty : (pc.sense io).irrigationQueue.isEmpty = false := by
    rw [Fifo.isEmpty_eq_false]
    show pc.irrigationQueue.items ≠ []
    rw [hqueue]
    exact List.cons_ne_nil _ _
  simp only [run, handleIdle]
  rw [show (pc.sense io).irrigationState = .IDLE from hstate]
  simp only [hempty]
  rfl

theorem run_idle_nil {pc : PumpControl} (io : PumpIo) (hstate : pc.irrigationState = .IDLE)
    (hqueue : pc.irrigationQueue.items = []) : (pc.run io).2 = ((pc.sense io).watchIdle io).report.2 := by
  have hempty : (pc.sense io).irrigationQueue.isEmpty = true := Fifo.isEmpty_iff.mpr hqueue
  simp only [run, handleIdle]
  rw [show (pc.sense io).irrigationState = .IDLE from hstate]
  simp only [hempty]
  rfl

theorem run_idle_start {pc : PumpControl} (io : PumpIo) {e : IrrigationQueueElement}
    {rest : List IrrigationQueueElement}
    (hstate : pc.irrigationState = .IDLE) (hqueue : pc.irrigationQueue.items = e :: rest) :
    (pc.run io).2.irrigationQueue.items = e :: rest ∧
    (((pc.run io).2.irrigationState = .RUN ∧ (pc.run io).2.pwm = e.pwmValue ∧ (pc.run io).2.Selects e) ∨
      ((pc.run io).2.irrigationState = .ERROR ∧ Still pc (pc.run io).2)) := by
  have hpeek : (pc.sense io).irrigationQueue.peek = e := Fifo.peek_cons hqueue
  obtain ⟨err, hreport⟩ := ((pc.sense io).startHead io).report_cases
  rw [run_idle_cons io hstate hqueue, hreport]
  unfold startHead
  rw [hpeek]
  rcases (pc.sense io).selectChannel_cases e.channel io.acknowledged with ⟨pcf, hselect, hchip⟩ | hselect
  · simp only [hselect]
    exact ⟨hqueue, Or.inl ⟨trivial, trivial, hchip⟩⟩
  · simp only [hselect]
    exact ⟨hqueue, Or.inr ⟨rfl, ⟨rfl, rfl⟩⟩⟩

structure Checked (pc pc' : PumpControl) : Prop extends Still pc pc' where
  queue : pc'.irrigationQueue = pc.irrigationQueue
  state : pc'.irrigationState = pc.irrigationState ∨ pc'.irrigationState = .ERROR

theorem Checked.refl (pc : PumpControl) : Checked pc pc := ⟨⟨rfl, rfl⟩, rfl, Or.inl rfl⟩

theorem Checked.trans {pc pc' pc'' : PumpControl} (h : Checked pc pc') (h' : Checked pc' pc'') :
    Checked pc pc'' := by
  refine ⟨⟨h'.pwm.trans h.pwm, h'.pcf.trans h.pcf⟩, h'.queue.trans h.queue, ?_⟩
  rcases h'.state with hstate | hstate
  · rw [hstate]
    exact h.state
  · exact Or.inr hstate

theorem fail_checked (pc : PumpControl) (e : PumpControlError) :
    Checked pc (pc.fail e) := ⟨⟨rfl, rfl⟩, rfl, Or.inr rfl⟩

theorem watchFlow_checked (pc : PumpControl) : Checked pc pc.watchFlow := by
  unfold watchFlow
  split
  · exact pc.fail_checked _
  · exact .refl pc

theorem watchCurrent_checked (pc : PumpControl) : Checked pc pc.watchCurrent := by
  unfold watchCurrent
  split
  · exact pc.fail_checked _
  · exact .refl pc

theorem checkFlow_checked (pc : PumpControl) : Checked pc pc.checkFlow := by
  unfold checkFlow
  split
  · split
    · exact ⟨⟨rfl, rfl⟩, rfl, Or.inl rfl⟩
    · exact pc.fail_checked _
  · exact .refl pc

theorem checkCurrent_checked (pc : PumpControl) : Checked pc pc.checkCurrent := by
  unfold checkCurrent
  split
  · generalize pc.getPositiveCurrent = actualCurrent
    simp only
    have hlow : Checked pc (if actualCurrent < maxAllowedStandbyCurrent then pc.fail .PUMP_UC else pc) := by
      split
      · exact pc.fail_checked _
      · exact .refl pc
    generalize (if actualCurrent < maxAllowedStandbyCurrent then pc.fail .PUMP_UC else pc) = pc' at hlow ⊢
    split
    · exact hlow.trans (pc'.fail_checked _)
    · exact hlow
  · exact .refl pc

theorem watchIdle_cases (pc : PumpControl) (io : PumpIo) :
    Still pc (pc.watchIdle io) ∧
    ((pc.watchIdle io).irrigationState = pc.irrigationState ∨ (pc.watchIdle io).irrigationState = .ERROR) := by
  have hputs := pc.checkSafetyIrrigations_puts io.safetyClock
  have hchecked := (watchFlow_checked _).trans
    (pc.checkSafetyIrrigations io.safetyClock).watchFlow.watchCurrent_checked
  refine ⟨⟨hchecked.pwm.trans hputs.still.pwm, hchecked.pcf.trans hputs.still.pcf⟩, ?_⟩
  rcases hchecked.state with hstate | hstate
  · exact Or.inl (hstate.trans hputs.state)
  · exact Or.inr hstate

theorem run_idle_watch {pc : PumpControl} (io : PumpIo) (hstate : pc.irrigationState = .IDLE)
    (hqueue : pc.irrigationQueue.items = []) :
    Still pc (pc.run io).2 ∧ ((pc.run io).2.irrigationState = .IDLE ∨ (pc.run io).2.irrigationState = .ERROR) := by
  obtain ⟨err, hreport⟩ := ((pc.sense io).watchIdle io).report_cases
  obtain ⟨hstill, hnext⟩ := (pc.sense io).watchIdle_cases io
  rw [run_idle_nil io hstate hqueue, hreport]
  refine ⟨⟨hstill.pwm, hstill.pcf⟩, ?_⟩
  rcases hnext with hnext | hnext
  · exact Or.inl (hnext.trans hstate)
  · exact Or.inr hnext

theorem run_run {pc : PumpControl} (io : PumpIo) (hstate : pc.irrigationState = .RUN) :
    (pc.run io).2.irrigationQueue = pc.irrigationQueue ∧ Still pc (pc.run io).2 ∧
    ((pc.run io).2.irrigationState = .RUN ∨ (pc.run io).2.irrigationState = .STOP ∨
      (pc.run io).2.irrigationState = .ERROR) := by
  have hrun : (pc.run io).2 = (pc.sense io).handleRun io := by
    simp only [run]
    rw [show (pc.sense io).irrigationState = .RUN from hstate]
  rw [hrun]
  unfold handleRun
  split
  · exact ⟨rfl, ⟨rfl, rfl⟩, Or.inr (Or.inl rfl)⟩
  split
  · generalize hstarted : { pc.sense io with errorCheckTimer := io.now } = started
    have hbefore : started.irrigationState = .RUN := by
      rw [← hstarted]
      exact hstate
    have hsame : started.irrigationQueue = pc.irrigationQueue ∧ started.pwm = pc.pwm ∧ started.pcf = pc.pcf := by
      rw [← hstarted]
      exact ⟨rfl, rfl, rfl⟩
    have hchecked := started.checkFlow_checked.trans started.checkFlow.checkCurrent_checked
    refine ⟨hchecked.queue.trans hsame.1, ⟨hchecked.pwm.trans hsame.2.1, hchecked.pcf.trans hsame.2.2⟩, ?_⟩
    rcases hchecked.state with h | h
    · exact Or.inl (h.trans hbefore)
    · exact Or.inr (Or.inr h)
  · exact ⟨rfl, ⟨rfl, rfl⟩, Or.inl hstate⟩

theorem requeue_puts (pc : PumpControl) (io : PumpIo) (e : IrrigationQueueElement) : Puts pc (pc.requeue io e) := by
  unfold requeue
  split
  · exact (pc.createIrrigation_puts _).trans (checkSafetyIrrigations_puts _ _)
  · exact .refl pc

theorem run_stop {pc : PumpControl} (io : PumpIo) {e : IrrigationQueueElement} {rest : List IrrigationQueueElement}
    (hstate : pc.irrigationState = .STOP) (hqueue : pc.irrigationQueue.items = e :: rest) :
    (∃ added, (pc.run io).2.irrigationQueue.items = rest ++ added) ∧
    (pc.run io).2.irrigationState = .IDLE ∧ (pc.run io).2.pcf = pc.pcf ∧
    ((pc.run io).2.pwm = 0 ∨ ∃ next rest', (pc.run io).2.irrigationQueue.items = next :: rest' ∧
      next.channel = e.channel) := by
  have hpeek : (pc.sense io).irrigationQueue.peek = e := Fifo.peek_cons hqueue
  have hrun : (pc.run io).2 = (pc.sense io).handleStop io := by
    simp only [run]
    rw [show (pc.sense io).irrigationState = .STOP from hstate]
  rw [hrun]
  unfold handleStop
  simp only [Fifo.pop, hpeek]
  generalize hleft : { pc.sense io with irrigationQueue := (pc.sense io).irrigationQueue.rest } = left
  have hitems : left.irrigationQueue.items = rest := by
    rw [← hleft]
    show pc.irrigationQueue.items.tail = rest
    rw [hqueue, List.tail_cons]
  have hpcf : left.pcf = pc.pcf := by
    rw [← hleft]
    rfl
  have hputs := left.requeue_puts io e
  obtain ⟨added, hadded⟩ := hputs.items
  generalize left.requeue io e = next at hputs hadded ⊢
  refine ⟨⟨added, by rw [hadded, hitems]⟩, trivial, hputs.still.pcf.trans hpcf, ?_⟩
  cases hnext : next.irrigationQueue.items with
  | nil =>
    left
    rw [if_pos]
    simp [hnext]
  | cons head tail =>
    by_cases hchannel : e.channel = head.channel
    · exact Or.inr ⟨head, tail, rfl, hchannel.symm⟩
    · left
      rw [if_pos]
      simp [Fifo.peek_cons hnext, hchannel]

theorem run_error {pc : PumpControl} (io : PumpIo) (hstate : pc.irrigationState = .ERROR) :
    (pc.run io).2.irrigationQueue.items = pc.irrigationQueue.items.tail ∧ (pc.run io).2.irrigationState = .IDLE ∧
    (pc.run io).2.pwm = 0 := by
  have hrun : (pc.run io).2 = (pc.sense io).handleError := by
    simp only [run]
    rw [show (pc.sense io).irrigationState = .ERROR from hstate]
  rw [hrun]
  refine ⟨?_, rfl, rfl⟩
  show (if pc.irrigationQueue.isEmpty then pc.irrigationQueue else pc.irrigationQueue.rest).items = _
  split
  · rename_i hempty
    rw [Fifo.isEmpty_iff.mp hempty]
    rfl
  · rfl

theorem run_calibration {pc : PumpControl} (io : PumpIo) (hstate : pc.irrigationState = .CALIBRATION) :
    (pc.run io).2.irrigationQueue = pc.irrigationQueue ∧ Still pc (pc.run io).2 ∧
    ((pc.run io).2.irrigationState = .IDLE ∨ (pc.run io).2.irrigationState = .CALIBRATION) := by
  have hrun : (pc.run io).2 = (pc.sense io).handleCalibration io := by
    simp only [run]
    rw [show (pc.sense io).irrigationState = .CALIBRATION from hstate]
  rw [hrun]
  unfold handleCalibration
  split
  · simp only
    split
    all_goals exact ⟨rfl, ⟨rfl, rfl⟩, Or.inl trivial⟩
  · exact ⟨rfl, ⟨rfl, rfl⟩, Or.inr hstate⟩

end PumpControl

/-- A pass or a call; a request comes as one encoded byte, or as its fields. -/
inductive PumpOp
  | run (io : PumpIo)
  | createIrrigation (element : IrrigationQueueElement)
  | addSafetyIrrigation (time : UInt16) (channel duration : UInt8) (checkFlow checkCurrent : Bool)
      (pwmValue repeatNum : UInt8) (now : UInt32)
  | addLimitSwitch (channel : UInt8) (limitSwitch : Bool)
  | skipActualIrrigation (now : UInt32)
  | skipAllIrrigations (now : UInt32)
  deriving DecidableEq

def PumpControl.step (pc : PumpControl) : PumpOp → PumpControl
  | .run io => (pc.run io).2
  | .createIrrigation element => pc.createIrrigation element
  | .addSafetyIrrigation time channel duration checkFlow checkCurrent pwmValue repeatNum now =>
    pc.addSafetyIrrigation time channel duration checkFlow checkCurrent pwmValue repeatNum now
  | .addLimitSwitch channel limitSwitch => pc.addLimitSwitch channel limitSwitch
  | .skipActualIrrigation now => pc.skipActualIrrigation now
  | .skipAllIrrigations now => pc.skipAllIrrigations now

end CanSystems
