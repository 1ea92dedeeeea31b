import CanSystems.AcceptanceFilters
import CanSystems.CanIdRequests
import CanSystems.FrameRoundTrip
import CanSystems.Lib.Fifo

/-!
# The CAN handler of the ESP32

The interrupt puts what arrives into one queue, and any task puts what it sends
into another; a pass of the handler moves at most eight frames each way. Both
queues refuse a frame when they are full.
-/

namespace CanSystems

structure DeltaCounter where
  lastSeen : UInt32
  deriving DecidableEq, Repr

def DeltaCounter.takeGrowth (counter : DeltaCounter) (current : UInt32) : UInt32 × DeltaCounter :=
  (current - counter.lastSeen, ⟨current⟩)

/-! ## The frame pump -/

namespace CanFramePump

structure Result where
  handled : Nat
  failed : Bool
  deriving DecidableEq, Repr

section
variable {σ α : Type} (takeFrame : σ → Option α × σ) (handleFrame : α → σ → Bool × σ)

def drain : Nat → σ → Result × σ
  | 0, s => (⟨0, false⟩, s)
  | maxFrames + 1, s =>
    let taken := takeFrame s
    match taken.1 with
    | none => (⟨0, false⟩, taken.2)
    | some frame =>
      let handled := handleFrame frame taken.2
      if handled.1 = false then (⟨0, true⟩, handled.2) else
      let rest := drain maxFrames handled.2
      (⟨rest.1.handled + 1, rest.1.failed⟩, rest.2)

variable {takeFrame handleFrame}

/-- `I` holds between two frames, and `J` while a frame is in hand. -/
theorem drain_inv {I : σ → Prop} {J : α → σ → Prop}
    (hempty : ∀ s, I s → (takeFrame s).1 = none → I (takeFrame s).2)
    (htake : ∀ s frame, I s → (takeFrame s).1 = some frame → J frame (takeFrame s).2)
    (hhandle : ∀ frame s, J frame s → I (handleFrame frame s).2) (maxFrames : Nat) {s : σ} (hI : I s) :
    I (drain takeFrame handleFrame maxFrames s).2 := by
  induction maxFrames generalizing s with
  | zero => exact hI
  | succ maxFrames ih =>
    rw [drain]
    cases htaken : (takeFrame s).1 with
    | none => exact hempty s hI htaken
    | some frame =>
      have hafter := hhandle frame _ (htake s frame hI htaken)
      dsimp only
      split
      · exact hafter
      · exact ih hafter

theorem drain_count {count : σ → ℕ} (htake : ∀ s, count (takeFrame s).2 = count s)
    (hhandle : ∀ frame s, count (handleFrame frame s).2 ≤ count s + 1) (maxFrames : Nat) (s : σ) :
    count (drain takeFrame handleFrame maxFrames s).2 ≤ count s + maxFrames := by
  induction maxFrames generalizing s with
  | zero => exact Nat.le_refl _
  | succ maxFrames ih =>
    have htaken := htake s
    rw [drain]
    cases (takeFrame s).1 with
    | none =>
      dsimp only
      omega
    | some frame =>
      have hhandled := hhandle frame (takeFrame s).2
      have hrest := ih (handleFrame frame (takeFrame s).2).2
      dsimp only
      split <;> dsimp only <;> omega

end

end CanFramePump

/-! ## The chip on the bus -/

namespace ESP32SJA1000

namespace Chip

instance (chip : Chip) (id : BitVec 29) (rtr : Bool) : Decidable (chip.accepts id rtr) :=
  @Nat.decidableForallFin 30 _ fun _ => inferInstanceAs (Decidable (_ → _))

/-- What the chip lets through; its filter is described for identifiers of 29 bits only. -/
def passes (chip : Chip) (f : WireFrame) : Bool :=
  match f.ident with
  | .standard _ => true
  | .extended id => decide (chip.accepts id f.rtr)

def offer (chip : Chip) (window : Nat → UInt8) : Chip :=
  { chip with rxWindow := window, regs := setReg chip.regs regSr (chip.regs regSr ||| srReceiveBuffer) }

def release (chip : Chip) : Chip :=
  { chip with regs := setReg chip.regs regSr (chip.regs regSr ||| (srTxComplete ||| srTxBufferFree)) }

/-- Too many errors: the chip puts itself into reset mode, and its transmit buffer is free again. -/
def enterBusOff (chip : Chip) : Chip :=
  { chip with
    regs := setReg (setReg chip.regs regMod (chip.regs regMod ||| modResetMode)) regSr
      (chip.regs regSr ||| (0x80 ||| srTxBufferFree)) }

/-- The chip has seen the bus idle for long enough after it left reset mode. -/
def leaveBusOff (chip : Chip) : Chip :=
  if chip.isInResetMode then chip else { chip with regs := setReg chip.regs regSr (chip.regs regSr &&& ~~~0x80) }

@[simp] theorem isInResetMode_offer (chip : Chip) (window : Nat → UInt8) :
    (chip.offer window).isInResetMode = chip.isInResetMode := rfl

@[simp] theorem isInResetMode_release (chip : Chip) : chip.release.isInResetMode = chip.isInResetMode := rfl

@[simp] theorem isInResetMode_leaveBusOff (chip : Chip) : chip.leaveBusOff.isInResetMode = chip.isInResetMode := by
  rw [leaveBusOff]
  split <;> rfl

theorem transmitted_write (chip : Chip) {address : Nat} (h : address ≠ regCmr) (value : UInt8) :
    (chip.writeRegister address value).transmitted = chip.transmitted := by
  rw [writeRegister, if_neg h]
  split
  · rfl
  · split <;> rfl

theorem transmitted_configure {writes : List (Nat × UInt8)} (chip : Chip) (h : ∀ w ∈ writes, w.1 ≠ regCmr) :
    (configure writes chip).transmitted = chip.transmitted := by
  have hall : ∀ chip : Chip, (writeAll writes chip).transmitted = chip.transmitted := by
    intro chip
    induction writes generalizing chip with
    | nil => rfl
    | cons w writes ih =>
      refine (ih (fun w hw => h w (List.mem_cons_of_mem _ hw)) _).trans ?_
      exact chip.transmitted_write (h w List.mem_cons_self) w.2
  rw [configure, modifyRegister, transmitted_write _ (by decide), hall, modifyRegister,
    transmitted_write _ (by decide)]

theorem operating_leave (chip : Chip) {mask : UInt8} (hmask : mask.toBitVec.getLsbD 0 = true) :
    (chip.modifyRegister regMod mask 0x00).isInResetMode = false := by
  have hclear : ∀ x : UInt8, ((x &&& ~~~mask) ||| 0x00) &&& modResetMode = 0 := by
    intro x
    apply UInt8.eq_of_toBitVec_eq
    apply BitVec.eq_of_getLsbD_eq
    intro i hi
    simp only [modResetMode]
    interval_cases i <;> simp [hmask]
  rw [modifyRegister_mod, isInResetMode]
  exact bne_eq_false_iff_eq.mpr (hclear _)

theorem operating_configure (writes : List (Nat × UInt8)) (chip : Chip) :
    (configure writes chip).isInResetMode = false :=
  operating_leave _ (by decide)

theorem command_modes (chip : Chip) (mask value : UInt8) :
    (chip.modifyRegister regCmr mask value).acceptance = chip.acceptance ∧
      (chip.modifyRegister regCmr mask value).isInResetMode = chip.isInResetMode := by
  rw [modifyRegister, writeRegister, if_pos (by decide)]
  simp only [if_true, onCommand]
  split
  · exact ⟨rfl, rfl⟩
  · split <;> split <;> exact ⟨rfl, rfl⟩

theorem command_quiet (chip : Chip) {value : UInt8} (h : value &&& 0x11 = 0) (mask : UInt8) :
    (chip.modifyRegister regCmr mask value).transmitted = chip.transmitted ∧
      (chip.modifyRegister regCmr mask value).regs regSr &&& srTxBufferFree = chip.regs regSr &&&
        srTxBufferFree := by
  have hvalue : ((chip.readRegister regCmr &&& ~~~mask) ||| value) = value := by
    rw [readRegister, if_pos rfl]
    simp
  have hnone : (value &&& 0x11 != 0) = false := bne_eq_false_iff_eq.mpr h
  rw [modifyRegister, hvalue, writeRegister, if_pos (by decide)]
  simp only [if_true, onCommand, hnone, Bool.false_eq_true, if_false]
  split
  · exact ⟨rfl, rfl⟩
  · split
    · refine ⟨rfl, ?_⟩
      show (chip.regs regSr &&& ~~~srReceiveBuffer) &&& srTxBufferFree = _
      rw [UInt8.and_assoc]
      rfl
    · exact ⟨rfl, rfl⟩

end Chip

theorem endPacket_spec {sja : ESP32SJA1000} (hbegun : sja.packetBegun = true) (now : UInt32) :
    (sja.endPacket now).1 = true ∧ (sja.endPacket now).2.txPending = true ∧
      (sja.endPacket now).2.chip.isInResetMode = sja.chip.isInResetMode ∧
      (sja.chip.isInResetMode = true → (sja.endPacket now).2.chip.transmitted = sja.chip.transmitted) ∧
      (sja.chip.isInResetMode = false → (sja.endPacket now).2.chip.acceptance = sja.chip.acceptance ∧
        (sja.endPacket now).2.chip.transmitted = sja.chip.transmitted ++ [sja.toCANController.txFrame]) := by
  have hend : sja.toCANController.endPacket =
      (true, { sja.toCANController with packetBegun := false, txLength := sja.txDlc, txLength_le := sja.txDlc_le }) :=
    if_neg (by simp [hbegun])
  have hlength : sja.toCANController.endPacket.2.txLength = sja.toCANController.endPacket.2.txDlc := by rw [hend]
  have hframe : sja.toCANController.endPacket.2.txFrame = sja.toCANController.txFrame := by rw [hend]; rfl
  have hone : sja.toCANController.endPacket.1 = true := by rw [hend]
  obtain ⟨hregs, htransmitted⟩ := writeData_kept regSff (header sja.toCANController.endPacket.2 ++
    sja.toCANController.endPacket.2.txData.cells.take sja.toCANController.endPacket.2.txLength.toNat) sja.chip
      (by decide)
  generalize hchip : writeData regSff (header sja.toCANController.endPacket.2 ++
    sja.toCANController.endPacket.2.txData.cells.take sja.toCANController.endPacket.2.txLength.toNat) sja.chip =
      chip at hregs htransmitted
  have hmode : chip.isInResetMode = sja.chip.isInResetMode := by rw [Chip.isInResetMode, hregs]; rfl
  have hafter : sja.endPacket now = (true, { sja with
      toCANController := sja.toCANController.endPacket.2
      chip := chip.modifyRegister regCmr 0x1F (if sja.loopbackEnabled then 0x10 else 0x01)
      txPending := true
      txStartedAt := now }) := by
    rw [endPacket]
    simp only [hone, Bool.not_true, Bool.false_eq_true, if_false, hchip]
  rw [hafter]
  refine ⟨rfl, rfl, ?_, ?_, ?_⟩
  · exact (chip.command_modes 0x1F _).2.trans hmode
  · intro hreset
    show (chip.modifyRegister regCmr 0x1F _).transmitted = _
    rw [request_transmitted, if_pos (hmode.trans hreset), htransmitted]
  · intro hreset
    obtain ⟨window, hwindow, -, hspelled⟩ := writeData_operating regSff (header sja.toCANController.endPacket.2 ++
      sja.toCANController.endPacket.2.txData.cells.take sja.toCANController.endPacket.2.txLength.toNat) hreset
        (Nat.le_refl _)
    rw [hchip] at hwindow
    rw [hlength] at hspelled
    refine ⟨?_, ?_⟩
    · refine (chip.command_modes 0x1F _).1.trans ?_
      rw [hwindow]
    · show (chip.modifyRegister regCmr 0x1F _).transmitted = _
      rw [request_transmitted, if_neg (by rw [hmode, hreset]; exact Bool.false_ne_true), hwindow]
      show sja.chip.transmitted ++ [windowFrame window] = _
      rw [windowFrame_spelled hspelled hlength, hframe]

/-! ### A frame of any length code -/

theorem toNat_clampDlc (x : UInt8) : (clampDlc (x &&& 0x0F)).toNat = min 8 (x.toBitVec.extractLsb' 0 4).toNat := by
  rw [clampDlc, and_nibble]
  split
  · rename_i h
    have hgt := UInt8.lt_iff_toNat_lt.mp h
    rw [toNat_nibble] at hgt
    exact (Nat.min_eq_left (Nat.le_of_lt hgt)).symm
  · rename_i h
    have hle := UInt8.le_iff_toNat_le.mp (UInt8.not_lt.mp h)
    rw [toNat_nibble] at hle
    rw [toNat_nibble]
    exact (Nat.min_eq_right hle).symm

theorem toNat_rxLengthOf (rtr : Bool) (x : UInt8) :
    (rxLengthOf rtr (x &&& 0x0F)).toNat = if rtr then 0 else min 8 (x.toBitVec.extractLsb' 0 4).toNat := by
  rw [rxLengthOf]
  cases rtr with
  | true => rfl
  | false => exact toNat_clampDlc x

theorem received_id (c : CANController) (window : Nat → UInt8) :
    (received c window).packetId = (windowFrame window).ident.toUInt32 := by
  have hsff : Chip.setReg window regSff (window regSff &&& 0xF0) regSff = window regSff &&& 0xF0 := if_pos rfl
  have hbehind : ∀ n, n ≠ 0 → Chip.setReg window regSff (window regSff &&& 0xF0) (regSff + n) = window
      (regSff + n) := by
    intro n hn
    exact if_neg (by omega)
  have hbit : (window regSff &&& 0xF0).toBitVec.getLsbD 7 = (window regSff).toBitVec.getLsbD 7 := by simp
  have hflag : (window regSff &&& 0xF0) &&& 0x80 = window regSff &&& 0x80 := by
    rw [UInt8.and_assoc]
    rfl
  have hdlc : (windowFrame (Chip.setReg window regSff (window regSff &&& 0xF0))).dlc.toNat ≤ 8 := by
    show ((Chip.setReg window regSff (window regSff &&& 0xF0) regSff).toBitVec.extractLsb' 0 4).toNat ≤ 8
    rw [hsff]
    have hzero : (window regSff &&& 0xF0).toBitVec.extractLsb' 0 4 = 0#4 := by
      apply BitVec.eq_of_getLsbD_eq
      intro i hi
      interval_cases i <;> simp
    rw [hzero]
    decide
  have hholds := (received_holds c hdlc).id
  simp only [CANController.packetId, received, windowFrame, hsff, hbit, hflag, regEff] at hholds ⊢
  simp only [regSff] at hbehind hholds ⊢
  simp only [hbehind 1 (by decide), hbehind 2 (by decide), hbehind 3 (by decide), hbehind 4 (by decide)] at hholds
  exact hholds

theorem received_data (c : CANController) (window : Nat → UInt8) :
    (received c window).packetRtr = (windowFrame window).rtr ∧
      (received c window).packetDlc.toNat = min 8 (windowFrame window).dlc.toNat ∧
      (received c window).available = (windowFrame window).data.length ∧
      ∀ length, ((received c window).readBytes length).1 = (windowFrame window).data.take length := by
  have hext : (window regSff &&& 0x80 != 0) = (window regSff).toBitVec.getLsbD 7 := and_bit _ _ rfl (by decide)
  have hrtr : (window regSff &&& 0x40 != 0) = (window regSff).toBitVec.getLsbD 6 := and_bit _ _ rfl (by decide)
  have hlength := toNat_rxLengthOf ((window regSff).toBitVec.getLsbD 6) (window regSff)
  refine ⟨hrtr, toNat_clampDlc _, ?_, ?_⟩
  · simp only [CANController.available, received, windowFrame, hrtr, hlength, List.length_map, List.length_range,
      UInt8.toNat_zero]
    simp
  · intro length
    rw [CANController.readBytes_eq]
    simp only [received, windowFrame, CArray.put, hext, hrtr, hlength, List.take_zero, List.nil_append,
      UInt8.toNat_zero, List.drop_zero]
    rw [List.take_left' (by rw [List.length_map, List.length_range])]

theorem length_windowFrame (window : Nat → UInt8) :
    (windowFrame window).data.length = if (windowFrame window).rtr then 0 else min 8
    (windowFrame window).dlc.toNat := by
  simp [windowFrame]

theorem Chip.waiting_offer (chip : Chip) (window : Nat → UInt8) :
    (chip.offer window).regs regSr &&& srReceiveBuffer = srReceiveBuffer := by
  show (chip.regs regSr ||| srReceiveBuffer) &&& srReceiveBuffer = srReceiveBuffer
  apply UInt8.eq_of_toBitVec_eq
  apply BitVec.eq_of_getLsbD_eq
  intro i hi
  simp only [srReceiveBuffer]
  interval_cases i <;> simp

theorem parsePacket_waiting {sja : ESP32SJA1000} (hmode : sja.chip.isInResetMode = false)
    (hwaiting : sja.chip.regs regSr &&& srReceiveBuffer = srReceiveBuffer) :
    sja.parsePacket = ((received sja.toCANController sja.chip.rxWindow).rxDlc,
      { sja with
        toCANController := received sja.toCANController sja.chip.rxWindow
        chip := sja.chip.modifyRegister regCmr 0x04 0x04 }) := by
  have hread : ∀ a, 0x10 ≤ a → sja.chip.readRegister a = sja.chip.rxWindow a := by
    intro a ha
    rw [Chip.readRegister, if_neg (by rw [regCmr]; omega), if_neg (Nat.not_lt.mpr ha), hmode,
      if_neg Bool.false_ne_true]
  have hdata : ∀ i, sja.chip.readRegister
    ((if sja.chip.rxWindow regSff &&& 0x80 != 0 then regEff + 5 else regSff + 3) + i) =
      sja.chip.rxWindow ((if sja.chip.rxWindow regSff &&& 0x80 != 0 then regEff + 5 else regSff + 3) + i) := by
    intro i
    apply hread
    split <;> simp only [regEff, regSff] <;> omega
  have hstatus : (sja.chip.readRegister regSr &&& 0x01 != 0x01) = false := bne_eq_false_iff_eq.mpr hwaiting
  have hreceived : received sja.toCANController sja.chip.readRegister = received sja.toCANController
      sja.chip.rxWindow := by
    simp only [received, hread regSff (by decide), hread (regEff + 1) (by decide), hread (regEff + 2) (by decide),
      hread (regEff + 3) (by decide), hread (regEff + 4) (by decide), hread (regSff + 1) (by decide),
        hread (regSff + 2) (by decide),
      hdata]
  rw [parsePacket, hstatus, if_neg Bool.false_ne_true, hreceived]

end ESP32SJA1000

/-! ## The driver -/

structure CanDriver extends ESP32SJA1000 where
  abandonedTxFrames : UInt32

namespace CanDriver

open ESP32SJA1000

def srBusOff : UInt8 := 0x80
def cmrAbortTx : UInt8 := 0x02
def txWaitTimeoutMs : UInt32 := 50

def txReady (can : CanDriver) (now : UInt32) : Bool × CanDriver :=
  if can.chip.readRegister regSr &&& srTxBufferFree = srTxBufferFree then
    (true, { can with txPending := false }) else
  -- the chip would go on retransmitting a frame that nothing takes
  if can.txPending = true ∧ now - can.txStartedAt > txWaitTimeoutMs then
    (false, { can with
      chip := can.chip.modifyRegister regCmr 0x1F cmrAbortTx
      txPending := false
      abandonedTxFrames := can.abandonedTxFrames + 1 })
  else (false, can)

def isBusOff (can : CanDriver) : Bool := can.chip.readRegister regSr &&& srBusOff != 0

def recoverFromBusOff (can : CanDriver) : CanDriver :=
  { can with chip := can.chip.modifyRegister regMod modResetMode 0x00 }

theorem operating_recoverFromBusOff (can : CanDriver) : can.recoverFromBusOff.chip.isInResetMode = false :=
  can.chip.operating_leave (by decide)

def handleInterrupt (can : CanDriver) (ir : UInt8) : Option Int × CanDriver :=
  if ir &&& 0x01 = 0 then (none, can) else
  let parsed := can.toESP32SJA1000.parsePacket
  let can := { can with toESP32SJA1000 := parsed.2 }
  (if parsed.1 = 0 then none else some can.available, can)

section
variable {can : CanDriver} {now : UInt32}

def bufferFree (can : CanDriver) : Bool := can.chip.regs regSr &&& srTxBufferFree == srTxBufferFree

theorem txReady_ready (h : (can.txReady now).1 = true) :
    can.bufferFree = true ∧ (can.txReady now).2 = { can with txPending := false } := by
  rw [txReady] at h ⊢
  split at h
  · rename_i hfree
    rw [if_pos hfree]
    exact ⟨beq_iff_eq.mpr hfree, rfl⟩
  · split at h <;> cases h

theorem txReady_busy (h : (can.txReady now).1 = false) :
    (can.txReady now).2 = can ∨ can.txPending = true ∧ ∃ chip : Chip,
      (can.txReady now).2 = { can with chip := chip, txPending := false, abandonedTxFrames := can.abandonedTxFrames + 1 } ∧
        chip.transmitted = can.chip.transmitted ∧ chip.acceptance = can.chip.acceptance ∧
        chip.isInResetMode = can.chip.isInResetMode := by
  rw [txReady] at h ⊢
  split at h
  · cases h
  · rename_i hfree
    rw [if_neg hfree]
    split
    · rename_i hlate
      have hmodes := can.chip.command_modes 0x1F cmrAbortTx
      exact Or.inr ⟨hlate.1, _, rfl, (can.chip.command_quiet rfl 0x1F).1, hmodes.1, hmodes.2⟩
    · exact Or.inl rfl

end

end CanDriver

/-! ## The handler -/

namespace ExtFrame

/-- The frame that the handler has the driver send: all eight bytes, under an identifier of 29 bits. -/
def wire (frame : ExtFrame) : WireFrame :=
  ⟨.extended (frame.extId.toBitVec.setWidth 29), false, 8, frame.data.toList⟩

def fits (frame : ExtFrame) : Bool := decide (frame.extId ≤ 0x1FFFFFFF)

end ExtFrame

def CanData.ofBytes (bytes : List UInt8) : CanData := Vector.ofFn fun i => bytes.getD i 0

/-- What the handler makes of a frame: one without data is of no use to it. -/
def WireFrame.framed (f : WireFrame) : Option ExtFrame :=
  if f.data = [] then none else some ⟨f.ident.toUInt32, .ofBytes f.data⟩

inductive FrameReceiver
  | device (index : Nat)
  | unclaimedFrameCallback
  | nobody
  deriving DecidableEq, Repr

@[simp] theorem CanData.ofBytes_toList (data : CanData) : CanData.ofBytes data.toList = data := by
  apply Vector.ext
  intro i hi
  simp [CanData.ofBytes, List.getD_eq_getElem?_getD]

theorem ExtFrame.framed_wire {frame : ExtFrame} (h : frame.fits = true) : frame.wire.framed = some frame := by
  have hle := UInt32.le_iff_toNat_le.mp (of_decide_eq_true h)
  have hid : (Identifier.extended (frame.extId.toBitVec.setWidth 29)).toUInt32 = frame.extId := by
    apply UInt32.toNat_inj.mp
    have hword : frame.extId.toBitVec.toNat = frame.extId.toNat := rfl
    have hlimit : (0x1FFFFFFF : UInt32).toNat = 0x1FFFFFFF := rfl
    simp only [Identifier.toUInt32, UInt32.toNat_ofBitVec, BitVec.toNat_setWidth]
    omega
  have hdata : frame.data.toList ≠ [] := by
    intro hnil
    have hlength := frame.data.length_toList
    rw [hnil] at hlength
    cases hlength
  rw [wire, WireFrame.framed, if_neg hdata]
  simp only [hid, CanData.ofBytes_toList]

structure CanTraffic extends CanHandlerEsp32 where
  controller : CanDriver
  canRxQueue : Fifo ExtFrame 100
  canTxQueue : Fifo ExtFrame 100
  rxQueueFullFrames : UInt32
  hasUnclaimedFrameCallback : Bool
  rxQueueFullReporter : DeltaCounter
  txAbandonedReporter : DeltaCounter

namespace CanTraffic

def maxFramesPerRun : Nat := 8

def canIdFilterMask : UInt32 := 0x3FF

/-- What a start leaves that has gone well: the controller lets through what is addressed to the local id. -/
def init (regs : Nat → UInt8) (handler : CanHandlerEsp32) : CanTraffic where
  toCanHandlerEsp32 := handler
  controller :=
    ⟨(ESP32SJA1000.init regs).filterExtended (handler.canId.localCanId.toUInt32 &&& canIdFilterMask)
      canIdFilterMask, 0⟩
  canRxQueue := .empty
  canTxQueue := .empty
  rxQueueFullFrames := 0
  hasUnclaimedFrameCallback := false
  rxQueueFullReporter := ⟨0⟩
  txAbandonedReporter := ⟨0⟩

def isDeviceMaster (handler : CanTraffic) : Bool := handler.canId.masterCanId == handler.canId.localCanId

def setDriver (handler : CanTraffic) (c : CANController) (chip : ESP32SJA1000.Chip) : CanTraffic :=
  { handler with controller.toCANController := c, controller.chip := chip }

/-! ### The calls of the tasks -/

def send (handler : CanTraffic) (frameOut : ExtFrame) : Bool × CanTraffic :=
  if handler.canTxQueue.isFull then (false, handler) else
  (true, { handler with canTxQueue := handler.canTxQueue.put frameOut })

/-- The `send` of a command goes to the master, and a master has nobody to send it to. -/
def sendCommand (handler : CanTraffic) (command : UInt16) (data : CanData) : Bool × CanTraffic :=
  if handler.isDeviceMaster then (false, handler) else
  handler.send (.pack handler.canId.masterCanId command handler.canId.localCanId data)

def sendCanFrame (handler : CanTraffic) (clientCanId command : UInt16) (data : CanData) : Bool × CanTraffic :=
  handler.send (.pack clientCanId command handler.canId.localCanId data)

def registerCallback (handler : CanTraffic) (clientCanId : UInt16) : CanTraffic :=
  { handler with deviceList := handler.deviceList ++ [clientCanId] }

/-! ### The interrupt -/

def queueRxFrame (handler : CanTraffic) (frame : ExtFrame) : CanTraffic :=
  if handler.canRxQueue.isFull then { handler with rxQueueFullFrames := handler.rxQueueFullFrames + 1 } else
  { handler with canRxQueue := handler.canRxQueue.put frame }

def rxInterrupt (handler : CanTraffic) (payloadBytes : Int) : CanTraffic :=
  if payloadBytes ≤ 0 then handler else
  let extId := handler.controller.packetId
  if handler.controller.packetRtr then handler.queueRxFrame ⟨extId, .ofBytes []⟩ else
  let canDataDlc := handler.controller.packetDlc
  let read := handler.controller.readBytes canDataDlc.toNat
  let handler := { handler with controller.toCANController := read.2 }
  if canDataDlc.toNat ≠ read.1.length then handler else handler.queueRxFrame ⟨extId, .ofBytes read.1⟩

/-- A frame on the bus, as far as the chip is on it and lets it through. -/
def receive (handler : CanTraffic) (window : Nat → UInt8) : CanTraffic :=
  let chip := handler.controller.chip
  if chip.isInResetMode || !chip.passes (ESP32SJA1000.windowFrame window) then handler else
  let called := { handler.controller with chip := chip.offer window }.handleInterrupt 0x01
  let handler := { handler with controller := called.2 }
  called.1.elim handler handler.rxInterrupt

/-! ### A pass -/

def dispatchRxFrame (handler : CanTraffic) (frameIn : ExtFrame) : FrameReceiver :=
  match handler.deviceList.findIdx? (fun clientCanId => clientCanId == frameIn.sender) with
  | some index => .device index
  | none => if handler.hasUnclaimedFrameCallback then .unclaimedFrameCallback else .nobody

def transmitFrame (handler : CanTraffic) (now : UInt32) (frameOut : ExtFrame) : Bool × CanTraffic :=
  let begun := handler.controller.beginExtendedPacket frameOut.extId 8 false
  if begun.1 = false then (false, handler) else
  let written := begun.2.write frameOut.data.toList
  let handler := { handler with controller.toCANController := written.2 }
  if written.1 ≠ 8 then (false, handler) else
  let ended := handler.controller.endPacket now
  (ended.1, { handler with controller.toESP32SJA1000 := ended.2 })

def reportDroppedFrames (handler : CanTraffic) : (UInt32 × UInt32) × CanTraffic :=
  let queueFull := handler.rxQueueFullReporter.takeGrowth handler.rxQueueFullFrames
  let abandoned := handler.txAbandonedReporter.takeGrowth handler.controller.abandonedTxFrames
  ((queueFull.1, abandoned.1), { handler with rxQueueFullReporter := queueFull.2, txAbandonedReporter := abandoned.2 })

def recover (handler : CanTraffic) : CanTraffic :=
  if handler.controller.isBusOff then { handler with controller := handler.controller.recoverFromBusOff } else
    handler

/-! ## What the calls do -/

theorem transmitted_init (regs : Nat → UInt8) (handler : CanHandlerEsp32) :
    (init regs handler).controller.chip.transmitted = [] :=
  ESP32SJA1000.Chip.transmitted_configure _
    (by simp [ESP32SJA1000.regAcrN, ESP32SJA1000.regAmrN, ESP32SJA1000.regCmr])

theorem operating_init (regs : Nat → UInt8) (handler : CanHandlerEsp32) :
    (init regs handler).controller.chip.isInResetMode = false := ESP32SJA1000.Chip.operating_configure _ _

/-- What comes through the filter of `init` is addressed to the node, unless its identifier is a short one. -/
theorem addressed {regs : Nat → UInt8} {handler : CanHandlerEsp32} {chip : ESP32SJA1000.Chip}
    (hchip : chip.acceptance = (init regs handler).controller.chip.acceptance) {f : WireFrame}
    (hpasses : chip.passes f = true)
    {frame : ExtFrame} (hframed : f.framed = some frame) :
    frame.extId.toNat < 2048 ∨ frame.receiver = handler.canId.localCanId &&& CanIdAssign.idMask := by
  obtain ⟨-, hframe⟩ := Option.ite_none_left_eq_some.mp hframed
  have hextId : frame.extId = f.ident.toUInt32 := (congrArg ExtFrame.extId (Option.some.inj hframe)).symm
  cases hident : f.ident with
  | standard id =>
    refine Or.inl ?_
    have hlt := id.isLt
    rw [hextId, hident]
    simp only [Identifier.toUInt32, UInt32.toNat_ofBitVec, BitVec.toNat_setWidth]
    omega
  | extended id =>
    refine Or.inr ?_
    have haccepts : chip.accepts id f.rtr := by
      rw [ESP32SJA1000.Chip.passes, hident] at hpasses
      exact of_decide_eq_true hpasses
    have hsame : (init regs handler).controller.chip.accepts id f.rtr := by
      rw [ESP32SJA1000.Chip.accepts] at haccepts ⊢
      rwa [← hchip]
    have hmask := (ESP32SJA1000.filterExtended_accepts _ _ _ _ _).mp hsame
    have hbits := congrArg BitVec.toNat hmask
    have hmaskNat : (ident29 canIdFilterMask).toNat = 2 ^ 10 - 1 := by decide
    have hlocal : (ident29 (handler.canId.localCanId.toUInt32 &&& canIdFilterMask)).toNat % 2 ^ 10 =
        handler.canId.localCanId.toNat % 2 ^ 10 := by
      have hand : (handler.canId.localCanId.toUInt32 &&& canIdFilterMask).toNat =
          handler.canId.localCanId.toNat % 2 ^ 10 := by
        rw [UInt32.toNat_and, UInt16.toNat_toUInt32]
        exact Nat.and_two_pow_sub_one_eq_mod _ 10
      have hword : (handler.canId.localCanId.toUInt32 &&& canIdFilterMask).toBitVec.toNat =
        (handler.canId.localCanId.toUInt32 &&& canIdFilterMask).toNat := rfl
      rw [ident29, BitVec.toNat_setWidth, hword, hand]
      omega
    rw [BitVec.toNat_and, BitVec.toNat_and, hmaskNat, Nat.and_two_pow_sub_one_eq_mod,
      Nat.and_two_pow_sub_one_eq_mod, hlocal] at hbits
    apply UInt16.toNat_inj.mp
    have hlt := id.isLt
    rw [ExtFrame.toNat_receiver, ExtFrame.toNat_masked, ← hbits, hextId, hident]
    simp only [Identifier.toUInt32, UInt32.toNat_ofBitVec, BitVec.toNat_setWidth]
    omega

section
variable (handler : CanTraffic)

theorem receive_off {window : Nat → UInt8}
    (h : (handler.controller.chip.isInResetMode || !handler.controller.chip.passes
      (ESP32SJA1000.windowFrame window)) = true) :
    handler.receive window = handler := if_pos h

theorem rxInterrupt_received {c : CANController} {window : Nat → UInt8}
    (h : handler.controller.toCANController = ESP32SJA1000.received c window) :
    ∃ c', handler.rxInterrupt handler.controller.available =
      (ESP32SJA1000.windowFrame window).framed.elim handler
        { handler with controller.toCANController := c' }.queueRxFrame := by
  have hid := ESP32SJA1000.received_id c window
  obtain ⟨hrtr, hdlc, havailable, hread⟩ := ESP32SJA1000.received_data c window
  have hlength := ESP32SJA1000.length_windowFrame window
  rw [← h] at hid hrtr hdlc havailable hread
  by_cases hdata : (ESP32SJA1000.windowFrame window).data = []
  · refine ⟨c, ?_⟩
    rw [WireFrame.framed, if_pos hdata, rxInterrupt, if_pos (by rw [havailable, hdata]; exact Int.le_refl 0)]
    rfl
  · have hpos := List.length_pos_iff.mpr hdata
    have hdata' : (ESP32SJA1000.windowFrame window).rtr = false := by
      by_contra hremote
      rw [Bool.not_eq_false] at hremote
      rw [hlength, if_pos hremote] at hpos
      exact absurd hpos (Nat.lt_irrefl 0)
    rw [hdata', if_neg Bool.false_ne_true, ← hdlc] at hlength
    have hall : (handler.controller.readBytes handler.controller.packetDlc.toNat).1 =
        (ESP32SJA1000.windowFrame window).data := by
      rw [hread, ← hlength, List.take_length]
    refine ⟨(handler.controller.readBytes handler.controller.packetDlc.toNat).2, ?_⟩
    rw [WireFrame.framed, if_neg hdata, rxInterrupt, if_neg (by rw [havailable]; omega)]
    simp only [hrtr, hdata', hall, hlength, hid, Bool.false_eq_true, if_false, ne_eq, not_true, Option.elim_some]

/-- The interrupt queues what the handler makes of the frame, and leaves the transmit side alone. -/
theorem receive_on {window : Nat → UInt8}
    (h : (handler.controller.chip.isInResetMode || !handler.controller.chip.passes
      (ESP32SJA1000.windowFrame window)) = false) :
    ∃ c, handler.receive window = (ESP32SJA1000.windowFrame window).framed.elim
      (handler.setDriver c ((handler.controller.chip.offer window).modifyRegister ESP32SJA1000.regCmr 0x04 0x04))
      (handler.setDriver c ((handler.controller.chip.offer window).modifyRegister ESP32SJA1000.regCmr 0x04
        0x04)).queueRxFrame := by
  obtain ⟨hmode, -⟩ := Bool.or_eq_false_iff.mp h
  have hparsed := @ESP32SJA1000.parsePacket_waiting
    { handler.controller.toESP32SJA1000 with chip := handler.controller.chip.offer window } hmode
    (ESP32SJA1000.Chip.waiting_offer _ _)
  generalize hc : ESP32SJA1000.received handler.controller.toCANController window = c
  generalize hchip : (handler.controller.chip.offer window).modifyRegister ESP32SJA1000.regCmr 0x04 0x04 = chip at *
  have hreceive : handler.receive window = (if c.rxDlc = 0 then none else some c.available).elim
    (handler.setDriver c chip)
      (handler.setDriver c chip).rxInterrupt := by
    subst hc hchip
    rw [receive, if_neg (by rw [h]; exact Bool.false_ne_true), CanDriver.handleInterrupt, if_neg (by decide)]
    simp only [hparsed]
    rfl
  rw [hreceive]
  by_cases hnone : c.rxDlc = 0
  · refine ⟨c, ?_⟩
    have hdata : (ESP32SJA1000.windowFrame window).data = [] := by
      obtain ⟨-, hdlc, -, -⟩ := ESP32SJA1000.received_data handler.controller.toCANController window
      rw [hc, CANController.packetDlc, hnone] at hdlc
      apply List.eq_nil_of_length_eq_zero
      rw [ESP32SJA1000.length_windowFrame, ← hdlc]
      split <;> rfl
    rw [if_pos hnone, WireFrame.framed, if_pos hdata]
    rfl
  · obtain ⟨c', hrx⟩ := (handler.setDriver c chip).rxInterrupt_received hc.symm
    rw [if_neg hnone, Option.elim_some]
    rw [show c.available = (handler.setDriver c chip).controller.available from rfl, hrx]
    cases (ESP32SJA1000.windowFrame window).framed with
    | none => exact ⟨c, rfl⟩
    | some frame => exact ⟨c', rfl⟩

theorem transmitFrame_unfit (now : UInt32) {frame : ExtFrame} (h : frame.fits = false) :
    handler.transmitFrame now frame = (false, handler) := by
  have hid : frame.extId > 0x1FFFFFFF := UInt32.not_le.mp (of_decide_eq_false h)
  rw [transmitFrame, CANController.beginExtendedPacket, if_pos hid, if_pos rfl]

/-- The frame goes to the chip as it is, and the chip takes it up in operation only. -/
theorem transmitFrame_fits (now : UInt32) {frame : ExtFrame} (h : frame.fits = true) :
    ∃ sja : ESP32SJA1000, handler.transmitFrame now frame =
      (true, { handler with controller.toESP32SJA1000 := sja }) ∧
      sja.txPending = true ∧ sja.chip.isInResetMode = handler.controller.chip.isInResetMode ∧
      (handler.controller.chip.isInResetMode = true → sja.chip.transmitted = handler.controller.chip.transmitted) ∧
      (handler.controller.chip.isInResetMode = false → sja.chip.acceptance = handler.controller.chip.acceptance ∧
        sja.chip.transmitted = handler.controller.chip.transmitted ++ [frame.wire]) := by
  have hid : ¬ frame.extId > 0x1FFFFFFF := UInt32.not_lt.mpr (of_decide_eq_true h)
  have hbegin : handler.controller.beginExtendedPacket frame.extId 8 false =
      (true, handler.controller.openPacket frame.extId true 8 false (by decide)) := by
    rw [CANController.beginExtendedPacket, if_neg hid, dif_neg (by decide)]
  generalize hopened : handler.controller.openPacket frame.extId true 8 false (by decide) = opened at hbegin
  have hbegun : opened.packetBegun = true := by rw [← hopened]; rfl
  have hwritten := CANController.Written.write
    (handler.controller.openPacket_written frame.extId true 8 false (by decide)) rfl
    frame.data.toList
  have hsize : (opened.write frame.data.toList).1 = 8 := by
    rw [CANController.write, if_neg (by rw [hbegun]; decide), ← hopened]
    show min frame.data.toList.length 8 = 8
    rw [Vector.length_toList]
    rfl
  rw [hopened, List.nil_append] at hwritten
  have hframe : (opened.write frame.data.toList).2.txFrame = frame.wire := by
    have hdata := hwritten.data
    rw [CANController.txFrame] at hdata ⊢
    simp only [hwritten.id, hwritten.extended, hwritten.rtr, hwritten.dlc] at hdata ⊢
    rw [hdata]
    subst hopened
    simp only [CANController.openPacket, ExtFrame.wire, if_true, Bool.false_eq_true, if_false]
    congr 1
    rw [List.take_left' (by rw [Vector.length_toList]; rfl)]
  obtain ⟨hdone, hpending, hmode, hoff, hon⟩ := @ESP32SJA1000.endPacket_spec
    { handler.controller.toESP32SJA1000 with toCANController := (opened.write frame.data.toList).2 }
      (hwritten.begun.trans hbegun) now
  refine ⟨_, ?_, hpending, hmode, hoff, ?_⟩
  · rw [transmitFrame]
    simp only [hbegin, Bool.true_eq_false, if_false, hsize, ne_eq, not_true]
    rw [hdone]
  · intro hoperating
    obtain ⟨hacceptance, hsent⟩ := hon hoperating
    exact ⟨hacceptance, by rw [hsent, hframe]⟩

end

end CanTraffic

end CanSystems
