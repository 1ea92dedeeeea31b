import CanSystems.RegisterAccess
import CanSystems.ESP32SJA1000
import Mathlib.Tactic.IntervalCases

/-!
# A frame from one controller to another

Either driver puts a frame into the registers of its chip as the frame that the
packet state stands for, and either driver reads what a receive buffer holds as
that frame. In between there is the frame alone, so the two need not be of one
kind.
-/

namespace CanSystems

/-- The registers from `a` on hold the bytes. -/
def Spelled (regs : Nat → UInt8) (a : Nat) (bytes : List UInt8) : Prop :=
  ∀ i (hi : i < bytes.length), regs (a + i) = bytes[i]

theorem Spelled.append {regs : Nat → UInt8} {a : Nat} {xs ys : List UInt8} (h : Spelled regs a (xs ++ ys)) :
    Spelled regs a xs ∧ Spelled regs (a + xs.length) ys := by
  constructor
  · intro i hi
    rw [h i (by rw [List.length_append]; omega), List.getElem_append_left hi]
  · intro i hi
    rw [Nat.add_assoc, h (xs.length + i) (by rw [List.length_append]; omega), List.getElem_append_right (by omega)]
    simp only [Nat.add_sub_cancel_left]

theorem Spelled.map_range {regs : Nat → UInt8} {a : Nat} {bytes : List UInt8} (h : Spelled regs a bytes) :
    ((List.range bytes.length).map fun i => regs (a + i)) = bytes := by
  apply List.ext_getElem
  · rw [List.length_map, List.length_range]
  · intro i _ hi
    rw [List.getElem_map, List.getElem_range, h i hi]

/-! ## Bits of a register -/

theorem and_bit (x mask : UInt8) {k : Nat} (h : mask.toBitVec = BitVec.twoPow 8 k) (hk : k < 8) :
    (x &&& mask != 0) = x.toBitVec.getLsbD k := by
  have hpow : BitVec.twoPow 8 k ≠ 0#8 := by
    interval_cases k <;> decide
  have hzero : x &&& mask = 0 ↔ x.toBitVec.getLsbD k = false := by
    rw [← UInt8.toBitVec_inj, UInt8.toBitVec_and, h, BitVec.and_twoPow]
    cases x.toBitVec.getLsbD k with
    | false => simp
    | true => exact iff_of_false hpow (by decide)
  cases hbit : x.toBitVec.getLsbD k with
  | false => rw [hzero.mpr hbit]; rfl
  | true =>
    have hne : x &&& mask ≠ 0 := by
      rw [Ne, hzero, hbit]
      decide
    simpa using hne

theorem and_nibble (x : UInt8) : x &&& 0x0F = UInt8.ofBitVec ((x.toBitVec.extractLsb' 0 4).setWidth 8) := by
  apply UInt8.eq_of_toBitVec_eq
  apply BitVec.eq_of_getLsbD_eq
  intro i hi
  simp only [BitVec.getLsbD_setWidth, BitVec.getLsbD_extractLsb']
  interval_cases i <;> simp

theorem toNat_nibble (dlc : BitVec 4) : (UInt8.ofBitVec (dlc.setWidth 8)).toNat = dlc.toNat := by
  have hlt := dlc.isLt
  simp only [UInt8.toNat_ofBitVec, BitVec.toNat_setWidth]
  omega

namespace MCP2515

/-! ## A packet that is ended -/

def closed (mcp : MCP2515) : MCP2515 := { mcp with toCANController := mcp.toCANController.endPacket.2 }

inductive Ended (io : ChipIo) (rounds : Nat) (mcp : MCP2515) : Option Bool × MCP2515 → Prop
  | notBegun : mcp.packetBegun = false → Ended io rounds mcp (some false, mcp)
  | waiting : mcp.packetBegun = true → mcp.txBuffersLeft = 0 → (flushTx io rounds mcp.chip).1 = none →
      Ended io rounds mcp (none, { mcp.closed with chip := (flushTx io rounds mcp.chip).2 })
  | timedOut : mcp.packetBegun = true → mcp.txBuffersLeft = 0 → (flushTx io rounds mcp.chip).1 = some false →
      Ended io rounds mcp (some false, { mcp.closed with chip := (flushTx io rounds mcp.chip).2 })
  | drained : mcp.packetBegun = true → mcp.txBuffersLeft = 0 → (flushTx io rounds mcp.chip).1 = some true →
      Ended io rounds mcp (some true, { mcp.closed.reserve (txBufferCount - 1) (by decide) with
        chip := loadBuffer io (txBufferCount - 1) mcp.closed.toCANController (flushTx io rounds mcp.chip).2 })
  | next : mcp.packetBegun = true → (h : mcp.txBuffersLeft ≠ 0) →
      Ended io rounds mcp (some true, { mcp.closed.reserve (mcp.txBuffersLeft - 1) (mcp.left_lt h) with
        chip := loadBuffer io (mcp.txBuffersLeft - 1) mcp.closed.toCANController mcp.chip })

theorem endPacket_ended (io : ChipIo) (rounds : Nat) (mcp : MCP2515) :
    Ended io rounds mcp (mcp.endPacket io rounds) := by
  cases hbegun : mcp.packetBegun with
  | false =>
    have hend : mcp.toCANController.endPacket = (false, mcp.toCANController) := if_pos hbegun
    rw [endPacket]
    simp only [hend]
    exact .notBegun hbegun
  | true =>
    have hend : mcp.toCANController.endPacket.1 = true := by simp [CANController.endPacket, hbegun]
    rw [endPacket]
    simp only [hend, Bool.not_true, Bool.false_eq_true, if_false]
    rw [takeTxBuffer]
    by_cases hleft : mcp.txBuffersLeft = 0
    · rw [dif_pos hleft]
      cases hflush : (flushTx io rounds mcp.chip).1 with
      | none =>
        simp only [hflush]
        exact .waiting hbegun hleft hflush
      | some ok =>
        cases ok with
        | false =>
          simp only [hflush]
          exact .timedOut hbegun hleft hflush
        | true =>
          simp only [hflush]
          exact .drained hbegun hleft hflush
    · rw [dif_neg hleft]
      have hlt := mcp.left_lt hleft
      dsimp only
      rw [if_neg (Nat.not_le.mpr hlt)]
      exact .next hbegun hleft

/-! ## The frame in a transmit buffer -/

/-- A number of bytes as the low bits of a register, the remote request in bit 6. -/
theorem dlcByte_fields {dlc : UInt8} (h : dlc.toNat ≤ 8) :
    dlc.toBitVec.getLsbD 6 = false ∧ (0x40 ||| dlc).toBitVec.getLsbD 6 = true ∧
      dlc.toBitVec.extractLsb' 0 4 = dlc.toBitVec.setWidth 4 ∧
        (0x40 ||| dlc).toBitVec.extractLsb' 0 4 = dlc.toBitVec.setWidth 4 ∧
      (dlc.toBitVec.setWidth 4).toNat = dlc.toNat := by
  obtain ⟨n, hn, rfl⟩ : ∃ n, n ≤ 8 ∧ dlc = UInt8.ofNat n := ⟨dlc.toNat, h, UInt8.ofNat_toNat.symm⟩
  clear h
  interval_cases n <;> decide

@[simp] theorem length_idRegisters (c : CANController) : (idRegisters c).length = 4 := by
  rw [idRegisters]
  split <;> rfl

theorem length_data (c : CANController) : (c.txData.cells.take c.txLength.toNat).length = c.txLength.toNat := by
  have hsize := c.txData.size
  have hle := c.txLength_le
  rw [List.length_take]
  omega

theorem length_frameBytes (c : CANController) :
    (frameBytes c).length = 5 + if c.txRtr then 0 else c.txLength.toNat := by
  have hdata := length_data c
  rw [frameBytes, List.length_append, length_idRegisters, dataRegisters]
  split
  · rfl
  · rw [List.length_cons, hdata]
    omega

theorem identAt_spelled {regs : Nat → UInt8} {sidh : Nat} {c : CANController}
    (h : Spelled regs sidh (idRegisters c)) :
    identAt regs sidh = c.txFrame.ident := by
  have h0 := h 0 (by rw [length_idRegisters]; decide)
  have h1 := h 1 (by rw [length_idRegisters]; decide)
  have h2 := h 2 (by rw [length_idRegisters]; decide)
  have h3 := h 3 (by rw [length_idRegisters]; decide)
  rw [Nat.add_zero] at h0
  cases hext : c.txExtended with
  | true =>
    simp only [idRegisters, hext, if_true, List.getElem_cons_zero, List.getElem_cons_succ] at h0 h1 h2 h3
    have hflag : hasExtendedId regs sidh = true := by
      simp [hasExtendedId, h1, flagExide]
    rw [identAt, hflag, if_pos rfl, CANController.txFrame]
    simp only [hext, if_true]
    congr 1
    apply BitVec.eq_of_getLsbD_eq
    intro i hi
    simp only [extendedId, h0, h1, h2, h3, BitVec.getLsbD_append, BitVec.getLsbD_extractLsb', flagExide]
    interval_cases i <;> simp
  | false =>
    simp only [idRegisters, hext, Bool.false_eq_true, if_false, List.getElem_cons_zero,
      List.getElem_cons_succ] at h0 h1
    have hflag : hasExtendedId regs sidh = false := by
      simp [hasExtendedId, h1]
    rw [identAt, hflag, CANController.txFrame]
    simp only [hext, Bool.false_eq_true, if_false]
    congr 1
    apply BitVec.eq_of_getLsbD_eq
    intro i hi
    simp only [standardId, h0, h1, BitVec.getLsbD_append, BitVec.getLsbD_extractLsb']
    interval_cases i <;> simp

theorem txFrame_spelled {regs : Nat → UInt8} {n : Nat} {c : CANController}
    (h : Spelled regs (regTxBnSidh n) (frameBytes c))
    (hlength : c.txLength = c.txDlc) : txFrame regs n = c.txFrame := by
  obtain ⟨hid, hrest⟩ := h.append
  have hident := identAt_spelled hid
  rw [length_idRegisters] at hrest
  obtain ⟨hplain, hremote, hnibble, hremoteNibble, htoNat⟩ := dlcByte_fields c.txDlc_le
  rw [txFrame, hident]
  cases hrtr : c.txRtr with
  | true =>
    have hdlc : regs (regTxBnSidh n + 4) = 0x40 ||| c.txDlc := by
      rw [dataRegisters, hrtr, if_pos rfl, hlength] at hrest
      exact hrest 0 (Nat.zero_lt_succ _)
    simp only [hdlc, hremote, hremoteNibble, CANController.txFrame, hrtr, if_true, bytesOf]
    rfl
  | false =>
    rw [dataRegisters, hrtr, if_neg Bool.false_ne_true, hlength] at hrest
    have hdlc : regs (regTxBnSidh n + 4) = c.txDlc := hrest 0 (Nat.zero_lt_succ _)
    have hdata : Spelled regs (regTxBnSidh n + 5) (c.txData.cells.take c.txDlc.toNat) :=
      (@Spelled.append _ _ [c.txDlc] _ hrest).2
    have hlist := hdata.map_range
    rw [← hlength, length_data c, hlength] at hlist
    have hle := c.txDlc_le
    simp only [hdlc, hplain, hnibble, CANController.txFrame, hrtr, Bool.false_eq_true, if_false, bytesOf, htoNat,
      dataAt, Nat.min_eq_right hle, hlist]

theorem plain_txBuffer {n i : Nat} (hn : n < 3) (hi : i < 13) : Chip.Plain (regTxBnSidh n + i) := by
  refine ⟨?_, ?_, ?_⟩
  · rintro (heq | ⟨m, -, heq⟩)
    · simp only [regTxBnSidh, regCanIntf] at heq
      omega
    · simp only [regTxBnSidh, regTxBnCtrl] at heq
      omega
  · simp only [regTxBnSidh, regCanStat]
    omega
  · have hlow : 0x31 ≤ regTxBnSidh n + i := by
      simp only [regTxBnSidh]
      omega
    generalize regTxBnSidh n + i = a at hlow
    simp only [Chip.configuration, regTxRtsCtrl, beq_eq_decide, ← Bool.decide_and, ← Bool.decide_or,
      decide_eq_false_iff_not]
    omega

theorem loadBuffer_frame (io : ChipIo) {n : Nat} (hn : n < 3) {c : CANController} (chip : Chip)
    (hlength : c.txLength = c.txDlc) :
    txFrame (loadBuffer io n c chip).regs n = c.txFrame := by
  refine txFrame_spelled ?_ hlength
  intro i hi
  have hbytes : (frameBytes c).length ≤ 13 := by
    have hle := c.txLength_le
    rw [length_frameBytes]
    split <;> omega
  have hplain : Chip.Plain (regTxBnSidh n + i) := plain_txBuffer hn (by omega)
  have hctrl : regTxBnSidh n + i ≠ regTxBnCtrl n := by
    simp only [regTxBnSidh, regTxBnCtrl]
    omega
  have hflags : regTxBnSidh n + i ≠ regCanIntf := by
    simp only [regTxBnSidh, regCanIntf]
    omega
  rw [loadBuffer, Chip.writeRegister_regs io _ hctrl hplain.1, Chip.modifyRegister_regs io _ _ hflags hplain.1]
  exact Chip.writeBurst_regs io chip (fun j hj => plain_txBuffer hn (by omega)) i hi

/-- The buffer that `endPacket` fills holds the frame of the packet. -/
theorem endPacket_frame {io : ChipIo} {rounds : Nat} {mcp : MCP2515} (h : (mcp.endPacket io rounds).1 = some true) :
    txFrame (mcp.endPacket io rounds).2.chip.regs
      (mcp.endPacket io rounds).2.txBuffersLeft = mcp.toCANController.txFrame := by
  have hended := mcp.endPacket_ended io rounds
  have hclosed : mcp.packetBegun = true →
      mcp.closed.txLength = mcp.closed.txDlc ∧
        mcp.closed.toCANController.txFrame = mcp.toCANController.txFrame := by
    intro hbegun
    simp [closed, CANController.endPacket, hbegun, CANController.txFrame]
  generalize mcp.endPacket io rounds = result at h hended ⊢
  cases hended with
  | notBegun _ => cases h
  | waiting _ _ _ => cases h
  | timedOut _ _ _ => cases h
  | drained hbegun _ _ => exact (loadBuffer_frame io (by decide) _ (hclosed hbegun).1).trans (hclosed hbegun).2
  | next hbegun hleft =>
    exact (loadBuffer_frame io (mcp.left_lt hleft) _ (hclosed hbegun).1).trans (hclosed hbegun).2

/-! ## The frame in a receive buffer -/

theorem headerId_eq (regs : Nat → UInt8) (sidh : Nat) :
    headerId (regs sidh) (regs (sidh + 1)) (regs (sidh + 2)) (regs (sidh + 3)) = (identAt regs sidh).toUInt32 := by
  have hflag : (regs (sidh + 1) &&& flagIde != 0) = hasExtendedId regs sidh := and_bit _ _ rfl (by decide)
  rw [headerId, hflag, identAt]
  cases hasExtendedId regs sidh with
  | true =>
    apply UInt32.eq_of_toBitVec_eq
    apply BitVec.eq_of_getLsbD_eq
    intro i hi
    simp only [if_true, Identifier.toUInt32, extendedId, BitVec.getLsbD_setWidth, BitVec.getLsbD_append,
      BitVec.getLsbD_extractLsb']
    interval_cases i <;> simp
  | false =>
    apply UInt32.eq_of_toBitVec_eq
    apply BitVec.eq_of_getLsbD_eq
    intro i hi
    simp only [Bool.false_eq_true, if_false, Identifier.toUInt32, standardId, BitVec.getLsbD_setWidth,
      BitVec.getLsbD_append, BitVec.getLsbD_extractLsb']
    interval_cases i <;> simp

theorem headerRtr_eq (regs : Nat → UInt8) (n : Nat) :
    headerRtr (regs (regRxBnSidh n + 1)) (regs (regRxBnSidh n + 4)) = (rxFrame regs n).rtr := by
  have hflag : (regs (regRxBnSidh n + 1) &&& flagIde != 0) = hasExtendedId regs (regRxBnSidh n) :=
    and_bit _ _ rfl (by decide)
  have hrtr : (regs (regRxBnSidh n + 4) &&& flagRtr != 0) = (regs (regRxBnSidh n + 4)).toBitVec.getLsbD 6 :=
    and_bit _ _ rfl (by decide)
  have hsrr : (regs (regRxBnSidh n + 1) &&& flagSrr != 0) = (regs (regRxBnSidh n + 1)).toBitVec.getLsbD 4 :=
    and_bit _ _ rfl (by decide)
  rw [headerRtr, hflag, hrtr, hsrr, rxFrame]

theorem clampDlc_eq {x : UInt8} (h : (x.toBitVec.extractLsb' 0 4).toNat ≤ 8) :
    clampDlc x = UInt8.ofBitVec ((x.toBitVec.extractLsb' 0 4).setWidth 8) := by
  have hle : ¬ x &&& 0x0F > 8 := by
    rw [and_nibble]
    intro hgt
    have hnat := UInt8.lt_iff_toNat_lt.mp hgt
    rw [toNat_nibble] at hnat
    exact absurd hnat (by simpa using h)
  rw [clampDlc, if_neg hle, and_nibble]

theorem rxLengthOf_eq {x : UInt8} (rtr : Bool) (h : (x.toBitVec.extractLsb' 0 4).toNat ≤ 8) :
    (rxLengthOf rtr x).toNat = bytesOf rtr (x.toBitVec.extractLsb' 0 4) := by
  rw [rxLengthOf, bytesOf]
  cases rtr with
  | true => rfl
  | false =>
    simp only [Bool.false_eq_true, if_false]
    rw [clampDlc_eq h, toNat_nibble, Nat.min_eq_right h]

theorem received_holds (c : CANController) {regs : Nat → UInt8} {n : Nat} (hdlc : (rxFrame regs n).dlc.toNat ≤ 8)
    {data : List UInt8}
    (hdata : data.length ≤ 8) (heq : data = (rxFrame regs n).data) :
    (received c ((List.range 5).map fun i => regs (regRxBnSidh n + i)) data hdata).Holds (rxFrame regs n) where
  id := headerId_eq regs (regRxBnSidh n)
  extended := by
    have hflag : (regs (regRxBnSidh n + 1) &&& flagIde != 0) = hasExtendedId regs (regRxBnSidh n) :=
      and_bit _ _ rfl (by decide)
    refine hflag.trans ?_
    rw [rxFrame, identAt]
    cases hasExtendedId regs (regRxBnSidh n) <;> rfl
  rtr := headerRtr_eq regs n
  dlc := clampDlc_eq hdlc
  data length := by
    have hlength : (rxLengthOf (headerRtr (regs (regRxBnSidh n + 1)) (regs (regRxBnSidh n + 4)))
      (regs (regRxBnSidh n + 4))).toNat =
        data.length := by
      rw [headerRtr_eq, rxLengthOf_eq _ hdlc, heq, rxFrame, dataAt, List.length_map, List.length_range]
    rw [CANController.readBytes_eq, ← heq]
    have hcells : (received c ((List.range 5).map fun i => regs (regRxBnSidh n + i)) data hdata).rxData.cells =
        data ++ c.rxData.cells.drop (0 + data.length) := rfl
    have hrx : (received c ((List.range 5).map fun i => regs (regRxBnSidh n + i)) data hdata).rxLength.toNat =
        data.length := hlength
    have hindex : (received c ((List.range 5).map fun i => regs (regRxBnSidh n + i)) data hdata).rxIndex.toNat =
        0 := rfl
    rw [hcells, hrx, hindex, List.take_left, List.drop_zero]

theorem rxWaiting_congr {x y : UInt8} (h : x &&& 0x03 = y &&& 0x03) : rxWaiting x = rxWaiting y := by
  have hflag : ∀ n, n < 2 → x &&& flagRxnIf n = y &&& flagRxnIf n := by
    intro n hn
    have hlow : flagRxnIf n = 0x03 &&& flagRxnIf n := by
      obtain rfl | rfl : n = 0 ∨ n = 1 := by omega
      · decide
      · decide
    rw [hlow, ← UInt8.and_assoc, h, UInt8.and_assoc]
  rw [rxWaiting, rxWaiting, hflag 0 (by decide), hflag 1 (by decide)]

theorem rxWaiting_lt {intf : UInt8} {n : Nat} (h : rxWaiting intf = some n) : n < 2 := by
  rw [rxWaiting] at h
  split at h
  · cases h
    decide
  · split at h
    · cases h
      decide
    · cases h

theorem not_txSide_rxBuffer {n i : Nat} (hn : n < 2) (hi : i < 13) : ¬ TxSide (regRxBnSidh n + i) := by
  rintro (heq | ⟨m, hm, heq⟩)
  · simp only [regRxBnSidh, regCanIntf] at heq
    omega
  · have := Chip.mem_buffers.mp hm
    simp only [regRxBnSidh, regTxBnCtrl] at heq
    omega

/-- What `parsePacket` reads is the frame in the buffer that waits. -/
theorem parsePacket_holds (io : ChipIo) {mcp : MCP2515} {n : Nat}
    (hwaiting : rxWaiting (mcp.chip.regs regCanIntf) = some n)
    (hdlc : (rxFrame mcp.chip.regs n).dlc.toNat ≤ 8) :
    (mcp.parsePacket io).2.toCANController.Holds (rxFrame mcp.chip.regs n) := by
  have hn := rxWaiting_lt hwaiting
  have hread : rxWaiting (mcp.chip.readRegister io regCanIntf).1 = some n := by
    rw [← hwaiting]
    exact rxWaiting_congr (Chip.settle_rxFlag io mcp.chip)
  have hregs : ∀ i < 13, (mcp.chip.readRegister io regCanIntf).2.regs (regRxBnSidh n + i) = mcp.chip.regs
      (regRxBnSidh n + i) :=
    fun i hi => Chip.settle_regs io mcp.chip (not_txSide_rxBuffer hn hi)
  generalize hchip : (mcp.chip.readRegister io regCanIntf).2 = chip at hregs
  have hheader : (chip.readBurst io (regRxBnSidh n) 5).1 = (List.range 5).map fun i =>
      mcp.chip.regs (regRxBnSidh n + i) := by
    rw [Chip.readBurst_eq io _ _ _ fun i hi => not_txSide_rxBuffer hn (by omega)]
    exact List.map_congr_left fun i hi => hregs i (by rw [List.mem_range] at hi; omega)
  have hlength : (rxLengthOf (headerRtr ((chip.readBurst io (regRxBnSidh n) 5).1.getD 1 0)
    ((chip.readBurst io (regRxBnSidh n) 5).1.getD 4 0))
      ((chip.readBurst io (regRxBnSidh n) 5).1.getD 4 0)).toNat = (rxFrame mcp.chip.regs n).data.length := by
    rw [hheader]
    refine (congrArg (fun rtr => (rxLengthOf rtr (mcp.chip.regs (regRxBnSidh n + 4))).toNat)
      (headerRtr_eq mcp.chip.regs n)).trans ?_
    rw [rxLengthOf_eq _ hdlc, rxFrame, dataAt, List.length_map, List.length_range]
  have hbytes : (rxFrame mcp.chip.regs n).data.length ≤ 8 := by
    rw [← hlength]
    exact rxLengthOf_le _ _
  have hdata : ((chip.readBurst io (regRxBnSidh n) 5).2.readBurst io (regRxBnD0 n)
    (rxFrame mcp.chip.regs n).data.length).1 =
      (rxFrame mcp.chip.regs n).data := by
    have hD0 : ∀ i, regRxBnD0 n + i = regRxBnSidh n + (5 + i) := by
      intro i
      simp only [regRxBnD0, regRxBnSidh]
      omega
    rw [Chip.readBurst_eq io _ _ _ fun i hi => by
      rw [hD0]
      exact not_txSide_rxBuffer hn (by omega)]
    have hmap : ((List.range (rxFrame mcp.chip.regs n).data.length).map fun i =>
        (chip.readBurst io (regRxBnSidh n) 5).2.regs (regRxBnD0 n + i)) =
        (List.range (rxFrame mcp.chip.regs n).data.length).map fun i => mcp.chip.regs (regRxBnSidh n + 5 + i) := by
      refine List.map_congr_left fun i hi => ?_
      rw [List.mem_range] at hi
      rw [hD0, Chip.readBurst_regs io _ _ _ (not_txSide_rxBuffer hn (by omega)), hregs _ (by omega), Nat.add_assoc]
    rw [hmap]
    simp only [rxFrame, dataAt, List.length_map, List.length_range]
  have hreceived := received_holds mcp.toCANController hdlc (by rw [hdata]; exact hbytes) hdata
  rw [parsePacket]
  simp only [hread, hchip]
  simp only [hheader] at hlength ⊢
  simp only [hlength]
  exact hreceived

end MCP2515

namespace ESP32SJA1000

/-! ## The other controller -/

theorem writeData_operating (dataReg : Nat) (data : List UInt8) {chip : Chip} (hmode : chip.isInResetMode = false)
    (h : 0x10 ≤ dataReg) :
    ∃ window, writeData dataReg data chip = { chip with txWindow := window } ∧
      (∀ a < dataReg, window a = chip.txWindow a) ∧ Spelled window dataReg data := by
  induction data generalizing dataReg chip with
  | nil => exact ⟨chip.txWindow, rfl, fun _ _ => rfl, fun i hi => absurd hi (Nat.not_lt_zero i)⟩
  | cons value data ih =>
    have hwrite : chip.writeRegister dataReg value =
        { chip with txWindow := Chip.setReg chip.txWindow dataReg value } := by
      rw [Chip.writeRegister, if_neg (Nat.not_lt.mpr h), hmode, if_neg Bool.false_ne_true]
    obtain ⟨window, heq, hbefore, hrest⟩ := @ih (dataReg + 1) (chip.writeRegister dataReg value)
      (by rw [hwrite]; exact hmode) (by omega)
    rw [hwrite] at heq hbefore
    refine ⟨window, by rw [writeData, hwrite, heq], ?_, ?_⟩
    · intro a ha
      rw [hbefore a (by omega)]
      exact if_neg (by omega)
    · intro i hi
      cases i with
      | zero => exact (hbefore dataReg (Nat.lt_succ_self _)).trans (if_pos rfl)
      | succ i =>
        rw [List.length_cons] at hi
        rw [show dataReg + (i + 1) = dataReg + 1 + i by omega, hrest i (by omega)]
        rfl

/-- The frame information byte of a data frame or remote request, for a standard identifier and for an extended
one. -/
theorem info_fields {dlc : UInt8} (h : dlc.toNat ≤ 8) (rtr : Bool) {info : UInt8}
    (hinfo : info = (if rtr then 0x40 else 0x00) ||| (0x0F &&& dlc)) :
    info.toBitVec.getLsbD 7 = false ∧ info.toBitVec.getLsbD 6 = rtr ∧
      info.toBitVec.extractLsb' 0 4 = dlc.toBitVec.setWidth 4 ∧
      (0x80 ||| info).toBitVec.getLsbD 7 = true ∧ (0x80 ||| info).toBitVec.getLsbD 6 = rtr ∧
      (0x80 ||| info).toBitVec.extractLsb' 0 4 = dlc.toBitVec.setWidth 4 ∧
        (dlc.toBitVec.setWidth 4).toNat = dlc.toNat := by
  obtain ⟨n, hn, rfl⟩ : ∃ n, n ≤ 8 ∧ dlc = UInt8.ofNat n := ⟨dlc.toNat, h, UInt8.ofNat_toNat.symm⟩
  subst hinfo
  clear h
  interval_cases n <;> cases rtr <;> decide

theorem data_spelled {window : Nat → UInt8} {a : Nat} {c : CANController}
    (h : Spelled window a (c.txData.cells.take c.txDlc.toNat)) :
    ((List.range (if c.txRtr then 0 else min 8 c.txDlc.toNat)).map fun i => window (a + i)) = c.txFrame.data := by
  have hsize := c.txData.size
  have hle := c.txDlc_le
  have hlen : (c.txData.cells.take c.txDlc.toNat).length = c.txDlc.toNat := by
    rw [List.length_take]
    omega
  have hlist := h.map_range
  rw [hlen] at hlist
  rw [CANController.txFrame, Nat.min_eq_right hle]
  cases c.txRtr with
  | true => rfl
  | false => exact hlist

theorem windowFrame_spelled {window : Nat → UInt8} {c : CANController}
    (h : Spelled window regSff (header c ++ c.txData.cells.take c.txDlc.toNat)) (hlength : c.txLength = c.txDlc) :
    windowFrame window = c.txFrame := by
  obtain ⟨hheader, hdata⟩ := h.append
  obtain ⟨hstd, hrtr, hdlc, hext, hextRtr, hextDlc, htoNat⟩ := info_fields c.txDlc_le c.txRtr rfl
  rw [windowFrame]
  cases hextended : c.txExtended with
  | true =>
    simp only [header, hextended, if_true, hlength] at hheader hdata
    have h0 := hheader 0 (by simp)
    have h1 := hheader 1 (by simp)
    have h2 := hheader 2 (by simp)
    have h3 := hheader 3 (by simp)
    have h4 := hheader 4 (by simp)
    simp only [Nat.add_zero, List.getElem_cons_zero, List.getElem_cons_succ, regSff] at h0 h1 h2 h3 h4
    have hbytes := data_spelled hdata
    simp only [List.length_cons, List.length_nil, regSff] at hbytes
    simp only [regSff, regEff, h0, hext, hextRtr, hextDlc, htoNat, if_true]
    have hident : ((window (0x10 + 1)).toBitVec ++ (window (0x10 + 2)).toBitVec ++ (window (0x10 + 3)).toBitVec ++
        (window (0x10 + 4)).toBitVec.extractLsb' 3 5 : BitVec (8 + 8 + 8 + 5)) = c.txId.toBitVec.setWidth 29 := by
      apply BitVec.eq_of_getLsbD_eq
      intro i hi
      simp only [h1, h2, h3, h4, BitVec.getLsbD_append, BitVec.getLsbD_extractLsb']
      interval_cases i <;> simp
    rw [hident, hbytes]
    simp only [CANController.txFrame, hextended, if_true]
  | false =>
    simp only [header, hextended, Bool.false_eq_true, if_false, hlength] at hheader hdata
    have h0 := hheader 0 (by simp)
    have h1 := hheader 1 (by simp)
    have h2 := hheader 2 (by simp)
    simp only [Nat.add_zero, List.getElem_cons_zero, List.getElem_cons_succ, regSff] at h0 h1 h2
    have hbytes := data_spelled hdata
    simp only [List.length_cons, List.length_nil, regSff] at hbytes
    simp only [regSff, h0, hstd, hrtr, hdlc, htoNat, Bool.false_eq_true, if_false]
    have hident : ((window (0x10 + 1)).toBitVec ++ (window (0x10 + 2)).toBitVec.extractLsb' 5 3 : BitVec (8 + 3)) =
        c.txId.toBitVec.setWidth 11 := by
      apply BitVec.eq_of_getLsbD_eq
      intro i hi
      simp only [h1, h2, BitVec.getLsbD_append, BitVec.getLsbD_extractLsb']
      interval_cases i <;> simp
    rw [hident, hbytes]
    simp only [CANController.txFrame, hextended, Bool.false_eq_true, if_false]

theorem writeData_kept (dataReg : Nat) (data : List UInt8) (chip : Chip) (h : 0x10 ≤ dataReg) :
    (writeData dataReg data chip).regs = chip.regs ∧
    (writeData dataReg data chip).transmitted = chip.transmitted := by
  induction data generalizing dataReg chip with
  | nil => exact ⟨rfl, rfl⟩
  | cons value data ih =>
    have hwrite : (chip.writeRegister dataReg value).regs = chip.regs ∧
        (chip.writeRegister dataReg value).transmitted = chip.transmitted := by
      rw [Chip.writeRegister, if_neg (Nat.not_lt.mpr h)]
      split <;> exact ⟨rfl, rfl⟩
    obtain ⟨hregs, htransmitted⟩ := ih (dataReg + 1) (chip.writeRegister dataReg value) (by omega)
    exact ⟨hregs.trans hwrite.1, htransmitted.trans hwrite.2⟩

theorem request_transmitted (chip : Chip) (loopback : Bool) :
    (chip.modifyRegister regCmr 0x1F (if loopback then 0x10 else 0x01)).transmitted =
      if chip.isInResetMode then chip.transmitted else chip.transmitted ++ [windowFrame chip.txWindow] := by
  have hmode : ∀ value, Chip.isInResetMode { chip with regs := Chip.setReg chip.regs regCmr value } =
    chip.isInResetMode := fun _ => rfl
  rw [Chip.modifyRegister, Chip.writeRegister]
  simp only [Chip.readRegister, regCmr, if_true, show (1 : Nat) < 0x10 from by decide, Chip.onCommand] at hmode ⊢
  rw [hmode]
  split
  · rfl
  · cases loopback <;> rfl

/-- What `endPacket` has the chip send is the frame of the packet. -/
theorem endPacket_frame {now : UInt32} {sja : ESP32SJA1000} {f : WireFrame}
    (h : (sja.endPacket now).2.chip.transmitted = sja.chip.transmitted ++ [f]) :
    f = sja.toCANController.txFrame := by
  have hgrows : sja.chip.transmitted ≠ sja.chip.transmitted ++ [f] := by simp
  cases hbegun : sja.packetBegun with
  | false =>
    have hend : sja.toCANController.endPacket = (false, sja.toCANController) := if_pos hbegun
    rw [endPacket] at h
    simp only [hend] at h
    exact absurd h hgrows
  | true =>
    have hend : sja.toCANController.endPacket.1 = true := by simp [CANController.endPacket, hbegun]
    have hlength : sja.toCANController.endPacket.2.txLength = sja.toCANController.endPacket.2.txDlc := by
      simp [CANController.endPacket, hbegun]
    have hframe : sja.toCANController.endPacket.2.txFrame = sja.toCANController.txFrame := by
      simp [CANController.endPacket, hbegun, CANController.txFrame]
    rw [endPacket] at h
    simp only [hend, Bool.not_true, Bool.false_eq_true, if_false] at h
    obtain ⟨hregs, htransmitted⟩ := writeData_kept regSff (header sja.toCANController.endPacket.2 ++
      sja.toCANController.endPacket.2.txData.cells.take sja.toCANController.endPacket.2.txLength.toNat) sja.chip
        (by decide)
    rw [request_transmitted, htransmitted, Chip.isInResetMode, hregs] at h
    cases hmode : sja.chip.isInResetMode with
    | true =>
      rw [Chip.isInResetMode] at hmode
      rw [hmode, if_pos rfl] at h
      exact absurd h hgrows
    | false =>
      obtain ⟨window, hwindow, -, hspelled⟩ := writeData_operating regSff (header sja.toCANController.endPacket.2 ++
        sja.toCANController.endPacket.2.txData.cells.take sja.toCANController.endPacket.2.txLength.toNat) hmode
          (Nat.le_refl _)
      rw [Chip.isInResetMode] at hmode
      rw [hmode, hwindow, if_neg Bool.false_ne_true] at h
      rw [hlength] at hspelled
      have hlast := List.append_cancel_left h
      rw [← hframe, ← windowFrame_spelled hspelled hlength]
      exact (List.singleton_inj.mp hlast).symm

theorem clampDlc_eq {x : UInt8} (h : (x.toBitVec.extractLsb' 0 4).toNat ≤ 8) :
    clampDlc (x &&& 0x0F) = UInt8.ofBitVec ((x.toBitVec.extractLsb' 0 4).setWidth 8) := by
  have hle : ¬ x &&& 0x0F > 8 := by
    rw [and_nibble]
    intro hgt
    have hnat := UInt8.lt_iff_toNat_lt.mp hgt
    rw [toNat_nibble] at hnat
    exact absurd hnat (by simpa using h)
  rw [clampDlc, if_neg hle, and_nibble]

theorem rxLengthOf_eq {x : UInt8} (rtr : Bool) (h : (x.toBitVec.extractLsb' 0 4).toNat ≤ 8) :
    (rxLengthOf rtr (x &&& 0x0F)).toNat = if rtr then 0 else min 8 (x.toBitVec.extractLsb' 0 4).toNat := by
  rw [rxLengthOf]
  cases rtr with
  | true => rfl
  | false =>
    simp only [Bool.false_eq_true, if_false]
    rw [clampDlc_eq h, toNat_nibble, Nat.min_eq_right h]

theorem received_holds (c : CANController) {window : Nat → UInt8} (hdlc : (windowFrame window).dlc.toNat ≤ 8) :
    (received c window).Holds (windowFrame window) := by
  have hext : (window regSff &&& 0x80 != 0) = (window regSff).toBitVec.getLsbD 7 := and_bit _ _ rfl (by decide)
  have hrtr : (window regSff &&& 0x40 != 0) = (window regSff).toBitVec.getLsbD 6 := and_bit _ _ rfl (by decide)
  have hlength : (rxLengthOf ((window regSff).toBitVec.getLsbD 6) (window regSff &&& 0x0F)).toNat =
      if (window regSff).toBitVec.getLsbD 6 then 0 else min 8 ((window regSff).toBitVec.extractLsb' 0 4).toNat :=
        rxLengthOf_eq _ hdlc
  refine ⟨?_, ?_, hrtr, clampDlc_eq hdlc, ?_⟩
  · simp only [CANController.packetId, received, windowFrame, hext]
    cases (window regSff).toBitVec.getLsbD 7 with
    | true =>
      apply UInt32.eq_of_toBitVec_eq
      apply BitVec.eq_of_getLsbD_eq
      intro i hi
      simp only [if_true, Identifier.toUInt32, BitVec.getLsbD_setWidth, BitVec.getLsbD_append,
        BitVec.getLsbD_extractLsb']
      interval_cases i <;> simp
    | false =>
      apply UInt32.eq_of_toBitVec_eq
      apply BitVec.eq_of_getLsbD_eq
      intro i hi
      simp only [Bool.false_eq_true, if_false, Identifier.toUInt32, BitVec.getLsbD_setWidth, BitVec.getLsbD_append,
        BitVec.getLsbD_extractLsb']
      interval_cases i <;> simp
  · refine hext.trans ?_
    rw [windowFrame]
    cases (window regSff).toBitVec.getLsbD 7 <;> rfl
  · intro length
    rw [CANController.readBytes_eq]
    simp only [received, windowFrame, CArray.put, hext, hrtr, hlength, List.take_zero, List.nil_append,
      UInt8.toNat_zero, List.drop_zero]
    rw [List.take_left' (by rw [List.length_map, List.length_range])]

/-- What `parsePacket` reads is the frame in the receive buffer. -/
theorem parsePacket_holds {sja : ESP32SJA1000} (hmode : sja.chip.isInResetMode = false)
    (hwaiting : sja.chip.regs regSr &&& srReceiveBuffer = srReceiveBuffer)
    (hdlc : (windowFrame sja.chip.rxWindow).dlc.toNat ≤ 8) :
    sja.parsePacket.2.toCANController.Holds (windowFrame sja.chip.rxWindow) := by
  have hread : ∀ a, 0x10 ≤ a → sja.chip.readRegister a = sja.chip.rxWindow a := by
    intro a ha
    rw [Chip.readRegister, if_neg (by rw [regCmr]; omega), if_neg (Nat.not_lt.mpr ha), hmode,
      if_neg Bool.false_ne_true]
  have hdata : ∀ i, sja.chip.readRegister
    ((if sja.chip.rxWindow regSff &&& 0x80 != 0 then regEff + 5 else regSff + 3) + i) =
      sja.chip.rxWindow ((if sja.chip.rxWindow regSff &&& 0x80 != 0 then regEff + 5 else regSff + 3) + i) := by
    intro i
    apply hread
    split <;> simp only [regEff, regSff] <;> omega
  have hstatus : (sja.chip.readRegister regSr &&& 0x01 != 0x01) = false := bne_eq_false_iff_eq.mpr hwaiting
  have hreceived : received sja.toCANController sja.chip.readRegister = received sja.toCANController
      sja.chip.rxWindow := by
    simp only [received, hread regSff (by decide), hread (regEff + 1) (by decide), hread (regEff + 2) (by decide),
      hread (regEff + 3) (by decide), hread (regEff + 4) (by decide), hread (regSff + 1) (by decide),
        hread (regSff + 2) (by decide),
      hdata]
  rw [parsePacket, hstatus, if_neg Bool.false_ne_true, hreceived]
  exact received_holds sja.toCANController hdlc

end ESP32SJA1000

/-! ## The packet that is built -/

inductive BeginCall
  | beginPacket (id : UInt16) (dlc : UInt8) (rtr : Bool)
  | beginExtendedPacket (id : UInt32) (dlc : UInt8) (rtr : Bool)

namespace BeginCall

def perform (c : CANController) : BeginCall → Bool × CANController
  | beginPacket id dlc rtr => c.beginPacket id dlc rtr
  | beginExtendedPacket id dlc rtr => c.beginExtendedPacket id dlc rtr

def id : BeginCall → UInt32
  | beginPacket id _ _ => id.toUInt32
  | beginExtendedPacket id _ _ => id

def isExtended : BeginCall → Bool
  | beginPacket _ _ _ => false
  | beginExtendedPacket _ _ _ => true

def dlc : BeginCall → UInt8
  | beginPacket _ dlc _ => dlc
  | beginExtendedPacket _ dlc _ => dlc

def rtr : BeginCall → Bool
  | beginPacket _ _ rtr => rtr
  | beginExtendedPacket _ _ rtr => rtr

def idLimit (call : BeginCall) : Nat := if call.isExtended then 0x20000000 else 0x800

theorem perform_eq {c : CANController} {call : BeginCall} (h : (call.perform c).1 = true) :
    call.id.toNat < call.idLimit ∧ ∃ hdlc,
      (call.perform c).2 = c.openPacket call.id call.isExtended call.dlc call.rtr hdlc := by
  cases call with
  | beginPacket id dlc rtr =>
    rw [perform, CANController.beginPacket] at h ⊢
    split at h
    · cases h
    · rename_i hid
      split at h
      · cases h
      · rename_i hdlc
        rw [if_neg hid, dif_neg hdlc]
        refine ⟨?_, UInt8.not_lt.mp hdlc, rfl⟩
        have hle := UInt16.le_iff_toNat_le.mp (UInt16.not_lt.mp hid)
        exact Nat.lt_succ_of_le hle
  | beginExtendedPacket id dlc rtr =>
    rw [perform, CANController.beginExtendedPacket] at h ⊢
    split at h
    · cases h
    · rename_i hid
      split at h
      · cases h
      · rename_i hdlc
        rw [if_neg hid, dif_neg hdlc]
        refine ⟨?_, UInt8.not_lt.mp hdlc, rfl⟩
        have hle := UInt32.le_iff_toNat_le.mp (UInt32.not_lt.mp hid)
        exact Nat.lt_succ_of_le hle

end BeginCall

namespace CANController

def writes (c : CANController) (payload : List (List UInt8)) : CANController :=
  payload.foldl (fun c buffer => (c.write buffer).2) c

/-- What stands in the packet after `bytes` have been written into it. -/
structure Written (c c' : CANController) (bytes : List UInt8) : Prop where
  begun : c'.packetBegun = c.packetBegun
  id : c'.txId = c.txId
  extended : c'.txExtended = c.txExtended
  rtr : c'.txRtr = c.txRtr
  dlc : c'.txDlc = c.txDlc
  length : c'.txLength.toNat = min 8 bytes.length
  cells : c'.txData.cells = bytes.take 8 ++ List.replicate (8 - bytes.length) 0

theorem Written.write {c c' : CANController} {bytes : List UInt8} (h : Written c c' bytes)
    (hbegun : c.packetBegun = true)
    (buffer : List UInt8) : Written c (c'.write buffer).2 (bytes ++ buffer) := by
  have hopen : c'.packetBegun = true := h.begun.trans hbegun
  have hlength := h.length
  rw [CANController.write, if_neg (by rw [hopen]; decide)]
  refine ⟨h.begun, h.id, h.extended, h.rtr, h.dlc, ?_, ?_⟩
  · refine (c'.toNat_written buffer).trans ?_
    rw [spaceAvailable, hlength, List.length_append]
    omega
  · have hsize : (buffer.take (min buffer.length c'.spaceAvailable)).length = min buffer.length
        (8 - bytes.length) := by
      rw [List.length_take, spaceAvailable, hlength]
      omega
    have hpiece : buffer.take (min buffer.length c'.spaceAvailable) = buffer.take (8 - bytes.length) := by
      rw [List.take_eq_take_iff, spaceAvailable, hlength]
      omega
    have hfront : (bytes.take 8).length = min 8 bytes.length := List.length_take
    refine (congrArg₂ (· ++ ·) (congrArg₂ (· ++ ·) ?_ hpiece) ?_).trans
      (?_ : bytes.take 8 ++ buffer.take (8 - bytes.length) ++
      List.replicate (8 - (bytes ++ buffer).length) 0 = _)
    · rw [hlength, h.cells, ← hfront, List.take_left]
    · rw [hlength, hsize, h.cells, ← List.drop_drop, ← hfront, List.drop_left, List.drop_replicate,
        List.length_append]
      congr 1
      omega
    · rw [List.take_append]

theorem writes_written {c : CANController} {bytes : List UInt8} (hbegun : c.packetBegun = true)
    (payload : List (List UInt8))
    {c' : CANController} (h : Written c c' bytes) : Written c (c'.writes payload) (bytes ++ payload.flatten) := by
  induction payload generalizing c' bytes with
  | nil => rwa [List.flatten_nil, List.append_nil]
  | cons buffer payload ih =>
    rw [List.flatten_cons, ← List.append_assoc]
    exact ih (h.write hbegun buffer)

theorem openPacket_written (c : CANController) (id : UInt32) (extended : Bool) (dlc : UInt8) (rtr : Bool)
    (hdlc : dlc.toNat ≤ 8) :
    Written (c.openPacket id extended dlc rtr hdlc) (c.openPacket id extended dlc rtr hdlc) [] :=
  ⟨rfl, rfl, rfl, rfl, rfl, rfl, rfl⟩

theorem Written.data {c c' : CANController} {bytes : List UInt8} (h : Written c c' bytes) :
    c'.txFrame.data = if c.txRtr then [] else (bytes ++ List.replicate 8 0).take c.txDlc.toNat := by
  have hle := c.txDlc_le
  have hdata : c'.txData.cells.take c'.txDlc.toNat = (bytes ++ List.replicate 8 0).take c.txDlc.toNat := by
    rw [h.cells, h.dlc, List.take_append, List.take_append, List.take_take, Nat.min_eq_left hle,
      List.take_replicate, List.take_replicate, List.length_take]
    congr 2
    omega
  rw [txFrame, h.rtr, hdata]

end CANController

/-! ## Sending and receiving -/

/-- A driver with the packet `c` in it ends the packet, and `f` is the frame that its chip then has to send. -/
inductive Sends (c : CANController) : WireFrame → Prop
  | mcp2515 (io : MCP2515.ChipIo) (rounds : Nat) (mcp : MCP2515) (f : WireFrame) : mcp.toCANController = c →
      (mcp.endPacket io rounds).1 = some true →
      MCP2515.txFrame (mcp.endPacket io rounds).2.chip.regs (mcp.endPacket io rounds).2.txBuffersLeft = f →
        Sends c f
  | esp32sja1000 (now : UInt32) (sja : ESP32SJA1000) (f : WireFrame) : sja.toCANController = c →
      (sja.endPacket now).2.chip.transmitted = sja.chip.transmitted ++ [f] → Sends c f

/-- The frame `f` stands in a receive buffer, and a driver parses it. -/
inductive Receives (f : WireFrame) : CANController → Prop
  | mcp2515 (io : MCP2515.ChipIo) (mcp : MCP2515) (n : Nat) : MCP2515.rxWaiting
    (mcp.chip.regs MCP2515.regCanIntf) = some n →
      MCP2515.rxFrame mcp.chip.regs n = f → Receives f (mcp.parsePacket io).2.toCANController
  | esp32sja1000 (sja : ESP32SJA1000) : sja.chip.isInResetMode = false →
      sja.chip.regs ESP32SJA1000.regSr &&& ESP32SJA1000.srReceiveBuffer = ESP32SJA1000.srReceiveBuffer →
      ESP32SJA1000.windowFrame sja.chip.rxWindow = f → Receives f sja.parsePacket.2.toCANController

theorem Sends.eq {c : CANController} {f : WireFrame} (h : Sends c f) : f = c.txFrame := by
  cases h with
  | mcp2515 io rounds mcp f hc hsent hf =>
    subst hc
    exact hf.symm.trans (MCP2515.endPacket_frame hsent)
  | esp32sja1000 now sja f hc hsent =>
    subst hc
    exact ESP32SJA1000.endPacket_frame hsent

theorem Receives.holds {f : WireFrame} {c : CANController} (h : Receives f c) (hdlc : f.dlc.toNat ≤ 8) :
    c.Holds f := by
  cases h with
  | mcp2515 io mcp n hwaiting hf =>
    subst hf
    exact MCP2515.parsePacket_holds io hwaiting hdlc
  | esp32sja1000 sja hmode hwaiting hf =>
    subst hf
    exact ESP32SJA1000.parsePacket_holds hmode hwaiting hdlc

theorem toUInt32_ident {c : CANController} (hid : c.txId.toNat < if c.txExtended then 0x20000000 else 0x800) :
    c.txFrame.ident.toUInt32 = c.txId ∧ c.txFrame.ident.isExtended = c.txExtended := by
  have hword : c.txId.toBitVec.toNat = c.txId.toNat := rfl
  rw [CANController.txFrame]
  cases hext : c.txExtended with
  | true =>
    rw [hext, if_pos rfl] at hid
    refine ⟨?_, rfl⟩
    apply UInt32.toNat_inj.mp
    simp only [if_true, Identifier.toUInt32, UInt32.toNat_ofBitVec, BitVec.toNat_setWidth]
    omega
  | false =>
    rw [hext, if_neg Bool.false_ne_true] at hid
    refine ⟨?_, rfl⟩
    apply UInt32.toNat_inj.mp
    simp only [Bool.false_eq_true, if_false, Identifier.toUInt32, UInt32.toNat_ofBitVec, BitVec.toNat_setWidth]
    omega

/-- What one controller sends of an accepted packet, any controller reads back. -/
theorem frame_round_trip (c : CANController) (call : BeginCall) (hbegin : (call.perform c).1 = true)
    (payload : List (List UInt8))
    (f : WireFrame) (hsend : Sends ((call.perform c).2.writes payload) f) (c' : CANController)
    (hreceive : Receives f c') :
    c'.packetId = call.id ∧ c'.packetExtended = call.isExtended ∧ c'.packetRtr = call.rtr ∧
      c'.packetDlc = call.dlc ∧
      ∀ length, (c'.readBytes length).1 =
        (if call.rtr then [] else (payload.flatten ++ List.replicate 8 0).take call.dlc.toNat).take length := by
  obtain ⟨hid, hdlc, hopen⟩ := BeginCall.perform_eq hbegin
  rw [hopen] at hsend
  have hwritten := CANController.writes_written rfl payload
    (c.openPacket_written call.id call.isExtended call.dlc call.rtr hdlc)
  rw [List.nil_append] at hwritten
  generalize (c.openPacket call.id call.isExtended call.dlc call.rtr hdlc).writes payload = sent at hsend hwritten
  obtain rfl := hsend.eq
  have hsentDlc : sent.txDlc = call.dlc := hwritten.dlc
  have hsentId : sent.txId = call.id := hwritten.id
  have hsentExt : sent.txExtended = call.isExtended := hwritten.extended
  have hframeDlc : sent.txFrame.dlc = call.dlc.toBitVec.setWidth 4 :=
    congrArg (fun dlc : UInt8 => dlc.toBitVec.setWidth 4) hsentDlc
  have hnibble : (call.dlc.toBitVec.setWidth 4).toNat = call.dlc.toNat := by
    have hword : call.dlc.toBitVec.toNat = call.dlc.toNat := rfl
    rw [BitVec.toNat_setWidth, hword]
    omega
  have hholds := hreceive.holds (by rw [hframeDlc, hnibble]; exact hdlc)
  obtain ⟨hident, hextended⟩ := @toUInt32_ident sent (by rw [hsentId, hsentExt]; exact hid)
  refine ⟨hholds.id.trans (hident.trans hsentId), hholds.extended.trans (hextended.trans hsentExt),
    hholds.rtr.trans hwritten.rtr, ?_, ?_⟩
  · rw [hholds.dlc, hframeDlc]
    apply UInt8.toNat_inj.mp
    rw [toNat_nibble, hnibble]
  · intro length
    rw [hholds.data, hwritten.data]
    rfl

/-- An extended data frame of two bytes from an MCP2515 to an ESP32. -/
theorem frame_round_trip_extended :
    ∃ c', Receives ⟨.extended 0x1ABCDEF5#29, false, 2#4, [0x11, 0x22]⟩ c' ∧ c'.packetId = 0x1ABCDEF5 ∧
      c'.packetExtended = true ∧
      c'.packetRtr = false ∧ c'.packetDlc = 2 ∧ ∀ length, (c'.readBytes length).1 = [0x11, 0x22].take length := by
  let call : BeginCall := .beginExtendedPacket 0x1ABCDEF5 2 false
  let sent := (call.perform .init).2.writes [[0x11], [0x22]]
  let mcp : MCP2515 := { MCP2515.init fun _ => 0 with toCANController := sent }
  let window : Nat → UInt8 := fun a => [0x82, 0xD5, 0xE6, 0xF7, 0xA8, 0x11, 0x22].getD (a - 0x10) 0
  let sja : ESP32SJA1000 := { ESP32SJA1000.init fun a => if a = ESP32SJA1000.regSr then 1 else 0 with
    chip := ⟨fun a => if a = ESP32SJA1000.regSr then 1 else 0, fun _ => 0, fun _ => 0, window, []⟩ }
  have hsends : Sends sent ⟨.extended 0x1ABCDEF5#29, false, 2#4, [0x11, 0x22]⟩ :=
    .mcp2515 ⟨fun _ => 0, fun _ => true, fun _ => 0⟩ 1 mcp _ rfl (by decide) (by decide)
  have hreceives : Receives ⟨.extended 0x1ABCDEF5#29, false, 2#4, [0x11, 0x22]⟩ sja.parsePacket.2.toCANController :=
    .esp32sja1000 sja (by decide) (by decide) (by decide)
  exact ⟨_, hreceives, frame_round_trip .init call (by decide) [[0x11], [0x22]] _ hsends _ hreceives⟩

end CanSystems
