import CanSystems.MCP2515

/-!
# What an access leaves in the registers

Whatever goes out between two accesses, only the request bits and the interrupt
flags of the transmit buffers change.
-/

namespace CanSystems

namespace MCP2515

def TxSide (address : Nat) : Prop := address = regCanIntf ∨ ∃ n ∈ Chip.buffers, address = regTxBnCtrl n

instance (address : Nat) : Decidable (TxSide address) :=
  inferInstanceAs (Decidable (address = regCanIntf ∨ ∃ n ∈ Chip.buffers, address = regTxBnCtrl n))

namespace Chip

@[simp] theorem setReg_same (regs : Nat → UInt8) (address : Nat) (value : UInt8) :
  setReg regs address value address = value :=
  if_pos rfl

theorem setReg_other (regs : Nat → UInt8) {address a : Nat} (value : UInt8) (h : a ≠ address) :
    setReg regs address value a = regs a := if_neg h

theorem mem_buffers {n : Nat} : n ∈ buffers ↔ n < 3 := by
  simp only [buffers, List.mem_cons, List.not_mem_nil, or_false]
  omega

/-! ## Frames that go out -/

/-- The buffer that goes out waits, and none that waits is of a higher priority. -/
theorem next_waits {chip : Chip} {n : Nat} (h : chip.next = some n) :
    n < 3 ∧ chip.pending n = true ∧ ∀ m < 3, chip.pending m = true → chip.priority m ≤ chip.priority n := by
  have hfound := List.find?_some h
  have hmem := mem_buffers.mp (List.mem_of_find?_eq_some h)
  rw [Bool.and_eq_true, List.all_eq_true] at hfound
  refine ⟨hmem, hfound.1, ?_⟩
  intro m hm hwaits
  simpa [hwaits] using hfound.2 m (mem_buffers.mpr hm)

theorem carry_none {chip : Chip} (h : chip.next = none) : chip.carry = chip := by rw [carry, h]

theorem carry_some {chip : Chip} {n : Nat} (h : chip.next = some n) :
    chip.carry = { chip with
      regs := setReg (setReg chip.regs (regTxBnCtrl n) (chip.regs (regTxBnCtrl n) &&& ~~~flagTxReq)) regCanIntf
        (chip.regs regCanIntf ||| flagTxnIf n)
      bus := chip.bus ++ [(chip.label n, txFrame chip.regs n)] } := by rw [carry, h]

theorem carries_inv {I : Chip → Prop} (hcarry : ∀ chip, I chip → I chip.carry) (frames : Nat) {chip : Chip}
    (h : I chip) :
    I (carries frames chip) := by
  induction frames generalizing chip with
  | zero => exact h
  | succ frames ih => exact ih (hcarry chip h)

theorem carry_regs {chip : Chip} {a : Nat} (h : ¬ TxSide a) : chip.carry.regs a = chip.regs a := by
  cases hnext : chip.next with
  | none => rw [carry_none hnext]
  | some n =>
    have hn := (next_waits hnext).1
    rw [carry_some hnext]
    dsimp only
    rw [setReg_other _ _ (fun heq => h (.inl heq)),
      setReg_other _ _ (fun heq => h (.inr ⟨n, mem_buffers.mpr hn, heq⟩))]

theorem carries_regs (frames : Nat) (chip : Chip) {a : Nat} (h : ¬ TxSide a) :
    (carries frames chip).regs a = chip.regs a :=
  carries_inv (I := fun chip' => chip'.regs a = chip.regs a) (fun _ hsame => (carry_regs h).trans hsame) frames rfl

@[simp] theorem settle_regs (io : ChipIo) (chip : Chip) {a : Nat} (h : ¬ TxSide a) :
  (chip.settle io).regs a = chip.regs a :=
  carries_regs _ chip h

theorem or_and (x y z : UInt8) : (x ||| y) &&& z = (x &&& z) ||| (y &&& z) :=
  UInt8.eq_of_toBitVec_eq BitVec.and_or_distrib_right

theorem flagTxnIf_rx {n : Nat} (hn : n < 3) : flagTxnIf n &&& 0x03 = 0 := by
  obtain rfl | rfl | rfl : n = 0 ∨ n = 1 ∨ n = 2 := by omega
  · decide
  · decide
  · decide

theorem settle_rxFlag (io : ChipIo) (chip : Chip) :
    (chip.settle io).regs regCanIntf &&& 0x03 = chip.regs regCanIntf &&& 0x03 := by
  refine carries_inv (I := fun chip' => chip'.regs regCanIntf &&& 0x03 = chip.regs regCanIntf &&& 0x03) ?_ _ rfl
  intro chip' hsame
  cases hnext : chip'.next with
  | none => rwa [carry_none hnext]
  | some n =>
    have hn := (next_waits hnext).1
    rw [carry_some hnext]
    dsimp only
    rw [setReg_same, or_and, hsame, flagTxnIf_rx hn, UInt8.or_zero]

/-! ## Registers that are written -/

theorem store_regs {chip : Chip} {address : Nat} (value : UInt8) {a : Nat} (h : a ≠ address) :
    (chip.store address value).regs a = chip.regs a := by
  rw [store]
  split
  · rfl
  · exact setReg_other _ _ h

theorem writeRegister_regs (io : ChipIo) {chip : Chip} {address : Nat} (value : UInt8) {a : Nat} (h : a ≠ address)
    (hside : ¬ TxSide a) : (chip.writeRegister io address value).regs a = chip.regs a :=
  (store_regs value h).trans (settle_regs io chip hside)

theorem modifyRegister_regs (io : ChipIo) {chip : Chip} {address : Nat} (mask value : UInt8) {a : Nat}
    (h : a ≠ address)
    (hside : ¬ TxSide a) : (chip.modifyRegister io address mask value).regs a = chip.regs a := by
  rw [modifyRegister]
  split
  · exact settle_regs io chip hside
  · exact (store_regs _ h).trans (settle_regs io chip hside)

/-! ## Bursts -/

/-- A register that always takes what is written, and that nothing else changes. -/
def Plain (a : Nat) : Prop := ¬ TxSide a ∧ a ≠ regCanStat ∧ configuration a = false

theorem writeRegister_same (io : ChipIo) (chip : Chip) {address : Nat} (value : UInt8) (h : Plain address) :
    (chip.writeRegister io address value).regs address = value := by
  obtain ⟨-, hstat, hconf⟩ := h
  rw [writeRegister, store, if_neg (by simp [hstat, hconf])]
  exact setReg_same _ _ _

theorem writeBurst_other (io : ChipIo) {address : Nat} (data : List UInt8) (chip : Chip) {a : Nat}
    (h : a < address ∨ address + data.length ≤ a) (hside : ¬ TxSide a) :
    (chip.writeBurst io address data).regs a = chip.regs a := by
  induction data generalizing address chip with
  | nil => rfl
  | cons value data ih =>
    rw [List.length_cons] at h
    rw [writeBurst, ih _ (by omega)]
    exact writeRegister_regs io value (by omega) hside

theorem writeBurst_regs (io : ChipIo) {address : Nat} {data : List UInt8} (chip : Chip)
    (hplain : ∀ i < data.length, Plain (address + i)) (i : Nat) (hi : i < data.length) :
    (chip.writeBurst io address data).regs (address + i) = data[i] := by
  induction data generalizing address chip i with
  | nil => simp at hi
  | cons value data ih =>
    rw [List.length_cons] at hi hplain
    rw [writeBurst]
    cases i with
    | zero =>
      have hfirst := hplain 0 (by omega)
      rw [Nat.add_zero] at hfirst
      exact (writeBurst_other io data _ (.inl (Nat.lt_succ_self address)) hfirst.1).trans
        (writeRegister_same io chip value hfirst)
    | succ i =>
      have hrest := @ih (address + 1) (chip.writeRegister io address value)
        (fun j hj => by
          have hnext := hplain (j + 1) (by omega)
          rwa [show address + 1 + j = address + (j + 1) by omega])
        i (by omega)
      rw [show address + (i + 1) = address + 1 + i by omega, hrest]
      rfl

theorem readBurst_regs (io : ChipIo) (address length : Nat) (chip : Chip) {a : Nat} (hside : ¬ TxSide a) :
    (chip.readBurst io address length).2.regs a = chip.regs a := by
  induction length generalizing address chip with
  | zero => rfl
  | succ length ih => exact (ih (address + 1) (chip.settle io)).trans (settle_regs io chip hside)

theorem readBurst_eq (io : ChipIo) (address length : Nat) (chip : Chip)
    (hside : ∀ i < length, ¬ TxSide (address + i)) :
    (chip.readBurst io address length).1 = (List.range length).map fun i => chip.regs (address + i) := by
  induction length generalizing address chip with
  | zero => rfl
  | succ length ih =>
    have hrest := ih (address + 1) (chip.settle io) fun i hi => by
      have hnext := hside (i + 1) (by omega)
      rwa [show address + 1 + i = address + (i + 1) by omega]
    rw [List.range_succ_eq_map, List.map_cons, List.map_map]
    refine congrArg₂ List.cons (settle_regs io chip (hside 0 (by omega))) (hrest.trans ?_)
    refine List.map_congr_left fun i hi => ?_
    rw [settle_regs io chip (by
      have hnext := hside (i + 1) (by rw [List.mem_range] at hi; omega)
      rwa [show address + 1 + i = address + (i + 1) by omega])]
    rw [Function.comp_apply, show address + 1 + i = address + (i + 1) by omega]

end Chip

end MCP2515

end CanSystems
