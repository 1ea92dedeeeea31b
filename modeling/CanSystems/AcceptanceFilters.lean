import CanSystems.RegisterAccess
import CanSystems.ESP32SJA1000
import Mathlib.Tactic.IntervalCases

/-!
# Acceptance filters

The filters as the chips apply them, against the identifiers and masks that
`filterExtended` is called with. On the MCP2515 the filters from the fourth on
lie behind four registers that are none of them, the chip's mode among these.
-/

namespace CanSystems

def ident29 (id : UInt32) : BitVec 29 := id.toBitVec.setWidth 29

namespace MCP2515

/-! ## The matching rule -/

/-- SIDH of each acceptance filter of a receive buffer, RXF0 and RXF1 and then RXF2 to RXF5. -/
def filtersOf (n : Nat) : List Nat := if n = 0 then [0x00, 0x04] else [0x08, 0x10, 0x14, 0x18]

/-- A filter for extended identifiers takes one that it has in common with under the mask. -/
def matchesId (regs : Nat → UInt8) (n sidh : Nat) (id : BitVec 29) : Prop :=
  hasExtendedId regs sidh = true ∧ extendedId regs sidh &&& extendedId regs (regRxMnSidh n) = id &&&
    extendedId regs (regRxMnSidh n)

/-- A receive buffer takes an extended frame by its mode: all frames, only standard ones, or what a filter
matches. -/
def takes (regs : Nat → UInt8) (n : Nat) (id : BitVec 29) : Prop :=
  let mode := regs (regRxBnCtrl n) &&& (flagRxm1 ||| flagRxm0)
  mode = flagRxm1 ||| flagRxm0 ∨ (mode ≠ flagRxm0 ∧ ∃ sidh ∈ filtersOf n, matchesId regs n sidh id)

def accepts (regs : Nat → UInt8) (id : BitVec 29) : Prop := ∃ n < 2, takes regs n id

/-! ## The registers that a configuration leaves -/

def poke (regs : Nat → UInt8) (w : Nat × UInt8) : Nat → UInt8 :=
  if w.1 = regCanStat || (Chip.configuration w.1 && !(regs regCanCtrl &&& 0xE0 == 0x80)) then regs else
    Chip.setReg regs w.1 w.2

def put (regs : Nat → UInt8) (w : Nat × UInt8) : Nat → UInt8 := Chip.setReg regs w.1 w.2

/-- The chip's registers are `regs`, but for those of the transmit side. -/
def Agrees (chip : Chip) (regs : Nat → UInt8) : Prop := ∀ a, ¬ TxSide a → chip.regs a = regs a

theorem agrees_settle (io : ChipIo) {chip : Chip} {regs : Nat → UInt8} (h : Agrees chip regs) :
    Agrees (chip.settle io) regs :=
  fun a ha => (Chip.settle_regs io chip ha).trans (h a ha)

theorem agrees_store {chip : Chip} {regs : Nat → UInt8} (h : Agrees chip regs) (w : Nat × UInt8) :
    Agrees (chip.store w.1 w.2) (poke regs w) := by
  have hmode : chip.inConfiguration = (regs regCanCtrl &&& 0xE0 == 0x80) := by
    rw [Chip.inConfiguration, h regCanCtrl (by decide)]
  rw [Chip.store, poke, hmode]
  intro a ha
  split
  · exact h a ha
  · simp only [Chip.setReg]
    split
    · rfl
    · exact h a ha

theorem agrees_writeAll (io : ChipIo) (ws : List (Nat × UInt8)) {chip : Chip} {regs : Nat → UInt8}
    (h : Agrees chip regs) :
    Agrees (writeAll io ws chip) (ws.foldl poke regs) := by
  induction ws generalizing chip regs with
  | nil => exact h
  | cons w ws ih => exact ih (agrees_store (agrees_settle io h) w)

theorem pokes_open {ws : List (Nat × UInt8)} {regs : Nat → UInt8} (hmode : regs regCanCtrl &&& 0xE0 = 0x80)
    (hws : ∀ w ∈ ws, w.1 ≠ regCanStat ∧ w.1 ≠ regCanCtrl) : ws.foldl poke regs = ws.foldl put regs := by
  induction ws generalizing regs with
  | nil => rfl
  | cons w ws ih =>
    obtain ⟨hstat, hctrl⟩ := hws w List.mem_cons_self
    have hpoke : poke regs w = put regs w := by
      rw [poke, put, hmode]
      exact if_neg (by simp [hstat])
    rw [List.foldl_cons, List.foldl_cons, hpoke]
    refine ih ?_ (fun w' hw' => hws w' (List.mem_cons_of_mem _ hw'))
    rw [put, Chip.setReg_other _ _ hctrl.symm]
    exact hmode

theorem pokes_closed {ws : List (Nat × UInt8)} {regs : Nat → UInt8} (hmode : regs regCanCtrl &&& 0xE0 ≠ 0x80)
    (hws : ∀ w ∈ ws, Chip.configuration w.1 = true) : ws.foldl poke regs = regs := by
  induction ws with
  | nil => rfl
  | cons w ws ih =>
    have hpoke : poke regs w = regs := by
      rw [poke]
      exact if_pos (by simp [hws w List.mem_cons_self, hmode])
    rw [List.foldl_cons, hpoke]
    exact ih fun w' hw' => hws w' (List.mem_cons_of_mem _ hw')

structure IdBytes where
  sidh : UInt8
  sidl : UInt8
  eid8 : UInt8
  eid0 : UInt8

namespace IdBytes

def id (b : IdBytes) : BitVec 29 :=
  (b.sidh.toBitVec ++ b.sidl.toBitVec.extractLsb' 5 3 ++ b.sidl.toBitVec.extractLsb' 0 2 ++ b.eid8.toBitVec ++
    b.eid0.toBitVec :
    BitVec (8 + 3 + 2 + 8 + 8))

def isExtended (b : IdBytes) : Bool := b.sidl.toBitVec.getLsbD 3

end IdBytes

def idBytes (regs : Nat → UInt8) (sidh : Nat) : IdBytes :=
  ⟨regs sidh, regs (sidh + 1), regs (sidh + 2), regs (sidh + 3)⟩

theorem extendedId_eq (regs : Nat → UInt8) (sidh : Nat) : extendedId regs sidh = (idBytes regs sidh).id := rfl

theorem hasExtendedId_eq (regs : Nat → UInt8) (sidh : Nat) :
    hasExtendedId regs sidh = (idBytes regs sidh).isExtended := rfl

/-- What `filterExtended` makes of an identifier or a mask. -/
def filterBytes (id : UInt32) : IdBytes :=
  let id := id &&& 0x1FFFFFFF
  ⟨(id >>> 21).toUInt8, filterSidl id, ((id >>> 8) &&& 0xFF).toUInt8, (id &&& 0xFF).toUInt8⟩

/-- All the bits but bit 20, which the driver's mask for the low bits of the standard part leaves out. -/
def keptBits : BitVec 29 := 0x1FEFFFFF#29

theorem filterBytes_id (id : UInt32) : (filterBytes id).id = ident29 id &&& keptBits := by
  apply BitVec.eq_of_getLsbD_eq
  intro i hi
  simp only [IdBytes.id, filterBytes, filterSidl, ident29, keptBits, BitVec.getLsbD_append,
    BitVec.getLsbD_extractLsb', flagExide]
  interval_cases i <;> simp

theorem filterBytes_isExtended (id : UInt32) : (filterBytes id).isExtended = true := by
  simp [IdBytes.isExtended, filterBytes, filterSidl, flagExide]

/-- The writes of a call with `code` and `mask` up to the third filter. -/
def frontWrites (code mask : IdBytes) : List (Nat × UInt8) :=
  (List.range 2).flatMap (fun n => maskWrites n flagRxm1 mask.sidh mask.sidl mask.eid8 mask.eid0) ++
    (List.range 3).flatMap fun n => filterWrites n code.sidh code.sidl code.eid8 code.eid0

def backWrites (code : IdBytes) : List (Nat × UInt8) :=
  [4, 5].flatMap fun n => filterWrites n code.sidh code.sidl code.eid8 code.eid0

theorem writes_split (code mask : IdBytes) :
    (List.range 2).flatMap (fun n => maskWrites n flagRxm1 mask.sidh mask.sidl mask.eid8 mask.eid0) ++
      (List.range 6).flatMap (fun n => filterWrites n code.sidh code.sidl code.eid8 code.eid0) =
    frontWrites code mask ++ filterWrites 3 code.sidh code.sidl code.eid8 code.eid0 ++ backWrites code := rfl

/-- The registers after the writes of the first three filters, and after those of the fourth. -/
def frontRegs (regs : Nat → UInt8) (code mask : IdBytes) : Nat → UInt8 :=
  (frontWrites code mask).foldl put (put regs (regCanCtrl, 0x80))

def fourthRegs (regs : Nat → UInt8) (code mask : IdBytes) : Nat → UInt8 :=
  [(regBfpCtrl, code.sidh), (regTxRtsCtrl, code.sidl), (regCanCtrl, code.eid0)].foldl put (frontRegs regs code mask)

def programmed (regs : Nat → UInt8) (code mask : IdBytes) : Nat → UInt8 :=
  put (if code.eid0 &&& 0xE0 = 0x80 then (backWrites code).foldl put (fourthRegs regs code mask) else
    fourthRegs regs code mask)
    (regCanCtrl, 0x00)

theorem poke_canCtrl (regs : Nat → UInt8) (value : UInt8) :
    poke regs (regCanCtrl, value) = put regs (regCanCtrl, value) := by
  rw [poke, put]
  exact if_neg (by simp [regCanCtrl, regCanStat, Chip.configuration, regTxRtsCtrl])

/-- The fourth filter's writes: BFPCTRL, TXRTSCTRL, CANSTAT, which takes none, and CANCTRL. -/
theorem pokes_fourth {regs : Nat → UInt8} (code : IdBytes) (hmode : regs regCanCtrl &&& 0xE0 = 0x80) :
    (filterWrites 3 code.sidh code.sidl code.eid8 code.eid0).foldl poke regs =
      [(regBfpCtrl, code.sidh), (regTxRtsCtrl, code.sidl), (regCanCtrl, code.eid0)].foldl put regs := by
  have hopen : [(regBfpCtrl, code.sidh), (regTxRtsCtrl, code.sidl)].foldl poke regs =
      [(regBfpCtrl, code.sidh), (regTxRtsCtrl, code.sidl)].foldl put regs :=
    pokes_open hmode (by simp [regBfpCtrl, regTxRtsCtrl, regCanStat, regCanCtrl])
  have hstat : ∀ regs, poke regs (regCanStat, code.eid8) = regs := fun regs => if_pos (by simp)
  calc (filterWrites 3 code.sidh code.sidl code.eid8 code.eid0).foldl poke regs
      = poke (poke ([(regBfpCtrl, code.sidh), (regTxRtsCtrl, code.sidl)].foldl poke regs) (regCanStat, code.eid8))
          (regCanCtrl, code.eid0) := rfl
    _ = put ([(regBfpCtrl, code.sidh), (regTxRtsCtrl, code.sidl)].foldl put regs) (regCanCtrl, code.eid0) := by
      rw [hstat, poke_canCtrl, hopen]

theorem frontRegs_canCtrl (regs : Nat → UInt8) (code mask : IdBytes) : frontRegs regs code mask regCanCtrl = 0x80 :=
    rfl

theorem fourthRegs_canCtrl (regs : Nat → UInt8) (code mask : IdBytes) :
    fourthRegs regs code mask regCanCtrl = code.eid0 := rfl

theorem pokes_programmed (regs : Nat → UInt8) (code mask : IdBytes) :
    poke ((frontWrites code mask ++ filterWrites 3 code.sidh code.sidl code.eid8 code.eid0 ++ backWrites code).foldl
      poke
      (poke regs (regCanCtrl, 0x80))) (regCanCtrl, 0x00) = programmed regs code mask := by
  have hfront : (frontWrites code mask).foldl poke (put regs (regCanCtrl, 0x80)) = frontRegs regs code mask := by
    refine pokes_open (by rw [put, Chip.setReg_same]; decide) ?_
    simp [frontWrites, maskWrites, filterWrites, List.range_succ, regRxBnCtrl, regRxMnSidh, regRxMnSidl,
      regRxMnEid8, regRxMnEid0, regRxFnSidh, regRxFnSidl, regRxFnEid8, regRxFnEid0, regCanStat, regCanCtrl]
  have hmode : frontRegs regs code mask regCanCtrl &&& 0xE0 = 0x80 := by
    rw [frontRegs_canCtrl]
    decide
  have hback : (backWrites code).foldl poke (fourthRegs regs code mask) =
      if code.eid0 &&& 0xE0 = 0x80 then (backWrites code).foldl put (fourthRegs regs code mask) else
        fourthRegs regs code mask := by
    split
    · rename_i hopen
      refine pokes_open (by rwa [fourthRegs_canCtrl]) ?_
      simp [backWrites, filterWrites, regRxFnSidh, regRxFnSidl, regRxFnEid8, regRxFnEid0, regCanStat, regCanCtrl]
    · rename_i hclosed
      refine pokes_closed (by rwa [fourthRegs_canCtrl]) ?_
      simp [backWrites, filterWrites, regRxFnSidh, regRxFnSidl, regRxFnEid8, regRxFnEid0, Chip.configuration]
  rw [poke_canCtrl, poke_canCtrl, List.foldl_append, List.foldl_append, hfront, pokes_fourth code hmode, programmed,
    ← hback, fourthRegs]

theorem filterExtended_agrees (io : ChipIo) (id mask : UInt32) (mcp : MCP2515) :
    Agrees (filterExtended io id mask mcp).2.chip
      (programmed mcp.chip.regs (filterBytes id) (filterBytes mask)) := by
  have hstart : Agrees (mcp.chip.writeRegister io regCanCtrl 0x80) (poke mcp.chip.regs (regCanCtrl, 0x80)) :=
    agrees_store (agrees_settle io fun _ _ => rfl) (regCanCtrl, 0x80)
  have hanswer : (((mcp.chip.writeRegister io regCanCtrl 0x80).readRegister io regCanCtrl).1 != 0x80) = false := by
    have hread := agrees_settle io hstart regCanCtrl (by decide)
    rw [poke_canCtrl] at hread
    rw [Chip.readRegister, hread]
    rfl
  rw [filterExtended]
  dsimp only
  rw [configure]
  dsimp only
  rw [hanswer, if_neg Bool.false_ne_true]
  rw [← pokes_programmed, ← writes_split]
  exact agrees_settle io (agrees_store (agrees_settle io (agrees_writeAll io _ (agrees_settle io hstart)))
    (regCanCtrl, 0x00))

/-! ## Reading the filters back -/

section
variable (regs : Nat → UInt8) (code mask : IdBytes)

theorem programmed_mode (n : Nat) (hn : n < 2) :
    programmed regs code mask (regRxBnCtrl n) = rxCtrlMode n flagRxm1 := by
  rw [programmed]
  obtain rfl | rfl : n = 0 ∨ n = 1 := by omega
  · split <;> rfl
  · split <;> rfl

theorem programmed_mask (n : Nat) (hn : n < 2) : idBytes (programmed regs code mask) (regRxMnSidh n) = mask := by
  rw [programmed]
  obtain rfl | rfl : n = 0 ∨ n = 1 := by omega
  · split <;> rfl
  · split <;> rfl

theorem programmed_front (sidh : Nat) (h : sidh ∈ [0x00, 0x04, 0x08]) :
    idBytes (programmed regs code mask) sidh = code := by
  rw [programmed]
  simp only [List.mem_cons, List.not_mem_nil, or_false] at h
  obtain rfl | rfl | rfl := h
  · split <;> rfl
  · split <;> rfl
  · split <;> rfl

theorem programmed_back (sidh : Nat) (h : sidh ∈ [0x10, 0x14]) :
    idBytes (programmed regs code mask) sidh = if code.eid0 &&& 0xE0 = 0x80 then code else idBytes regs sidh := by
  rw [programmed]
  simp only [List.mem_cons, List.not_mem_nil, or_false] at h
  obtain rfl | rfl := h
  · split <;> rfl
  · split <;> rfl

theorem programmed_last : idBytes (programmed regs code mask) 0x18 = idBytes regs 0x18 := by
  rw [programmed]
  split <;> rfl

end

/-! ## The frames that are taken -/

theorem not_txSide_of_lt {a : Nat} (h : a < regCanIntf) : ¬ TxSide a := by
  rintro (heq | ⟨n, -, heq⟩)
  · omega
  · simp only [regTxBnCtrl, regCanIntf] at heq h
    omega

theorem idBytes_congr {chip : Chip} {regs : Nat → UInt8} (h : Agrees chip regs) {sidh : Nat}
    (hlow : sidh + 3 < regCanIntf) :
    idBytes chip.regs sidh = idBytes regs sidh := by
  rw [idBytes, idBytes, h _ (not_txSide_of_lt (by omega)), h _ (not_txSide_of_lt (by omega)),
    h _ (not_txSide_of_lt (by omega)), h _ (not_txSide_of_lt (by omega))]

theorem filtersOf_low {n sidh : Nat} (h : sidh ∈ filtersOf n) : sidh + 3 < regCanIntf := by
  rw [filtersOf] at h
  rw [regCanIntf]
  split at h <;> simp only [List.mem_cons, List.not_mem_nil, or_false] at h <;> omega

def Meets (b : IdBytes) (mask id : BitVec 29) : Prop := b.isExtended = true ∧ b.id &&& mask = id &&& mask

/-- In a chip whose registers agree with the programmed ones the two buffers go by their filters alone. -/
theorem accepts_iff_meets {chip : Chip} {regs : Nat → UInt8} {code mask : IdBytes}
    (h : Agrees chip (programmed regs code mask))
    (f : BitVec 29) :
    accepts chip.regs f ↔ ∃ sidh ∈ filtersOf 0 ++ filtersOf 1, Meets
      (idBytes (programmed regs code mask) sidh) mask.id f := by
  have hbuffer : ∀ n < 2, takes chip.regs n f ↔
      ∃ sidh ∈ filtersOf n, Meets (idBytes (programmed regs code mask) sidh) mask.id f := by
    intro n hn
    have hmask : idBytes chip.regs (regRxMnSidh n) = mask := by
      rw [idBytes_congr h (by simp only [regRxMnSidh, regCanIntf]; omega), programmed_mask regs code mask n hn]
    have hmode : chip.regs (regRxBnCtrl n) &&& (flagRxm1 ||| flagRxm0) = flagRxm1 := by
      rw [h _ (by rcases (by omega : n = 0 ∨ n = 1) with rfl | rfl <;> decide), programmed_mode regs code mask n hn]
      rcases (by omega : n = 0 ∨ n = 1) with rfl | rfl <;> decide
    have hmatch : ∀ sidh ∈ filtersOf n, matchesId chip.regs n sidh f ↔
        Meets (idBytes (programmed regs code mask) sidh) mask.id f := by
      intro sidh hsidh
      rw [matchesId, hasExtendedId_eq, extendedId_eq, extendedId_eq, idBytes_congr h (filtersOf_low hsidh), hmask,
        Meets]
    rw [takes]
    simp only [hmode]
    rw [or_iff_right (by decide), and_iff_right (by decide)]
    exact exists_congr fun sidh => and_congr_right fun hsidh => hmatch sidh hsidh
  rw [accepts]
  constructor
  · rintro ⟨n, hn, htakes⟩
    obtain ⟨sidh, hsidh, hmeets⟩ := (hbuffer n hn).mp htakes
    refine ⟨sidh, ?_, hmeets⟩
    rcases (by omega : n = 0 ∨ n = 1) with rfl | rfl
    · exact List.mem_append_left _ hsidh
    · exact List.mem_append_right _ hsidh
  · rintro ⟨sidh, hsidh, hmeets⟩
    rcases List.mem_append.mp hsidh with hsidh | hsidh
    · exact ⟨0, by decide, (hbuffer 0 (by decide)).mpr ⟨sidh, hsidh, hmeets⟩⟩
    · exact ⟨1, by decide, (hbuffer 1 (by decide)).mpr ⟨sidh, hsidh, hmeets⟩⟩

/-- The filters that a call leaves as they were: the last one, and those behind the fourth unless the low byte of
the identifier, which the fourth puts into CANCTRL, keeps the chip in configuration mode. -/
def leftFilters (id : UInt32) : List Nat := if id &&& 0xE0 = 0x80 then [0x18] else [0x10, 0x14, 0x18]

theorem filterBytes_mode (id : UInt32) : (filterBytes id).eid0 &&& 0xE0 = 0x80 ↔ id &&& 0xE0 = 0x80 := by
  have hbyte : ((filterBytes id).eid0 &&& 0xE0).toUInt32 = id &&& 0xE0 := by
    apply UInt32.eq_of_toBitVec_eq
    apply BitVec.eq_of_getLsbD_eq
    intro i hi
    simp only [filterBytes, UInt8.toBitVec_toUInt32, UInt8.toBitVec_and, UInt32.toBitVec_toUInt8,
      UInt32.toBitVec_and]
    interval_cases i <;> simp
  rw [← hbyte, ← UInt8.toUInt32_inj]
  rfl

theorem exists_meets_iff (regs : Nat → UInt8) (id : UInt32) (mask : IdBytes) (f : BitVec 29) :
    (∃ sidh ∈ filtersOf 0 ++ filtersOf 1, Meets (idBytes (programmed regs (filterBytes id) mask) sidh) mask.id f) ↔
      Meets (filterBytes id) mask.id f ∨ ∃ sidh ∈ leftFilters id, Meets (idBytes regs sidh) mask.id f := by
  have hfront := programmed_front regs (filterBytes id) mask
  have hback := programmed_back regs (filterBytes id) mask
  have hlast := programmed_last regs (filterBytes id) mask
  simp only [filterBytes_mode] at hback
  rw [leftFilters]
  by_cases hmode : id &&& 0xE0 = 0x80
  · simp only [hmode, if_true] at hback ⊢
    simp [filtersOf, hfront, hback, hlast]
  · simp only [hmode, if_false] at hback ⊢
    simp [filtersOf, hfront, hback, hlast]

/-- What comes through after a call: what agrees with the identifier under the mask, bit 20 left out, and what the
filters take that the call has left. -/
theorem filterExtended_accepts (io : ChipIo) (id mask : UInt32) (mcp : MCP2515) (f : BitVec 29) :
    accepts (filterExtended io id mask mcp).2.chip.regs f ↔
      ident29 id &&& (ident29 mask &&& keptBits) = f &&& (ident29 mask &&& keptBits) ∨
        ∃ sidh ∈ leftFilters id, hasExtendedId mcp.chip.regs sidh = true ∧
          extendedId mcp.chip.regs sidh &&& (ident29 mask &&& keptBits) = f &&& (ident29 mask &&& keptBits) := by
  have hcode : Meets (filterBytes id) (filterBytes mask).id f ↔
      ident29 id &&& (ident29 mask &&& keptBits) = f &&& (ident29 mask &&& keptBits) := by
    rw [Meets, filterBytes_isExtended, filterBytes_id, filterBytes_id, and_iff_right rfl, BitVec.and_assoc,
      BitVec.and_comm keptBits, BitVec.and_assoc (ident29 mask), BitVec.and_self]
  rw [accepts_iff_meets (filterExtended_agrees io id mask mcp), exists_meets_iff, hcode]
  simp only [Meets, filterBytes_id, hasExtendedId_eq, extendedId_eq]

/-- Bit 20 of the mask is clear, and each filter that the call leaves is not for extended identifiers or agrees
with the identifier under the mask. -/
def FilterFits (regs : Nat → UInt8) (id mask : UInt32) : Prop :=
  (ident29 mask).getLsbD 20 = false ∧ ∀ sidh ∈ leftFilters id, hasExtendedId regs sidh = true →
    extendedId regs sidh &&& ident29 mask = ident29 id &&& ident29 mask

theorem and_keptBits {mask : BitVec 29} (h : mask.getLsbD 20 = false) : mask &&& keptBits = mask := by
  apply BitVec.eq_of_getLsbD_eq
  intro i hi
  by_cases h20 : i = 20
  · subst h20
    rw [BitVec.getLsbD_and, h]
    rfl
  · have hkept : keptBits.getLsbD i = true := by
      rw [keptBits]
      interval_cases i <;> first | rfl | exact absurd rfl h20
    rw [BitVec.getLsbD_and, hkept, Bool.and_true]

theorem stray_kept (id mask : BitVec 29) :
    id &&& (mask &&& keptBits) = (id ^^^ 0x100000#29) &&& (mask &&& keptBits) := by
  apply BitVec.eq_of_getLsbD_eq
  intro i hi
  simp only [BitVec.getLsbD_and, BitVec.getLsbD_xor, keptBits]
  interval_cases i <;> simp

theorem stray_masked {id mask : BitVec 29} (h : mask.getLsbD 20 = true) :
    (id ^^^ 0x100000#29) &&& mask ≠ id &&& mask := by
  intro heq
  have hbit := congrArg (fun v : BitVec 29 => v.getLsbD 20) heq
  simp only [BitVec.getLsbD_and, BitVec.getLsbD_xor, h] at hbit
  revert hbit
  cases id.getLsbD 20 <;> decide

theorem filterExtended_right_iff (io : ChipIo) (id mask : UInt32) (mcp : MCP2515) :
    (∀ f, accepts (filterExtended io id mask mcp).2.chip.regs f ↔ f &&& ident29 mask = ident29 id &&&
      ident29 mask) ↔
      FilterFits mcp.chip.regs id mask := by
  constructor
  · intro hright
    have hclear : (ident29 mask).getLsbD 20 = false := by
      by_contra hset
      rw [Bool.not_eq_false] at hset
      have htaken := (filterExtended_accepts io id mask mcp (ident29 id ^^^ 0x100000#29)).mpr
        (.inl (stray_kept _ _))
      exact stray_masked hset ((hright _).mp htaken)
    refine ⟨hclear, ?_⟩
    intro sidh hsidh hextended
    refine (hright _).mp ((filterExtended_accepts io id mask mcp _).mpr (.inr ⟨sidh, hsidh, hextended, rfl⟩))
  · rintro ⟨hclear, hleft⟩ f
    rw [filterExtended_accepts, and_keptBits hclear]
    constructor
    · rintro (heq | ⟨sidh, hsidh, hextended, heq⟩)
      · exact heq.symm
      · rw [← heq]
        exact hleft sidh hsidh hextended
    · exact fun heq => .inl heq.symm

end MCP2515

namespace ESP32SJA1000

/-! ## The other controller -/

theorem writeAll_acceptance {writes : List (Nat × UInt8)} {chip : Chip} (hreset : chip.isInResetMode = true)
    (hwrites : ∀ w ∈ writes, 0x10 ≤ w.1) :
    (writeAll writes chip) =
      { chip with acceptance := writes.foldl (fun regs w => Chip.setReg regs w.1 w.2) chip.acceptance } := by
  induction writes generalizing chip with
  | nil => rfl
  | cons w writes ih =>
    have hwrite : chip.writeRegister w.1 w.2 = { chip with acceptance := Chip.setReg chip.acceptance w.1 w.2 } := by
      rw [Chip.writeRegister, if_neg (Nat.not_lt.mpr (hwrites w List.mem_cons_self)), if_pos hreset]
    have hrest := @ih (chip.writeRegister w.1 w.2) (by rw [hwrite]; exact hreset)
      fun w' hw' => hwrites w' (List.mem_cons_of_mem _ hw')
    rw [hwrite] at hrest
    rw [writeAll, List.foldl_cons, hwrite]
    exact hrest

theorem modifyRegister_mod (chip : Chip) (mask value : UInt8) :
    chip.modifyRegister regMod mask value =
      { chip with regs := Chip.setReg chip.regs regMod ((chip.regs regMod &&& ~~~mask) ||| value) } := rfl

theorem reset_set (x : UInt8) : ((x &&& ~~~0x17) ||| 0x01) &&& modResetMode != 0 := by
  have hbit : ((x &&& ~~~0x17) ||| 0x01) &&& modResetMode = 1 := by
    apply UInt8.eq_of_toBitVec_eq
    apply BitVec.eq_of_getLsbD_eq
    intro i hi
    simp only [modResetMode]
    interval_cases i <;> simp
  rw [hbit]
  decide

theorem configure_acceptance {writes : List (Nat × UInt8)} (chip : Chip) (hwrites : ∀ w ∈ writes, 0x10 ≤ w.1) :
    (configure writes chip).acceptance = writes.foldl (fun regs w => Chip.setReg regs w.1 w.2) chip.acceptance := by
  have hreset : (chip.modifyRegister regMod 0x17 0x01).isInResetMode = true := by
    rw [modifyRegister_mod, Chip.isInResetMode]
    exact reset_set _
  rw [configure, writeAll_acceptance hreset hwrites, modifyRegister_mod]
  rfl

section
variable (id mask : UInt32) (sja : ESP32SJA1000)

def acceptanceWord (chip : Chip) (first : Nat) : BitVec (8 + 8 + 8 + 8) :=
  (chip.acceptance first).toBitVec ++ (chip.acceptance (first + 1)).toBitVec ++
    (chip.acceptance (first + 2)).toBitVec ++
    (chip.acceptance (first + 3)).toBitVec

theorem filterExtended_code {i : Nat} (hi : i < 29) :
    (acceptanceWord (sja.filterExtended id mask).chip (regAcrN 0)).getLsbD (i + 3) = (ident29 id).getLsbD i := by
  rw [acceptanceWord, filterExtended]
  dsimp only
  rw [configure_acceptance _ (by simp [regAcrN, regAmrN])]
  simp only [List.foldl_cons, List.foldl_nil, Chip.setReg, regAcrN, regAmrN, ident29, BitVec.getLsbD_append]
  interval_cases i <;> simp

theorem filterExtended_mask {i : Nat} (hi : i < 29) :
    (acceptanceWord (sja.filterExtended id mask).chip (regAmrN 0)).getLsbD (i + 3) = !(ident29 mask).getLsbD i := by
  rw [acceptanceWord, filterExtended]
  dsimp only
  rw [configure_acceptance _ (by simp [regAcrN, regAmrN])]
  simp only [List.foldl_cons, List.foldl_nil, Chip.setReg, regAcrN, regAmrN, ident29, BitVec.getLsbD_append]
  interval_cases i <;> simp

theorem filterExtended_rtr :
    (acceptanceWord (sja.filterExtended id mask).chip (regAmrN 0)).getLsbD 2 = true := by
  rw [acceptanceWord, filterExtended]
  dsimp only
  rw [configure_acceptance _ (by simp [regAcrN, regAmrN])]
  simp only [List.foldl_cons, List.foldl_nil, Chip.setReg, regAcrN, regAmrN, BitVec.getLsbD_append]
  simp

theorem filterExtended_accepts (f : BitVec 29) (rtr : Bool) :
    (sja.filterExtended id mask).chip.accepts f rtr ↔ f &&& ident29 mask = ident29 id &&& ident29 mask := by
  have hframe : ∀ i < 29, (f ++ BitVec.ofBool rtr).getLsbD (i + 1) = f.getLsbD i := by
    intro i hi
    rw [BitVec.getLsbD_append, if_neg (by omega), Nat.add_sub_cancel]
  constructor
  · intro haccepts
    apply BitVec.eq_of_getLsbD_eq
    intro i hi
    have hbit := haccepts ⟨i + 1, by omega⟩
    rw [BitVec.getLsbD_and, BitVec.getLsbD_and]
    cases hmask : (ident29 mask).getLsbD i with
    | false => rw [Bool.and_false, Bool.and_false]
    | true =>
      have hequal := hbit ((filterExtended_mask id mask sja hi).trans (by rw [hmask]; rfl))
      rw [← hframe i hi, ← hequal]
      exact congrArg (· && true) (filterExtended_code id mask sja hi)
  · intro hmatch i hcompared
    rcases i with ⟨i, hi⟩
    cases i with
    | zero =>
      have hfree := filterExtended_rtr id mask sja
      exact absurd (hfree.symm.trans hcompared) (by decide)
    | succ i =>
      have hi : i < 29 := by omega
      have hmask : (ident29 mask).getLsbD i = true := by
        have hnot := (filterExtended_mask id mask sja hi).symm.trans hcompared
        simpa using hnot
      have hbit := congrArg (fun v : BitVec 29 => v.getLsbD i) hmatch
      simp only [BitVec.getLsbD_and, hmask, Bool.and_true] at hbit
      exact (filterExtended_code id mask sja hi).trans (hbit.symm.trans (hframe i hi).symm)

end

end ESP32SJA1000

/-- After a call with an identifier and a mask both controllers take an extended frame exactly if its identifier
agrees with the given one under the mask. -/
def FiltersMean (io : MCP2515.ChipIo) (id mask : UInt32) (mcp : MCP2515) (sja : ESP32SJA1000) : Prop :=
  (∀ f, MCP2515.accepts (mcp.filterExtended io id mask).2.chip.regs f ↔ f &&& ident29 mask = ident29 id &&&
    ident29 mask) ∧
    ∀ f rtr, (sja.filterExtended id mask).chip.accepts f rtr ↔ f &&& ident29 mask = ident29 id &&& ident29 mask

theorem filters_mean_iff (io : MCP2515.ChipIo) (id mask : UInt32) (mcp : MCP2515) (sja : ESP32SJA1000) :
    FiltersMean io id mask mcp sja ↔ MCP2515.FilterFits mcp.chip.regs id mask := by
  rw [FiltersMean, MCP2515.filterExtended_right_iff]
  exact and_iff_left (ESP32SJA1000.filterExtended_accepts id mask sja)

/-- The mask asks for bit 20 alone, and a frame that has it comes through all the same. -/
theorem filters_not_always_mean :
    ¬ ∀ (io : MCP2515.ChipIo) (id mask : UInt32) (mcp : MCP2515) (sja : ESP32SJA1000),
      FiltersMean io id mask mcp sja := by
  intro h
  have hmeans := (h ⟨fun _ => 0, fun _ => true, fun _ => 0⟩ 0 0x100000 (.init fun _ => 0) (.init fun _ => 0)).1
  have hfits := (MCP2515.filterExtended_right_iff _ _ _ _).mp hmeans
  exact absurd hfits.1 (by decide)

end CanSystems
