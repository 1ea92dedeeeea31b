import CanSystems.CanNode
import CanSystems.StoreRuns

/-!
# The answers to OTA_START

A refused OTA_START is answered when it is taken, a granted one by the pass in
which the chip comes ready or the store gives up. That pass goes by what the
pass before it left, not by what its own frames did: a start granted and made
ready within one pass is never answered (`start_unanswered`), nor is one that a
later frame cuts off.
-/

namespace CanSystems

open Machine

structure NodePass where
  now : UInt32
  frames : List NodeFrame

structure StartTally where
  /-- The granted OTA_STARTs without an answer. -/
  owed : Nat
  /-- No frame took back what the last of them began. -/
  standing : Bool
  refused : Nat

structure StartWatch where
  handler : CanHandlerAtmega328P
  owed : Nat

namespace CanNode

/-- The frame ends what a granted OTA_START began: the node restarts, or the chip refuses a piece. -/
def cutsOff (node : CanNode) (now : UInt32) (frame : CanFrame) : Bool :=
  match frame.cmd with
  | .RESTART => true
  | .OTA_SEND =>
    let sendFrame := OtaCanFrame.unpackSend frame.data
    (node.ota.storeNextData now sendFrame.sequence sendFrame.data).2.otaState == .INVALID
  | _ => false

def refuses (node : CanNode) (now : UInt32) (frame : CanFrame) : Bool :=
  frame.cmd == .OTA_START && !node.grants now frame

end CanNode

namespace CanHandlerAtmega328P

/-- The frame cuts the store off, or has the node restart under a new address. -/
def cutsOff (h : CanHandlerAtmega328P) (now : UInt32) (f : NodeFrame) : Bool :=
  if f.frame.cmd = .SET_CAN_ID then h.renumbers f else h.node.cutsOff now f.canFrame

end CanHandlerAtmega328P

section
variable (build : NodeBuild)

namespace StartTally

def next (t : StartTally) (h : CanHandlerAtmega328P) (now : UInt32) (f : NodeFrame) : StartTally where
  owed := t.owed + (h.node.grants now f.canFrame).toNat
  standing := h.node.grants now f.canFrame || (t.standing && !h.cutsOff now f)
  refused := t.refused + (h.node.refuses now f.canFrame).toNat

def afterAll (t : StartTally) (h : CanHandlerAtmega328P) (now : UInt32) : List NodeFrame → StartTally
  | [] => t
  | f :: frames => (t.next h now f).afterAll (h.handleRxFrame build now f).2 now frames

end StartTally

namespace StartWatch

def init (stored : Option CanId) (flash : SPIFlash) : StartWatch := ⟨.init build stored flash, 0⟩

def drained (w : StartWatch) (e : NodePass) : CanNode :=
  (w.handler.drain build e.now (e.frames.take CanNode.maxRxFramesPerRun)).2.node

def tally (w : StartWatch) (e : NodePass) : StartTally :=
  (StartTally.mk w.owed (w.handler.node.ota.otaState == .START) 0).afterAll build w.handler e.now
    (e.frames.take CanNode.maxRxFramesPerRun)

def stateAfter (w : StartWatch) (e : NodePass) : OtaState := ((w.drained build e).ota.run e.now).otaState

def step (w : StartWatch) (e : NodePass) : StartWatch where
  handler := (w.handler.run build e.now e.frames).2
  owed := if w.stateAfter build e = .START then (w.tally build e).owed else 0

def toEach (owed : Nat) : Nat := owed

/-- An answer to the last of them, the only one the gateway still waits for. -/
def toLast (owed : Nat) : Nat := min owed 1

/-- The pass refuses at once what the store refused, sends the ACKs due when the chip comes ready, and the NACKs
due when the store gives up. -/
def Answers (due : Nat → Nat) (w : StartWatch) (e : NodePass) : Prop :=
  let answers := (w.handler.run build e.now e.frames).1
  answers.count (.answer .OTA_START .NACK) = (w.tally build e).refused ∧
  answers.count (.answer .OTA_START .ACK) = (if w.stateAfter build e = .STORE then due (w.tally build e).owed else
    0) ∧
  (0 < (w.tally build e).owed → answers.count (.answer .OTA_END .NACK) =
    if w.stateAfter build e = .START ∨ w.stateAfter build e = .STORE then 0 else due (w.tally build e).owed)

/-- While a granted OTA_START has no answer, no frame cuts it off; and the pass that finds the chip ready, or
gives up on it, owes one answer and follows a pass that left START. -/
def Timely (due : Nat → Nat) (w : StartWatch) (e : NodePass) : Prop :=
  0 < (w.tally build e).owed → (w.tally build e).standing = true ∧
    ((w.drained build e).ota.stalled e.now = true ∨ (w.drained build e).ota.flash.busy.1 = false →
      due (w.tally build e).owed = 1 ∧ (w.drained build e).lastOtaState = .START)

end StartWatch

end

/-! ## One frame -/

theorem OTA.state_storeNextData (ota : OTA) (now : UInt32) (sequence : UInt8) (fwData : FwPiece) :
    ((ota.storeNextData now sequence fwData).2.otaState = ota.otaState ∧
      ((ota.storeNextData now sequence fwData).2.stallTimer = ota.stallTimer ∨
        (ota.storeNextData now sequence fwData).2.stallTimer = now)) ∨
    (ota.storeNextData now sequence fwData).2.otaState = .INVALID := by
  rcases ota.storeNextData_cases now sequence fwData with hcall |
    ⟨first, pointer, rest, -, -, ⟨-, hcall⟩ | ⟨-, -, ok, flash, -, hcall⟩⟩
  · rw [hcall]
    exact Or.inl ⟨rfl, Or.inl rfl⟩
  · rw [hcall]
    exact Or.inl ⟨rfl, Or.inr rfl⟩
  · cases ok with
    | false =>
      rw [hcall]
      exact Or.inr rfl
    | true =>
      rw [hcall]
      exact Or.inl ⟨rfl, Or.inr rfl⟩

namespace CanNode

/-- A frame opens a transfer, ends what one began, or leaves the store's state as it is. -/
theorem handleRxFrame_cases (node : CanNode) (now : UInt32) (frame : CanFrame) :
    (node.grants now frame = true ∧ (node.handleRxFrame now frame).2.ota.otaState = .START ∧
      (node.handleRxFrame now frame).2.ota.stallTimer = now) ∨
    (node.grants now frame = false ∧ node.cutsOff now frame = true ∧
      ((node.handleRxFrame now frame).2.ota.otaState = .IDLE ∨
        (node.handleRxFrame now frame).2.ota.otaState = .INVALID)) ∨
    (node.grants now frame = false ∧ node.cutsOff now frame = false ∧
      (node.handleRxFrame now frame).2.lastOtaState = node.lastOtaState ∧
      (node.handleRxFrame now frame).2.ota.otaState = node.ota.otaState ∧
      ((node.handleRxFrame now frame).2.ota.stallTimer = node.ota.stallTimer ∨
        (node.handleRxFrame now frame).2.ota.stallTimer = now)) := by
  by_cases hstart : frame.cmd = .OTA_START
  · rcases node.ota.start_cases now (OtaCanFrame.unpackStart frame.data).storageNumber
      (OtaCanFrame.unpackStart frame.data).fwSize (OtaCanFrame.unpackStart frame.data).fwCrc with
      ⟨flash, -, hcall⟩ | ⟨flash, -, -, -, -, -, -, hcall⟩
    · right; right
      simp [grants, cutsOff, handleRxFrame, hstart, hcall]
    · left
      simp [grants, handleRxFrame, hstart, hcall]
  have hgrants : node.grants now frame = false := by simp [grants, hstart]
  right
  by_cases hrestart : frame.cmd = .RESTART
  · left
    simp [hgrants, cutsOff, handleRxFrame, hrestart, restartMCU, init, OTA.init]
  by_cases hsend : frame.cmd = .OTA_SEND
  · have hpiece := node.ota.state_storeNextData now (OtaCanFrame.unpackSend frame.data).sequence
      (OtaCanFrame.unpackSend frame.data).data
    by_cases hinvalid : (node.ota.storeNextData now (OtaCanFrame.unpackSend frame.data).sequence
        (OtaCanFrame.unpackSend frame.data).data).2.otaState = .INVALID
    · left
      simp [hgrants, cutsOff, handleRxFrame, hsend, hinvalid]
    · right
      obtain ⟨hstate, htimer⟩ := hpiece.resolve_right hinvalid
      rw [hstate] at hinvalid
      simpa [hgrants, cutsOff, handleRxFrame, hsend, hstate, hinvalid] using htimer
  · right
    have hsame : (node.handleRxFrame now frame).2 = node := by
      unfold handleRxFrame
      split
      all_goals first | rfl | contradiction
    have hcuts : node.cutsOff now frame = false := by
      unfold cutsOff
      split
      all_goals first | rfl | contradiction
    rw [hsame]
    exact ⟨hgrants, hcuts, rfl, rfl, Or.inl rfl⟩

theorem lastOtaState_handleRxFrame (node : CanNode) (now : UInt32) (frame : CanFrame) :
    (node.handleRxFrame now frame).2.lastOtaState = node.lastOtaState ∨
      (node.handleRxFrame now frame).2.lastOtaState = .IDLE := by
  unfold handleRxFrame
  split
  all_goals first | exact Or.inl rfl | exact Or.inr rfl

/-- A frame is answered with a refusal exactly when the store refuses its OTA_START. -/
theorem answers_handleRxFrame (node : CanNode) (now : UInt32) (frame : CanFrame) :
    (node.handleRxFrame now frame).1.count (.answer .OTA_START .NACK) = (node.refuses now frame).toNat ∧
    CanFrame.answer .OTA_START .ACK ∉ (node.handleRxFrame now frame).1 ∧
    CanFrame.answer .OTA_END .NACK ∉ (node.handleRxFrame now frame).1 := by
  by_cases hstart : frame.cmd = .OTA_START
  · rcases node.ota.start_cases now (OtaCanFrame.unpackStart frame.data).storageNumber
      (OtaCanFrame.unpackStart frame.data).fwSize (OtaCanFrame.unpackStart frame.data).fwCrc with
      ⟨flash, -, hcall⟩ | ⟨flash, -, -, -, -, -, -, hcall⟩
    · simp [refuses, grants, handleRxFrame, hstart, hcall, CanFrame.answer, Response.toByte]
    · simp [refuses, grants, handleRxFrame, hstart, hcall]
  have hrefuses : node.refuses now frame = false := by simp [refuses, hstart]
  rw [hrefuses]
  unfold handleRxFrame
  split
  all_goals simp_all [CanFrame.answer]

end CanNode

namespace CanHandlerAtmega328P

variable (build : NodeBuild)

/-- A frame with no address in it goes to the store, and is cut off by a restart as the store's is. -/
theorem handleRxFrame_node (h : CanHandlerAtmega328P) (now : UInt32) {f : NodeFrame}
    (hcmd : f.frame.cmd ≠ .SET_CAN_ID) :
    (h.handleRxFrame build now f).1 = (h.node.handleRxFrame now f.canFrame).1 ∧
      (h.handleRxFrame build now f).2.node = (h.node.handleRxFrame now f.canFrame).2 ∧
      h.cutsOff now f = h.node.cutsOff now f.canFrame := by
  refine ⟨?_, ?_, if_neg hcmd⟩
  · unfold handleRxFrame
    split
    · rename_i hrestart
      simp [CanNode.handleRxFrame, NodeFrame.canFrame, hrestart]
    · exact absurd ‹_› hcmd
    · rfl
  · unfold handleRxFrame
    split
    · rename_i hrestart
      simp [CanNode.handleRxFrame, NodeFrame.canFrame, hrestart]
    · exact absurd ‹_› hcmd
    · rfl

/-- A SET_CAN_ID has the node restart, or leaves the store as it is; its answer is its own. -/
theorem handleRxFrame_setCanId (h : CanHandlerAtmega328P) (now : UInt32) {f : NodeFrame}
    (hcmd : f.frame.cmd = .SET_CAN_ID) :
    (∀ frame ∈ (h.handleRxFrame build now f).1, frame.cmd = .SET_CAN_ID) ∧
      (h.handleRxFrame build now f).2.node = (if h.renumbers f then h.node.restartMCU else h.node) ∧
      h.cutsOff now f = h.renumbers f ∧ h.node.grants now f.canFrame = false ∧
      h.node.refuses now f.canFrame = false := by
  have hanswers : ∀ frame ∈ sent (h.ids.handleSetCanId build f.frame f.saved).1, frame.cmd = .SET_CAN_ID := by
    unfold IdNode.handleSetCanId
    simp only
    split
    · simp [sent, IdNode.send, CanFrame.answer]
    split
    · simp [sent, IdNode.send, CanFrame.answer]
    · simp [sent, IdNode.send, CanFrame.answer]
  have hcall : h.handleRxFrame build now f = (sent (h.ids.handleSetCanId build f.frame f.saved).1,
      ⟨if h.renumbers f then h.node.restartMCU else h.node, (h.ids.handleSetCanId build f.frame f.saved).2⟩) := by
    unfold handleRxFrame
    rw [hcmd]
  rw [hcall]
  refine ⟨hanswers, rfl, if_pos hcmd, ?_, ?_⟩
  · simp [CanNode.grants, NodeFrame.canFrame, hcmd]
  · simp [CanNode.refuses, NodeFrame.canFrame, hcmd]

/-- A frame opens a transfer, ends what one began, or leaves the store's state as it is. -/
theorem handleRxFrame_cases (h : CanHandlerAtmega328P) (now : UInt32) (f : NodeFrame) :
    (h.node.grants now f.canFrame = true ∧ (h.handleRxFrame build now f).2.node.ota.otaState = .START ∧
      (h.handleRxFrame build now f).2.node.ota.stallTimer = now) ∨
    (h.node.grants now f.canFrame = false ∧ h.cutsOff now f = true ∧
      ((h.handleRxFrame build now f).2.node.ota.otaState = .IDLE ∨
        (h.handleRxFrame build now f).2.node.ota.otaState = .INVALID)) ∨
    (h.node.grants now f.canFrame = false ∧ h.cutsOff now f = false ∧
      (h.handleRxFrame build now f).2.node.lastOtaState = h.node.lastOtaState ∧
      (h.handleRxFrame build now f).2.node.ota.otaState = h.node.ota.otaState ∧
      ((h.handleRxFrame build now f).2.node.ota.stallTimer = h.node.ota.stallTimer ∨
        (h.handleRxFrame build now f).2.node.ota.stallTimer = now)) := by
  by_cases hcmd : f.frame.cmd = .SET_CAN_ID
  · obtain ⟨-, hnode, hcuts, hgrants, -⟩ := handleRxFrame_setCanId build h now hcmd
    rw [hnode, hcuts, hgrants]
    right
    cases h.renumbers f with
    | true => exact Or.inl ⟨rfl, rfl, Or.inl rfl⟩
    | false => exact Or.inr ⟨rfl, rfl, rfl, rfl, Or.inl rfl⟩
  · obtain ⟨-, hnode, hcuts⟩ := handleRxFrame_node build h now hcmd
    rw [hnode, hcuts]
    exact h.node.handleRxFrame_cases now f.canFrame

theorem lastOtaState_handleRxFrame (h : CanHandlerAtmega328P) (now : UInt32) (f : NodeFrame) :
    (h.handleRxFrame build now f).2.node.lastOtaState = h.node.lastOtaState ∨
      (h.handleRxFrame build now f).2.node.lastOtaState = .IDLE := by
  by_cases hcmd : f.frame.cmd = .SET_CAN_ID
  · rw [(handleRxFrame_setCanId build h now hcmd).2.1]
    split
    · exact Or.inr rfl
    · exact Or.inl rfl
  · rw [(handleRxFrame_node build h now hcmd).2.1]
    exact h.node.lastOtaState_handleRxFrame now f.canFrame

theorem answers_handleRxFrame (h : CanHandlerAtmega328P) (now : UInt32) (f : NodeFrame) :
    (h.handleRxFrame build now f).1.count (.answer .OTA_START .NACK) = (h.node.refuses now f.canFrame).toNat ∧
    CanFrame.answer .OTA_START .ACK ∉ (h.handleRxFrame build now f).1 ∧
    CanFrame.answer .OTA_END .NACK ∉ (h.handleRxFrame build now f).1 := by
  by_cases hcmd : f.frame.cmd = .SET_CAN_ID
  · obtain ⟨hanswers, -, -, -, hrefuses⟩ := handleRxFrame_setCanId build h now hcmd
    have hother : ∀ {cmd : CanCmd} {response : Response}, cmd ≠ .SET_CAN_ID →
        CanFrame.answer cmd response ∉ (h.handleRxFrame build now f).1 :=
      fun hne hmem => hne (hanswers _ hmem)
    rw [hrefuses]
    exact ⟨List.count_eq_zero.mpr (hother (by decide)), hother (by decide), hother (by decide)⟩
  · rw [(handleRxFrame_node build h now hcmd).1]
    exact h.node.answers_handleRxFrame now f.canFrame

end CanHandlerAtmega328P

/-! ## The frames of a pass -/

section
variable (build : NodeBuild)

structure Drained (now : UInt32) (node : CanNode) (t : StartTally) : Prop where
  standing : t.standing = true ↔ node.ota.otaState = .START
  owed : t.standing = true → 0 < t.owed
  lost : 0 < t.owed → t.standing = false → node.ota.otaState = .IDLE ∨ node.ota.otaState = .INVALID
  fresh : node.ota.otaState = .START → node.lastOtaState = .START ∨ node.ota.stallTimer = now
  before : node.lastOtaState = .START → 0 < t.owed

theorem Drained.next {now : UInt32} {h : CanHandlerAtmega328P} {t : StartTally} (hd : Drained now h.node t)
    (f : NodeFrame) : Drained now (h.handleRxFrame build now f).2.node (t.next h now f) := by
  have hbefore : (h.handleRxFrame build now f).2.node.lastOtaState = .START → 0 < (t.next h now f).owed := by
    intro hs
    rcases h.lastOtaState_handleRxFrame build now f with hlast | hlast
    · exact Nat.lt_of_lt_of_le (hd.before (hlast.symm.trans hs)) (Nat.le_add_right ..)
    · rw [hs] at hlast
      cases hlast
  rcases h.handleRxFrame_cases build now f with ⟨hgrants, hstate, htimer⟩ | ⟨hgrants, hcuts, hstate⟩ |
    ⟨hgrants, hcuts, hlast, hstate, htimer⟩
  · refine ⟨?_, ?_, ?_, ?_, hbefore⟩
    · simp [StartTally.next, hgrants, hstate]
    · simp [StartTally.next, hgrants]
    · simp [StartTally.next, hgrants]
    · exact fun _ => Or.inr htimer
  · refine ⟨?_, ?_, ?_, ?_, hbefore⟩
    · rcases hstate with hstate | hstate
      · simp [StartTally.next, hgrants, hcuts, hstate]
      · simp [StartTally.next, hgrants, hcuts, hstate]
    · simp [StartTally.next, hgrants, hcuts]
    · exact fun _ _ => hstate
    · intro hs
      rw [hs] at hstate
      rcases hstate with hstate | hstate
      · cases hstate
      · cases hstate
  · have hsame : (t.next h now f).standing = t.standing := by simp [StartTally.next, hgrants, hcuts]
    have howed : (t.next h now f).owed = t.owed := by simp [StartTally.next, hgrants]
    refine ⟨?_, ?_, ?_, ?_, hbefore⟩
    · rw [hsame, hstate]
      exact hd.standing
    · rw [hsame, howed]
      exact hd.owed
    · rw [hsame, howed, hstate]
      exact hd.lost
    · intro hs
      rw [hlast]
      rcases htimer with htimer | htimer
      · rw [htimer]
        exact hd.fresh (hstate.symm.trans hs)
      · exact Or.inr htimer

theorem Drained.drain {now : UInt32} {h : CanHandlerAtmega328P} {t : StartTally} (hd : Drained now h.node t)
    (frames : List NodeFrame) : Drained now (h.drain build now frames).2.node (t.afterAll build h now frames) := by
  induction frames generalizing h t with
  | nil => exact hd
  | cons f frames ih => exact ih (hd.next build f)

theorem answers_drain (t : StartTally) (h : CanHandlerAtmega328P) (now : UInt32) (frames : List NodeFrame) :
    t.refused + (h.drain build now frames).1.count (.answer .OTA_START .NACK) =
      (t.afterAll build h now frames).refused ∧
    CanFrame.answer .OTA_START .ACK ∉ (h.drain build now frames).1 ∧
    CanFrame.answer .OTA_END .NACK ∉ (h.drain build now frames).1 := by
  induction frames generalizing h t with
  | nil => exact ⟨rfl, List.not_mem_nil, List.not_mem_nil⟩
  | cons f frames ih =>
    obtain ⟨hrefused, hack, hnack⟩ := h.answers_handleRxFrame build now f
    obtain ⟨hmore, hackMore, hnackMore⟩ := ih (t.next h now f) (h.handleRxFrame build now f).2
    refine ⟨?_, ?_, ?_⟩
    · have hnext : (t.next h now f).refused = t.refused + (h.node.refuses now f.canFrame).toNat := rfl
      rw [hnext] at hmore
      simp only [CanHandlerAtmega328P.drain, StartTally.afterAll, List.count_append, hrefused]
      rw [← hmore, Nat.add_assoc]
    · simp only [CanHandlerAtmega328P.drain, List.mem_append, not_or]
      exact ⟨hack, hackMore⟩
    · simp only [CanHandlerAtmega328P.drain, List.mem_append, not_or]
      exact ⟨hnack, hnackMore⟩

end

/-! ## The store's step -/

namespace OTA

/-- The store takes a granted start further: it gives up, finds the chip ready, or waits on. -/
theorem run_start {ota : OTA} (h : ota.otaState = .START) (now : UInt32) :
    (ota.stalled now = true ∧ (ota.run now).otaState = .INVALID) ∨
    (ota.stalled now = false ∧ ota.flash.busy.1 = false ∧ (ota.run now).otaState = .STORE) ∨
    (ota.stalled now = false ∧ ota.flash.busy.1 = true ∧ (ota.run now).otaState = .START) := by
  by_cases hstalled : ota.stalled now = true
  · left
    refine ⟨hstalled, ?_⟩
    unfold run
    rw [if_pos hstalled]
  right
  have hrun : (ota.run now).otaState = if ota.flash.busy.1 then .START else .STORE := by
    unfold run
    rw [if_neg hstalled]
    simp only [h]
    split
    · rfl
    · rfl
  rw [hrun]
  rw [Bool.not_eq_true] at hstalled
  cases hbusy : ota.flash.busy.1 with
  | false => exact Or.inl ⟨hstalled, rfl, rfl⟩
  | true => exact Or.inr ⟨hstalled, rfl, rfl⟩

theorem run_waits {ota : OTA} {now : UInt32} (h : (ota.run now).otaState = .START) : ota.otaState = .START := by
  by_cases hs : ota.otaState = .CHECK
  · exfalso
    have hsame := ota.checkChunk_same.state
    rw [run_check hs] at h
    split at h
    · rcases ota.checkChunk.finishCheck_cases with ⟨-, he⟩ | ⟨-, flash, state, hstate, he, -⟩
      · rw [he] at h
        cases h
      · rw [he] at h
        subst h
        rcases hstate with hstate | hstate
        · cases hstate
        · cases hstate
    · rw [hsame, hs] at h
      cases h
  · rcases run_outside_check hs now with ⟨-, -, -, -, -, hstate⟩ | ⟨-, -, -, hstate⟩
    · simpa [h] using hstate
    · rw [h] at hstate
      cases hstate

theorem run_over {ota : OTA} (h : ota.otaState = .IDLE ∨ ota.otaState = .INVALID) (now : UInt32) :
    (ota.run now).otaState = .IDLE := by
  unfold run
  rcases h with h | h
  · simp [stalled, waitingOnSomebody, h]
  · simp [stalled, waitingOnSomebody, h]

end OTA

theorem count_answers (prev curr : OtaState) (isOwnFw : Bool) :
    let answers := (OtaCanResponse.decide prev curr isOwnFw).action.answers
    answers.count (.answer .OTA_START .NACK) = 0 ∧
    answers.count (.answer .OTA_START .ACK) = (if prev = .START ∧ curr = .STORE then 1 else 0) ∧
    answers.count (.answer .OTA_END .NACK) = if curr = .INVALID then 1 else 0 := by
  unfold OtaCanResponse.decide
  by_cases hstart : prev = .START ∧ curr = .STORE
  · simp [hstart, OtaCanResponse.Action.answers, CanFrame.answer, Response.toByte]
  rw [if_neg hstart, if_neg hstart]
  by_cases hvalid : curr = .VALID
  · simp [hvalid, OtaCanResponse.Action.answers, CanFrame.answer, Response.toByte]
  by_cases hinvalid : curr = .INVALID
  · simp [hinvalid, OtaCanResponse.Action.answers, CanFrame.answer]
  · simp [hvalid, hinvalid, OtaCanResponse.Action.answers]

namespace StartWatch

/-! ## Passes -/

variable (build : NodeBuild)

/-- Between passes the handler remembers the store's state, and a start waits for its answer while the store is in
START. -/
structure Inv (w : StartWatch) : Prop where
  last : w.handler.node.lastOtaState = w.handler.node.ota.otaState
  owed : 0 < w.owed ↔ w.handler.node.ota.otaState = .START

theorem Inv.drained {w : StartWatch} (h : w.Inv) (e : NodePass) :
    Drained e.now (w.drained build e) (w.tally build e) := by
  apply Drained.drain (h := w.handler)
  refine ⟨?_, ?_, ?_, ?_, ?_⟩
  · exact beq_iff_eq
  · intro hs
    exact h.owed.mpr (beq_iff_eq.mp hs)
  · intro howed hs
    rw [h.owed.mp howed] at hs
    cases hs
  · intro hs
    exact Or.inl (h.last.trans hs)
  · intro hlast
    exact h.owed.mpr (h.last.symm.trans hlast)

theorem count_announce (ids : IdNode) (now : UInt32) {cmd : CanCmd} {response : Response} (hcmd : cmd ≠ .ANNOUNCE) :
    (CanHandlerAtmega328P.sent (ids.announce build now).1).count (.answer cmd response) = 0 := by
  rw [List.count_eq_zero]
  intro hmem
  obtain ⟨frame, hframe, hsent⟩ := List.mem_map.mp hmem
  unfold IdNode.announce at hframe
  split at hframe
  · rw [List.mem_singleton.mp hframe] at hsent
    exact hcmd (congrArg CanFrame.cmd hsent).symm
  · cases hframe

/-- A pass puts on the bus the refusals of its frames and what the store's step calls for. -/
theorem count_run (w : StartWatch) (e : NodePass) :
    (w.handler.run build e.now e.frames).1.count (.answer .OTA_START .NACK) = (w.tally build e).refused ∧
    (w.handler.run build e.now e.frames).1.count (.answer .OTA_START .ACK) =
      (if (w.drained build e).lastOtaState = .START ∧ w.stateAfter build e = .STORE then 1 else 0) ∧
    (w.handler.run build e.now e.frames).1.count (.answer .OTA_END .NACK) =
      if w.stateAfter build e = .INVALID then 1 else 0 := by
  obtain ⟨hrefused, hack, hnack⟩ := answers_drain build ⟨w.owed, w.handler.node.ota.otaState == .START, 0⟩ w.handler
    e.now (e.frames.take CanNode.maxRxFramesPerRun)
  obtain ⟨hnone, hstart, hend⟩ := count_answers (w.drained build e).lastOtaState (w.stateAfter build e)
    ((w.drained build e).ota.run e.now).isOwnFw
  have hrun : (w.handler.run build e.now e.frames).1 =
      (w.handler.drain build e.now (e.frames.take CanNode.maxRxFramesPerRun)).1 ++
        CanHandlerAtmega328P.sent ((w.handler.drain build e.now
          (e.frames.take CanNode.maxRxFramesPerRun)).2.ids.announce build e.now).1 ++
        (OtaCanResponse.decide (w.drained build e).lastOtaState (w.stateAfter build e)
          ((w.drained build e).ota.run e.now).isOwnFw).action.answers := rfl
  simp only [hrun, List.count_append, hnone, hstart, hend, List.count_eq_zero.mpr hack,
    List.count_eq_zero.mpr hnack, count_announce build _ e.now (show CanCmd.OTA_START ≠ .ANNOUNCE by decide),
    count_announce build _ e.now (show CanCmd.OTA_END ≠ .ANNOUNCE by decide)]
  refine ⟨?_, Nat.zero_add _, Nat.zero_add _⟩
  rw [Nat.zero_add] at hrefused
  exact hrefused

theorem inv_step {w : StartWatch} (h : w.Inv) (e : NodePass) : (w.step build e).Inv := by
  have hdrained := h.drained build e
  have hnode : (w.step build e).handler.node =
    if (OtaCanResponse.decide (w.drained build e).lastOtaState (w.stateAfter build e)
      ((w.drained build e).ota.run e.now).isOwnFw).reboot then
        CanNode.restartMCU ⟨(w.drained build e).ota.run e.now, w.stateAfter build e⟩
      else ⟨(w.drained build e).ota.run e.now, w.stateAfter build e⟩ := rfl
  by_cases hstart : w.stateAfter build e = .START
  · have hstanding := hdrained.standing.mpr (OTA.run_waits hstart)
    have howed : (w.step build e).owed = (w.tally build e).owed := if_pos hstart
    have hstays : (w.step build e).handler.node = ⟨(w.drained build e).ota.run e.now, w.stateAfter build e⟩ := by
      rw [hnode, hstart]
      simp [OtaCanResponse.decide]
    refine ⟨?_, ?_⟩
    · rw [hstays]
      rfl
    · rw [hstays, howed]
      exact ⟨fun _ => hstart, fun _ => hdrained.owed hstanding⟩
  · have howed : (w.step build e).owed = 0 := if_neg hstart
    have hstate : (w.step build e).handler.node.lastOtaState = (w.step build e).handler.node.ota.otaState ∧
        (w.step build e).handler.node.ota.otaState ≠ .START := by
      rw [hnode]
      split
      · exact ⟨rfl, nofun⟩
      · exact ⟨rfl, hstart⟩
    refine ⟨hstate.1, ?_⟩
    rw [howed]
    exact ⟨nofun, fun hs => absurd hs hstate.2⟩

theorem answers_iff {due : Nat → Nat} (hnone : due 0 = 0) (hsome : ∀ owed, 0 < owed → 0 < due owed) {w : StartWatch}
    (h : w.Inv) (e : NodePass) : w.Answers build due e ↔ w.Timely build due e := by
  have hdrained := h.drained build e
  obtain ⟨hrefused, hack, hnack⟩ := w.count_run build e
  unfold Answers Timely
  simp only [hrefused, hack, hnack, true_and]
  constructor
  · rintro ⟨hacks, hnacks⟩ howed
    have hnacks := hnacks howed
    have hdue := hsome _ howed
    by_cases hstanding : (w.tally build e).standing = true
    swap
    · exfalso
      have hover : w.stateAfter build e = .IDLE :=
        OTA.run_over (hdrained.lost howed (Bool.not_eq_true _ ▸ hstanding)) e.now
      simp only [hover, reduceCtorEq, or_self, if_false] at hnacks
      exact absurd hnacks.symm (Nat.ne_of_gt hdue)
    refine ⟨hstanding, ?_⟩
    intro hdecided
    have hstate := hdrained.standing.mp hstanding
    rcases OTA.run_start hstate e.now with ⟨hstalled, hafter⟩ | ⟨-, -, hafter⟩ | ⟨hstalled, hbusy, -⟩
    · have hafter : w.stateAfter build e = .INVALID := hafter
      simp only [hafter, reduceCtorEq, or_self, if_false, if_true] at hnacks
      refine ⟨hnacks.symm, ?_⟩
      rcases hdrained.fresh hstate with hlast | htimer
      · exact hlast
      · simp [OTA.stalled, htimer, Time.hasElapsed_self] at hstalled
    · have hafter : w.stateAfter build e = .STORE := hafter
      simp only [hafter, and_true, if_true] at hacks
      by_cases hlast : (w.drained build e).lastOtaState = .START
      · rw [if_pos hlast] at hacks
        exact ⟨hacks.symm, hlast⟩
      · rw [if_neg hlast] at hacks
        exact absurd hacks.symm (Nat.ne_of_gt hdue)
    · simp [hstalled, hbusy] at hdecided
  · intro htimely
    by_cases howed : 0 < (w.tally build e).owed
    swap
    · have hlast : (w.drained build e).lastOtaState ≠ .START := fun hlast => howed (hdrained.before hlast)
      have hzero : (w.tally build e).owed = 0 := Nat.eq_zero_of_not_pos howed
      simp [hlast, hzero, hnone]
    obtain ⟨hstanding, hdecided⟩ := htimely howed
    rcases OTA.run_start (hdrained.standing.mp hstanding) e.now with
      ⟨hstalled, hafter⟩ | ⟨hstalled, hready, hafter⟩ | ⟨hstalled, hbusy, hafter⟩
    · have hafter : w.stateAfter build e = .INVALID := hafter
      simp [hafter, (hdecided (Or.inl hstalled)).1]
    · have hafter : w.stateAfter build e = .STORE := hafter
      obtain ⟨hdue, hlast⟩ := hdecided (Or.inr hready)
      simp [hafter, hdue, hlast]
    · have hafter : w.stateAfter build e = .START := hafter
      simp [hafter]

/-- Over any passes, every OTA_START is answered once exactly when the passes are timely, whether each of several
granted before the first is answered is counted or the last of them only; and no start is owed an answer after a
pass in which its time is up. -/
theorem start_answered_iff (build : NodeBuild) (stored : Option CanId) (flash : SPIFlash) (es : List NodePass) :
    (Meets (step build) (Answers build toEach) (init build stored flash) es ↔
      Meets (step build) (Timely build toEach) (init build stored flash) es) ∧
    (Meets (step build) (Answers build toLast) (init build stored flash) es ↔
      Meets (step build) (Timely build toLast) (init build stored flash) es) ∧
    ∀ e, Time.hasElapsed e.now ((run (step build) (init build stored flash) es).drained build e).ota.stallTimer
        OTA.stallTimeoutTime = true →
      ((run (step build) (init build stored flash) es).step build e).owed = 0 := by
  have hinit : (init build stored flash).Inv := ⟨rfl, nofun, nofun⟩
  refine ⟨?_, ?_, ?_⟩
  · apply meets_congr (I := Inv) (fun w e h _ => inv_step build h e) _ es hinit
    intro w e h
    exact answers_iff build rfl (fun _ howed => howed) h e
  · apply meets_congr (I := Inv) (fun w e h _ => inv_step build h e) _ es hinit
    intro w e h
    exact answers_iff build rfl (fun _ howed => Nat.lt_min.mpr ⟨howed, Nat.one_pos⟩) h e
  · intro e helapsed
    apply if_neg
    intro hafter
    have hstate := OTA.run_waits hafter
    have hstalled : ((run (step build) (init build stored flash) es).drained build e).ota.stalled e.now = true := by
      simp [OTA.stalled, OTA.waitingOnSomebody, hstate, helapsed]
    rcases OTA.run_start hstate e.now with ⟨-, hgaveUp⟩ | ⟨hnot, -⟩ | ⟨hnot, -⟩
    · cases hafter.symm.trans hgaveUp
    · rw [hstalled] at hnot
      cases hnot
    · rw [hstalled] at hnot
      cases hnot

def readyFlash : SPIFlash := ⟨Nor.erased, 20, fun _ => true, []⟩

def addressedBuild : NodeBuild := ⟨Vector.replicate 8 0, 1⟩

def oneStart : NodePass := ⟨0, [⟨⟨5, .OTA_START, 1, OtaCanFrame.packStart ⟨1, 1, 0⟩⟩, false⟩]⟩

/-- The store grants the OTA_START and the chip is ready again at once: the pass does not answer. -/
theorem start_unanswered :
    ¬ ∀ (build : NodeBuild) (stored : Option CanId) (flash : SPIFlash) (es : List NodePass),
      Meets (step build) (Answers build toLast) (init build stored flash) es := by
  intro h
  let w := init addressedBuild (some ⟨1, 5⟩) readyFlash
  have hack : (w.handler.run addressedBuild oneStart.now oneStart.frames).1.count (.answer .OTA_START .ACK) =
      if w.stateAfter addressedBuild oneStart = .STORE then toLast (w.tally addressedBuild oneStart).owed else 0 :=
    (h addressedBuild (some ⟨1, 5⟩) readyFlash [oneStart]).1.2.1
  have hsilent : (w.handler.run addressedBuild oneStart.now oneStart.frames).1 = [] := by decide +kernel
  have hready : w.stateAfter addressedBuild oneStart = .STORE := by decide +kernel
  have howed : (w.tally addressedBuild oneStart).owed = 1 := by decide +kernel
  rw [hsilent, hready, howed] at hack
  cases hack

end StartWatch

end CanSystems
