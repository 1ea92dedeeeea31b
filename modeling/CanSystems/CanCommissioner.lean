import CanSystems.CanIdAssign

/-!
# Giving an address to a node that has none

Such a node announces its unique id from an address it derived. The gateway
keeps what it heard, and hands an address on when told to; the node stores it
and restarts. What the EEPROM holds is what its next load gives: a record that
was not written in full fails its check.
-/

namespace CanSystems

structure CanId where
  masterCanId : UInt16
  localCanId : UInt16
  deriving DecidableEq, Repr

/-! ## The node -/

/-- What a node is built with: its flash's unique id and the master of its build. -/
structure NodeBuild where
  uid : Uid
  masterCanAddress : UInt16
  deriving DecidableEq, Repr

structure IdNode where
  stored : Option CanId
  canId : CanId
  addressed : Bool
  announceTimer : UInt32
  deriving DecidableEq, Repr

namespace IdNode

def announceTime : UInt32 := Time.secToMs 5

def masked (id : CanId) : CanId := ⟨id.masterCanId &&& CanIdAssign.idMask, id.localCanId &&& CanIdAssign.idMask⟩

def init (build : NodeBuild) : Option CanId → IdNode
  | some canId => ⟨some canId, canId, true, 0⟩
  | none => ⟨none, masked ⟨build.masterCanAddress, CanIdAssign.provisionalId build.uid⟩, false, 0⟩

def restartMCU (build : NodeBuild) (node : IdNode) : IdNode := init build node.stored

def send (node : IdNode) (frame : CanFrame) : BusFrame :=
  ⟨node.canId.masterCanId &&& CanIdAssign.idMask, frame.cmd, node.canId.localCanId &&& CanIdAssign.idMask,
    frame.data⟩

def hears (node : IdNode) (frame : BusFrame) : Bool :=
  frame.receiver == node.canId.localCanId &&& CanIdAssign.idMask

/-- The SET_CAN_ID case; `saved` says whether the record reads back as it was written. -/
def handleSetCanId (build : NodeBuild) (node : IdNode) (frame : BusFrame) (saved : Bool) : List BusFrame × IdNode :=
  let request := CanIdAssign.unpack frame.data
  if CanIdAssign.isAcceptable request node.canId.localCanId node.canId.masterCanId frame.sender = false then
    ([node.send (.answer .SET_CAN_ID .NACK)], node)
  else if saved then
    ([node.send (.answer .SET_CAN_ID .ACK)],
      { node with stored := some (masked ⟨node.canId.masterCanId, request.newLocal⟩) }.restartMCU build)
  else ([node.send (.answer .SET_CAN_ID .NACK)], { node with stored := none })

def announce (build : NodeBuild) (node : IdNode) (now : UInt32) : List BusFrame × IdNode :=
  if node.addressed = false ∧ Time.hasElapsed now node.announceTimer announceTime then
    ([node.send ⟨.ANNOUNCE, build.uid⟩], { node with announceTimer := now })
  else ([], node)

end IdNode

/-! ## The gateway -/

structure Waiting where
  uid : Uid
  provisionalId : UInt16
  lastHeard : UInt32
  inUse : Bool
  deriving DecidableEq, Repr

structure CanCommissioner where
  waiting : Vector Waiting 4
  deriving DecidableEq, Repr

/-- What `assign` asks of the handler: which ids its devices answer on, and whether the transmit queue has room. -/
structure AssignIo where
  isClientIdRegistered : UInt16 → Bool
  queued : Bool

namespace CanCommissioner

def forgetTime : UInt32 := Time.secToMs 30

def init : CanCommissioner := ⟨Vector.replicate 4 ⟨Vector.replicate 8 0, 0, 0, false⟩⟩

def hexDigit (c : Char) : Option UInt8 :=
  if '0' ≤ c ∧ c ≤ '9' then some (UInt8.ofNat (c.toNat - '0'.toNat)) else
  if 'a' ≤ c ∧ c ≤ 'f' then some (UInt8.ofNat (c.toNat - 'a'.toNat + 10)) else
  if 'A' ≤ c ∧ c ≤ 'F' then some (UInt8.ofNat (c.toNat - 'A'.toNat + 10)) else none

/-- So many bytes off the front of the text, and the text behind them. -/
def parseBytes : Nat → List Char → Option (List UInt8 × List Char)
  | 0, cursor => some ([], cursor)
  | n + 1, hi :: lo :: cursor =>
    match hexDigit hi, hexDigit lo, parseBytes n cursor with
    | some hi, some lo, some (bytes, cursor) => some (((hi <<< 4) ||| lo) :: bytes, cursor)
    | _, _, _ => none
  | _ + 1, _ => none

def parseUid : Option String → Option Uid
  | none => none
  | some hex =>
    match parseBytes 8 hex.toList with
    | some (bytes, []) => some (Vector.ofFn fun i => bytes.getD i.val 0)
    | _ => none

def run (c : CanCommissioner) (now : UInt32) : CanCommissioner :=
  ⟨c.waiting.map fun entry =>
    if entry.inUse && Time.hasElapsed now entry.lastHeard forgetTime then { entry with inUse := false } else entry⟩

/-- The search of `noteAnnouncement` over the slots left: the node's own slot, or else the first that is free, or
else the one heard from longest ago. -/
def findSlot (c : CanCommissioner) (uid : Uid) (now : UInt32) : List (Fin 4) → Option (Fin 4) → Fin 4 → Fin 4
  | [], slot, oldest => slot.getD oldest
  | i :: rest, slot, oldest =>
    let entry := c.waiting[i]
    if entry.inUse && entry.uid == uid then i else
    let slot := if entry.inUse then slot else slot.or (some i)
    let oldest :=
      if Time.elapsedSince now entry.lastHeard > Time.elapsedSince now c.waiting[oldest].lastHeard then i else
        oldest
    c.findSlot uid now rest slot oldest

theorem zero_lt_waiting : 0 < 4 := by decide

def noteAnnouncement (c : CanCommissioner) (frame : BusFrame) (now : UInt32) : CanCommissioner :=
  if frame.cmd ≠ .ANNOUNCE then c else
  if CanIdAssign.isProvisionalId frame.sender = false then c else
  let slot := c.findSlot frame.data now (List.finRange 4) none ⟨0, zero_lt_waiting⟩
  ⟨c.waiting.set slot ⟨frame.data, frame.sender, now, true⟩⟩

def assign (c : CanCommissioner) (canId : CanId) (io : AssignIo) (uidHex : Option String) (newLocalCanId : UInt16) :
    Bool × List BusFrame :=
  match parseUid uidHex with
  | none => (false, [])
  | some uid =>
    if CanIdAssign.isAssignableId newLocalCanId = false then (false, []) else
    let reservedHere := newLocalCanId == canId.localCanId || newLocalCanId == canId.masterCanId
    if reservedHere || io.isClientIdRegistered newLocalCanId then (false, []) else
    match c.waiting.toList.find? fun entry => entry.inUse && entry.uid == uid with
    | none => (false, [])
    | some entry =>
      let canData := CanIdAssign.pack ⟨entry.provisionalId, newLocalCanId, false⟩
      let frame : BusFrame := ⟨entry.provisionalId &&& CanIdAssign.idMask, .SET_CAN_ID,
        canId.localCanId &&& CanIdAssign.idMask, canData⟩
      (io.queued, if io.queued then [frame] else [])

example : parseUid (some "1122334455667788") = some #v[0x11, 0x22, 0x33, 0x44, 0x55, 0x66, 0x77, 0x88] ∧
    parseUid (some "11223344556677zz") = none ∧ parseUid (some "11223344556677889") = none := by decide +kernel

/-! ## What the calls can do -/

/-- A request goes out for a node that is waiting, to the address it is waiting on. -/
theorem assign_cases (c : CanCommissioner) (canId : CanId) (io : AssignIo) (uidHex : Option String)
    (newLocalCanId : UInt16) :
    (c.assign canId io uidHex newLocalCanId).2 = [] ∨
    ∃ entry ∈ c.waiting, entry.inUse = true ∧ parseUid uidHex = some entry.uid ∧
      CanIdAssign.isAssignableId newLocalCanId = true ∧
      (c.assign canId io uidHex newLocalCanId).2 =
        [⟨entry.provisionalId &&& CanIdAssign.idMask, .SET_CAN_ID, canId.localCanId &&& CanIdAssign.idMask,
          CanIdAssign.pack ⟨entry.provisionalId, newLocalCanId, false⟩⟩] := by
  unfold assign
  split
  · exact Or.inl rfl
  rename_i uid huid
  split
  · exact Or.inl rfl
  rename_i hassignable
  simp only
  split
  · exact Or.inl rfl
  split
  · exact Or.inl rfl
  rename_i entry hfind
  have hmem := List.mem_of_find?_eq_some hfind
  have hentry := List.find?_some hfind
  simp only [Bool.and_eq_true, beq_iff_eq] at hentry
  by_cases hq : io.queued = true
  · right
    refine ⟨entry, by simpa using hmem, hentry.1, ?_, by simpa using hassignable, ?_⟩
    · rw [huid, hentry.2]
    · rw [if_pos hq]
  · left
    rw [if_neg hq]

/-- Every entry after an announcement was there before, or holds what the frame said. -/
theorem mem_noteAnnouncement {c : CanCommissioner} {frame : BusFrame} {now : UInt32} {entry : Waiting}
    (h : entry ∈ (c.noteAnnouncement frame now).waiting) :
    entry ∈ c.waiting ∨ (frame.cmd = .ANNOUNCE ∧ entry = ⟨frame.data, frame.sender, now, true⟩) := by
  unfold noteAnnouncement at h
  split at h
  · exact Or.inl h
  rename_i hcmd
  split at h
  · exact Or.inl h
  obtain ⟨i, hi, rfl⟩ := Vector.mem_iff_getElem.mp h
  rw [Vector.getElem_set]
  split
  · exact Or.inr ⟨not_not.mp hcmd, rfl⟩
  · exact Or.inl (Vector.getElem_mem hi)

theorem mem_run {c : CanCommissioner} {now : UInt32} {entry : Waiting} (h : entry ∈ (c.run now).waiting) :
    entry ∈ c.waiting ∨ entry.inUse = false := by
  unfold run at h
  obtain ⟨before, hbefore, rfl⟩ := Vector.mem_map.mp h
  split
  · exact Or.inr rfl
  · exact Or.inl hbefore

end CanCommissioner

end CanSystems
