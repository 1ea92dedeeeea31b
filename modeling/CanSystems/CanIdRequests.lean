import CanSystems.CanCommissioner
import Mathlib.Algebra.Group.Nat.Defs

/-!
# The two ends of SET_CAN_ID

Two callers of the gateway ask a node to change its address: the commissioner,
for a node on an address it gave itself, and a device's driver, for its own
node. Each has its own test of what may be asked for, the node has a third, and
between them stand the payload and the 29-bit identifier of the frame. Whatever
is sent is accepted by the node it names (`request_agreed`), and a node accepts
nothing but what its master may ask.
-/

namespace CanSystems

def CanCmd.value : CanCmd → UInt16
  | .PING => 0
  | .RESTART => 1
  | .FW_VERSION => 2
  | .BUTTON_EVENT => 3
  | .OTA_START => 4
  | .OTA_SEND => 5
  | .OTA_END => 6
  | .RGB_LED => 7
  | .ROUND_TIME_MAX => 8
  | .SET_CAN_ID => 9
  | .ANNOUNCE => 10
  | .driver value => value

/-! ## The identifier -/

structure ExtFrame where
  extId : UInt32
  data : CanData
  deriving DecidableEq, Repr

namespace ExtFrame

/-- The source's constructor of a `CanFrame`: 10, 9 and 10 bits. -/
def pack (receiver cmd sender : UInt16) (canData : CanData) : ExtFrame where
  extId := (receiver.toUInt32 &&& (0x3FF : UInt32)) ||| ((cmd.toUInt32 &&& (0x1FF : UInt32)) <<< (10 : UInt32)) |||
    ((sender.toUInt32 &&& (0x3FF : UInt32)) <<< (19 : UInt32))
  data := canData

def receiver (frame : ExtFrame) : UInt16 := (frame.extId &&& (0x3FF : UInt32)).toUInt16

def cmd (frame : ExtFrame) : UInt16 := ((frame.extId >>> (10 : UInt32)) &&& (0x1FF : UInt32)).toUInt16

def sender (frame : ExtFrame) : UInt16 := ((frame.extId >>> (19 : UInt32)) &&& (0x3FF : UInt32)).toUInt16

theorem toNat_pack (receiver cmd sender : UInt16) (canData : CanData) :
    (pack receiver cmd sender canData).extId.toNat =
      receiver.toNat % 2 ^ 10 + cmd.toNat % 2 ^ 9 * 2 ^ 10 + sender.toNat % 2 ^ 10 * 2 ^ 19 := by
  have hreceiver : (receiver.toUInt32 &&& 0x3FF).toNat = receiver.toNat % 2 ^ 10 := by
    rw [UInt32.toNat_and, UInt16.toNat_toUInt32]
    exact Nat.and_two_pow_sub_one_eq_mod _ 10
  have hcmd : (cmd.toUInt32 &&& 0x1FF).toNat = cmd.toNat % 2 ^ 9 := by
    rw [UInt32.toNat_and, UInt16.toNat_toUInt32]
    exact Nat.and_two_pow_sub_one_eq_mod _ 9
  have hsender : (sender.toUInt32 &&& 0x3FF).toNat = sender.toNat % 2 ^ 10 := by
    rw [UInt32.toNat_and, UInt16.toNat_toUInt32]
    exact Nat.and_two_pow_sub_one_eq_mod _ 10
  have hten : receiver.toNat % 2 ^ 10 < 2 ^ 10 := Nat.mod_lt _ (by decide)
  have hnine : cmd.toNat % 2 ^ 9 < 2 ^ 9 := Nat.mod_lt _ (by decide)
  have hlast : sender.toNat % 2 ^ 10 < 2 ^ 10 := Nat.mod_lt _ (by decide)
  have hshift : (cmd.toNat % 2 ^ 9) <<< 10 % 2 ^ 32 = cmd.toNat % 2 ^ 9 * 2 ^ 10 := by
    rw [Nat.shiftLeft_eq]
    omega
  have hshift' : (sender.toNat % 2 ^ 10) <<< 19 % 2 ^ 32 = sender.toNat % 2 ^ 10 * 2 ^ 19 := by
    rw [Nat.shiftLeft_eq]
    omega
  have hlow : receiver.toNat % 2 ^ 10 ||| cmd.toNat % 2 ^ 9 * 2 ^ 10 =
      receiver.toNat % 2 ^ 10 + cmd.toNat % 2 ^ 9 * 2 ^ 10 := by
    rw [Nat.or_comm, Nat.mul_comm, ← Nat.two_pow_add_eq_or_of_lt hten]
    omega
  have hhigh : receiver.toNat % 2 ^ 10 + cmd.toNat % 2 ^ 9 * 2 ^ 10 ||| sender.toNat % 2 ^ 10 * 2 ^ 19 =
      receiver.toNat % 2 ^ 10 + cmd.toNat % 2 ^ 9 * 2 ^ 10 + sender.toNat % 2 ^ 10 * 2 ^ 19 := by
    rw [Nat.or_comm, Nat.mul_comm (sender.toNat % 2 ^ 10), ← Nat.two_pow_add_eq_or_of_lt (by omega)]
    omega
  simp only [pack, UInt32.toNat_or, UInt32.toNat_shiftLeft, hreceiver, hcmd, hsender]
  show receiver.toNat % 2 ^ 10 ||| (cmd.toNat % 2 ^ 9) <<< 10 % 2 ^ 32 ||| (sender.toNat % 2 ^ 10) <<< 19 % 2 ^ 32 =
    _
  rw [hshift, hshift', hlow, hhigh]

theorem toNat_receiver (frame : ExtFrame) : frame.receiver.toNat = frame.extId.toNat % 2 ^ 10 := by
  rw [receiver, UInt32.toNat_toUInt16, UInt32.toNat_and]
  rw [show (0x3FF : UInt32).toNat = 2 ^ 10 - 1 from rfl, Nat.and_two_pow_sub_one_eq_mod]
  omega

theorem toNat_cmd (frame : ExtFrame) : frame.cmd.toNat = frame.extId.toNat / 2 ^ 10 % 2 ^ 9 := by
  rw [cmd, UInt32.toNat_toUInt16, UInt32.toNat_and, UInt32.toNat_shiftRight]
  rw [show (0x1FF : UInt32).toNat = 2 ^ 9 - 1 from rfl, Nat.and_two_pow_sub_one_eq_mod,
    show (10 : UInt32).toNat % 32 = 10 from rfl, Nat.shiftRight_eq_div_pow]
  omega

theorem toNat_sender (frame : ExtFrame) : frame.sender.toNat = frame.extId.toNat / 2 ^ 19 % 2 ^ 10 := by
  rw [sender, UInt32.toNat_toUInt16, UInt32.toNat_and, UInt32.toNat_shiftRight]
  rw [show (0x3FF : UInt32).toNat = 2 ^ 10 - 1 from rfl, Nat.and_two_pow_sub_one_eq_mod,
    show (19 : UInt32).toNat % 32 = 19 from rfl, Nat.shiftRight_eq_div_pow]
  omega

theorem toNat_masked (id : UInt16) : (id &&& CanIdAssign.idMask).toNat = id.toNat % 2 ^ 10 := by
  rw [UInt16.toNat_and]
  exact Nat.and_two_pow_sub_one_eq_mod _ 10

/-! ## What a frame says of its ends -/

@[simp] theorem receiver_pack (receiver cmd sender : UInt16) (canData : CanData) :
    (pack receiver cmd sender canData).receiver = receiver &&& CanIdAssign.idMask := by
  apply UInt16.toNat_inj.mp
  rw [toNat_receiver, toNat_pack, toNat_masked]
  omega

theorem cmd_pack {receiver cmd sender : UInt16} {canData : CanData} (h : cmd.toNat < 2 ^ 9) :
    (pack receiver cmd sender canData).cmd = cmd := by
  apply UInt16.toNat_inj.mp
  rw [toNat_cmd, toNat_pack]
  omega

@[simp] theorem sender_pack (receiver cmd sender : UInt16) (canData : CanData) :
    (pack receiver cmd sender canData).sender = sender &&& CanIdAssign.idMask := by
  apply UInt16.toNat_inj.mp
  rw [toNat_sender, toNat_pack, toNat_masked]
  omega

@[simp] theorem data_pack (receiver cmd sender : UInt16) (canData : CanData) :
    (pack receiver cmd sender canData).data = canData := rfl

end ExtFrame

theorem ExtFrame.pack_masked (receiver cmd sender : UInt16) (canData : CanData) :
    pack (receiver &&& CanIdAssign.idMask) cmd (sender &&& CanIdAssign.idMask) canData =
      pack receiver cmd sender canData := by
  have hid : (pack (receiver &&& CanIdAssign.idMask) cmd (sender &&& CanIdAssign.idMask) canData).extId =
      (pack receiver cmd sender canData).extId := by
    apply UInt32.toNat_inj.mp
    rw [toNat_pack, toNat_pack, toNat_masked, toNat_masked]
    omega
  exact congrArg (fun extId => (⟨extId, canData⟩ : ExtFrame)) hid

def BusFrame.onWire (frame : BusFrame) : ExtFrame := .pack frame.receiver frame.cmd.value frame.sender frame.data

/-- The frame as the switch of the node's receive handler reads it, when it is a SET_CAN_ID. -/
def ExtFrame.setCanId (frame : ExtFrame) : Option BusFrame :=
  if frame.cmd = CanCmd.SET_CAN_ID.value then some ⟨frame.receiver, .SET_CAN_ID, frame.sender, frame.data⟩ else none

theorem ExtFrame.setCanId_pack (receiver sender : UInt16) (canData : CanData) :
    (pack receiver CanCmd.SET_CAN_ID.value sender canData).setCanId =
      some ⟨receiver &&& CanIdAssign.idMask, .SET_CAN_ID, sender &&& CanIdAssign.idMask, canData⟩ := by
  rw [setCanId, if_pos (cmd_pack (by decide)), receiver_pack, sender_pack, data_pack]

/-! ## The node -/

namespace IdNode

/-- Both ids fit the ten bits of the identifier, those it runs on and those it stored. -/
structure TenBit (node : IdNode) : Prop where
  canId : masked node.canId = node.canId
  stored : ∀ ids ∈ node.stored, masked ids = ids

theorem masked_masked (ids : CanId) : masked (masked ids) = masked ids := by
  simp only [masked, UInt16.and_assoc, UInt16.and_self]

theorem tenBit_init (build : NodeBuild) {stored : Option CanId} (h : ∀ ids ∈ stored, masked ids = ids) :
    (init build stored).TenBit := by
  cases stored with
  | some ids => exact ⟨h ids rfl, h⟩
  | none => exact ⟨masked_masked _, h⟩

def Accepts (node : IdNode) (frame : ExtFrame) : Prop :=
  ∃ request, frame.setCanId = some request ∧ node.hears request = true ∧
    CanIdAssign.isAcceptable (CanIdAssign.unpack request.data) node.canId.localCanId node.canId.masterCanId
      request.sender = true

/-- A request that is not obeyed is answered with a refusal, and leaves the node as it was. -/
theorem handleSetCanId_refused (build : NodeBuild) {node : IdNode} {frame : BusFrame} (saved : Bool)
    (h : CanIdAssign.isAcceptable (CanIdAssign.unpack frame.data) node.canId.localCanId node.canId.masterCanId
      frame.sender = false) :
    node.handleSetCanId build frame saved = ([node.send (.answer .SET_CAN_ID .NACK)], node) := if_pos h

theorem accepts_pack {node : IdNode} (h : node.TenBit) {newLocal : UInt16}
    (hnew : CanIdAssign.isAssignableId newLocal = true) (hmaster : newLocal ≠ node.canId.masterCanId) :
    node.Accepts (.pack node.canId.localCanId CanCmd.SET_CAN_ID.value node.canId.masterCanId
      (CanIdAssign.pack ⟨node.canId.localCanId, newLocal, false⟩)) := by
  refine ⟨_, ExtFrame.setCanId_pack _ _ _, by simp [hears], ?_⟩
  rw [CanIdAssign.isAcceptable_iff, CanIdAssign.unpack_pack]
  exact ⟨congrArg CanId.masterCanId h.canId, rfl, rfl, hnew, hmaster⟩

end IdNode

/-! ## The gateway -/

/-- The ids the gateway's handler runs on, and the client ids of the devices on its list. -/
structure CanHandlerEsp32 where
  canId : CanId
  deviceList : List UInt16
  deriving DecidableEq, Repr

/-- What the start asks: the ids of the build to be stored, what the EEPROM holds, whether a store reads back, and
whether the queues, the controller, its filter and the device list answer. -/
structure HandlerIo where
  newIds : Option CanId
  stored : Option CanId
  saved : Bool
  ready : Bool
  deriving DecidableEq, Repr

namespace CanHandlerEsp32

def new : CanHandlerEsp32 := ⟨⟨0, 0⟩, []⟩

def isClientCanIdValid (handler : CanHandlerEsp32) (clientCanId : UInt16) : Bool :=
  clientCanId != handler.canId.localCanId && clientCanId != handler.canId.masterCanId

/-- The constructor of a device: an id the handler takes is put on its list. -/
def registerDevice (handler : CanHandlerEsp32) (clientCanId : UInt16) : CanHandlerEsp32 :=
  if handler.isClientCanIdValid clientCanId then
    { handler with deviceList := handler.deviceList ++ [clientCanId] }
  else handler

/-- `loadCanIds`, after the ids of the build were saved if it has any. -/
def loadCanIds (io : HandlerIo) : Option CanId :=
  match io.newIds with
  | some ids => if io.saved then some (IdNode.masked ids) else none
  | none => io.stored

/-- The start: it fails when a device on the list claims one of the handler's own ids. -/
def init (handler : CanHandlerEsp32) (io : HandlerIo) : Bool × CanHandlerEsp32 :=
  match loadCanIds io with
  | none => (false, handler)
  | some canId =>
    let handler := { handler with canId := canId }
    (io.ready && handler.deviceList.all handler.isClientCanIdValid, handler)

/-- A device on the list holds the id; `readable` says whether the list could be looked at. -/
def isClientIdRegistered (handler : CanHandlerEsp32) (readable : Bool) (clientCanId : UInt16) : Bool :=
  if readable = false then true else handler.deviceList.contains clientCanId

def isClientCanIdFree (handler : CanHandlerEsp32) (readable : Bool) (candidateCanId : UInt16) : Bool :=
  handler.isClientCanIdValid candidateCanId && !handler.isClientIdRegistered readable candidateCanId

/-- `CanMqttGateway::requestCanIdChange` of the device with the client id; `queued` says whether the transmit queue
has room. -/
def requestCanIdChange (handler : CanHandlerEsp32) (readable queued : Bool) (clientCanId newLocalCanId : UInt16) :
    Bool × List ExtFrame :=
  let addressIsAlreadyMine := newLocalCanId == clientCanId
  if !CanIdAssign.isAssignableId newLocalCanId ||
      (!addressIsAlreadyMine && !handler.isClientCanIdFree readable newLocalCanId) then (false, [])
  else
    let canData := CanIdAssign.pack ⟨clientCanId, newLocalCanId, false⟩
    let frame := ExtFrame.pack clientCanId CanCmd.SET_CAN_ID.value handler.canId.localCanId canData
    (queued, if queued then [frame] else [])

/-- The devices are globals: they are constructed before the start reads the ids. -/
def start (clientIds : List UInt16) (io : HandlerIo) : Bool × CanHandlerEsp32 :=
  (clientIds.foldl registerDevice new).init io

theorem mem_registerDevices {clientIds : List UInt16} {handler : CanHandlerEsp32} {id : UInt16}
    (h : id ∈ handler.deviceList ∨ id ∈ clientIds) :
    id ∈ (clientIds.foldl registerDevice handler).deviceList ∨ handler.isClientCanIdValid id = false := by
  induction clientIds generalizing handler with
  | nil =>
    rcases h with h | h
    · exact Or.inl h
    · cases h
  | cons clientId clientIds ih =>
    have hids : (handler.registerDevice clientId).canId = handler.canId := by
      unfold registerDevice
      split
      all_goals rfl
    have hvalid : (handler.registerDevice clientId).isClientCanIdValid id = handler.isClientCanIdValid id := by
      rw [isClientCanIdValid, hids]
      rfl
    rw [List.foldl_cons, ← hvalid]
    by_cases hid : id ∈ (handler.registerDevice clientId).deviceList ∨ id ∈ clientIds
    · exact ih hid
    right
    rw [hvalid]
    by_contra hnot
    rw [Bool.not_eq_false] at hnot
    apply hid
    rcases h with h | h
    · left
      unfold registerDevice
      split
      · exact List.mem_append_left _ h
      · exact h
    · rcases List.mem_cons.mp h with rfl | h
      · left
        rw [registerDevice, if_pos hnot]
        exact List.mem_append_right _ (List.mem_singleton.mpr rfl)
      · exact Or.inr h

/-- On a gateway that is up, no device whose id can be given out has the gateway's own. -/
theorem start_client {clientIds : List UInt16} {io : HandlerIo} {handler : CanHandlerEsp32}
    (hstart : start clientIds io = (true, handler)) {clientCanId : UInt16} (hclient : clientCanId ∈ clientIds)
    (hassignable : CanIdAssign.isAssignableId clientCanId = true) : clientCanId ≠ handler.canId.localCanId := by
  have hlisted : clientCanId ∈ (clientIds.foldl registerDevice new).deviceList := by
    rcases mem_registerDevices (show _ ∈ new.deviceList ∨ _ from Or.inr hclient) with h | h
    · exact h
    · have hne := (CanIdAssign.isAssignableId_iff.mp hassignable).1
      simp [isClientCanIdValid, new, hne] at h
  unfold start init at hstart
  split at hstart
  · cases hstart
  simp only [Prod.mk.injEq, Bool.and_eq_true, List.all_eq_true] at hstart
  obtain ⟨⟨-, hall⟩, rfl⟩ := hstart
  have hvalid := hall clientCanId hlisted
  simp only [isClientCanIdValid, Bool.and_eq_true, bne_iff_ne] at hvalid
  exact hvalid.1

/-- What a driver asks for is sent to its node, and is an address other than the gateway's. -/
theorem requestCanIdChange_cases {handler : CanHandlerEsp32} {readable queued : Bool}
    {clientCanId newLocalCanId : UInt16} {frame : ExtFrame}
    (h : frame ∈ (handler.requestCanIdChange readable queued clientCanId newLocalCanId).2) :
    frame = .pack clientCanId CanCmd.SET_CAN_ID.value handler.canId.localCanId
        (CanIdAssign.pack ⟨clientCanId, newLocalCanId, false⟩) ∧
      CanIdAssign.isAssignableId newLocalCanId = true ∧
      (newLocalCanId = clientCanId ∨ newLocalCanId ≠ handler.canId.localCanId) := by
  unfold requestCanIdChange at h
  simp only at h
  split at h
  · cases h
  rename_i hfree
  simp only at h
  split at h
  swap
  · cases h
  refine ⟨List.mem_singleton.mp h, ?_, ?_⟩
  · by_contra hnot
    simp [hnot] at hfree
  · by_cases hmine : newLocalCanId = clientCanId
    · exact Or.inl hmine
    · right
      rintro rfl
      simp [hmine, isClientCanIdFree, isClientCanIdValid] at hfree

end CanHandlerEsp32

/-- What the commissioner sends goes to the address its entry waits on, and gives out none of the gateway's own. -/
theorem CanCommissioner.assign_sent {c : CanCommissioner} {canId : CanId} {io : AssignIo} {uidHex : Option String}
    {newLocalCanId : UInt16} {frame : BusFrame} (h : frame ∈ (c.assign canId io uidHex newLocalCanId).2) :
    ∃ provisionalId, frame.onWire = .pack provisionalId CanCmd.SET_CAN_ID.value canId.localCanId
        (CanIdAssign.pack ⟨provisionalId, newLocalCanId, false⟩) ∧
      CanIdAssign.isAssignableId newLocalCanId = true ∧ newLocalCanId ≠ canId.localCanId := by
  have hreserved : newLocalCanId ≠ canId.localCanId := by
    rintro rfl
    unfold assign at h
    split at h
    · cases h
    split at h
    · cases h
    · simp at h
  rcases c.assign_cases canId io uidHex newLocalCanId with hnone | ⟨entry, -, -, -, hassignable, hsent⟩
  · rw [hnone] at h
    cases h
  · rw [hsent] at h
    obtain rfl := List.mem_singleton.mp h
    exact ⟨entry.provisionalId, ExtFrame.pack_masked _ _ _ _, hassignable, hreserved⟩

/-! ## Agreement -/

/-- A gateway that is up, and is the master of a node, sends no request the node would refuse while it holds the
address the request names; and what a node does not refuse came from its master, named its address, left the
reserved bytes zero and asked for an address that can be given out and is not the master's. -/
theorem request_agreed :
    (∀ (clientIds : List UInt16) (io : HandlerIo) (handler : CanHandlerEsp32) (node : IdNode),
      CanHandlerEsp32.start clientIds io = (true, handler) → node.TenBit →
      node.canId.masterCanId = handler.canId.localCanId →
      (∀ (c : CanCommissioner) (assignIo : AssignIo) (uidHex : Option String) (newLocal : UInt16),
        ∀ frame ∈ (c.assign handler.canId assignIo uidHex newLocal).2,
          (CanIdAssign.unpack frame.onWire.data).expectedLocal = node.canId.localCanId →
            node.Accepts frame.onWire) ∧
      (∀ clientCanId ∈ clientIds, ∀ (readable queued : Bool) (newLocal : UInt16),
        ∀ frame ∈ (handler.requestCanIdChange readable queued clientCanId newLocal).2,
          (CanIdAssign.unpack frame.data).expectedLocal = node.canId.localCanId → node.Accepts frame)) ∧
    ∀ (build : NodeBuild) (node : IdNode) (frame : ExtFrame) (request : BusFrame) (saved : Bool),
      frame.setCanId = some request →
      node.handleSetCanId build request saved ≠ ([node.send (.answer .SET_CAN_ID .NACK)], node) →
      frame.sender = node.canId.masterCanId ∧
      (CanIdAssign.unpack frame.data).expectedLocal = node.canId.localCanId ∧
      (frame.data.get 4 = 0 ∧ frame.data.get 5 = 0 ∧ frame.data.get 6 = 0 ∧ frame.data.get 7 = 0) ∧
      CanIdAssign.isAssignableId (CanIdAssign.unpack frame.data).newLocal = true ∧
      (CanIdAssign.unpack frame.data).newLocal ≠ node.canId.masterCanId := by
  refine ⟨?_, ?_⟩
  · intro clientIds io handler node hstart hten hmaster
    refine ⟨?_, ?_⟩
    · intro c assignIo uidHex newLocal frame hsent hlocal
      obtain ⟨provisionalId, hframe, hassignable, hreserved⟩ := CanCommissioner.assign_sent hsent
      rw [hframe, ExtFrame.data_pack, CanIdAssign.unpack_pack] at hlocal
      have hlocal : provisionalId = node.canId.localCanId := hlocal
      rw [hframe, hlocal, ← hmaster]
      apply IdNode.accepts_pack hten hassignable
      rw [hmaster]
      exact hreserved
    · intro clientCanId hclient readable queued newLocal frame hsent hlocal
      obtain ⟨hframe, hassignable, hother⟩ := CanHandlerEsp32.requestCanIdChange_cases hsent
      have hreserved : newLocal ≠ handler.canId.localCanId := by
        rcases hother with rfl | hother
        · exact CanHandlerEsp32.start_client hstart hclient hassignable
        · exact hother
      rw [hframe, ExtFrame.data_pack, CanIdAssign.unpack_pack] at hlocal
      have hlocal : clientCanId = node.canId.localCanId := hlocal
      rw [hframe, hlocal, ← hmaster]
      apply IdNode.accepts_pack hten hassignable
      rw [hmaster]
      exact hreserved
  · intro build node frame request saved hrequest hobeyed
    have hfields : request = ⟨frame.receiver, .SET_CAN_ID, frame.sender, frame.data⟩ := by
      unfold ExtFrame.setCanId at hrequest
      split at hrequest
      · exact (Option.some.inj hrequest).symm
      · cases hrequest
    subst hfields
    have haccepted : CanIdAssign.isAcceptable (CanIdAssign.unpack frame.data) node.canId.localCanId
        node.canId.masterCanId frame.sender = true := by
      by_contra hnot
      exact hobeyed (IdNode.handleSetCanId_refused build saved (by simpa using hnot))
    obtain ⟨hsender, hclear, hexpected, hassignable, hmaster⟩ := CanIdAssign.isAcceptable_iff.mp haccepted
    refine ⟨hsender, hexpected, ?_, hassignable, hmaster⟩
    have hzeros : frame.data[4] = 0 ∧ frame.data[5] = 0 ∧ frame.data[6] = 0 ∧ frame.data[7] = 0 := by
      simpa [CanIdAssign.unpack, OtaCanFrame.bytesOf, and_assoc] using hclear
    exact hzeros

def oneWaiting : CanCommissioner :=
  CanCommissioner.init.noteAnnouncement ⟨0, .ANNOUNCE, 0x310, Vector.replicate 8 17⟩ 0

/-- A gateway up on address 1 with one driver, for the node on 26: the driver moves its node to 28, and the
commissioner moves the node that waits to 30. -/
theorem request_agreed_pair :
    (∀ frame ∈ ((⟨⟨1, 1⟩, [26]⟩ : CanHandlerEsp32).requestCanIdChange true true 26 28).2,
      (⟨some ⟨1, 26⟩, ⟨1, 26⟩, true, 0⟩ : IdNode).Accepts frame) ∧
    (∀ frame ∈ (oneWaiting.assign ⟨1, 1⟩ ⟨fun _ => false, true⟩ (some "1111111111111111") 30).2,
      (⟨none, ⟨1, 0x310⟩, false, 0⟩ : IdNode).Accepts frame.onWire) ∧
    (ExtFrame.pack 26 CanCmd.SET_CAN_ID.value 1 (CanIdAssign.pack ⟨26, 28, false⟩)).sender = 1 := by
  have hup : CanHandlerEsp32.start [26] ⟨none, some ⟨1, 1⟩, true, true⟩ = (true, ⟨⟨1, 1⟩, [26]⟩) := by decide
  refine ⟨?_, ?_, ?_⟩
  · have hagreed := request_agreed.1 [26] _ _ ⟨some ⟨1, 26⟩, ⟨1, 26⟩, true, 0⟩ hup ⟨by decide, by decide⟩ rfl
    intro frame hsent
    apply hagreed.2 26 (by decide) true true 28 frame hsent
    rw [(CanHandlerEsp32.requestCanIdChange_cases hsent).1]
    decide
  · have hagreed := request_agreed.1 [26] _ _ ⟨none, ⟨1, 0x310⟩, false, 0⟩ hup ⟨by decide, by decide⟩ rfl
    have hone : (oneWaiting.assign ⟨1, 1⟩ ⟨fun _ => false, true⟩ (some "1111111111111111") 30).2 =
        [⟨0x310, .SET_CAN_ID, 1, CanIdAssign.pack ⟨0x310, 30, false⟩⟩] := by decide +kernel
    intro frame hsent
    apply hagreed.1 _ _ _ _ frame hsent
    rw [hone] at hsent
    rw [List.mem_singleton.mp hsent]
    decide
  · refine (request_agreed.2 ⟨0, 0⟩ ⟨some ⟨1, 26⟩, ⟨1, 26⟩, true, 0⟩ _ _ true rfl ?_).1
    decide

end CanSystems
