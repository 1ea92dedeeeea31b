import CanSystems.PublishRoundTrip

/-!
# The MQTT handshake

A session begins with a CONNECT that the client builds in its buffer, and with
the first packet of the broker, which has to be a CONNACK. `parseConnect` reads
a CONNECT the way a broker does. A text that does not fit ends the attempt
before anything is sent; a link that takes less than the whole packet ends it
before an answer is waited for.
-/

namespace CanSystems

structure ConnectCall where
  id : Option CString
  user : Option CString
  pass : Option CString
  willTopic : Option CString
  willQos : UInt8
  willRetain : Bool
  willMessage : Option CString
  cleanSession : Bool
  deriving DecidableEq

/-- What a connect meets: whether the socket is connected and can be opened, how much of the packet is lost, and
what arrives of the answer. -/
structure HandshakeIo where
  connected : Bool
  opened : Bool
  lost : ℕ
  written : UInt32
  sent : UInt32
  /-- A byte arrives before the socket timeout. -/
  arrives : Bool
  rounds : List RxIo
  accepted : UInt32
  deriving DecidableEq, Repr

structure MqttConnection where
  client : PubSubClient
  nextMsgId : UInt16
  deriving DecidableEq

/-- What a call of the session leaves, with the bytes that the link took. -/
structure SessionCall where
  ok : Bool
  session : MqttConnection
  inbound : List UInt8
  written : List UInt8
  deriving DecidableEq

namespace PubSubClient

def connAckSessionPresent : UInt8 := 0x01

def checkStringLength (c : PubSubClient) (length : ℕ) (str : CString) : Bool :=
  decide (length + 2 + c.lengthWithin str ≤ c.bufferSize.toNat)

/-- Texts one behind the other, each when it fits; no length when one does not. -/
def addStrings (c : PubSubClient) : List CString → Buffer → ℕ → Option (Option ℕ × Buffer)
  | [], buf, length => some (some length, buf)
  | str :: strs, buf, length =>
    if c.checkStringLength length str = false then some (none, buf) else do
    let (length, buf) ← writeString str buf length
    c.addStrings strs buf length

end PubSubClient

namespace ConnectCall

/-- The will message is empty where there is none, and a password goes with a user. -/
def strings (call : ConnectCall) (id : CString) : List CString :=
  id :: ((match call.willTopic with
    | some willTopic => [willTopic, call.willMessage.getD ⟨[], List.not_mem_nil⟩]
    | none => []) ++
  match call.user with
    | some user => user :: call.pass.toList
    | none => [])

def flags (call : ConnectCall) : UInt8 :=
  let will := if call.willTopic.isSome then (0x04 : UInt8) ||| (call.willQos <<< 3) |||
    (if call.willRetain then 0x20 else 0) else 0
  let clean := if call.cleanSession then (0x02 : UInt8) else 0
  let user := if call.user.isSome then (0x80 : UInt8) else 0
  let pass := if call.user.isSome && call.pass.isSome then (0x40 : UInt8) else 0
  will ||| clean ||| user ||| pass

end ConnectCall

namespace PubSubClient

def buildConnectPacket (c : PubSubClient) (call : ConnectCall) (id : CString) : Option (Option ℕ × Buffer) := do
  let buf ← c.buffer.write MQTT_MAX_HEADER_SIZE [0x00, 0x04, 77, 81, 84, 84, 4]
  let buf ← buf.write (MQTT_MAX_HEADER_SIZE + 7) [call.flags]
  let buf ← buf.write (MQTT_MAX_HEADER_SIZE + 8) [(c.keepAlive >>> 8).toUInt8, (c.keepAlive &&& 0xFF).toUInt8]
  c.addStrings (call.strings id) buf (MQTT_MAX_HEADER_SIZE + 10)

def stateOfCode (code : UInt8) : State :=
  if code = 0 then .CONNECTED else if code = 1 then .CONNECT_BAD_PROTOCOL else if code = 2 then
    .CONNECT_BAD_CLIENT_ID
  else if code = 3 then .CONNECT_UNAVAILABLE else if code = 4 then .CONNECT_BAD_CREDENTIALS
  else if code = 5 then .CONNECT_UNAUTHORIZED else .CONNECT_REFUSED

def connAckCode (c : PubSubClient) (result : RxResult) (cleanSession : Bool) : Option (Option UInt8) :=
  if result ≠ .Complete ∨ c.rxLen ≠ 4 then some none else do
  let header ← c.buffer.get 0
  let ackFlags ← c.buffer.get 2
  let forbiddenAckFlags := if cleanSession then 0xFF else ~~~connAckSessionPresent
  if header &&& 0xF0 = MQTTCONNACK ∧ ackFlags &&& forbiddenAckFlags = 0 then (c.buffer.get 3).map some else
    return none

def failed (c : PubSubClient) (state : State) : PubSubClient := { c with connectionState := state }

def awaitConnAck (c : PubSubClient) (cleanSession : Bool) (inbound : List UInt8) (io : HandshakeIo) :
    Option (Bool × PubSubClient × List UInt8) :=
  if io.arrives = false then some (false, c.failed .CONNECTION_TIMEOUT, inbound) else do
  let (result, c, inbound) ← c.readPacketBlocking inbound io.rounds
  let code ← c.connAckCode result cleanSession
  let c := c.resetReader
  match code with
  | some code =>
    if code = 0 then
      return (true, { c with
        lastInActivity := io.accepted
        pingOutstanding := false
        pingUnsent := false
        pingReasked := false
        connectionState := .CONNECTED }, inbound)
    else return (false, c.failed (stateOfCode code), inbound)
  | none =>
    return (false, c.failed (if result = .Complete then .PROTOCOL_ERROR else readFailureState result), inbound)

def connectValid (c : PubSubClient) (call : ConnectCall) : Bool :=
  (match call.willTopic with
    | some willTopic => decide (call.willQos ≤ 2) && c.topicNameValid willTopic
    | none => true) &&
  (match call.id with
    | some id => !(decide (id.chars = []) && !call.cleanSession)
    | none => false)

end PubSubClient

namespace MqttConnection

open PubSubClient

/-- The CONNECT is built and handed over, and its answer is waited for. -/
def openSession (s : MqttConnection) (call : ConnectCall) (id : CString) (inbound : List UInt8) (io : HandshakeIo) :
    Option SessionCall := do
  let c := s.client.resetReader
  let (length, buffer) ← c.buildConnectPacket call id
  match length with
  | none => return ⟨false, ⟨(c.withBuffer buffer).failed .PACKET_TOO_LARGE, 0⟩, inbound, []⟩
  | some length => do
    let (ok, c, packet, taken) ←
      (c.withBuffer buffer).write MQTTCONNECT (UInt16.ofNat (length - MQTT_MAX_HEADER_SIZE)) io.lost io.written
    if ok = false then return ⟨false, ⟨c.failed .CONNECTION_LOST, 0⟩, inbound, packet.take taken⟩ else do
    let (ok, c, inbound) ←
      { c with lastInActivity := io.sent, lastOutActivity := io.sent }.awaitConnAck call.cleanSession inbound io
    return ⟨ok, ⟨c, 0⟩, inbound, packet.take taken⟩

/-- `inbound` is what the broker sends on the connection that is opened. -/
def connect (s : MqttConnection) (call : ConnectCall) (inbound : List UInt8)
    (io : HandshakeIo) : Option SessionCall :=
  match call.id with
  | none => some ⟨false, s, inbound, []⟩
  | some id =>
    if s.client.connectValid call = false then some ⟨false, s, inbound, []⟩ else
    let (up, c) := s.client.connected io.connected
    if up then some ⟨true, { s with client := c }, inbound, []⟩ else
    if io.opened = false then some ⟨false, { s with client := c.failed .CONNECT_FAILED }, inbound, []⟩ else
    { s with client := c }.openSession call id inbound io

end MqttConnection

/-! ## What a broker reads -/

structure Will where
  topic : List UInt8
  message : List UInt8
  qos : ℕ
  retain : Bool
  deriving DecidableEq

structure ConnectRequest where
  clientId : List UInt8
  will : Option Will
  user : Option (List UInt8)
  pass : Option (List UInt8)
  keepAlive : UInt16
  cleanSession : Bool
  deriving DecidableEq

namespace ConnectRequest

open PubSubClient (wordOf digitCount lengthOf)

def takeString : List UInt8 → Option (List UInt8 × List UInt8)
  | high :: low :: rest =>
    if (wordOf high low).toNat ≤ rest.length then
      some (rest.take (wordOf high low).toNat, rest.drop (wordOf high low).toNat) else none
  | _ => none

def takeWhen (present : Bool) (bytes : List UInt8) : Option (Option (List UInt8) × List UInt8) :=
  if present then (takeString bytes).map fun (text, rest) => (some text, rest) else some (none, bytes)

/-- The payload behind the flags and the keep-alive; nothing is left over. -/
def parsePayload (flags : UInt8) (keepAlive : UInt16) (payload : List UInt8) : Option ConnectRequest := do
  let (clientId, payload) ← takeString payload
  let (willTopic, payload) ← takeWhen (flags &&& 0x04 != 0) payload
  let (willMessage, payload) ← takeWhen (flags &&& 0x04 != 0) payload
  let (user, payload) ← takeWhen (flags &&& 0x80 != 0) payload
  let (pass, payload) ← takeWhen (flags &&& 0x40 != 0) payload
  if payload ≠ [] then none else
  let will := willTopic.bind fun topic => willMessage.map fun message =>
    (⟨topic, message, ((flags >>> 3) &&& 3).toNat, flags &&& 0x20 != 0⟩ : Will)
  return ⟨clientId, will, user, pass, keepAlive, flags &&& 0x02 != 0⟩

/-- The reserved bit is zero, a will has one of three levels, and only a will has one or is retained, and only a
user has a password. -/
def flagsValid (flags : UInt8) : Bool :=
  flags &&& 0x01 == 0 && flags &&& 0x18 != 0x18 && (flags &&& 0x04 != 0 || flags &&& 0x38 == 0) &&
    (flags &&& 0x80 != 0 || flags &&& 0x40 == 0)

/-- The fields behind the remaining length: the name and the level of the protocol come first. -/
def parseBody (body : List UInt8) : Option ConnectRequest :=
  if body.take 7 ≠ [0x00, 0x04, 77, 81, 84, 84, 4] then none else
  match body.drop 7 with
  | flags :: high :: low :: payload =>
    if flagsValid flags then parsePayload flags (wordOf high low) payload else none
  | _ => none

def parse : List UInt8 → Option ConnectRequest
  | [] => none
  | header :: rest =>
    if header ≠ 0x10 then none else do
    let digits ← digitCount rest
    if lengthOf (rest.take digits) = (rest.drop digits).length then parseBody (rest.drop digits) else none

end ConnectRequest

def ConnectCall.request (call : ConnectCall) (id : CString) (keepAlive : UInt16) : ConnectRequest where
  clientId := id.chars
  will := call.willTopic.map fun topic =>
    ⟨topic.chars, (call.willMessage.map CString.chars).getD [], call.willQos.toNat, call.willRetain⟩
  user := call.user.map CString.chars
  pass := if call.user.isSome then call.pass.map CString.chars else none
  keepAlive := keepAlive
  cleanSession := call.cleanSession

/-! ## The packet -/

def flagBits (will user pass clean retain : Bool) (qos : UInt8) : UInt8 :=
  let will := if will then (0x04 : UInt8) ||| (qos <<< 3) ||| (if retain then 0x20 else 0) else 0
  let clean := if clean then (0x02 : UInt8) else 0
  let user' := if user then (0x80 : UInt8) else 0
  let pass := if user && pass then (0x40 : UInt8) else 0
  will ||| clean ||| user' ||| pass

theorem flagBits_read (will user pass clean retain : Bool) {qos : UInt8} (hqos : qos = 0 ∨ qos = 1 ∨ qos = 2) :
    let flags := flagBits will user pass clean retain qos
    ConnectRequest.flagsValid flags = true ∧ (flags &&& 0x04 != 0) = will ∧ (flags &&& 0x80 != 0) = user ∧
      (flags &&& 0x40 != 0) = (user && pass) ∧ (flags &&& 0x02 != 0) = clean ∧
      (will = true → (flags >>> 3) &&& 3 = qos ∧ (flags &&& 0x20 != 0) = retain) := by
  rcases hqos with rfl | rfl | rfl
  · revert will user pass clean retain
    decide
  · revert will user pass clean retain
    decide
  · revert will user pass clean retain
    decide

structure ConnectCall.Says (call : ConnectCall) (flags : UInt8) : Prop where
  valid : ConnectRequest.flagsValid flags = true
  will : (flags &&& 0x04 != 0) = call.willTopic.isSome
  user : (flags &&& 0x80 != 0) = call.user.isSome
  pass : (flags &&& 0x40 != 0) = (call.user.isSome && call.pass.isSome)
  clean : (flags &&& 0x02 != 0) = call.cleanSession
  level : call.willTopic.isSome = true → (flags >>> 3) &&& 3 = call.willQos ∧
    (flags &&& 0x20 != 0) = call.willRetain

theorem ConnectCall.says_flags (call : ConnectCall) (hqos : call.willTopic.isSome = true → call.willQos ≤ 2) :
    call.Says call.flags := by
  by_cases hwill : call.willTopic.isSome = true
  · have hle : call.willQos.toNat ≤ 2 := UInt8.le_iff_toNat_le.mp (hqos hwill)
    have hcases : call.willQos.toNat = 0 ∨ call.willQos.toNat = 1 ∨ call.willQos.toNat = 2 := by omega
    have hlevel : call.willQos = 0 ∨ call.willQos = 1 ∨ call.willQos = 2 := by
      rcases hcases with h | h | h
      · exact Or.inl (UInt8.toNat_inj.mp h)
      · exact Or.inr (Or.inl (UInt8.toNat_inj.mp h))
      · exact Or.inr (Or.inr (UInt8.toNat_inj.mp h))
    obtain ⟨hvalid, hw, hu, hp, hc, hl⟩ :=
      flagBits_read call.willTopic.isSome call.user.isSome call.pass.isSome call.cleanSession call.willRetain hlevel
    exact ⟨hvalid, hw, hu, hp, hc, hl⟩
  · have hflags : call.flags = flagBits call.willTopic.isSome call.user.isSome call.pass.isSome call.cleanSession
        false 0 := by
      simp [ConnectCall.flags, flagBits, hwill]
    obtain ⟨hvalid, hw, hu, hp, hc, -⟩ :=
      flagBits_read call.willTopic.isSome call.user.isSome call.pass.isSome call.cleanSession false (Or.inl rfl)
    rw [hflags]
    exact ⟨hvalid, hw, hu, hp, hc, fun h => absurd h hwill⟩

namespace ConnectRequest

open PubSubClient (lengthPrefixed wordOf_bytes)

theorem takeString_lengthPrefixed {text : List UInt8} (hlength : text.length < 65536) (rest : List UInt8) :
    takeString (lengthPrefixed text ++ rest) = some (text, rest) := by
  have hnat : (UInt16.ofNat text.length).toNat = text.length := by
    rw [UInt16.toNat_ofNat']
    exact Nat.mod_eq_of_lt hlength
  simp only [lengthPrefixed, takeString, List.cons_append]
  rw [wordOf_bytes, hnat, if_pos (by simp), List.take_left, List.drop_left]

theorem takeWhen_true {text : List UInt8} (hlength : text.length < 65536) (rest : List UInt8) :
    takeWhen true (lengthPrefixed text ++ rest) = some (some text, rest) := by
  simp [takeWhen, takeString_lengthPrefixed hlength]

@[simp] theorem takeWhen_false (bytes : List UInt8) : takeWhen false bytes = some (none, bytes) := rfl

end ConnectRequest

namespace PubSubClient

def connectPayload (call : ConnectCall) (id : CString) : List UInt8 :=
  (call.strings id).flatMap fun str => lengthPrefixed str.chars

def connectBody (call : ConnectCall) (id : CString) (keepAlive : UInt16) : List UInt8 :=
  ([0x00, 0x04, 77, 81, 84, 84, 4] : List UInt8) ++ [call.flags] ++
    [(keepAlive >>> 8).toUInt8, (keepAlive &&& 0xFF).toUInt8] ++
    connectPayload call id

def connectPacket (call : ConnectCall) (id : CString) (keepAlive : UInt16) : List UInt8 :=
  MQTTCONNECT :: lengthDigits 4 (UInt16.ofNat (connectBody call id keepAlive).length) ++
    connectBody call id keepAlive

end PubSubClient

namespace ConnectRequest

open PubSubClient

theorem parsePayload_connectPayload {call : ConnectCall} {flags : UInt8} (h : call.Says flags) (id : CString)
    (keepAlive : UInt16) (hlength : (connectPayload call id).length < 65536) :
    parsePayload flags keepAlive (connectPayload call id) = some (call.request id keepAlive) := by
  have hshort : ∀ str ∈ call.strings id, str.chars.length < 65536 := by
    intro str hstr
    have hmem : lengthPrefixed str.chars ∈ (call.strings id).map fun str => lengthPrefixed str.chars :=
      List.mem_map.mpr ⟨str, hstr, rfl⟩
    have hle := (List.sublist_flatten_of_mem hmem).length_le
    rw [← List.flatMap_def, length_lengthPrefixed] at hle
    rw [connectPayload] at hlength
    omega
  have hid := hshort id List.mem_cons_self
  obtain ⟨-, hwill, huser, hpass, hclean, hlevel⟩ := h
  unfold parsePayload connectPayload
  rw [hwill, huser, hpass, hclean]
  simp only [ConnectCall.strings, List.flatMap_cons, List.flatMap_append, takeString_lengthPrefixed hid,
    Option.bind_eq_bind, Option.bind_some]
  cases htopic : call.willTopic with
  | none =>
    cases hname : call.user with
    | none => simp [ConnectCall.request, htopic, hname]
    | some user =>
      have husr : user.chars.length < 65536 := hshort user (by simp [ConnectCall.strings, htopic, hname])
      cases hsecret : call.pass with
      | none =>
        simp only [List.flatMap_nil, List.flatMap_cons, List.nil_append, Option.isSome_none, Option.isSome_some,
          takeWhen_false, Option.bind_some, takeWhen_true husr, Bool.and_false, Option.toList_none]
        simp [ConnectCall.request, htopic, hname, hsecret]
      | some pass =>
        have hpas : pass.chars.length < 65536 := hshort pass (by simp [ConnectCall.strings, htopic, hname, hsecret])
        simp only [List.flatMap_nil, List.flatMap_cons, List.nil_append, Option.isSome_none, Option.isSome_some,
          takeWhen_false, Option.bind_some, takeWhen_true husr, takeWhen_true hpas, Bool.and_true,
            Option.toList_some]
        simp [ConnectCall.request, htopic, hname, hsecret]
  | some topic =>
    obtain ⟨hqos, hretain⟩ := hlevel (by rw [htopic]; rfl)
    have htop : topic.chars.length < 65536 := hshort topic (by simp [ConnectCall.strings, htopic])
    have hmsg : (call.willMessage.getD ⟨[], List.not_mem_nil⟩).chars.length < 65536 :=
      hshort _ (by simp [ConnectCall.strings, htopic])
    have hmessage : (call.willMessage.map CString.chars).getD
        [] = (call.willMessage.getD ⟨[], List.not_mem_nil⟩).chars := by
      cases call.willMessage <;> rfl
    simp only [List.flatMap_nil, List.flatMap_cons, List.append_assoc, Option.isSome_some, takeWhen_true htop,
      takeWhen_true hmsg, Option.bind_some, List.nil_append, hqos, hretain]
    cases hname : call.user with
    | none => simp [ConnectCall.request, htopic, hname, hmessage]
    | some user =>
      have husr : user.chars.length < 65536 := hshort user (by simp [ConnectCall.strings, htopic, hname])
      cases hsecret : call.pass with
      | none =>
        simp only [List.flatMap_nil, List.flatMap_cons, Option.isSome_none, Option.isSome_some, takeWhen_false,
          Option.bind_some, takeWhen_true husr, Bool.and_false, Option.toList_none]
        simp [ConnectCall.request, htopic, hname, hsecret, hmessage]
      | some pass =>
        have hpas : pass.chars.length < 65536 := hshort pass (by simp [ConnectCall.strings, htopic, hname, hsecret])
        simp only [List.flatMap_nil, List.flatMap_cons, Option.isSome_some, takeWhen_true husr, takeWhen_true hpas,
          Option.bind_some, Bool.and_true, Option.toList_some]
        simp [ConnectCall.request, htopic, hname, hsecret, hmessage]

theorem parse_connectPacket {call : ConnectCall} (hqos : call.willTopic.isSome = true → call.willQos ≤ 2)
    (id : CString)
    (keepAlive : UInt16) (hlength : (connectBody call id keepAlive).length < 65536) :
    parse (connectPacket call id keepAlive) = some (call.request id keepAlive) := by
  have hsays := call.says_flags hqos
  have hpayload : (connectPayload call id).length < 65536 := by
    rw [connectBody, List.length_append] at hlength
    omega
  have hnat : (UInt16.ofNat (connectBody call id keepAlive).length).toNat =
      (connectBody call id keepAlive).length := by
    rw [UInt16.toNat_ofNat']
    exact Nat.mod_eq_of_lt hlength
  obtain ⟨hcount, hspells⟩ := lengthDigits_spells 3
    (Nat.lt_trans (UInt16.ofNat (connectBody call id keepAlive).length).toNat_lt (by decide))
  have hparse : parseBody (connectBody call id keepAlive) = some (call.request id keepAlive) := by
    rw [parseBody, connectBody, if_neg (by simp)]
    show (if flagsValid call.flags = true then parsePayload call.flags (wordOf _ _) (connectPayload call id) else
      none) = _
    rw [if_pos hsays.valid, wordOf_bytes, parsePayload_connectPayload hsays id keepAlive hpayload]
  unfold parse connectPacket
  simp only [List.cons_append, MQTTCONNECT, ne_eq, not_true_eq_false, if_false, Option.bind_eq_bind,
    digitCount_append hcount, Option.bind_some, List.take_left', List.drop_left', hspells, hnat, if_true]
  exact hparse

end ConnectRequest

namespace PubSubClient

/-! ## Building the packet -/

def textBytes (strs : List CString) : List UInt8 := strs.flatMap fun str => lengthPrefixed str.chars

theorem checkStringLength_iff (c : PubSubClient) (length : ℕ) (str : CString) :
    c.checkStringLength length str = true ↔ length + 2 + str.chars.length ≤ c.bufferSize.toNat := by
  rw [checkStringLength, decide_eq_true_eq, lengthWithin]
  omega

/-- The texts are written one behind the other, up to the first that does not fit. -/
theorem addStrings_spec {c : PubSubClient} (hsize : c.bufferSize.toNat ≤ defaultBufferSize) :
    ∀ (strs : List CString) (buf : Buffer) (pre : List UInt8),
      buf.read MQTT_MAX_HEADER_SIZE pre.length = some pre →
      ∃ buffer, c.addStrings strs buf (MQTT_MAX_HEADER_SIZE + pre.length) =
          some (if strs = [] ∨ MQTT_MAX_HEADER_SIZE + (pre ++ textBytes strs).length ≤ c.bufferSize.toNat then
            some (MQTT_MAX_HEADER_SIZE + (pre ++ textBytes strs).length) else none, buffer) ∧
        (strs = [] ∨ MQTT_MAX_HEADER_SIZE + (pre ++ textBytes strs).length ≤ c.bufferSize.toNat →
          buffer.read MQTT_MAX_HEADER_SIZE (pre ++ textBytes strs).length = some (pre ++ textBytes strs))
  | [], buf, pre, hread => ⟨buf, by simp [addStrings, textBytes], fun _ => by simpa [textBytes] using hread⟩
  | str :: strs, buf, pre, hread => by
    have hbytes : pre ++ textBytes (str :: strs) = pre ++ lengthPrefixed str.chars ++ textBytes strs := by
      simp [textBytes, List.append_assoc]
    have hlength : (pre ++ textBytes (str :: strs)).length = pre.length + (2 + str.chars.length) +
        (textBytes strs).length := by
      rw [hbytes, List.length_append, List.length_append, length_lengthPrefixed]
    by_cases hfits : c.checkStringLength (MQTT_MAX_HEADER_SIZE + pre.length) str = true
    · have hroom := (c.checkStringLength_iff _ str).mp hfits
      obtain ⟨buf₁, hwrite, hstring, hbefore⟩ := writeString_reads str buf (MQTT_MAX_HEADER_SIZE + pre.length)
        (Nat.le_trans hroom hsize)
      have hpre : buf₁.read MQTT_MAX_HEADER_SIZE (pre ++ lengthPrefixed str.chars).length =
          some (pre ++ lengthPrefixed str.chars) := by
        rw [List.length_append, length_lengthPrefixed]
        exact CArray.read_append ((hbefore _ _ (Nat.le_refl _)).trans hread) hstring
      obtain ⟨buffer, hadd, hall⟩ := addStrings_spec hsize strs buf₁ (pre ++ lengthPrefixed str.chars) hpre
      have hnext : MQTT_MAX_HEADER_SIZE + pre.length + 2 + str.chars.length =
          MQTT_MAX_HEADER_SIZE + (pre ++ lengthPrefixed str.chars).length := by
        rw [List.length_append, length_lengthPrefixed]
        omega
      have hsame : (strs = [] ∨ MQTT_MAX_HEADER_SIZE + (pre ++ lengthPrefixed str.chars ++ textBytes strs).length ≤
          c.bufferSize.toNat) ↔ (str :: strs = [] ∨ MQTT_MAX_HEADER_SIZE + (pre ++ textBytes (str :: strs)).length ≤
          c.bufferSize.toNat) := by
        rw [← hbytes, hlength]
        constructor
        · intro h
          rcases h with rfl | h
          · right
            simp only [textBytes, List.flatMap_nil, List.length_nil]
            omega
          · exact Or.inr h
        · intro h
          exact Or.inr (h.resolve_left (List.cons_ne_nil _ _))
      refine ⟨buffer, ?_, ?_⟩
      · rw [addStrings, if_neg (by simp [hfits]), hwrite, Option.bind_eq_bind, Option.bind_some]
        dsimp only
        rw [hnext, hadd, hbytes]
        rw [hbytes] at hsame
        simp only [hsame]
      · rw [hbytes] at hsame ⊢
        exact fun h => hall (hsame.mpr h)
    · have hlong : ¬ (str :: strs = [] ∨ MQTT_MAX_HEADER_SIZE + (pre ++ textBytes (str :: strs)).length ≤
          c.bufferSize.toNat) := by
        rw [hlength]
        intro h
        rcases h with h | h
        · cases h
        · exact hfits ((c.checkStringLength_iff _ str).mpr (by omega))
      refine ⟨buf, ?_, fun h => absurd h hlong⟩
      rw [addStrings, if_pos (Bool.eq_false_of_not_eq_true hfits), if_neg hlong]

def ConnectFits (c : PubSubClient) (call : ConnectCall) (id : CString) : Prop :=
  MQTT_MAX_HEADER_SIZE + (connectBody call id c.keepAlive).length ≤ c.bufferSize.toNat

theorem buildConnectPacket_spec {c : PubSubClient} (hsize : c.bufferSize.toNat ≤ defaultBufferSize)
    (call : ConnectCall)
    (id : CString) :
    ∃ length buffer, c.buildConnectPacket call id = some (length, buffer) ∧
      (length = none ∧ ¬ c.ConnectFits call id ∨
        length = some (MQTT_MAX_HEADER_SIZE + (connectBody call id c.keepAlive).length) ∧ c.ConnectFits call id ∧
          buffer.read MQTT_MAX_HEADER_SIZE (connectBody call id c.keepAlive).length =
            some (connectBody call id c.keepAlive)) := by
  set front := ([0x00, 0x04, 77, 81, 84, 84, 4] : List UInt8) ++ [call.flags] ++
    [(c.keepAlive >>> 8).toUInt8, (c.keepAlive &&& 0xFF).toUInt8] with hfront
  have hbody : connectBody call id c.keepAlive = front ++ textBytes (call.strings id) := rfl
  obtain ⟨buf₁, h₁⟩ := c.buffer.exists_write
    (show MQTT_MAX_HEADER_SIZE + ([0x00, 0x04, 77, 81, 84, 84, 4] : List UInt8).length ≤
      defaultBufferSize by decide)
  obtain ⟨buf₂, h₂⟩ := buf₁.exists_write (show MQTT_MAX_HEADER_SIZE + 7 + [call.flags].length ≤ defaultBufferSize
    from Nat.le_of_ble_eq_true rfl)
  obtain ⟨buf₃, h₃⟩ := buf₂.exists_write
    (show MQTT_MAX_HEADER_SIZE + 8 + [(c.keepAlive >>> 8).toUInt8, (c.keepAlive &&& 0xFF).toUInt8].length ≤
      defaultBufferSize
      from Nat.le_of_ble_eq_true rfl)
  have hname : buf₃.read MQTT_MAX_HEADER_SIZE 7 = some [0x00, 0x04, 77, 81, 84, 84, 4] := by
    rw [CArray.read_write_before h₃ (by omega), CArray.read_write_before h₂ (Nat.le_refl _)]
    exact CArray.read_write h₁
  have hflags : buf₃.read (MQTT_MAX_HEADER_SIZE + 7) 1 = some [call.flags] := by
    have hbefore : MQTT_MAX_HEADER_SIZE + 7 + 1 ≤ MQTT_MAX_HEADER_SIZE + 8 := Nat.le_refl _
    rw [CArray.read_write_before h₃ hbefore]
    exact CArray.read_write h₂
  have hrest : buf₃.read (MQTT_MAX_HEADER_SIZE + (7 + 1)) 2 =
      some [(c.keepAlive >>> 8).toUInt8, (c.keepAlive &&& 0xFF).toUInt8] := CArray.read_write h₃
  have hread := CArray.read_append (CArray.read_append hname hflags) hrest
  have hfrontLength : 7 + 1 + 2 = front.length := rfl
  rw [← hfront, hfrontLength] at hread
  obtain ⟨buffer, hadd, hall⟩ := addStrings_spec hsize (call.strings id) buf₃ front hread
  have hlength : MQTT_MAX_HEADER_SIZE + front.length = MQTT_MAX_HEADER_SIZE + 10 := rfl
  rw [hlength, ← hbody] at hadd
  rw [← hbody] at hall
  have hcall : c.buildConnectPacket call id = c.addStrings (call.strings id) buf₃ (MQTT_MAX_HEADER_SIZE + 10) := by
    simp only [buildConnectPacket, h₁, h₂, h₃, Option.bind_eq_bind, Option.bind_some]
  rw [← hcall] at hadd
  by_cases hfits : c.ConnectFits call id
  · exact ⟨_, buffer, hadd, Or.inr ⟨if_pos (Or.inr hfits), hfits, hall (Or.inr hfits)⟩⟩
  · refine ⟨_, buffer, hadd, Or.inl ⟨if_neg ?_, hfits⟩⟩
    intro h
    exact hfits (h.resolve_left (List.cons_ne_nil _ _))

/-! ## The answer -/

def ackFlagsAllowed (cleanSession : Bool) (ackFlags : UInt8) : Prop :=
  ackFlags = 0 ∨ ackFlags = 1 ∧ cleanSession = false

theorem forbidden_iff (cleanSession : Bool) (ackFlags : UInt8) :
    ackFlags &&& (if cleanSession then 0xFF else ~~~connAckSessionPresent) = 0 ↔
      ackFlagsAllowed cleanSession ackFlags := by
  have hall : ∀ flags : Fin 256, (UInt8.ofNat flags.val &&& 0xFF = 0 ↔ flags.val = 0) ∧
      (UInt8.ofNat flags.val &&& ~~~connAckSessionPresent = 0 ↔ flags.val = 0 ∨ flags.val = 1) := by decide +kernel
  obtain ⟨hclean, hkept⟩ := hall ⟨ackFlags.toNat, ackFlags.toNat_lt⟩
  have hone : ackFlags.toNat = 1 ↔ ackFlags = 1 := UInt8.toNat_inj (b := 1)
  have hzero : ackFlags.toNat = 0 ↔ ackFlags = 0 := UInt8.toNat_inj (b := 0)
  rw [UInt8.ofNat_toNat] at hclean hkept
  cases cleanSession with
  | true => simpa [ackFlagsAllowed, hzero] using hclean
  | false => simpa [ackFlagsAllowed, hzero, hone] using hkept

theorem connAck_bytes {c : PubSubClient} {header : UInt8} {rest : List UInt8} (h : ReadsPayload c header rest)
    (hwhole : verdict c.bufferSize (header :: rest) = some .Complete) (hlen : c.rxLen = 4)
    (htype : header &&& 0xF0 = MQTTCONNACK) :
    ∃ ackFlags code, header :: rest = [MQTTCONNACK, 2, ackFlags, code] := by
  obtain ⟨hbody, hdigits⟩ := h.body hwhole
  have hfour : rest.length = 3 := by
    have hall := h.len
    rw [hlen, show (4 : UInt16).toNat = 4 from rfl] at hall
    omega
  have hvalid := h.headed.lengthValid
  have hfixed := h.headed.valid
  have hspells := h.headed.spells
  have htwo : c.rxRemaining.toNat = 2 := by
    simp only [remainingLengthValid, htype, UInt32.ofNat_toNat] at hvalid
    rw [if_neg (by decide), if_pos (by simp), beq_iff_eq] at hvalid
    rw [hvalid]
    rfl
  have hone : c.rxLengthLength.toNat = 1 := by
    rw [List.length_drop] at hbody
    omega
  have hheader : header = MQTTCONNACK := by
    have hall : ∀ b : Fin 256, UInt8.ofNat b.val &&& 0xF0 = MQTTCONNACK →
      fixedHeaderValid (UInt8.ofNat b.val) = true →
        b.val = 0x20 := by decide +kernel
    have heq := hall ⟨header.toNat, header.toNat_lt⟩ (by rw [UInt8.ofNat_toNat]; exact htype)
      (by rw [UInt8.ofNat_toNat]; exact hfixed)
    exact UInt8.toNat_inj.mp heq
  obtain ⟨digit, ackFlags, code, rfl⟩ := List.length_eq_three.mp hfour
  have hcount := h.headed.count
  rw [hone] at hcount hspells
  rw [List.take_succ_cons, List.take_zero, lengthOf_singleton, htwo] at hspells
  have hlast : digit &&& 128 = 0 := by
    by_contra hmore
    rw [digitCount, if_neg hmore] at hcount
    cases hdigit : digitCount [ackFlags, code] with
    | none => simp [hdigit] at hcount
    | some n =>
      have hpos := (digitCount_le hdigit).1
      simp only [hdigit, Option.map_some, Option.some.injEq] at hcount
      omega
  have hall : ∀ b : Fin 256, UInt8.ofNat b.val &&& 128 = 0 → (UInt8.ofNat b.val &&& 127).toNat = 2 → b.val = 2 := by
    decide +kernel
  have heq := hall ⟨digit.toNat, digit.toNat_lt⟩ (by rw [UInt8.ofNat_toNat]; exact hlast)
    (by rw [UInt8.ofNat_toNat]; exact hspells)
  exact ⟨ackFlags, code, by rw [hheader, show digit = 2 from UInt8.toNat_inj.mp heq]⟩

theorem readFailureState_ne (r : RxResult) : readFailureState r ≠ .CONNECTED := by
  cases r <;> exact State.noConfusion

theorem stateOfCode_eq {code : UInt8} : stateOfCode code = .CONNECTED ↔ code = 0 := by
  unfold stateOfCode
  by_cases h₀ : code = 0
  · simp [h₀]
  · rw [if_neg h₀]
    refine iff_of_false ?_ h₀
    repeat' split
    all_goals exact State.noConfusion

def greeted (c : PubSubClient) (now : UInt32) : PubSubClient :=
  { c with
    lastInActivity := now
    pingOutstanding := false
    pingUnsent := false
    pingReasked := false
    connectionState := .CONNECTED }

/-- A client that was answered: the answer was a CONNACK that accepts, and the session is ready. -/
structure Answered (c : PubSubClient) (cleanSession : Bool) (inbound : List UInt8) (io : HandshakeIo)
    (c' : PubSubClient)
    (left : List UInt8) : Prop where
  bytes : ∃ ackFlags, inbound = MQTTCONNACK :: 2 :: ackFlags :: 0 :: left ∧ ackFlagsAllowed cleanSession ackFlags
  session : SameSession (c.greeted io.accepted) c'
  ready : Stands c' []
  idle : c'.rxPhase = .Idle

theorem awaitConnAck_spec {c : PubSubClient} (hsize : c.bufferSize.toNat ≤ defaultBufferSize)
    (hstands : Stands c [])
    (cleanSession : Bool) (inbound : List UInt8) (io : HandshakeIo) :
    ∃ ok c' left, c.awaitConnAck cleanSession inbound io = some (ok, c', left) ∧
      (ok = true → c.Answered cleanSession inbound io c' left) ∧
        (ok = false → c'.connectionState ≠ .CONNECTED) := by
  by_cases harrives : io.arrives = false
  · exact ⟨false, _, inbound, if_pos harrives, nofun, fun _ => State.noConfusion⟩
  · obtain ⟨r, c₁, taken, left, hinbound, hread, hsame, -, hend⟩ :=
      readPacketBlocking_round hsize hstands.reads inbound io.rounds
    have hcall : ∀ code, c₁.connAckCode r cleanSession = some code →
        c.awaitConnAck cleanSession inbound io = some (match code with
          | some code => if code = 0 then (true, c₁.resetReader.greeted io.accepted, left)
            else (false, c₁.resetReader.failed (stateOfCode code), left)
          | none => (false, c₁.resetReader.failed (if r = .Complete then .PROTOCOL_ERROR else readFailureState r),
            left)) := by
      intro code hcode
      rw [awaitConnAck, if_neg harrives]
      simp only [hread, hcode, Option.bind_eq_bind, Option.bind_some]
      cases code with
      | none => rfl
      | some code => by_cases hzero : code = 0 <;> simp [hzero, greeted]
    have hrefused : c₁.connAckCode r cleanSession = some none → ∃ ok c' left,
      c.awaitConnAck cleanSession inbound io =
        some (ok, c', left) ∧ (ok = true → c.Answered cleanSession inbound io c' left) ∧
          (ok = false → c'.connectionState ≠ .CONNECTED) := by
      intro hnone
      refine ⟨false, _, left, hcall none hnone, nofun, fun _ => ?_⟩
      change (if r = .Complete then State.PROTOCOL_ERROR else readFailureState r) ≠ .CONNECTED
      split
      · exact State.noConfusion
      · exact readFailureState_ne r
    by_cases hfour : r = .Complete ∧ c₁.rxLen = 4
    · obtain ⟨rfl, hlen⟩ := hfour
      have hround := hend.resolve_left RxResult.noConfusion
      cases hround with
      | broken hr => simp at hr
      | @whole _ header rest hpacket hreads hverdict =>
        rw [List.nil_append] at hpacket
        rw [hpacket, ← hsame.bufferSize] at hverdict
        have hlength : rest.length = 3 := by
          have hall := hreads.len
          rw [hlen, show (4 : UInt16).toNat = 4 from rfl] at hall
          omega
        obtain ⟨digit, ackFlags, code, rfl⟩ : ∃ digit ackFlags code, rest = [digit, ackFlags, code] := by
          match rest, hlength with
          | [digit, ackFlags, code], _ => exact ⟨digit, ackFlags, code, rfl⟩
        have h₀ : c₁.buffer.get 0 = some header := hreads.starts.get (by simp)
        have h₂ : c₁.buffer.get 2 = some ackFlags := hreads.starts.get (by simp)
        have h₃ : c₁.buffer.get 3 = some code := hreads.starts.get (by simp)
        have hnot : ¬ (RxResult.Complete ≠ .Complete ∨ c₁.rxLen ≠ 4) := by simp [hlen]
        by_cases hack : header &&& 0xF0 = MQTTCONNACK ∧ ackFlagsAllowed cleanSession ackFlags
        · have hcode : c₁.connAckCode .Complete cleanSession = some (some code) := by
            rw [connAckCode, if_neg hnot]
            simp only [h₀, h₂, h₃, Option.bind_eq_bind, Option.bind_some, Option.map_some]
            exact if_pos ⟨hack.1, (forbidden_iff cleanSession ackFlags).mpr hack.2⟩
          by_cases hzero : code = 0
          · refine ⟨true, c₁.resetReader.greeted io.accepted, left, ?_, fun _ => ?_, nofun⟩
            · rw [hcall _ hcode]
              exact congrArg some (if_pos hzero)
            · obtain ⟨flags, answer, hbytes⟩ := connAck_bytes hreads hverdict hlen hack.1
              obtain ⟨rfl, rfl, rfl, rfl⟩ : header = MQTTCONNACK ∧ digit = 2 ∧ ackFlags = flags ∧
                code = answer := by
                simpa using hbytes
              refine ⟨⟨ackFlags, by rw [hinbound, hpacket, hzero]; rfl, hack.2⟩, ?_,
                stands_idle rfl rfl rfl rfl rfl, rfl⟩
              exact ⟨hsame.bufferSize, hsame.keepAlive, hsame.pingInterval, hsame.lastOutActivity, rfl, rfl, rfl,
                hsame.lastPingAttempt, hsame.pingDueSince, hsame.callback, rfl⟩
          · refine ⟨false, c₁.resetReader.failed (stateOfCode code), left, ?_, nofun, fun _ => ?_⟩
            · rw [hcall _ hcode]
              exact congrArg some (if_neg hzero)
            · intro hstate
              exact hzero (stateOfCode_eq.mp hstate)
        · apply hrefused
          rw [connAckCode, if_neg hnot]
          simp only [h₀, h₂, Option.bind_eq_bind, Option.bind_some]
          exact if_neg fun h => hack ⟨h.1, (forbidden_iff cleanSession ackFlags).mp h.2⟩
    · apply hrefused
      rw [connAckCode, if_pos]
      by_cases hr : r = .Complete
      · exact Or.inr fun hlen => hfour ⟨hr, hlen⟩
      · exact Or.inl hr

end PubSubClient

def HandshakeIo.Hands (io : HandshakeIo) : Prop :=
  io.arrives = true ∧ ∃ rx rx' rounds, io.rounds = rx :: rx' :: rounds ∧ rx.Hands 2 ∧ rx'.Hands 2

namespace PubSubClient

theorem connAck_headed {bufferSize : UInt16} (hroom : 4 ≤ bufferSize.toNat) : Headed bufferSize MQTTCONNACK
    [2] 1 2 where
  valid := by decide +kernel
  count := by decide
  spells := by decide
  lengthValid := by decide +kernel
  fits := hroom

theorem awaitConnAck_arrives {c : PubSubClient} (hsize : c.bufferSize.toNat ≤ defaultBufferSize)
    (hroom : 4 ≤ c.bufferSize.toNat)
    (hstands : Stands c []) (hidle : c.rxPhase = .Idle) {cleanSession : Bool} {ackFlags code : UInt8}
    (hflags : ackFlagsAllowed cleanSession ackFlags) {io : HandshakeIo} (hio : io.Hands) :
    ∃ c', c.awaitConnAck cleanSession [MQTTCONNACK, 2, ackFlags, code] io = some (decide (code = 0), c', []) ∧
      c'.connectionState = stateOfCode code := by
  obtain ⟨harrives, rx, rx', rounds, hrounds, ⟨hasks, -⟩, -, ready, answer, rest, hpayload, hready, hanswer⟩ := hio
  have hnot : c.rxPhase ≠ .Payload := by
    rw [hidle]
    exact RxPhase.noConfusion
  have hreads : ReadsHeader c [] := by
    cases hstands.reads with
    | header hreads => exact hreads
  have hheaded := connAck_headed hroom
  obtain ⟨c₁, hcall₁, hsame₁, hreads₁⟩ :=
    @advanceHeader_whole c MQTTCONNACK [2] [ackFlags, code] [] [MQTTCONNACK, 2] hreads rfl hheaded (by decide)
      (List.cons_ne_nil _ _) rx.header hasks
  rw [← hsame₁.bufferSize] at hheaded hsize
  obtain ⟨c₂, hcall₂, hsame₂, hreads₂⟩ :=
    @advancePayload_whole c₁ MQTTCONNACK [2] [ackFlags, code] hsize hreads₁ hheaded (List.cons_ne_nil _ _) ready
      answer hready
      hanswer rest
  have hread : c.readPacketBlocking [MQTTCONNACK, 2, ackFlags, code] io.rounds = some (.Complete, c₂, []) := by
    have hfirst : c.advance [MQTTCONNACK, 2, ackFlags, code] rx = some (.Complete, c₁, [ackFlags, code]) := by
      rw [advance, if_neg hnot]
      exact hcall₁
    have hsecond : c₁.advance [ackFlags, code] rx' = some (.Complete, c₂, []) := by
      rw [advance, if_pos hreads₁.phase, hpayload]
      exact hcall₂
    rw [hrounds]
    simp [readPacketBlocking, hfirst, hsecond, roundOver, hnot, hreads₁.phase]
  have hlen : c₂.rxLen = 4 := UInt16.toNat_inj.mp hreads₂.len
  have h₀ : c₂.buffer.get 0 = some MQTTCONNACK := hreads₂.starts.get (by simp)
  have h₂ : c₂.buffer.get 2 = some ackFlags := hreads₂.starts.get (by simp)
  have h₃ : c₂.buffer.get 3 = some code := hreads₂.starts.get (by simp)
  have hcode : c₂.connAckCode .Complete cleanSession = some (some code) := by
    rw [connAckCode, if_neg (by simp [hlen])]
    simp only [h₀, h₂, h₃, Option.bind_eq_bind, Option.bind_some, Option.map_some]
    exact if_pos ⟨by decide, (forbidden_iff cleanSession ackFlags).mpr hflags⟩
  have hnotSilent : ¬ io.arrives = false := by simp [harrives]
  rw [awaitConnAck, if_neg hnotSilent]
  simp only [hread, hcode, Option.bind_eq_bind, Option.bind_some]
  by_cases hzero : code = 0
  · exact ⟨c₂.resetReader.greeted io.accepted, by simp [hzero, greeted], by simp [hzero, greeted, stateOfCode]⟩
  · exact ⟨c₂.resetReader.failed (stateOfCode code), by simp [hzero], rfl⟩

end PubSubClient

namespace MqttConnection

open PubSubClient

/-- What opening a session comes to: nothing but a CONNECT goes out, and the session is open when its answer is a
CONNACK that accepts. -/
structure Opens (s : MqttConnection) (call : ConnectCall) (id : CString) (inbound : List UInt8) (io : HandshakeIo)
    (r : SessionCall) : Prop where
  prefixOf : r.written <+: connectPacket call id s.client.keepAlive
  accepted : r.ok = true → r.written = connectPacket call id s.client.keepAlive ∧ s.client.ConnectFits call id ∧
    (s.client.accepted io.sent io.accepted).SameSession r.session.client ∧ Stands r.session.client [] ∧
    r.session.client.rxPhase = .Idle ∧ r.session.nextMsgId = 0 ∧
    ∃ ackFlags, inbound = MQTTCONNACK :: 2 :: ackFlags :: 0 :: r.inbound ∧
      ackFlagsAllowed call.cleanSession ackFlags
  refused : r.ok = false → r.session.client.connectionState ≠ .CONNECTED
  answered : s.client.ConnectFits call id → io.lost = 0 → io.Hands → ∀ ackFlags code,
    ackFlagsAllowed call.cleanSession ackFlags → inbound = [MQTTCONNACK, 2, ackFlags, code] →
    r.ok = decide (code = 0) ∧ r.session.client.connectionState = stateOfCode code

theorem openSession_opens {s : MqttConnection} (hsize : s.client.bufferSize.toNat ≤ defaultBufferSize)
    (call : ConnectCall)
    (id : CString) (inbound : List UInt8) (io : HandshakeIo) :
    ∃ r, s.openSession call id inbound io = some r ∧ s.Opens call id inbound io r := by
  have hcap : defaultBufferSize = 1024 := rfl
  have hmax : MQTT_MAX_HEADER_SIZE = 5 := rfl
  obtain ⟨length, buffer, hbuild, hcases⟩ := @buildConnectPacket_spec s.client.resetReader hsize call id
  rcases hcases with ⟨rfl, hnot⟩ | ⟨rfl, hfits, hbody⟩
  · refine ⟨_, by simp only [openSession, hbuild, Option.bind_eq_bind, Option.bind_some]; rfl, ?_⟩
    exact ⟨List.nil_prefix, nofun, fun _ => State.noConfusion, fun hfits => absurd hfits hnot⟩
  · have hkeep : s.client.resetReader.keepAlive = s.client.keepAlive := rfl
    rw [hkeep] at hbody hbuild
    have hroom : MQTT_MAX_HEADER_SIZE + (connectBody call id s.client.keepAlive).length ≤ 1024 :=
      Nat.le_trans hfits hsize
    have hnat : (UInt16.ofNat (connectBody call id s.client.keepAlive).length).toNat =
        (connectBody call id s.client.keepAlive).length := by
      rw [UInt16.toNat_ofNat']
      omega
    have hread : (s.client.resetReader.withBuffer buffer).buffer.read MQTT_MAX_HEADER_SIZE
        (UInt16.ofNat (connectBody call id s.client.keepAlive).length).toNat =
        some (connectBody call id s.client.keepAlive) := by
      rw [hnat]
      exact hbody
    obtain ⟨buffer', hwrite⟩ := write_sends _ MQTTCONNECT _ io.lost io.written hread
      (show connectPacket call id s.client.keepAlive = _ from rfl)
    have hdiff : MQTT_MAX_HEADER_SIZE + (connectBody call id s.client.keepAlive).length - MQTT_MAX_HEADER_SIZE =
        (connectBody call id s.client.keepAlive).length := by omega
    have hpacket : (connectPacket call id s.client.keepAlive).length < 65536 := by
      have hfour := lengthDigits_length 4 (UInt16.ofNat (connectBody call id s.client.keepAlive).length)
      rw [connectPacket, List.length_append, List.length_cons]
      omega
    set packet := connectPacket call id s.client.keepAlive with hpacketOf
    by_cases hwhole : (UInt16.ofNat (packet.length - io.lost) == UInt16.ofNat packet.length) = true
    · have hall : packet.length - io.lost = packet.length := by
        have heq := congrArg UInt16.toNat (beq_iff_eq.mp hwhole)
        rw [UInt16.toNat_ofNat', UInt16.toNat_ofNat'] at heq
        omega
      rw [hall, withBuffer_withBuffer] at hwrite
      set c := (s.client.resetReader.withBuffer buffer').noteSent (UInt16.ofNat packet.length)
        (UInt16.ofNat packet.length)
        io.written with hc
      have hcsize : c.bufferSize = s.client.bufferSize := by
        rw [hc, noteSent_eq]
        rfl
      have hstands : Stands { c with lastInActivity := io.sent, lastOutActivity := io.sent } [] := by
        rw [hc, noteSent_eq]
        exact stands_idle rfl rfl rfl rfl rfl
      have hphase : c.rxPhase = .Idle := by
        rw [hc, noteSent_eq]
        rfl
      obtain ⟨ok, c', left, hawait, haccepted, hrefused⟩ := @awaitConnAck_spec
        { c with lastInActivity := io.sent, lastOutActivity := io.sent } (hcsize ▸ hsize) hstands call.cleanSession
          inbound io
      refine ⟨⟨ok, ⟨c', 0⟩, left, packet.take packet.length⟩, ?_, ?_, ?_, ?_, ?_⟩
      · simp only [openSession, hbuild, Option.bind_eq_bind, Option.bind_some, hdiff, hwrite, beq_self_eq_true,
          Bool.true_eq_false, if_false, hawait]
        rfl
      · exact List.take_prefix _ _
      · intro hok
        obtain ⟨hbytes, hsession, hready, hidle⟩ := haccepted hok
        refine ⟨List.take_length, hfits, ?_, hready, hidle, rfl, hbytes⟩
        rw [hc, noteSent_eq] at hsession
        exact ⟨hsession.bufferSize, hsession.keepAlive, hsession.pingInterval, hsession.lastOutActivity,
          hsession.lastInActivity, hsession.pingOutstanding, hsession.pingUnsent, hsession.lastPingAttempt,
          hsession.pingDueSince, hsession.callback, hsession.connectionState⟩
      · exact hrefused
      · intro _ _ hio ackFlags code hflags hbytes
        have hfour : 4 ≤ c.bufferSize.toNat := by
          rw [hcsize]
          exact Nat.le_trans (by omega) hfits
        obtain ⟨c'', harrives, hstate⟩ := @awaitConnAck_arrives
          { c with lastInActivity := io.sent, lastOutActivity := io.sent } (hcsize ▸ hsize) hfour hstands hphase
          call.cleanSession ackFlags code hflags io hio
        rw [hbytes, harrives] at hawait
        obtain ⟨rfl, rfl, rfl⟩ : decide (code = 0) = ok ∧ c'' = c' ∧ [] = left := by simpa using hawait
        exact ⟨rfl, hstate⟩
    · refine ⟨_, by
        simp only [openSession, hbuild, Option.bind_eq_bind, Option.bind_some, hdiff, hwrite,
          Bool.eq_false_of_not_eq_true hwhole, if_true]; rfl, ?_⟩
      refine ⟨List.take_prefix _ _, nofun, fun _ => State.noConfusion, fun _ hlost => ?_⟩
      rw [hlost, Nat.sub_zero, beq_self_eq_true] at hwhole
      exact absurd rfl hwhole

theorem connect_down {s : MqttConnection} {call : ConnectCall} {id : CString} {io : HandshakeIo}
    (hid : call.id = some id)
    (hvalid : s.client.connectValid call = true) (hdown : (s.client.connected io.connected).1 = false)
    (inbound : List UInt8) :
    s.connect call inbound io = if io.opened = false then
        some ⟨false, { s with client := (s.client.connected io.connected).2.failed .CONNECT_FAILED }, inbound, []⟩
      else openSession { s with client := (s.client.connected io.connected).2 } call id inbound io := by
  have hpair : s.client.connected io.connected = (false, (s.client.connected io.connected).2) := Prod.ext hdown rfl
  rw [connect, hid]
  dsimp only
  rw [hpair]
  simp only [hvalid, Bool.true_eq_false, if_false, Bool.false_eq_true]

theorem connected_same (c : PubSubClient) (link : Bool) :
    ∃ state, (c.connected link).2 = { c with connectionState := state } := by
  unfold PubSubClient.connected
  split
  · dsimp only
    split
    · exact ⟨.CONNECTION_LOST, rfl⟩
    · exact ⟨c.connectionState, rfl⟩
  · exact ⟨c.connectionState, rfl⟩

/-- A session that is down is opened by a CONNECT that a broker reads as the call's request and by a CONNACK that
accepts it; otherwise it stays down, and no more than the front of that CONNECT has gone out. -/
theorem session_opens {s : MqttConnection} {call : ConnectCall} {id : CString} {inbound : List UInt8}
    {io : HandshakeIo}
    (hsize : s.client.bufferSize.toNat ≤ defaultBufferSize) (hid : call.id = some id)
    (hvalid : s.client.connectValid call = true) (hdown : (s.client.connected io.connected).1 = false) :
    ∃ r, s.connect call inbound io = some r ∧ r.written <+: connectPacket call id s.client.keepAlive ∧
      (r.ok = true → ConnectRequest.parse r.written = some (call.request id s.client.keepAlive) ∧
        (s.client.accepted io.sent io.accepted).SameSession r.session.client ∧ Stands r.session.client [] ∧
        r.session.client.rxPhase = .Idle ∧ r.session.nextMsgId = 0 ∧
        ∃ ackFlags, inbound = MQTTCONNACK :: 2 :: ackFlags :: 0 :: r.inbound ∧
          ackFlagsAllowed call.cleanSession ackFlags) ∧
      (r.ok = false → r.session.client.connectionState ≠ .CONNECTED) ∧
      (io.opened = true → s.client.ConnectFits call id → io.lost = 0 → io.Hands → ∀ ackFlags code,
        ackFlagsAllowed call.cleanSession ackFlags → inbound = [MQTTCONNACK, 2, ackFlags, code] →
        r.ok = decide (code = 0) ∧ r.session.client.connectionState = stateOfCode code) := by
  obtain ⟨state, hstate⟩ := connected_same s.client io.connected
  rw [connect_down hid hvalid hdown]
  by_cases hopened : io.opened = false
  · rw [if_pos hopened]
    refine ⟨_, rfl, List.nil_prefix, nofun, fun _ => State.noConfusion, fun hopen => ?_⟩
    rw [hopened] at hopen
    cases hopen
  · rw [if_neg hopened, hstate]
    obtain ⟨r, hrun, hprefix, haccepted, hrefused, hanswered⟩ := @openSession_opens
      { s with client := { s.client with connectionState := state } } hsize call id inbound io
    refine ⟨r, hrun, hprefix, ?_, hrefused, fun _ => hanswered⟩
    intro hok
    obtain ⟨hwritten, hfits, hsame, hready, hidle, hzero, hbytes⟩ := haccepted hok
    refine ⟨?_, ?_, hready, hidle, hzero, hbytes⟩
    · have hqos : call.willTopic.isSome = true → call.willQos ≤ 2 := by
        intro hwill
        obtain ⟨topic, htopic⟩ := Option.isSome_iff_exists.mp hwill
        simp only [connectValid, htopic, Bool.and_eq_true, decide_eq_true_eq] at hvalid
        exact hvalid.1.1
      have hroom : (connectBody call id s.client.keepAlive).length ≤ defaultBufferSize :=
        Nat.le_trans (Nat.le_trans (Nat.le_add_left _ _) hfits) hsize
      rw [hwritten]
      exact ConnectRequest.parse_connectPacket hqos id s.client.keepAlive (Nat.lt_of_le_of_lt hroom (by decide))
    · exact ⟨hsame.bufferSize, hsame.keepAlive, hsame.pingInterval, hsame.lastOutActivity, hsame.lastInActivity,
        hsame.pingOutstanding, hsame.pingUnsent, hsame.lastPingAttempt, hsame.pingDueSince, hsame.callback,
        hsame.connectionState⟩

theorem connected_up {c : PubSubClient} {link : Bool} (hup : (c.connected link).1 = true) :
    (c.connected link).2 = c := by
  unfold PubSubClient.connected at hup ⊢
  split
  · rename_i hlink
    rw [if_pos hlink] at hup
    cases hup
  · rfl

/-- What a call that names no client would ask for, or one that the client refuses, is asked for nowhere; a client
that is connected asks nothing either. -/
theorem session_opened {s : MqttConnection} {call : ConnectCall} {inbound : List UInt8} {io : HandshakeIo}
    (hsize : s.client.bufferSize.toNat ≤ defaultBufferSize) :
    ((∀ id, call.id = some id → s.client.connectValid call = false) →
      s.connect call inbound io = some ⟨false, s, inbound, []⟩) ∧
    ∀ id, call.id = some id → s.client.connectValid call = true →
      ((s.client.connected io.connected).1 = true → s.connect call inbound io = some ⟨true, s, inbound, []⟩) ∧
      ((s.client.connected io.connected).1 = false →
        ∃ r, s.connect call inbound io = some r ∧ r.written <+: connectPacket call id s.client.keepAlive ∧
          (r.ok = true → ConnectRequest.parse r.written = some (call.request id s.client.keepAlive) ∧
            (s.client.accepted io.sent io.accepted).SameSession r.session.client ∧ Stands r.session.client [] ∧
            r.session.client.rxPhase = .Idle ∧ r.session.nextMsgId = 0 ∧
            ∃ ackFlags, inbound = MQTTCONNACK :: 2 :: ackFlags :: 0 :: r.inbound ∧
              ackFlagsAllowed call.cleanSession ackFlags) ∧
          (r.ok = false → r.session.client.connectionState ≠ .CONNECTED) ∧
          (io.opened = true → s.client.ConnectFits call id → io.lost = 0 → io.Hands → ∀ ackFlags code,
            ackFlagsAllowed call.cleanSession ackFlags → inbound = [MQTTCONNACK, 2, ackFlags, code] →
            r.ok = decide (code = 0) ∧ r.session.client.connectionState = stateOfCode code)) := by
  constructor
  · intro hrefused
    cases hid : call.id with
    | none => rw [connect, hid]
    | some id => simp [connect, hid, hrefused id hid]
  · intro id hid hvalid
    refine ⟨?_, session_opens hsize hid hvalid⟩
    intro hup
    have hpair : s.client.connected io.connected = (true, s.client) := Prod.ext hup (connected_up hup)
    simp [connect, hid, hvalid, hpair]

def deviceCall : ConnectCall where
  id := some ⟨[110, 49], by decide⟩
  user := some ⟨[117], by decide⟩
  pass := some ⟨[112], by decide⟩
  willTopic := some ⟨[97, 47, 98], by decide⟩
  willQos := 1
  willRetain := true
  willMessage := some ⟨[48], by decide⟩
  cleanSession := true

def deviceIo : HandshakeIo := ⟨false, true, 0, 10, 11, true, [⟨2, [(2, 2)]⟩, ⟨2, [(2, 2)]⟩], 30⟩

theorem session_opened_device :
    ∃ r, connect ⟨.new true, 7⟩ deviceCall [MQTTCONNACK, 2, 0, 0] deviceIo = some r ∧
      r.written <+: connectPacket deviceCall ⟨[110, 49], by decide⟩ 15 ∧
      (r.ok = true → ConnectRequest.parse r.written = some (deviceCall.request ⟨[110, 49], by decide⟩ 15) ∧
        ((PubSubClient.new true).accepted 11 30).SameSession r.session.client ∧ Stands r.session.client [] ∧
        r.session.client.rxPhase = .Idle ∧ r.session.nextMsgId = 0 ∧
        ∃ ackFlags, [MQTTCONNACK, 2, 0, 0] = MQTTCONNACK :: 2 :: ackFlags :: 0 :: r.inbound ∧
          ackFlagsAllowed true ackFlags) ∧
      (r.ok = false → r.session.client.connectionState ≠ .CONNECTED) ∧
      (deviceIo.opened = true → (PubSubClient.new true).ConnectFits deviceCall ⟨[110, 49], by decide⟩ →
        deviceIo.lost = 0 →
        deviceIo.Hands → ∀ ackFlags code, ackFlagsAllowed true ackFlags →
        [MQTTCONNACK, 2, 0, 0] = [MQTTCONNACK, 2, ackFlags, code] →
        r.ok = decide (code = 0) ∧ r.session.client.connectionState = stateOfCode code) :=
  ((session_opened (by decide)).2 _ rfl (by decide)).2 rfl

end MqttConnection

end CanSystems
