import CanSystems.Common
import CanSystems.Lib.CArray

/-!
# The MQTT client

`PubSubClient` takes one packet at a time off the socket and keeps its place
between the calls, so a packet may arrive in pieces; what it sends is built in
the buffer it reads into. A call is `none` when it reaches outside the buffer.
What the socket, the link and the clock answer is an argument of each call: a
write leaves out the last `lost` bytes of what it was handed.
-/

namespace CanSystems

structure CString where
  chars : List UInt8
  ends : 0 ∉ chars
  deriving DecidableEq

namespace PubSubClient

/-- `MQTT_MAX_PACKET_SIZE` of the builds. -/
def defaultBufferSize : Nat := 1024
def MQTT_MAX_HEADER_SIZE : Nat := 5

abbrev Buffer := CArray UInt8 defaultBufferSize

def MQTTCONNECT : UInt8 := 0x10
def MQTTCONNACK : UInt8 := 0x20
def MQTTPUBLISH : UInt8 := 0x30
def MQTTPUBACK : UInt8 := 0x40
def MQTTPUBREC : UInt8 := 0x50
def MQTTPUBREL : UInt8 := 0x60
def MQTTPUBCOMP : UInt8 := 0x70
def MQTTSUBSCRIBE : UInt8 := 0x80
def MQTTSUBACK : UInt8 := 0x90
def MQTTUNSUBSCRIBE : UInt8 := 0xA0
def MQTTUNSUBACK : UInt8 := 0xB0
def MQTTPINGREQ : UInt8 := 0xC0
def MQTTPINGRESP : UInt8 := 0xD0
def MQTTDISCONNECT : UInt8 := 0xE0
def MQTTReserved : UInt8 := 0xF0

def MQTTQOS0 : UInt8 := 0x00
def MQTTQOS1 : UInt8 := 0x02
def MQTTQOS2 : UInt8 := 0x04

def pingRetryIntervalMs : UInt32 := 1000
def pingReaskIntervalMs : UInt32 := 4000
def brokerPatienceNumerator : UInt32 := 7
def brokerPatienceDenominator : UInt32 := 5
def progmemChunkSize : Nat := 32

inductive State
  | PROTOCOL_ERROR | PACKET_TOO_LARGE | CONNECT_REFUSED | CONNECTION_TIMEOUT | CONNECTION_LOST | CONNECT_FAILED
  | DISCONNECTED | CONNECTED | CONNECT_BAD_PROTOCOL | CONNECT_BAD_CLIENT_ID | CONNECT_UNAVAILABLE
  | CONNECT_BAD_CREDENTIALS | CONNECT_UNAUTHORIZED
  deriving DecidableEq, Repr

inductive RxPhase
  | Idle | Header | Payload
  deriving DecidableEq, Repr

inductive RxResult
  | Incomplete | Complete | Malformed | TooLarge
  deriving DecidableEq, Repr

end PubSubClient

structure PubSubClient where
  buffer : PubSubClient.Buffer
  bufferSize : UInt16
  keepAlive : UInt16
  pingInterval : UInt16
  wantedPingInterval : UInt16
  socketTimeout : UInt16
  lastOutActivity : UInt32
  lastInActivity : UInt32
  rxPhase : PubSubClient.RxPhase
  rxLen : UInt16
  rxLengthLength : UInt8
  rxMultiplier : UInt32
  rxRemaining : UInt32
  rxPayloadDone : UInt32
  rxStartedMs : UInt32
  pingOutstanding : Bool
  pingUnsent : Bool
  pingReasked : Bool
  lastPingAttempt : UInt32
  pingDueSince : UInt32
  pingSentMs : UInt32
  refusedPings : UInt16
  latePings : UInt16
  maxPingRoundTripMs : UInt16
  /-- A callback is set. -/
  callback : Bool
  connectionState : PubSubClient.State
  deriving DecidableEq

inductive MqttEvent
  /-- A whole packet is looked at. -/
  | dispatched (packet : List UInt8)
  /-- `callback(topic, payload, length)`: the pointers are positions in the buffer as it stands then. -/
  | callback (topic payload : Nat) (length : UInt32) (buffer : PubSubClient.Buffer)
  | puback (packet : List UInt8) (taken : Nat)
  | pingreq (taken : Nat)
  | publish (bytes : List UInt8) (taken : Nat)
  deriving DecidableEq

def MqttEvent.taken : MqttEvent → Nat
  | .dispatched _ | .callback _ _ _ _ => 0
  | .puback _ taken | .pingreq taken | .publish _ taken => taken

/-- What a call leaves: its answer, the bytes not read yet, and what was seen of it. -/
structure MqttCall where
  ok : Bool
  client : PubSubClient
  inbound : List UInt8
  log : List MqttEvent
  deriving DecidableEq

def MqttCall.after (log : List MqttEvent) (call : MqttCall) : MqttCall := { call with log := log ++ call.log }

/-- What answering a packet asks: the bytes of a PUBACK that the link leaves out, and the clock. -/
structure DispatchIo where
  ackLost : Nat
  millis : UInt32
  deriving DecidableEq, Repr

/-- What the socket answers to the reader: how often `available()` is not zero while the header is taken, and each
pair of answers of `available()` and `read()` while the payload is. -/
structure RxIo where
  header : Nat
  payload : List (UInt32 × Nat)
  deriving DecidableEq, Repr

/-- What a `loop()` asks; `waiting` and `ready` are the answers of `available()` before a ping and before a read. -/
structure LoopIo where
  now : UInt32
  connected : Bool
  waiting : Bool
  pingLost : Nat
  ready : Bool
  rx : RxIo
  dispatch : DispatchIo
  deriving DecidableEq, Repr

/-- What a publish asks. The reader is run in rounds until the packet in progress is whole; the last round is the
one in which the socket timeout expires. -/
structure PublishIo where
  connected : Bool
  rounds : List RxIo
  dispatch : DispatchIo
  lost : Nat → Nat
  millis : UInt32

/-- The arguments of `publish` or, for a payload in flash, of `publish_P`. -/
structure PublishCall where
  progmem : Bool
  topic : Option CString
  payload : List UInt8
  retained : Bool
  deriving DecidableEq

namespace PubSubClient

def new (callback : Bool) : PubSubClient where
  buffer := .replicate defaultBufferSize 0
  bufferSize := UInt16.ofNat defaultBufferSize
  keepAlive := 15
  pingInterval := 15
  wantedPingInterval := 15
  socketTimeout := 2
  lastOutActivity := 0
  lastInActivity := 0
  rxPhase := .Idle
  rxLen := 0
  rxLengthLength := 0
  rxMultiplier := 1
  rxRemaining := 0
  rxPayloadDone := 0
  rxStartedMs := 0
  pingOutstanding := false
  pingUnsent := false
  pingReasked := false
  lastPingAttempt := 0
  pingDueSince := 0
  pingSentMs := 0
  refusedPings := 0
  latePings := 0
  maxPingRoundTripMs := 0
  callback := callback
  connectionState := .DISCONNECTED

def setKeepAlive (c : PubSubClient) (keepAlive : UInt16) : PubSubClient :=
  { c with
    keepAlive := keepAlive
    pingInterval := if c.wantedPingInterval > keepAlive then keepAlive else c.wantedPingInterval }

def setPingInterval (c : PubSubClient) (pingInterval : UInt16) : PubSubClient :=
  { c with
    wantedPingInterval := pingInterval
    pingInterval := if pingInterval > c.keepAlive then c.keepAlive else pingInterval }

def setBufferSize (c : PubSubClient) (size : UInt16) : Bool × PubSubClient :=
  if size = 0 ∨ size > UInt16.ofNat defaultBufferSize then (false, c) else (true, { c with bufferSize := size })

def resetReader (c : PubSubClient) : PubSubClient :=
  { c with
    rxPhase := .Idle
    rxLen := 0
    rxLengthLength := 0
    rxMultiplier := 1
    rxRemaining := 0
    rxPayloadDone := 0 }

/-- What `connect` leaves when the broker accepts: the CONNECT went out at `sent`, its CONNACK was read at `now`. -/
def accepted (c : PubSubClient) (sent now : UInt32) : PubSubClient :=
  { c.resetReader with
    lastOutActivity := sent
    lastInActivity := now
    pingOutstanding := false
    pingUnsent := false
    pingReasked := false
    connectionState := .CONNECTED }

/-- `link` says whether the socket is connected. -/
def connected (c : PubSubClient) (link : Bool) : Bool × PubSubClient :=
  if link = false then
    (false, if c.connectionState = .CONNECTED then { c with connectionState := .CONNECTION_LOST } else c)
  else (c.connectionState == .CONNECTED, c)

def withBuffer (c : PubSubClient) (buffer : Buffer) : PubSubClient := { c with buffer := buffer }

@[simp] theorem withBuffer_withBuffer (c : PubSubClient) (buffer buffer' : Buffer) :
    (c.withBuffer buffer).withBuffer buffer' = c.withBuffer buffer' := rfl

/-! ## The reader -/

def fixedHeaderValid (header : UInt8) : Bool :=
  let type := header &&& 0xF0
  let flags := header &&& 0x0F
  if type = 0 ∨ type = MQTTReserved then false else
  -- Five types travel to the broker alone.
  if type = MQTTCONNECT ∨ type = MQTTSUBSCRIBE ∨ type = MQTTUNSUBSCRIBE ∨ type = MQTTPINGREQ ∨
    type = MQTTDISCONNECT then
    false else
  if type = MQTTPUBLISH then
    let publishQos := flags &&& 0x06
    if publishQos = 0x06 then false else publishQos != MQTTQOS0 || flags &&& 0x08 == 0
  else if type = MQTTPUBREL then flags == 0x02 else flags == 0

def remainingLengthValid (header : UInt8) (remaining : UInt32) : Bool :=
  let type := header &&& 0xF0
  if type = MQTTPINGRESP then remaining == 0 else
  if type = MQTTCONNACK ∨ type = MQTTPUBACK ∨ type = MQTTPUBREC ∨ type = MQTTPUBREL ∨ type = MQTTPUBCOMP ∨
      type = MQTTUNSUBACK then remaining == 2 else
  if type = MQTTSUBACK then remaining == 3 else
  if type = MQTTPUBLISH then decide (2 ≤ remaining) else true

def readFailureState : RxResult → State
  | .TooLarge => .PACKET_TOO_LARGE
  | .Malformed => .PROTOCOL_ERROR
  | _ => .CONNECTION_TIMEOUT

/-- The fields after a byte of the remaining length, which is in the buffer already. -/
def addLengthByte (c : PubSubClient) (byteIn : UInt8) (buffer : Buffer) : PubSubClient :=
  { c with
    buffer := buffer
    rxLen := c.rxLen + 1
    rxRemaining := c.rxRemaining + (byteIn &&& 127).toUInt32 * c.rxMultiplier
    rxMultiplier := c.rxMultiplier <<< 7 }

def endLength (c : PubSubClient) : PubSubClient := { c with rxLengthLength := (c.rxLen - 1).toUInt8 }

def beginPayload (c : PubSubClient) : PubSubClient := { c with rxPhase := .Payload }

/-- One byte of the fixed header; no result while more of it is to come. -/
def headerByte (c : PubSubClient) (byteIn : UInt8) : Option (Option RxResult × PubSubClient) :=
  if c.rxLen = 0 then
    if fixedHeaderValid byteIn = false then some (some .Malformed, c) else do
      let buffer ← c.buffer.write 0 [byteIn]
      return (none, { c with buffer := buffer, rxLen := 1 })
  else do
    let buffer ← c.buffer.write c.rxLen.toNat [byteIn]
    let c := c.addLengthByte byteIn buffer
    if byteIn &&& 128 = 0 then do
      let c := c.endLength
      let header ← c.buffer.get 0
      if remainingLengthValid header c.rxRemaining = false then return (some .Malformed, c) else
      if c.rxLen.toUInt32 + c.rxRemaining > c.bufferSize.toUInt32 then return (some .TooLarge, c) else
      return (some .Complete, c.beginPayload)
    else return (if c.rxLen = 5 then some .Malformed else none, c)

def advanceHeader (c : PubSubClient) : List UInt8 → Nat → Option (RxResult × PubSubClient × List UInt8)
  | byteIn :: inbound, asks + 1 =>
    match c.headerByte byteIn with
    | none => none
    | some (some result, c) => some (result, c, inbound)
    | some (none, c) => c.advanceHeader inbound asks
  | inbound, _ => some (.Incomplete, c, inbound)

/-- The fields after `got` was read into the buffer. -/
def addPayload (c : PubSubClient) (got : List UInt8) (buffer : Buffer) : PubSubClient :=
  { c with
    buffer := buffer
    rxLen := (c.rxLen.toUInt32 + UInt32.ofNat got.length).toUInt16
    rxPayloadDone := c.rxPayloadDone + UInt32.ofNat got.length }

def advancePayload (c : PubSubClient) (inbound : List UInt8) :
    List (UInt32 × Nat) → Option (RxResult × PubSubClient × List UInt8)
  | [] => some (if c.rxPayloadDone < c.rxRemaining then .Incomplete else .Complete, c, inbound)
  | (ready, answer) :: rest =>
    if c.rxPayloadDone < c.rxRemaining then
      if ready = 0 then some (.Incomplete, c, inbound) else
      let left := c.rxRemaining - c.rxPayloadDone
      let take := if ready < left then ready else left
      -- What the client hands over is what was taken.
      let got := inbound.take (min answer take.toNat)
      if got = [] then some (.Incomplete, c, inbound) else
      match c.buffer.fill c.rxLen.toNat take.toNat got with
      | none => none
      | some buffer => (c.addPayload got buffer).advancePayload (inbound.drop got.length) rest
    else some (.Complete, c, inbound)

/-! ## Sending -/

def lengthDigits : Nat → UInt16 → List UInt8
  | 0, _ => []
  | n + 1, len =>
    let digit := (len &&& 127).toUInt8
    let len := len >>> 7
    if len > 0 then (digit ||| 0x80) :: lengthDigits n len else [digit]

/-- The header goes right before the packet; its size comes with the buffer. -/
def buildHeader (buf : Buffer) (header : UInt8) (length : UInt16) : Option (Nat × Buffer) := do
  let lenBuf := lengthDigits 4 length
  let buf ← buf.write (MQTT_MAX_HEADER_SIZE - 1 - lenBuf.length) [header]
  let buf ← buf.write (MQTT_MAX_HEADER_SIZE - lenBuf.length) lenBuf
  return (lenBuf.length + 1, buf)

/-- What a write of so many bytes makes of the session, when the link takes `sent` of them. -/
def noteSent (c : PubSubClient) (sent expected : UInt16) (millis : UInt32) : PubSubClient :=
  let c := if sent ≠ 0 then { c with lastOutActivity := millis } else c
  if sent ≠ 0 ∧ sent ≠ expected then { c with connectionState := .CONNECTION_LOST } else c

/-- The packet that was handed over and how much of it was taken come with the client. -/
def write (c : PubSubClient) (header : UInt8) (length : UInt16) (lost : Nat) (millis : UInt32) :
    Option (Bool × PubSubClient × List UInt8 × Nat) := do
  let (hlen, buffer) ← buildHeader c.buffer header length
  let expected := length + UInt16.ofNat hlen
  let packet ← buffer.read (MQTT_MAX_HEADER_SIZE - hlen) expected.toNat
  let sent := UInt16.ofNat (packet.length - lost)
  return (sent == expected, (c.withBuffer buffer).noteSent sent expected millis, packet, sent.toNat)

def writeString (string : CString) (buf : Buffer) (pos : Nat) : Option (Nat × Buffer) := do
  let len := UInt16.ofNat string.chars.length
  let buf ← buf.write pos [(len >>> 8).toUInt8]
  let buf ← buf.write (pos + 1) [(len &&& 0xFF).toUInt8]
  let buf ← buf.write (pos + 2) string.chars
  return (pos + 2 + string.chars.length, buf)

/-! ## Answering a packet -/

def readUint16 (buf : Buffer) (pos : Nat) : Option UInt16 := do
  let high ← buf.get pos
  let low ← buf.get (pos + 1)
  return (high.toUInt16 <<< 8) + low.toUInt16

/-- The topic is moved one byte to the front and ended, and the callback is called on it. -/
def deliver (c : PubSubClient) (len : UInt16) (llen : UInt8) (tl msgIdLen : UInt16) (topicName : List UInt8) :
    Option (PubSubClient × List MqttEvent) := do
  let buffer ← c.buffer.write (llen.toNat + 2) topicName
  let buffer ← buffer.write (llen.toNat + 2 + tl.toNat) [0]
  let length := len.toUInt32 - llen.toUInt32 - 3 - tl.toUInt32 - msgIdLen.toUInt32
  return (c.withBuffer buffer,
    [.callback (llen.toNat + 2) (llen.toNat + 3 + tl.toNat + msgIdLen.toNat) length buffer])

def handOver (c : PubSubClient) (len : UInt16) (llen : UInt8) (tl msgIdLen : UInt16) (topicName : List UInt8) :
    Option (PubSubClient × List MqttEvent) :=
  if c.callback then c.deliver len llen tl msgIdLen topicName else some (c, [])

def acknowledge (c : PubSubClient) (msgId : UInt16) (io : DispatchIo) : Option (PubSubClient × List MqttEvent) := do
  let buffer ← c.buffer.write MQTT_MAX_HEADER_SIZE [(msgId >>> 8).toUInt8]
  let buffer ← buffer.write (MQTT_MAX_HEADER_SIZE + 1) [(msgId &&& 0xFF).toUInt8]
  let (_, c, packet, taken) ← (c.withBuffer buffer).write MQTTPUBACK 2 io.ackLost io.millis
  return (c, [.puback packet taken])

/-- The checks of `dispatchPublish`: the topic, and the packet identifier of a message above QoS 0. -/
def checkPublish (buf : Buffer) (len : UInt16) (llen : UInt8) :
    Option (Option (List UInt8 × UInt16 × Option UInt16)) := do
  let header ← buf.get 0
  if header &&& 0x06 = MQTTQOS2 then return none else do
  let tl ← readUint16 buf (llen.toNat + 1)
  let msgIdLen : UInt16 := if header &&& 0x06 = MQTTQOS1 then 2 else 0
  if len.toUInt32 < llen.toUInt32 + 3 + tl.toUInt32 + msgIdLen.toUInt32 then return none else
  if tl = 0 then return none else do
  let topicName ← buf.read (llen.toNat + 3) tl.toNat
  if 0 ∈ topicName then return none else
  -- '+' and '#' belong to the filters.
  if 0x2B ∈ topicName ∨ 0x23 ∈ topicName then return none else
  if msgIdLen = 0 then return some (topicName, tl, none) else do
  let msgId ← readUint16 buf (llen.toNat + 3 + tl.toNat)
  if msgId = 0 then return none else return some (topicName, tl, some msgId)

def dispatchPublish (c : PubSubClient) (len : UInt16) (llen : UInt8) (io : DispatchIo) :
    Option (Bool × PubSubClient × List MqttEvent) := do
  match ← checkPublish c.buffer len llen with
  | none => return (false, c, [])
  | some (topicName, tl, msgId) => do
    let (c, delivered) ← c.handOver len llen tl (if msgId.isSome then 2 else 0) topicName
    match msgId with
    | none => return (true, c, delivered)
    | some msgId => do
      let (c, acknowledged) ← c.acknowledge msgId io
      return (true, c, delivered ++ acknowledged)

def pingAnswered (c : PubSubClient) (millis : UInt32) : PubSubClient :=
  if c.pingOutstanding then
    let roundTripMs := millis - c.pingSentMs
    let capped := if roundTripMs > 0xFFFF then 0xFFFF else roundTripMs.toUInt16
    { c with
      maxPingRoundTripMs := if capped > c.maxPingRoundTripMs then capped else c.maxPingRoundTripMs
      pingOutstanding := false }
  else c

def dispatchPacket (c : PubSubClient) (len : UInt16) (llen : UInt8) (io : DispatchIo) :
    Option (Bool × PubSubClient × List MqttEvent) := do
  let packet ← c.buffer.read 0 len.toNat
  let header ← c.buffer.get 0
  let type := header &&& 0xF0
  if type = MQTTPUBLISH then do
    let (ok, c, log) ← c.dispatchPublish len llen io
    return (ok, c, .dispatched packet :: log)
  else if type = MQTTCONNACK then return (false, c, [.dispatched packet])
  else if type = MQTTPINGRESP then return (true, c.pingAnswered io.millis, [.dispatched packet])
  else if type = MQTTPUBACK ∨ type = MQTTPUBREC ∨ type = MQTTPUBREL ∨ type = MQTTPUBCOMP then
    return (false, c, [.dispatched packet])
  else return (true, c, [.dispatched packet])

def violated (c : PubSubClient) : PubSubClient := { c with connectionState := .PROTOCOL_ERROR }

/-- The packet in the buffer is answered, the reader having been started over. -/
def finishPacket (c : PubSubClient) (inbound : List UInt8) (io : DispatchIo) : Option MqttCall := do
  let (ok, c, log) ← c.resetReader.dispatchPacket c.rxLen c.rxLengthLength io
  if ok then return ⟨c.connectionState == .CONNECTED, c, inbound, log⟩ else return ⟨false, c.violated, inbound, log⟩

/-! ## The calls -/

def socketTimeoutMs (c : PubSubClient) : UInt32 := c.socketTimeout.toUInt32 * 1000

/-- One round of the reader: the header while it is missing, or else the payload. -/
def advance (c : PubSubClient) (inbound : List UInt8) (io : RxIo) : Option (RxResult × PubSubClient × List UInt8) :=
  if c.rxPhase = .Payload then c.advancePayload inbound io.payload else c.advanceHeader inbound io.header

/-- Whether the wait is over after a round that was begun in the phase. -/
def roundOver (phase : RxPhase) (result : RxResult) : Bool :=
  if phase = .Payload then result == .Complete else result == .Malformed || result == .TooLarge

def readPacketBlocking (c : PubSubClient) (inbound : List UInt8) :
    List RxIo → Option (RxResult × PubSubClient × List UInt8)
  | [] => some (.Incomplete, c, inbound)
  | io :: rounds =>
    match c.advance inbound io with
    | none => none
    | some (result, c', inbound') =>
      if roundOver c.rxPhase result then some (result, c', inbound') else c'.readPacketBlocking inbound' rounds

def giveUp (c : PubSubClient) (result : RxResult) : PubSubClient :=
  { c with connectionState := readFailureState result }.resetReader

def settleReader (c : PubSubClient) (inbound : List UInt8) (rounds : List RxIo)
    (io : DispatchIo) : Option MqttCall :=
  if c.rxPhase = .Idle then some ⟨true, c, inbound, []⟩ else do
  let (result, c, inbound) ← c.readPacketBlocking inbound rounds
  if result ≠ .Complete then return ⟨false, c.giveUp result, inbound, []⟩ else c.finishPacket inbound io

def heard (c : PubSubClient) (t : UInt32) : PubSubClient := { c with lastInActivity := t }

def beginPacket (c : PubSubClient) (t : UInt32) : PubSubClient :=
  if c.rxPhase = .Idle then { c with rxStartedMs := t, rxPhase := .Header } else c

/-- The second half of `pumpReader`, after the header came to `result`. -/
def pumpPayload (c : PubSubClient) (inbound : List UInt8) (t : UInt32) (result : RxResult) (rx : RxIo)
    (io : DispatchIo) :
    Option MqttCall := do
  let (result, c, inbound) ← if c.rxPhase = .Payload then c.advancePayload inbound rx.payload
    else some (result, c, inbound)
  if result = .Complete then (c.heard t).finishPacket inbound io else
  -- Half a packet is not an error yet.
  if t - c.rxStartedMs ≥ c.socketTimeoutMs then return ⟨false, c.giveUp .Incomplete, inbound, []⟩
  else return ⟨true, c, inbound, []⟩

/-- The reader's part of a pass: the header, and the payload as soon as the header is whole. -/
def pumpReader (c : PubSubClient) (inbound : List UInt8) (t : UInt32) (ready : Bool) (rx : RxIo) (io : DispatchIo) :
    Option MqttCall :=
  if c.rxPhase = .Idle ∧ ready = false then some ⟨true, c, inbound, []⟩ else do
  let c := c.beginPacket t
  let (result, c, inbound) ← if c.rxPhase = .Header then c.advanceHeader inbound rx.header
    else some (.Incomplete, c, inbound)
  if result = .Malformed ∨ result = .TooLarge then return ⟨false, c.giveUp result, inbound, []⟩
  else c.pumpPayload inbound t result rx io

def keepAlivePing (c : PubSubClient) (t : UInt32) (lost : Nat) : PubSubClient × List MqttEvent :=
  let taken := 2 - lost
  let c := { c with lastPingAttempt := t }
  let c :=
    if taken = 2 then
      { c with
        pingSentMs := if c.pingOutstanding then c.pingSentMs else t
        lastOutActivity := t
        lastInActivity := t
        pingOutstanding := true
        pingUnsent := false }
    else if c.pingUnsent = false then
      { c with pingUnsent := true, refusedPings := if c.refusedPings < 0xFFFF then c.refusedPings + 1 else c.refusedPings }
    else c
  (c, [.pingreq taken])

def keepAliveMs (c : PubSubClient) : UInt32 := c.keepAlive.toUInt32 * 1000

def pingIntervalMs (c : PubSubClient) : UInt32 := c.pingInterval.toUInt32 * 1000

def pingAnswerBudgetMs (c : PubSubClient) : UInt32 :=
  c.keepAliveMs * brokerPatienceNumerator / brokerPatienceDenominator - c.pingIntervalMs

def noteLate (c : PubSubClient) : PubSubClient :=
  if c.pingOutstanding ∧ c.pingReasked = false then
    { c with pingReasked := true, latePings := if c.latePings < 0xFFFF then c.latePings + 1 else c.latePings }
  else c

/-- The run of pings that is open: it is over its deadline, or its ping is asked for again when that is due. -/
def continueRun (c : PubSubClient) (t : UInt32) (waiting : Bool)
    (lost : Nat) : Bool × PubSubClient × List MqttEvent :=
  if t - c.pingDueSince ≥ c.pingAnswerBudgetMs then (false, c, []) else
  let answerMayBeWaiting := c.pingOutstanding && waiting
  let askAgainAfterMs := if c.pingUnsent then pingRetryIntervalMs else pingReaskIntervalMs
  if t - c.lastPingAttempt ≥ askAgainAfterMs ∧ answerMayBeWaiting = false then
    (true, c.noteLate.keepAlivePing t lost)
  else (true, c, [])

def quietSince (c : PubSubClient) (t : UInt32) : UInt32 :=
  if t - c.lastInActivity > t - c.lastOutActivity then c.lastInActivity else c.lastOutActivity

def beginRun (c : PubSubClient) (t : UInt32) : PubSubClient :=
  { c with
    pingDueSince := c.quietSince t + c.pingIntervalMs
    pingReasked := false }

def servicePing (c : PubSubClient) (t : UInt32) (waiting : Bool)
    (lost : Nat) : Bool × PubSubClient × List MqttEvent :=
  if c.keepAlive = 0 then (true, c, []) else
  if c.pingOutstanding ∨ c.pingUnsent then c.continueRun t waiting lost else
  if t - c.lastInActivity > c.pingIntervalMs ∨ t - c.lastOutActivity > c.pingIntervalMs then
    (true, (c.beginRun t).keepAlivePing t lost)
  else (true, c, [])

def timedOut (c : PubSubClient) : PubSubClient := { c with connectionState := .CONNECTION_TIMEOUT }

def loop (c : PubSubClient) (inbound : List UInt8) (io : LoopIo) : Option MqttCall :=
  let (up, c) := c.connected io.connected
  if up = false then some ⟨false, c, inbound, []⟩ else
  let (alive, c, log) := c.servicePing io.now io.waiting io.pingLost
  if alive = false then some ⟨false, c.timedOut, inbound, log⟩ else
  (c.pumpReader inbound io.now io.ready io.rx io.dispatch).map (.after log)

/-! ## Publishing -/

/-- `strnlen(string, bufferSize)`. -/
def lengthWithin (c : PubSubClient) (string : CString) : Nat := min string.chars.length c.bufferSize.toNat

def topicNameValid (c : PubSubClient) (topic : CString) : Bool :=
  let name := topic.chars.take (c.lengthWithin topic)
  name != [] && !name.contains 0x2B && !name.contains 0x23

def sendPublish (c : PubSubClient) (topic : CString) (payload : List UInt8) (retained : Bool) (io : PublishIo) :
    Option (Bool × PubSubClient × List MqttEvent) :=
  if c.bufferSize.toNat < MQTT_MAX_HEADER_SIZE + 2 + c.lengthWithin topic + payload.length then
    some (false, c, []) else do
  let (length, buffer) ← writeString topic c.buffer MQTT_MAX_HEADER_SIZE
  let buffer ← buffer.write length payload
  let header := MQTTPUBLISH ||| (if retained then 1 else 0)
  let (ok, c, packet, taken) ← (c.withBuffer buffer).write header
    (UInt16.ofNat (length + payload.length - MQTT_MAX_HEADER_SIZE)) (io.lost 0) io.millis
  return (ok, c, [.publish packet taken])

/-- A payload in flash goes out in pieces, each handed over once the one before was taken whole; `n` bounds how
many. -/
def sendChunks (lost : Nat → Nat) : Nat → Nat → List UInt8 → UInt16 × List MqttEvent
  | 0, _, _ => (0, [])
  | n + 1, i, payload =>
    if payload = [] then (0, []) else
    let chunk := payload.take progmemChunkSize
    let rc := chunk.length - lost i
    if rc = chunk.length then
      let (sent, log) := sendChunks lost n (i + 1) (payload.drop progmemChunkSize)
      (UInt16.ofNat rc + sent, .publish chunk rc :: log)
    else (UInt16.ofNat rc, [.publish chunk rc])

/-- The header and the topic go through the buffer, the payload straight to the link. -/
def sendPublish_P (c : PubSubClient) (topic : CString) (payload : List UInt8) (retained : Bool) (io : PublishIo) :
    Option (Bool × PubSubClient × List MqttEvent) :=
  let tlen := c.lengthWithin topic
  if c.bufferSize.toNat < MQTT_MAX_HEADER_SIZE + 2 + tlen ∨ payload.length > 65535 - 2 - tlen then
    some (false, c, []) else do
  let header := MQTTPUBLISH ||| (if retained then 1 else 0)
  let digits := lengthDigits 4 (UInt16.ofNat (payload.length + 2 + tlen))
  let buffer ← c.buffer.write 0 [header]
  let buffer ← buffer.write 1 digits
  let (pos, buffer) ← writeString topic buffer (1 + digits.length)
  let packet ← buffer.read 0 pos
  let first := pos - io.lost 0
  let (sent, log) := if first = pos then sendChunks io.lost payload.length 1 payload else (0, [])
  let sent := UInt16.ofNat first + sent
  let expectedLength := UInt16.ofNat (1 + digits.length + 2 + tlen + payload.length)
  return (sent == expectedLength, (c.withBuffer buffer).noteSent sent expectedLength io.millis,
    .publish packet first :: log)

def send (c : PubSubClient) (topic : CString) (call : PublishCall) (io : PublishIo) :
    Option (Bool × PubSubClient × List MqttEvent) :=
  if call.progmem then c.sendPublish_P topic call.payload call.retained io
  else c.sendPublish topic call.payload call.retained io

/-- The packet in progress is finished first: its bytes are in the buffer. -/
def settleAndSend (c : PubSubClient) (inbound : List UInt8) (topic : CString) (call : PublishCall)
    (io : PublishIo) :
    Option MqttCall :=
  (c.settleReader inbound io.rounds io.dispatch).bind fun settled =>
    if settled.ok = false then some settled else
    (settled.client.send topic call io).map fun (ok, c, log) => ⟨ok, c, settled.inbound, settled.log ++ log⟩

/-- `publish` or `publish_P`. -/
def publish (c : PubSubClient) (inbound : List UInt8) (call : PublishCall) (io : PublishIo) : Option MqttCall :=
  match call.topic with
  | none => some ⟨false, c, inbound, []⟩
  | some topic =>
    if c.topicNameValid topic = false then some ⟨false, c, inbound, []⟩ else
    let (up, c) := c.connected io.connected
    if up = false then some ⟨false, c, inbound, []⟩ else c.settleAndSend inbound topic call io

end PubSubClient

end CanSystems
