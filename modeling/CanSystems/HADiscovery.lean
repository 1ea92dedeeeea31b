import CanSystems.Lib.Printf

/-!
# Discovery messages for Home Assistant

An entity announces itself with one retained message: a JSON text that is put
together piece by piece in a buffer, with a piece for every field that is set.
In the formats, `\x7b` and `\x7d` are the braces. A string that may be missing is
an option. What is published goes through a callback, which says whether it went
out.
-/

namespace CanSystems

open Printf (Text)

structure Publication where
  topic : Text
  payload : Text
  retained : Bool
  deriving DecidableEq, Repr

structure PayloadWriter where
  bufSize : ℕ
  /-- What stands in the buffer before the first null. -/
  buf : Text
  pos : ℕ
  overflow : Bool
  deriving DecidableEq, Repr

namespace PayloadWriter

def init (bufSize : ℕ) : PayloadWriter := ⟨bufSize, [], 0, false⟩

def ok (pw : PayloadWriter) : Bool := !pw.overflow

/-- One more piece; of a piece that does not fit the buffer keeps the beginning. -/
def appendP (pw : PayloadWriter) (fmt : String) (args : List Printf.Arg) : PayloadWriter :=
  if pw.overflow then pw else
  let text := Printf.format fmt.toList args
  let room := pw.bufSize - pw.pos
  let buf := pw.buf.take pw.pos ++ (Printf.snprintf room text).2
  if Printf.overflows room text then { pw with buf := buf, overflow := true }
  else { pw with buf := buf, pos := pw.pos + text.length }

end PayloadWriter

namespace MqttTopics

def subtopicOffset : ℕ := 22

def receiverTopicBufSize : ℕ := 24

end MqttTopics

inductive EntityType
  | sensor | binary_sensor | button
  deriving DecidableEq, Repr

inductive StateClass
  | none | measurement | total_increasing
  deriving DecidableEq, Repr

inductive DeviceClass
  | none | connectivity | restart | temperature | humidity | illuminance
  deriving DecidableEq, Repr

structure EntityConfig where
  type : EntityType
  name : Option Text
  valueTemplate : Option Text
  payloadPress : Option Text
  payloadOn : Option Text
  payloadOff : Option Text
  unit : Option Text
  stateClass : StateClass
  deviceClass : DeviceClass
  icon : Option Text
  attributesTemplate : Option Text
  isCommandTopic : Bool
  skipAvailability : Bool
  deriving DecidableEq, Repr

structure SubDeviceConfig where
  deviceId : Option Text
  deviceName : Option Text
  swVersion : Option Text
  subDeviceAvailTopic : Option Text
  dataSubtopic : Option Text
  hwVersion : Option Text
  skipSubDeviceAvailability : Bool
  deriving DecidableEq, Repr

structure SubDevice where
  deviceId : Text
  deviceName : Text
  swVersion : Text
  subDeviceAvailTopic : Text
  dataSubtopic : Text
  hwVersion : Text
  deriving DecidableEq, Repr

def SubDeviceConfig.complete (subDev : SubDeviceConfig) : Option SubDevice :=
  match subDev.deviceId, subDev.deviceName, subDev.swVersion, subDev.subDeviceAvailTopic, subDev.dataSubtopic,
    subDev.hwVersion with
  | some deviceId, some deviceName, some swVersion, some subDeviceAvailTopic, some dataSubtopic, some hwVersion =>
    some ⟨deviceId, deviceName, swVersion, subDeviceAvailTopic, dataSubtopic, hwVersion⟩
  | _, _, _, _, _, _ => none

structure HADiscovery where
  clientName : Text
  senderTopic : Text
  receiverTopic : Text
  availabilityTopic : Text
  deviceName : Text
  hwVersionStr : Text
  fwVersion : UInt16
  gitHash : UInt32
  discoveryEnabled : Bool
  deriving DecidableEq, Repr

namespace HADiscovery

def discoveryTopicBufSize : ℕ := 96

def discoveryPayloadBufSize : ℕ := 656

def subDeviceDiscoveryPayloadBufSize : ℕ := 752

def swVersionBufSize : ℕ := 24

def mqttDiscoveryTopic : String := "homeassistant/%s/%s_%s/config"

def fmtUniqueId : String := "\x7b\"unique_id\":\"%s_%s\",\"name\":\"%s\""

def fmtValueTemplate : String := ",\"value_template\":\"%s\""

def fmtPayloadOn : String := ",\"payload_on\":\"%s\""

def fmtPayloadOff : String := ",\"payload_off\":\"%s\""

def fmtPayloadPress : String := ",\"payload_press\":\"\x7b\\\"cmd\\\":\\\"%s\\\"\x7d\""

def fmtUnit : String := ",\"unit_of_measurement\":\"%s\""

def fmtStateClass : String := ",\"state_class\":\"%s\""

def fmtDeviceClass : String := ",\"device_class\":\"%s\""

def fmtIcon : String := ",\"icon\":\"%s\""

def fmtAttrTemplate : String := ",\"json_attributes_template\":\"%s\""

def fmtTopicField : String := ",\"%s\":\"%s%s\""

def fmtAttrTopic : String := ",\"json_attributes_topic\":\"%s%s\""

def fmtAvailSingle : String :=
  ",\"availability\":[\x7b\"topic\":\"%s\",\"value_template\":\"\x7b\x7b value_json.state \x7d\x7d\"\x7d]"

def fmtAvailFirst : String :=
  ",\"availability\":[\x7b\"topic\":\"%s\",\"value_template\":\"\x7b\x7b value_json.state \x7d\x7d\"\x7d,"

def fmtAvailSecond : String :=
  "\x7b\"topic\":\"%s\",\"value_template\":\"\x7b\x7b value_json.state \x7d\x7d\"\x7d],\"availability_mode\":\"all\""

def fmtDevice : String :=
  ",\"device\":\x7b\"identifiers\":[\"%s\"],\"name\":\"%s\",\"sw_version\":\"%s\",\"hw_version\":\"%s\"\x7d\x7d"

def fmtSubDevice : String :=
  ",\"device\":\x7b\"identifiers\":[\"%s\"],\"name\":\"%s\",\"sw_version\":\"%s\",\"hw_version\":\"%s\",\"via_device\":\"%s\"\x7d\x7d"

def getTypeStr : EntityType → Text
  | .sensor => "sensor".toList
  | .binary_sensor => "binary_sensor".toList
  | .button => "button".toList

def getStateClassStr : StateClass → Option Text
  | .none => none
  | .measurement => some "measurement".toList
  | .total_increasing => some "total_increasing".toList

def getDeviceClassStr : DeviceClass → Option Text
  | .none => none
  | .connectivity => some "connectivity".toList
  | .restart => some "restart".toList
  | .temperature => some "temperature".toList
  | .humidity => some "humidity".toList
  | .illuminance => some "illuminance".toList

def topicField (config : EntityConfig) : Text :=
  if config.isCommandTopic then "command_topic".toList else "state_topic".toList

def getSwVersionStr (ha : HADiscovery) : Text :=
  (Printf.snprintf swVersionBufSize
    (Printf.format "%hu (%08x)".toList [.number ha.fwVersion.toNat, .number ha.gitHash.toNat])).2

/-- The buffer of the topic base: the receiver topic without its wildcard, or as much of the sender topic as it
holds. -/
def topicBase (ha : HADiscovery) (config : EntityConfig) : Text :=
  if config.isCommandTopic then ha.receiverTopic.take MqttTopics.subtopicOffset
  else ha.senderTopic.take (MqttTopics.receiverTopicBufSize - 1)

def appendSet (pw : PayloadWriter) (fmt : String) : Option Text → PayloadWriter
  | none => pw
  | some value => pw.appendP fmt [.text value]

def appendCommonFields (pw : PayloadWriter) (config : EntityConfig)
    (uniqueIdOwner subtopic name : Text) : PayloadWriter :=
  let pw := pw.appendP fmtUniqueId [.text uniqueIdOwner, .text subtopic, .text name]
  let pw := appendSet pw fmtValueTemplate config.valueTemplate
  let pw := appendSet pw fmtPayloadOn config.payloadOn
  let pw := appendSet pw fmtPayloadOff config.payloadOff
  let pw := appendSet pw fmtPayloadPress config.payloadPress
  let pw := appendSet pw fmtUnit config.unit
  let pw := appendSet pw fmtStateClass (getStateClassStr config.stateClass)
  let pw := appendSet pw fmtDeviceClass (getDeviceClassStr config.deviceClass)
  let pw := appendSet pw fmtIcon config.icon
  appendSet pw fmtAttrTemplate config.attributesTemplate

/-- The callback is called with a message, and its answer is passed on. -/
def publish (publishFn : Publication → Bool) (publication : Publication) : Bool × List Publication :=
  (publishFn publication, [publication])

/-- The payload that `publishEntity` builds. -/
def entityPayload (ha : HADiscovery) (config : EntityConfig) (subtopic name : Text) : PayloadWriter :=
  let pw := PayloadWriter.init discoveryPayloadBufSize
  let pw := appendCommonFields pw config ha.clientName subtopic name
  let pw := pw.appendP fmtTopicField [.text (topicField config), .text (ha.topicBase config), .text subtopic]
  let pw := if config.isCommandTopic = false ∧ config.skipAvailability = false then
      pw.appendP fmtAttrTopic [.text (ha.topicBase config), .text subtopic]
    else pw
  let pw := if config.skipAvailability = false then pw.appendP fmtAvailSingle [.text ha.availabilityTopic] else pw
  pw.appendP fmtDevice [.text ha.clientName, .text ha.deviceName, .text ha.getSwVersionStr, .text ha.hwVersionStr]

def publishEntity (ha : HADiscovery) (publishFn : Publication → Bool) (subtopic : Option Text)
    (config : EntityConfig) :
    Bool × List Publication :=
  match subtopic, config.name with
  | some subtopic, some name =>
    let discTopic := Printf.format mqttDiscoveryTopic.toList
      [.text (getTypeStr config.type), .text ha.clientName, .text subtopic]
    if Printf.overflows discoveryTopicBufSize discTopic then (false, []) else
    let discTopic := (Printf.snprintf discoveryTopicBufSize discTopic).2
    if ha.discoveryEnabled = false then publish publishFn ⟨discTopic, [], true⟩ else
    let pw := ha.entityPayload config subtopic name
    if pw.ok = false then (false, []) else publish publishFn ⟨discTopic, pw.buf, true⟩
  | _, _ => (false, [])

/-- The payload that `publishSubDeviceEntity` builds. -/
def subDevicePayload (ha : HADiscovery) (config : EntityConfig) (subDev : SubDevice)
    (skipSubDeviceAvailability : Bool)
    (subtopic name : Text) : PayloadWriter :=
  let pw := PayloadWriter.init subDeviceDiscoveryPayloadBufSize
  let pw := appendCommonFields pw config subDev.deviceId subtopic name
  let pw := pw.appendP fmtTopicField [.text (topicField config), .text (ha.topicBase config),
    .text subDev.dataSubtopic]
  let pw := if config.isCommandTopic = false then
      pw.appendP fmtAttrTopic [.text (ha.topicBase config), .text subDev.dataSubtopic]
    else pw
  let pw := if skipSubDeviceAvailability then pw.appendP fmtAvailSingle [.text ha.availabilityTopic]
    else (pw.appendP fmtAvailFirst [.text ha.availabilityTopic]).appendP fmtAvailSecond
      [.text subDev.subDeviceAvailTopic]
  pw.appendP fmtSubDevice
    [.text subDev.deviceId, .text subDev.deviceName, .text subDev.swVersion, .text subDev.hwVersion,
      .text ha.clientName]

def publishSubDeviceEntity (ha : HADiscovery) (publishFn : Publication → Bool) (subtopic : Option Text)
    (config : EntityConfig) (subDevConfig : SubDeviceConfig) : Bool × List Publication :=
  match subtopic, config.name, subDevConfig.complete with
  | some subtopic, some name, some subDev =>
    let discTopic := Printf.format mqttDiscoveryTopic.toList
      [.text (getTypeStr config.type), .text subDev.deviceId, .text subtopic]
    if Printf.overflows discoveryTopicBufSize discTopic then (false, []) else
    let discTopic := (Printf.snprintf discoveryTopicBufSize discTopic).2
    if ha.discoveryEnabled = false then publish publishFn ⟨discTopic, [], true⟩ else
    let pw := ha.subDevicePayload config subDev subDevConfig.skipSubDeviceAvailability subtopic name
    if pw.ok = false then (false, []) else publish publishFn ⟨discTopic, pw.buf, true⟩
  | _, _, _ => (false, [])

end HADiscovery

end CanSystems
