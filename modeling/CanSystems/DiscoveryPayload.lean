import CanSystems.HADiscovery
import CanSystems.Lib.Json

/-!
# Discovery is all or nothing

What a discovery message should say is a JSON object: its members are the fields
that are set, each of them once. The pieces that are appended are the text of
this object, and the writer notices the first of them that does not fit.
-/

namespace CanSystems

open Printf (Text)

namespace PayloadWriter

/-- The whole text is in the buffer, or there was no room for it and the writer knows. -/
structure Wrote (pw : PayloadWriter) (size : ℕ) (text : Text) : Prop where
  bufSize : pw.bufSize = size
  fits : text.length < size → pw.overflow = false ∧ pw.buf = text ∧ pw.pos = text.length
  cut : size ≤ text.length → pw.overflow = true

theorem wrote_init {size : ℕ} (h : 0 < size) : (init size).Wrote size [] := by
  refine ⟨rfl, fun _ => ⟨rfl, rfl, rfl⟩, ?_⟩
  intro hcut
  rw [List.length_nil] at hcut
  omega

theorem Wrote.appendP {pw : PayloadWriter} {size : ℕ} {text : Text} (h : pw.Wrote size text)
    (hsize : size ≤ 2147483648)
    {fmt : String} {args : List Printf.Arg} {piece : Text} (hpiece : Printf.format fmt.toList args = piece) :
    (pw.appendP fmt args).Wrote size (text ++ piece) := by
  rw [PayloadWriter.appendP, hpiece]
  by_cases hroom : text.length < size
  · obtain ⟨hok, hbuf, hpos⟩ := h.fits hroom
    have hleft : size - text.length ≤ 2147483648 := Nat.le_trans (Nat.sub_le _ _) hsize
    simp only [hok, hbuf, hpos, h.bufSize, Bool.false_eq_true, if_false, List.take_length]
    by_cases hfits : piece.length < size - text.length
    · rw [if_neg (by simp [(Printf.overflows_eq_false hleft).mpr hfits]), Printf.snprintf_of_lt hfits]
      refine ⟨rfl, fun _ => ⟨rfl, rfl, (List.length_append).symm⟩, ?_⟩
      intro hcut
      rw [List.length_append] at hcut
      omega
    · rw [if_pos ((Printf.overflows_eq_true hleft).mpr (Nat.not_lt.mp hfits))]
      refine ⟨rfl, ?_, fun _ => rfl⟩
      intro hlt
      rw [List.length_append] at hlt
      omega
  · rw [if_pos (h.cut (Nat.not_lt.mp hroom))]
    refine ⟨h.bufSize, ?_, fun _ => h.cut (Nat.not_lt.mp hroom)⟩
    intro hlt
    rw [List.length_append] at hlt
    omega

end PayloadWriter

namespace HADiscovery

/-! ## What a message says -/

def field (key : String) (value : Text) : Text × Json := (key.toList, .str value)

def setField (key : String) : Option Text → List (Text × Json)
  | none => []
  | some value => [field key value]

def pressText (cmd : Text) : Text := "\x7b\\\"cmd\\\":\\\"".toList ++ cmd ++ "\\\"\x7d".toList

def commonMembers (config : EntityConfig) (uniqueIdOwner subtopic name : Text) : List (Text × Json) :=
  field "unique_id" (uniqueIdOwner ++ '_' :: subtopic) :: field "name" name ::
  (setField "value_template" config.valueTemplate ++ setField "payload_on" config.payloadOn ++
    setField "payload_off" config.payloadOff ++ setField "payload_press" (config.payloadPress.map pressText) ++
    setField "unit_of_measurement" config.unit ++ setField "state_class" (getStateClassStr config.stateClass) ++
    setField "device_class" (getDeviceClassStr config.deviceClass) ++ setField "icon" config.icon ++
    setField "json_attributes_template" config.attributesTemplate)

def availTopic (topic : Text) : Json :=
  .obj [field "topic" topic, field "value_template" "\x7b\x7b value_json.state \x7d\x7d".toList]

def availSingle (topic : Text) : List (Text × Json) := [("availability".toList, .arr [availTopic topic])]

def availDual (topic subTopic : Text) : List (Text × Json) :=
  [("availability".toList, .arr [availTopic topic, availTopic subTopic]), field "availability_mode" "all".toList]

def device (id name swVersion hwVersion : Text) (more : List (Text × Json)) : Text × Json :=
  ("device".toList, .obj (("identifiers".toList, .arr [.str id]) :: field "name" name ::
    field "sw_version" swVersion ::
    field "hw_version" hwVersion :: more))

def entityMembers (ha : HADiscovery) (config : EntityConfig) (subtopic name : Text) : List (Text × Json) :=
  commonMembers config ha.clientName subtopic name ++
    [(topicField config, .str (ha.topicBase config ++ subtopic))] ++
    (if config.isCommandTopic = false ∧ config.skipAvailability = false then
      [field "json_attributes_topic" (ha.topicBase config ++ subtopic)] else []) ++
    (if config.skipAvailability = false then availSingle ha.availabilityTopic else []) ++
    [device ha.clientName ha.deviceName ha.getSwVersionStr ha.hwVersionStr []]

def subDeviceMembers (ha : HADiscovery) (config : EntityConfig) (subDev : SubDevice)
    (skipSubDeviceAvailability : Bool)
    (subtopic name : Text) : List (Text × Json) :=
  commonMembers config subDev.deviceId subtopic name ++
    [(topicField config, .str (ha.topicBase config ++ subDev.dataSubtopic))] ++
    (if config.isCommandTopic = false then
      [field "json_attributes_topic" (ha.topicBase config ++ subDev.dataSubtopic)] else []) ++
    (if skipSubDeviceAvailability then availSingle ha.availabilityTopic
      else availDual ha.availabilityTopic subDev.subDeviceAvailTopic) ++
    [device subDev.deviceId subDev.deviceName subDev.swVersion subDev.hwVersion [field "via_device" ha.clientName]]

def entityTopic (type : EntityType) (owner subtopic : Text) : Text :=
  "homeassistant/".toList ++ getTypeStr type ++ '/' :: owner ++ '_' :: subtopic ++ "/config".toList

/-! ## The pieces are the text of the members -/

open Json (textMembers)

def memberFormat (key : Text) : Text := ',' :: '"' :: key ++ ['"', ':', '"', '%', 's', '"']

theorem format_member {fmt : Text} {key : String} (hkey : key.toList.contains '%' = false)
    (hfmt : fmt = memberFormat key.toList) (value : Text) :
    Printf.format fmt [.text value] = textMembers [field key value] := by
  have hrest : Printf.format ['"', ':', '"', '%', 's', '"'] [.text value] = '"' :: ':' :: '"' :: value ++
      ['"'] := by simp
  rw [hfmt, memberFormat, List.cons_append, List.cons_append, Printf.format_char (by decide),
    Printf.format_char (by decide), Printf.format_append hkey, hrest]
  simp [textMembers, Json.text, field]

theorem format_uniqueId (owner subtopic name : Text) :
    Printf.format fmtUniqueId.toList [.text owner, .text subtopic, .text name] =
      '\x7b' :: (textMembers [field "unique_id" (owner ++ '_' :: subtopic), field "name" name]).tail := by
  simp [fmtUniqueId, textMembers, Json.text, field]

theorem format_payloadPress (cmd : Text) :
    Printf.format fmtPayloadPress.toList [.text cmd] = textMembers [field "payload_press" (pressText cmd)] := by
  delta pressText
  simp [fmtPayloadPress, textMembers, Json.text, field]

theorem format_topicField (config : EntityConfig) (base subtopic : Text) :
    Printf.format fmtTopicField.toList [.text (topicField config), .text base, .text subtopic] =
      textMembers [(topicField config, .str (base ++ subtopic))] := by
  simp [fmtTopicField, textMembers, Json.text]

theorem format_attrTopic (base subtopic : Text) :
    Printf.format fmtAttrTopic.toList [.text base, .text subtopic] =
      textMembers [field "json_attributes_topic" (base ++ subtopic)] := by
  simp [fmtAttrTopic, textMembers, Json.text, field]

theorem format_availSingle (topic : Text) :
    Printf.format fmtAvailSingle.toList [.text topic] = textMembers (availSingle topic) := by
  simp [fmtAvailSingle, availSingle, availTopic, textMembers, Json.text, Json.textItems, field]

theorem format_availDual (topic subTopic : Text) :
    Printf.format fmtAvailFirst.toList [.text topic] ++ Printf.format fmtAvailSecond.toList [.text subTopic] =
      textMembers (availDual topic subTopic) := by
  simp [fmtAvailFirst, fmtAvailSecond, availDual, availTopic, textMembers, Json.text, Json.textItems, field]

theorem format_device (id name swVersion hwVersion : Text) :
    Printf.format fmtDevice.toList [.text id, .text name, .text swVersion, .text hwVersion] =
      textMembers [device id name swVersion hwVersion []] ++ ['\x7d'] := by
  delta device
  simp [fmtDevice, textMembers, Json.text, Json.textItems, field]

theorem format_subDevice (id name swVersion hwVersion viaDevice : Text) :
    Printf.format fmtSubDevice.toList [.text id, .text name, .text swVersion, .text hwVersion, .text viaDevice] =
      textMembers [device id name swVersion hwVersion [field "via_device" viaDevice]] ++ ['\x7d'] := by
  delta device
  simp [fmtSubDevice, textMembers, Json.text, Json.textItems, field]

theorem format_discoveryTopic (type : EntityType) (owner subtopic : Text) :
    Printf.format mqttDiscoveryTopic.toList [.text (getTypeStr type), .text owner, .text subtopic] =
      entityTopic type owner subtopic := by
  delta entityTopic
  simp [mqttDiscoveryTopic]

/-! ## The writer has the whole text -/

def opened (members : List (Text × Json)) : Text := '\x7b' :: (textMembers members).tail

theorem opened_append {members : List (Text × Json)} (h : members ≠ []) (more : List (Text × Json)) :
    opened (members ++ more) = opened members ++ textMembers more := by
  obtain ⟨member, rest, rfl⟩ := List.exists_cons_of_ne_nil h
  simp [opened, textMembers, Json.textMembers_append]

theorem text_obj {members : List (Text × Json)} (h : members ≠ []) :
    Json.text (.obj members) = opened members ++ ['\x7d'] := by
  obtain ⟨member, rest, rfl⟩ := List.exists_cons_of_ne_nil h
  simp [opened, textMembers, Json.text]

section
variable {pw : PayloadWriter} {size : ℕ} {text : Text} {members : List (Text × Json)}

theorem wrote_members (h : pw.Wrote size (opened members)) (hsize : size ≤ 2147483648) (hne : members ≠ [])
    {fmt : String}
    {args : List Printf.Arg} {more : List (Text × Json)}
    (hpiece : Printf.format fmt.toList args = textMembers more) :
    (pw.appendP fmt args).Wrote size (opened (members ++ more)) := by
  rw [opened_append hne]
  exact h.appendP hsize hpiece

theorem wrote_if {p : Prop} [Decidable p] {pw' : PayloadWriter} {more : List (Text × Json)}
    (h : pw.Wrote size (opened members)) (h' : pw'.Wrote size (opened (members ++ more))) :
    (if p then pw' else pw).Wrote size (opened (members ++ if p then more else [])) := by
  by_cases hp : p
  · rw [if_pos hp, if_pos hp]
    exact h'
  · rw [if_neg hp, if_neg hp, List.append_nil]
    exact h

theorem wrote_closed (h : pw.Wrote size (opened members)) (hsize : size ≤ 2147483648) (hne : members ≠ [])
    {fmt : String}
    {args : List Printf.Arg} {more : List (Text × Json)}
    (hpiece : Printf.format fmt.toList args = textMembers more ++ ['\x7d']) :
    (pw.appendP fmt args).Wrote size (Json.text (.obj (members ++ more))) := by
  rw [text_obj (by simp [hne]), opened_append hne, List.append_assoc]
  exact h.appendP hsize hpiece

theorem wrote_set (h : pw.Wrote size (opened members)) (hsize : size ≤ 2147483648) (hne : members ≠ [])
    (fmt key : String) (hkey : key.toList.contains '%' = false) (hfmt : fmt.toList = memberFormat key.toList)
    (value : Option Text) :
    (appendSet pw fmt value).Wrote size (opened (members ++ setField key value)) := by
  cases value with
  | none =>
    rw [setField, List.append_nil]
    exact h
  | some value => exact wrote_members h hsize hne (format_member hkey hfmt value)

theorem wrote_press (h : pw.Wrote size (opened members)) (hsize : size ≤ 2147483648) (hne : members ≠ [])
    (value : Option Text) :
    (appendSet pw fmtPayloadPress value).Wrote size
      (opened (members ++ setField "payload_press" (value.map pressText))) := by
  cases value with
  | none =>
    rw [Option.map_none, setField, List.append_nil]
    exact h
  | some value => exact wrote_members h hsize hne (format_payloadPress value)

end

theorem wrote_common {size : ℕ} (hpos : 0 < size) (hsize : size ≤ 2147483648) (config : EntityConfig)
    (owner subtopic name : Text) :
    (appendCommonFields (.init size) config owner subtopic name).Wrote size
      (opened (commonMembers config owner subtopic name)) := by
  have h0 := (PayloadWriter.wrote_init hpos).appendP hsize (format_uniqueId owner subtopic name)
  rw [List.nil_append] at h0
  have h1 := wrote_set h0 hsize (by simp) fmtValueTemplate "value_template" (by decide)
    (by decide) config.valueTemplate
  have h2 := wrote_set h1 hsize (by simp) fmtPayloadOn "payload_on" (by decide) (by decide) config.payloadOn
  have h3 := wrote_set h2 hsize (by simp) fmtPayloadOff "payload_off" (by decide) (by decide) config.payloadOff
  have h4 := wrote_press h3 hsize (by simp) config.payloadPress
  have h5 := wrote_set h4 hsize (by simp) fmtUnit "unit_of_measurement" (by decide) (by decide) config.unit
  have h6 := wrote_set h5 hsize (by simp) fmtStateClass "state_class" (by decide) (by decide)
    (getStateClassStr config.stateClass)
  have h7 := wrote_set h6 hsize (by simp) fmtDeviceClass "device_class" (by decide) (by decide)
    (getDeviceClassStr config.deviceClass)
  have h8 := wrote_set h7 hsize (by simp) fmtIcon "icon" (by decide) (by decide) config.icon
  have h9 := wrote_set h8 hsize (by simp) fmtAttrTemplate "json_attributes_template" (by decide) (by decide)
    config.attributesTemplate
  simpa only [commonMembers, appendCommonFields, List.append_assoc, List.cons_append, List.nil_append] using h9

theorem wrote_entity (ha : HADiscovery) (config : EntityConfig) (subtopic name : Text) :
    (ha.entityPayload config subtopic name).Wrote discoveryPayloadBufSize
      (Json.text (.obj (ha.entityMembers config subtopic name))) := by
  have hsize : discoveryPayloadBufSize ≤ 2147483648 := by decide
  have hcommon : commonMembers config ha.clientName subtopic name ≠ [] := by simp [commonMembers]
  have h0 := wrote_common (by decide) hsize config ha.clientName subtopic name
  have h1 := wrote_members h0 hsize hcommon (format_topicField config (ha.topicBase config) subtopic)
  have h2 := @wrote_if _ _ _ (config.isCommandTopic = false ∧ config.skipAvailability = false) _ _ _ h1
    (wrote_members h1 hsize (by simp) (format_attrTopic (ha.topicBase config) subtopic))
  have h3 := @wrote_if _ _ _ (config.skipAvailability = false) _ _ _ h2
    (wrote_members h2 hsize (by simp) (format_availSingle ha.availabilityTopic))
  exact wrote_closed h3 hsize (by simp)
    (format_device ha.clientName ha.deviceName ha.getSwVersionStr ha.hwVersionStr)

theorem wrote_subDevice (ha : HADiscovery) (config : EntityConfig) (subDev : SubDevice)
    (skipSubDeviceAvailability : Bool)
    (subtopic name : Text) :
    (ha.subDevicePayload config subDev skipSubDeviceAvailability subtopic name).Wrote
      subDeviceDiscoveryPayloadBufSize
      (Json.text (.obj (ha.subDeviceMembers config subDev skipSubDeviceAvailability subtopic name))) := by
  have hsize : subDeviceDiscoveryPayloadBufSize ≤ 2147483648 := by decide
  have hcommon : commonMembers config subDev.deviceId subtopic name ≠ [] := by simp [commonMembers]
  have h0 := wrote_common (by decide) hsize config subDev.deviceId subtopic name
  have h1 := wrote_members h0 hsize hcommon (format_topicField config (ha.topicBase config) subDev.dataSubtopic)
  have h2 := @wrote_if _ _ _ (config.isCommandTopic = false) _ _ _ h1
    (wrote_members h1 hsize (by simp) (format_attrTopic (ha.topicBase config) subDev.dataSubtopic))
  have hdevice := format_subDevice subDev.deviceId subDev.deviceName subDev.swVersion subDev.hwVersion ha.clientName
  rw [subDevicePayload, subDeviceMembers]
  cases skipSubDeviceAvailability with
  | true =>
    have h3 := wrote_members h2 hsize (by simp) (format_availSingle ha.availabilityTopic)
    exact wrote_closed h3 hsize (by simp) hdevice
  | false =>
    have hfirst := h2.appendP hsize (@rfl _ (Printf.format fmtAvailFirst.toList [.text ha.availabilityTopic]))
    have h3 := hfirst.appendP hsize
      (@rfl _ (Printf.format fmtAvailSecond.toList [.text subDev.subDeviceAvailTopic]))
    rw [List.append_assoc, format_availDual, ← opened_append (by simp)] at h3
    exact wrote_closed h3 hsize (by simp) hdevice

/-! ## Every field is there once -/

def commonKeys : List Text :=
  ["unique_id", "name", "value_template", "payload_on", "payload_off", "payload_press", "unit_of_measurement",
    "state_class", "device_class", "icon", "json_attributes_template"].map String.toList

def moreKeys : List Text :=
  ["json_attributes_topic", "availability", "availability_mode", "device"].map String.toList

theorem setField_keys (key : String) (value : Option Text) :
    ((setField key value).map Prod.fst).Sublist [key.toList] := by
  cases value with
  | none => exact List.nil_sublist _
  | some value => exact List.Sublist.refl _

theorem commonMembers_keys (config : EntityConfig) (owner subtopic name : Text) :
    ((commonMembers config owner subtopic name).map Prod.fst).Sublist commonKeys := by
  simp only [commonMembers, List.map_cons, List.map_append]
  refine .cons_cons _ (.cons_cons _ ?_)
  have h := fun key value => setField_keys key value
  exact ((((((((h _ _).append (h _ _)).append (h _ _)).append (h _ _)).append (h _ _)).append (h _ _)).append
    (h _ _)).append
    (h _ _)).append (h _ _)

theorem keys_nodup (config : EntityConfig) : (commonKeys ++ [topicField config] ++ moreKeys).Nodup := by
  rw [topicField]
  split <;> decide

theorem members_nodup (config : EntityConfig) (owner subtopic name : Text) (topic : Json)
    {more : List (Text × Json)}
    (hmore : (more.map Prod.fst).Sublist moreKeys) :
    ((commonMembers config owner subtopic name ++ [(topicField config, topic)] ++ more).map Prod.fst).Nodup := by
  refine (keys_nodup config).sublist ?_
  rw [List.map_append, List.map_append]
  exact ((commonMembers_keys config owner subtopic name).append (List.Sublist.refl [topicField config])).append
    hmore

theorem entityMembers_nodup (ha : HADiscovery) (config : EntityConfig) (subtopic name : Text) :
    ((ha.entityMembers config subtopic name).map Prod.fst).Nodup := by
  rw [entityMembers, List.append_assoc, List.append_assoc]
  refine members_nodup config ha.clientName subtopic name _ ?_
  split <;> split
  · exact .cons_cons _ (.cons_cons _ (.cons _ (.refl _)))
  · exact .cons_cons _ (.cons _ (.cons _ (.refl _)))
  · exact .cons _ (.cons_cons _ (.cons _ (.refl _)))
  · exact .cons _ (.cons _ (.cons _ (.refl _)))

theorem subDeviceMembers_nodup (ha : HADiscovery) (config : EntityConfig) (subDev : SubDevice)
    (skipSubDeviceAvailability : Bool) (subtopic name : Text) :
    ((ha.subDeviceMembers config subDev skipSubDeviceAvailability subtopic name).map Prod.fst).Nodup := by
  rw [subDeviceMembers, List.append_assoc, List.append_assoc]
  refine members_nodup config subDev.deviceId subtopic name _ ?_
  split <;> split
  · exact .cons_cons _ (.cons_cons _ (.cons _ (.refl _)))
  · exact .refl _
  · exact .cons _ (.cons_cons _ (.cons _ (.refl _)))
  · exact .cons _ (.refl _)

/-! ## It is one JSON object -/

def Plain (string : Text) : Prop := ∀ c ∈ string, Json.isPlain c = true

theorem Plain.append {string string' : Text} (h : Plain string) (h' : Plain string') :
    Plain (string ++ string') := by
  intro c hc
  rcases List.mem_append.mp hc with hc | hc
  · exact h c hc
  · exact h' c hc

theorem plain_of_all {string : Text} (h : string.all Json.isPlain = true) : Plain string := List.all_eq_true.mp h

theorem Plain.take {string : Text} (h : Plain string) (n : ℕ) : Plain (string.take n) :=
  fun c hc => h c (List.mem_of_mem_take hc)

def Readable (members : List (Text × Json)) : Prop :=
  ∀ member ∈ members, Json.IsString member.1 ∧ Json.Valid member.2

theorem Readable.append {members more : List (Text × Json)} (h : Readable members) (h' : Readable more) :
    Readable (members ++ more) := by
  intro member hmem
  rcases List.mem_append.mp hmem with hmem | hmem
  · exact h member hmem
  · exact h' member hmem

theorem Readable.cons {member : Text × Json} {members : List (Text × Json)} (hkey : Json.IsString member.1)
    (hvalue : Json.Valid member.2) (h : Readable members) : Readable (member :: members) := by
  intro member' hmem
  rcases List.mem_cons.mp hmem with rfl | hmem
  · exact ⟨hkey, hvalue⟩
  · exact h member' hmem

theorem isString_key (key : String) (h : key.toList.all Json.isPlain = true) : Json.IsString key.toList :=
  Json.isString_of_plain (plain_of_all h)

theorem readable_nil : Readable [] := fun _ hmem => absurd hmem List.not_mem_nil

theorem Readable.valid {members : List (Text × Json)} (h : Readable members) : Json.Valid (.obj members) :=
  .obj (fun member hmem => (h member hmem).1) (fun member hmem => (h member hmem).2)

theorem readable_field {key : String} (hkey : key.toList.all Json.isPlain = true) {value : Text}
    (hvalue : Plain value)
    {members : List (Text × Json)} (h : Readable members) : Readable (field key value :: members) :=
  .cons (isString_key key hkey) (.str (Json.isString_of_plain hvalue)) h

theorem readable_set {key : String} (hkey : key.toList.all Json.isPlain = true) {value : Option Text}
    (hvalue : ∀ string ∈ value, Plain string) : Readable (setField key value) := by
  cases value with
  | none => exact readable_nil
  | some value => exact readable_field hkey (hvalue value rfl) readable_nil

theorem readable_press {value : Option Text} (hvalue : ∀ string ∈ value, Plain string) :
    Readable (setField "payload_press" (value.map pressText)) := by
  cases value with
  | none => exact readable_nil
  | some value =>
    refine .cons (isString_key "payload_press" (by decide)) (.str ?_) readable_nil
    have hopen : Json.IsString "\x7b\\\"cmd\\\":\\\"".toList := by
      simp only [String.reduceToList]
      repeat first | exact .nil | refine .plain (by decide) ?_ | refine .escape (by decide) ?_
    have hclose : Json.IsString "\\\"\x7d".toList := by
      simp only [String.reduceToList]
      repeat first | exact .nil | refine .plain (by decide) ?_ | refine .escape (by decide) ?_
    exact (hopen.append (Json.isString_of_plain (hvalue value rfl))).append hclose

def configStrings (config : EntityConfig) : List Text :=
  [config.valueTemplate, config.payloadOn, config.payloadOff, config.payloadPress, config.unit, config.icon,
    config.attributesTemplate].filterMap id

theorem plain_config {config : EntityConfig} (h : ∀ string ∈ configStrings config, Plain string)
    {value : Option Text}
    (hvalue : value ∈ [config.valueTemplate, config.payloadOn, config.payloadOff, config.payloadPress, config.unit,
      config.icon, config.attributesTemplate]) : ∀ string ∈ value, Plain string := by
  intro string hmem
  obtain rfl := Option.mem_def.mp hmem
  exact h string (List.mem_filterMap.mpr ⟨some string, hvalue, rfl⟩)

theorem plain_stateClass (stateClass : StateClass) : ∀ string ∈ getStateClassStr stateClass, Plain string := by
  intro string hmem
  cases stateClass <;> cases hmem <;> exact plain_of_all (by decide)

theorem plain_deviceClass (deviceClass : DeviceClass) : ∀ string ∈ getDeviceClassStr deviceClass, Plain string := by
  intro string hmem
  cases deviceClass <;> cases hmem <;> exact plain_of_all (by decide)

theorem readable_common {config : EntityConfig} {owner subtopic name : Text}
    (hconfig : ∀ string ∈ configStrings config, Plain string) (howner : Plain owner) (hsubtopic : Plain subtopic)
    (hname : Plain name) : Readable (commonMembers config owner subtopic name) := by
  have hset := @plain_config config hconfig
  have hid : Plain (owner ++ '_' :: subtopic) :=
    howner.append (@Plain.append ['_'] _ (plain_of_all (by decide)) hsubtopic)
  refine readable_field (by decide) hid (readable_field (by decide) hname ?_)
  have h1 := @readable_set "value_template" (by decide) _ (@hset config.valueTemplate (by simp))
  have h2 := @readable_set "payload_on" (by decide) _ (@hset config.payloadOn (by simp))
  have h3 := @readable_set "payload_off" (by decide) _ (@hset config.payloadOff (by simp))
  have h4 := readable_press (@hset config.payloadPress (by simp))
  have h5 := @readable_set "unit_of_measurement" (by decide) _ (@hset config.unit (by simp))
  have h6 := @readable_set "state_class" (by decide) _ (plain_stateClass config.stateClass)
  have h7 := @readable_set "device_class" (by decide) _ (plain_deviceClass config.deviceClass)
  have h8 := @readable_set "icon" (by decide) _ (@hset config.icon (by simp))
  have h9 := @readable_set "json_attributes_template" (by decide) _ (@hset config.attributesTemplate (by simp))
  exact (((((((h1.append h2).append h3).append h4).append h5).append h6).append h7).append h8).append h9

theorem readable_topic (config : EntityConfig) {topic : Text} (h : Plain topic) :
    Readable [(topicField config, .str topic)] := by
  have hkey : Plain (topicField config) := by
    rw [topicField]
    split <;> exact plain_of_all (by decide)
  exact .cons (Json.isString_of_plain hkey) (.str (Json.isString_of_plain h)) readable_nil

theorem valid_availTopic {topic : Text} (h : Plain topic) : Json.Valid (availTopic topic) :=
  (readable_field (by decide) h (readable_field (by decide) (plain_of_all (by decide)) readable_nil)).valid

theorem readable_availSingle {topic : Text} (h : Plain topic) : Readable (availSingle topic) := by
  refine .cons (isString_key "availability" (by decide)) (.arr ?_) readable_nil
  intro item hmem
  rw [List.mem_singleton.mp hmem]
  exact valid_availTopic h

theorem readable_availDual {topic subTopic : Text} (h : Plain topic) (h' : Plain subTopic) :
    Readable (availDual topic subTopic) := by
  refine .cons (isString_key "availability" (by decide)) (.arr ?_)
    (readable_field (by decide) (plain_of_all (by decide)) readable_nil)
  intro item hmem
  rcases List.mem_cons.mp hmem with rfl | hmem
  · exact valid_availTopic h
  · rw [List.mem_singleton.mp hmem]
    exact valid_availTopic h'

theorem readable_device {id name swVersion hwVersion : Text} (hid : Plain id) (hname : Plain name)
    (hsw : Plain swVersion) (hhw : Plain hwVersion) {more : List (Text × Json)} (h : Readable more) :
    Readable [device id name swVersion hwVersion more] := by
  refine .cons (isString_key "device" (by decide)) (Readable.valid ?_) readable_nil
  refine .cons (isString_key "identifiers" (by decide)) (.arr ?_)
    (readable_field (by decide) hname (readable_field (by decide) hsw (readable_field (by decide) hhw h)))
  intro item hmem
  rw [List.mem_singleton.mp hmem]
  exact .str (Json.isString_of_plain hid)

theorem swVersion_full (ha : HADiscovery) : ha.getSwVersionStr =
    Printf.decimal ha.fwVersion.toNat ++ ' ' :: '(' :: Printf.hex 8 ha.gitHash.toNat ++ [')'] := by
  have hformat : Printf.format "%hu (%08x)".toList [.number ha.fwVersion.toNat, .number ha.gitHash.toNat] =
      Printf.decimal ha.fwVersion.toNat ++ ' ' :: '(' :: Printf.hex 8 ha.gitHash.toNat ++ [')'] := by simp
  have hdecimal := @Printf.length_decimal_le ha.fwVersion.toNat 5 (by decide)
    (Nat.lt_trans ha.fwVersion.toNat_lt (by decide))
  have hhex := @Printf.length_hex 8 ha.gitHash.toNat (by decide) ha.gitHash.toNat_lt
  rw [getSwVersionStr, hformat]
  apply Printf.snprintf_of_lt
  simp only [List.length_append, List.length_cons, List.length_nil, hhex, swVersionBufSize]
  omega

theorem plain_toDigits {b n : ℕ} (hb : 1 < b) (hle : b ≤ 16) : Plain (Nat.toDigits b n) := by
  intro c hc
  obtain ⟨d, hd, rfl⟩ := Printf.mem_toDigits hb hc
  have hall : ∀ d : Fin 16, Json.isPlain d.val.digitChar = true := by decide
  exact hall ⟨d, by omega⟩

theorem plain_swVersion (ha : HADiscovery) : Plain ha.getSwVersionStr := by
  have hhex : Plain (Printf.hex 8 ha.gitHash.toNat) := by
    rw [Printf.hex, List.leftpad]
    refine Plain.append ?_ (plain_toDigits (by decide) (by decide))
    intro c hc
    rw [List.eq_of_mem_replicate hc]
    decide
  rw [swVersion_full]
  refine Plain.append (Plain.append (plain_toDigits (by decide) (by decide)) ?_) (plain_of_all (by decide))
  exact @Plain.append [' ', '('] _ (plain_of_all (by decide)) hhex

theorem plain_topicBase {ha : HADiscovery} (hsender : Plain ha.senderTopic) (hreceiver : Plain ha.receiverTopic)
    (config : EntityConfig) : Plain (ha.topicBase config) := by
  rw [topicBase]
  split
  · exact hreceiver.take _
  · exact hsender.take _

theorem readable_entity {ha : HADiscovery} {config : EntityConfig} {subtopic name : Text}
    (h : ∀ string ∈ [ha.clientName, ha.senderTopic, ha.receiverTopic, ha.availabilityTopic, ha.deviceName,
      ha.hwVersionStr, subtopic, name] ++ configStrings config, Plain string) : Readable
        (ha.entityMembers config subtopic name) := by
  have hbase : Plain (ha.topicBase config) := plain_topicBase (h _ (by simp)) (h _ (by simp)) config
  have hsubtopic : Plain subtopic := h _ (by simp)
  have hcommon := @readable_common config ha.clientName subtopic name
    (fun string hmem => h string (List.mem_append_right _ hmem)) (h _ (by simp)) hsubtopic (h _ (by simp))
  have hdevice := @readable_device ha.clientName ha.deviceName ha.getSwVersionStr ha.hwVersionStr (h _ (by simp))
    (h _ (by simp)) (plain_swVersion ha) (h _ (by simp)) _ readable_nil
  refine (((hcommon.append (readable_topic config (hbase.append hsubtopic))).append ?_).append ?_).append hdevice
  · split
    · exact readable_field (by decide) (hbase.append hsubtopic) readable_nil
    · exact readable_nil
  · split
    · exact readable_availSingle (h _ (by simp))
    · exact readable_nil

theorem readable_subDevice {ha : HADiscovery} {config : EntityConfig} {subDev : SubDevice} {subtopic name : Text}
    (h : ∀ string ∈ [ha.clientName, ha.senderTopic, ha.receiverTopic, ha.availabilityTopic, subDev.deviceId,
      subDev.deviceName, subDev.swVersion, subDev.subDeviceAvailTopic, subDev.dataSubtopic, subDev.hwVersion,
        subtopic,
      name] ++ configStrings config, Plain string) (skipSubDeviceAvailability : Bool) :
    Readable (ha.subDeviceMembers config subDev skipSubDeviceAvailability subtopic name) := by
  have hbase : Plain (ha.topicBase config) := plain_topicBase (h _ (by simp)) (h _ (by simp)) config
  have hdata : Plain subDev.dataSubtopic := h _ (by simp)
  have hcommon := @readable_common config subDev.deviceId subtopic name
    (fun string hmem => h string (List.mem_append_right _ hmem)) (h _ (by simp)) (h _ (by simp)) (h _ (by simp))
  have hvia := @readable_field "via_device" (by decide) ha.clientName (h _ (by simp)) _ readable_nil
  have hdevice := @readable_device subDev.deviceId subDev.deviceName subDev.swVersion subDev.hwVersion
    (h _ (by simp))
    (h _ (by simp)) (h _ (by simp)) (h _ (by simp)) _ hvia
  refine (((hcommon.append (readable_topic config (hbase.append hdata))).append ?_).append ?_).append hdevice
  · split
    · exact readable_field (by decide) (hbase.append hdata) readable_nil
    · exact readable_nil
  · split
    · exact readable_availSingle (h _ (by simp))
    · exact readable_availDual (h _ (by simp)) (h _ (by simp))

/-! ## What the calls do -/

section
variable {ha : HADiscovery} (henabled : ha.discoveryEnabled = true) (publishFn : Publication → Bool)
  (config : EntityConfig)
include henabled

theorem publishEntity_cases (subtopic : Option Text) :
    ha.publishEntity publishFn subtopic config = (false, []) ∨
    ∃ s name, subtopic = some s ∧ config.name = some name ∧
      ha.publishEntity publishFn subtopic config = publish publishFn
        ⟨entityTopic config.type ha.clientName s, Json.text (.obj (ha.entityMembers config s name)), true⟩ := by
  cases subtopic with
  | none => exact Or.inl rfl
  | some s =>
  cases hname : config.name with
  | none =>
    left
    delta publishEntity
    simp only [hname]
  | some name =>
    delta publishEntity
    simp only [hname, format_discoveryTopic]
    split
    · exact Or.inl rfl
    rename_i htopic
    have hfits := (Printf.overflows_eq_false (by decide)).mp (Bool.eq_false_iff.mpr htopic)
    rw [if_neg (by simp [henabled]), Printf.snprintf_of_lt hfits]
    have hwrote := wrote_entity ha config s name
    by_cases hroom : (Json.text (.obj (ha.entityMembers config s name))).length < discoveryPayloadBufSize
    · obtain ⟨hok, hbuf, -⟩ := hwrote.fits hroom
      rw [if_neg (by simp [PayloadWriter.ok, hok]), hbuf]
      exact Or.inr ⟨s, name, rfl, rfl, rfl⟩
    · rw [if_pos (by simp [PayloadWriter.ok, hwrote.cut (Nat.not_lt.mp hroom)])]
      exact Or.inl rfl

theorem publishSubDeviceEntity_cases (subtopic : Option Text) (subDevConfig : SubDeviceConfig) :
    ha.publishSubDeviceEntity publishFn subtopic config subDevConfig = (false, []) ∨
    ∃ s name subDev, subtopic = some s ∧ config.name = some name ∧ subDevConfig.complete = some subDev ∧
      ha.publishSubDeviceEntity publishFn subtopic config subDevConfig = publish publishFn
        ⟨entityTopic config.type subDev.deviceId s,
          Json.text (.obj (ha.subDeviceMembers config subDev subDevConfig.skipSubDeviceAvailability s name)),
            true⟩ := by
  cases subtopic with
  | none => exact Or.inl rfl
  | some s =>
  cases hname : config.name with
  | none =>
    left
    delta publishSubDeviceEntity
    simp only [hname]
  | some name =>
  cases hcomplete : subDevConfig.complete with
  | none =>
    left
    delta publishSubDeviceEntity
    simp only [hname, hcomplete]
  | some subDev =>
    delta publishSubDeviceEntity
    simp only [hname, hcomplete, format_discoveryTopic]
    split
    · exact Or.inl rfl
    rename_i htopic
    have hfits := (Printf.overflows_eq_false (by decide)).mp (Bool.eq_false_iff.mpr htopic)
    rw [if_neg (by simp [henabled]), Printf.snprintf_of_lt hfits]
    have hwrote := wrote_subDevice ha config subDev subDevConfig.skipSubDeviceAvailability s name
    by_cases hroom : (Json.text (.obj (ha.subDeviceMembers config subDev subDevConfig.skipSubDeviceAvailability s
        name))).length < subDeviceDiscoveryPayloadBufSize
    · obtain ⟨hok, hbuf, -⟩ := hwrote.fits hroom
      rw [if_neg (by simp [PayloadWriter.ok, hok]), hbuf]
      exact Or.inr ⟨s, name, subDev, rfl, rfl, rfl, rfl⟩
    · rw [if_pos (by simp [PayloadWriter.ok, hwrote.cut (Nat.not_lt.mp hroom)])]
      exact Or.inl rfl

end

/-- One message with every field, or none; a topic base is what its buffer holds of the topic. -/
theorem discovery_all_or_nothing (ha : HADiscovery) (henabled : ha.discoveryEnabled = true)
    (publishFn : Publication → Bool) (subtopic : Option Text) (config : EntityConfig)
    (subDevConfig : SubDeviceConfig) :
    (ha.publishEntity publishFn subtopic config = (false, []) ∨
      ∃ s name, subtopic = some s ∧ config.name = some name ∧
        ha.publishEntity publishFn subtopic config = publish publishFn
          ⟨entityTopic config.type ha.clientName s, Json.text (.obj (ha.entityMembers config s name)), true⟩ ∧
        ((ha.entityMembers config s name).map Prod.fst).Nodup ∧
        ((∀ string ∈ [ha.clientName, ha.senderTopic, ha.receiverTopic, ha.availabilityTopic, ha.deviceName,
            ha.hwVersionStr, s, name] ++ configStrings config, Plain string) →
          Json.read (Json.text (.obj (ha.entityMembers config s name))) = some
            (.obj (ha.entityMembers config s name)))) ∧
    (ha.publishSubDeviceEntity publishFn subtopic config subDevConfig = (false, []) ∨
      ∃ s name subDev members, subtopic = some s ∧ config.name = some name ∧ subDevConfig.complete = some subDev ∧
        members = ha.subDeviceMembers config subDev subDevConfig.skipSubDeviceAvailability s name ∧
        ha.publishSubDeviceEntity publishFn subtopic config subDevConfig = publish publishFn
          ⟨entityTopic config.type subDev.deviceId s, Json.text (.obj members), true⟩ ∧
        (members.map Prod.fst).Nodup ∧
        ((∀ string ∈ [ha.clientName, ha.senderTopic, ha.receiverTopic, ha.availabilityTopic, subDev.deviceId,
            subDev.deviceName, subDev.swVersion, subDev.subDeviceAvailTopic, subDev.dataSubtopic, subDev.hwVersion,
              s,
            name] ++ configStrings config, Plain string) → Json.read (Json.text (.obj members)) = some
              (.obj members))) ∧
    ha.getSwVersionStr = Printf.decimal ha.fwVersion.toNat ++ ' ' :: '(' :: Printf.hex 8 ha.gitHash.toNat ++ [')'] ∧
    (config.isCommandTopic = false → ha.senderTopic.length < MqttTopics.receiverTopicBufSize →
      ha.topicBase config = ha.senderTopic) ∧
    (config.isCommandTopic = false → ha.topicBase config = ha.senderTopic.take 23) ∧
    (config.isCommandTopic = true → ha.topicBase config = ha.receiverTopic.take MqttTopics.subtopicOffset) := by
  refine ⟨?_, ?_, swVersion_full ha, ?_, ?_, ?_⟩
  · rcases publishEntity_cases henabled publishFn config subtopic with hnothing | ⟨s, name, hs, hname, hpublished⟩
    · exact Or.inl hnothing
    · exact Or.inr ⟨s, name, hs, hname, hpublished, entityMembers_nodup ha config s name,
        fun hplain => Json.read_text (readable_entity hplain).valid⟩
  · rcases publishSubDeviceEntity_cases henabled publishFn config subtopic subDevConfig with
      hnothing | ⟨s, name, subDev, hs, hname, hcomplete, hpublished⟩
    · exact Or.inl hnothing
    · exact Or.inr ⟨s, name, subDev, _, hs, hname, hcomplete, rfl, hpublished,
        subDeviceMembers_nodup ha config subDev subDevConfig.skipSubDeviceAvailability s name,
        fun hplain => Json.read_text (readable_subDevice hplain subDevConfig.skipSubDeviceAvailability).valid⟩
  · intro hstate hlength
    rw [topicBase, if_neg (by simp [hstate])]
    exact List.take_of_length_le (by omega)
  · intro hstate
    rw [topicBase, if_neg (by simp [hstate])]
    rfl
  · intro hcommand
    rw [topicBase, if_pos hcommand]

def exampleDevice : HADiscovery where
  clientName := "esp32_a1b2c3".toList
  senderTopic := "iot/dtos/a1b2c3d4e5f6/".toList
  receiverTopic := "iot/stod/a1b2c3d4e5f6/#".toList
  availabilityTopic := "iot/dtos/a1b2c3d4e5f6/availability".toList
  deviceName := "ESP32 a1b2c3".toList
  hwVersionStr := "ESP32".toList
  fwVersion := 1234
  gitHash := 0xdeadbeef
  discoveryEnabled := true

def exampleSensor : EntityConfig where
  type := .sensor
  name := some "Radiation".toList
  valueTemplate := some "\x7b\x7b value_json.cpm \x7d\x7d".toList
  payloadPress := none
  payloadOn := none
  payloadOff := none
  unit := some "CPM".toList
  stateClass := .measurement
  deviceClass := .none
  icon := none
  attributesTemplate := none
  isCommandTopic := false
  skipAvailability := false

def exampleNode : SubDeviceConfig where
  deviceId := some "alert1".toList
  deviceName := some "ALERT1".toList
  swVersion := some "1234".toList
  subDeviceAvailTopic := some "iot/dtos/a1b2c3d4e5f6/alert1".toList
  dataSubtopic := some "alert2".toList
  hwVersion := some "ATmega328P".toList
  skipSubDeviceAvailability := false

/-- The example is published, and it is JSON. -/
theorem discovery_sensor : ∃ s name, some "radiation".toList = some s ∧ exampleSensor.name = some name ∧
    Json.read (Json.text (.obj (exampleDevice.entityMembers exampleSensor s name))) =
      some (.obj (exampleDevice.entityMembers exampleSensor s name)) := by
  rcases (discovery_all_or_nothing exampleDevice rfl (fun _ => true) (some "radiation".toList) exampleSensor
    exampleNode).1 with
    hnothing | ⟨s, name, hs, hname, -, -, hread⟩
  · exact absurd hnothing (by decide +kernel)
  · refine ⟨s, name, hs, hname, hread ?_⟩
    cases hs
    cases hname
    have hplain : ([exampleDevice.clientName, exampleDevice.senderTopic, exampleDevice.receiverTopic,
        exampleDevice.availabilityTopic, exampleDevice.deviceName, exampleDevice.hwVersionStr, "radiation".toList,
        "Radiation".toList] ++ configStrings exampleSensor).all (fun string => string.all Json.isPlain) = true := by
      decide +kernel
    exact fun string hmem => plain_of_all (List.all_eq_true.mp hplain string hmem)

/-- A sender topic of 24 characters loses the last of them. -/
theorem sender_topic_cut : ¬ ∀ (ha : HADiscovery) (publishFn : Publication → Bool) (subtopic : Text)
    (config : EntityConfig),
    ha.discoveryEnabled = true → config.isCommandTopic = false →
    ∀ publication ∈ (ha.publishEntity publishFn (some subtopic) config).2,
      (ha.senderTopic ++ subtopic) <:+: publication.payload := by
  intro h
  have hlong := h { exampleDevice with senderTopic := "iot/dtos/a1b2c3d4e5f6/xy".toList }
    (fun _ => true) "radiation".toList
    exampleSensor rfl rfl
  revert hlong
  decide +kernel

end HADiscovery

end CanSystems
