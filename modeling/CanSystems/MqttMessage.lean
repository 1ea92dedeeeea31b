import CanSystems.MqttFraming

/-!
# What a whole packet says

`answerOf` reads a packet as a list of bytes. The client reads it in its buffer,
by positions that it works out from the lengths in the packet, moves the topic
there, and builds its PUBACK over it; `finishPacket_answer` says that all of it
comes to what the bytes say, and that no position lies outside.
-/

namespace CanSystems

structure Message where
  topic : List UInt8
  payload : List UInt8
  msgId : Option UInt16
  deriving DecidableEq

inductive InboundAnswer
  | refused | nothing | pong
  | message (m : Message)
  deriving DecidableEq

namespace PubSubClient

/-! ## The bytes -/

def wordOf (high low : UInt8) : UInt16 := (high.toUInt16 <<< 8) + low.toUInt16

/-- A topic name is not empty, holds no zero, and none of the wildcards of a filter. -/
def TopicName (topic : List UInt8) : Prop := topic ≠ [] ∧ 0 ∉ topic ∧ 0x2B ∉ topic ∧ 0x23 ∉ topic

instance (topic : List UInt8) : Decidable (TopicName topic) := inferInstanceAs (Decidable (_ ∧ _ ∧ _ ∧ _))

def messageOf (header : UInt8) : List UInt8 → Option Message
  | high :: low :: rest =>
    let tl := (wordOf high low).toNat
    if header &&& 0x06 = MQTTQOS2 ∨ rest.length < tl ∨ ¬ TopicName (rest.take tl) then none else
    if header &&& 0x06 = MQTTQOS1 then
      match rest.drop tl with
      | high :: low :: payload =>
        if wordOf high low = 0 then none else some ⟨rest.take tl, payload, some (wordOf high low)⟩
      | _ => none
    else some ⟨rest.take tl, rest.drop tl, none⟩
  | _ => none

def answerOf : List UInt8 → InboundAnswer
  | [] => .nothing
  | header :: rest =>
    let type := header &&& 0xF0
    if type = MQTTPUBLISH then
      match (digitCount rest).bind fun digits => messageOf header (rest.drop digits) with
      | some m => .message m
      | none => .refused
    else if type = MQTTPINGRESP then .pong
    else if type = MQTTCONNACK ∨ type = MQTTPUBACK ∨ type = MQTTPUBREC ∨ type = MQTTPUBREL ∨ type = MQTTPUBCOMP then
      .refused
    else .nothing

theorem toNat_wordOf (high low : UInt8) : (wordOf high low).toNat = 256 * high.toNat + low.toNat := by
  have hhigh := high.toNat_lt
  have hlow := low.toNat_lt
  have height : (8 : UInt16).toNat % 16 = 8 := rfl
  rw [wordOf, UInt16.toNat_add, UInt16.toNat_shiftLeft, UInt8.toNat_toUInt16, UInt8.toNat_toUInt16, height,
    Nat.shiftLeft_eq]
  omega

theorem messageOf_topic {header : UInt8} {body : List UInt8} {m : Message} (h : messageOf header body = some m) :
    TopicName m.topic := by
  unfold messageOf at h
  split at h
  · rename_i high low rest
    simp only at h
    split at h
    · cases h
    · rename_i hgood
      have hname : TopicName (rest.take (wordOf high low).toNat) := by
        by_contra hbad
        exact hgood (.inr (.inr hbad))
      split at h
      · split at h
        · split at h
          · cases h
          · cases h
            exact hname
        · cases h
      · cases h
        exact hname
  · cases h

theorem messageOf_split {header high low : UInt8} {rest : List UInt8} {m : Message}
    (h : messageOf header (high :: low :: rest) = some m) :
    (wordOf high low).toNat = m.topic.length ∧
      ∃ id, rest = m.topic ++ (id ++ m.payload) ∧ id.length = if m.msgId.isSome then 2 else 0 := by
  simp only [messageOf] at h
  split at h
  · cases h
  · rename_i hgood
    have hlt : (wordOf high low).toNat ≤ rest.length := Nat.le_of_not_lt fun hlt => hgood (.inr (.inl hlt))
    have htake : (rest.take (wordOf high low).toNat).length = (wordOf high low).toNat := by
      rw [List.length_take, Nat.min_eq_left hlt]
    split at h
    · split at h
      · rename_i idHigh idLow payload htail
        split at h
        · cases h
        · cases h
          refine ⟨htake.symm, [idHigh, idLow], ?_, rfl⟩
          rw [List.cons_append, List.singleton_append, ← htail, List.take_append_drop]
      · cases h
    · cases h
      refine ⟨htake.symm, [], ?_, rfl⟩
      rw [List.nil_append, List.take_append_drop]

theorem answerOf_topic {packet : List UInt8} {m : Message} (h : answerOf packet = .message m) :
    TopicName m.topic := by
  cases packet with
  | nil => cases h
  | cons header rest =>
    simp only [answerOf] at h
    split at h
    · split at h
      · rename_i m' hm
        cases h
        obtain ⟨digits, -, hmessage⟩ := Option.bind_eq_some_iff.mp hm
        exact messageOf_topic hmessage
      · cases h
    · split at h
      · cases h
      · split at h
        · cases h
        · cases h

/-! ## Reading it in the buffer -/

section
variable {buf : Buffer}

theorem readUint16_starts {pre post : List UInt8} {high low : UInt8} (h : buf.Starts (pre ++ high :: low :: post)) :
    readUint16 buf pre.length = some (wordOf high low) := by
  have hhigh : buf.get pre.length = some high := by
    rw [h.get (by simp), List.getElem_append_right (Nat.le_refl _)]
    simp
  have hlow : buf.get (pre.length + 1) = some low := by
    rw [h.get (by simp), List.getElem_append_right (Nat.le_add_right _ _)]
    simp
  simp only [readUint16, hhigh, hlow, bind, Option.bind, pure, wordOf]

theorem read_starts {pre xs post : List UInt8} (h : buf.Starts (pre ++ xs ++ post)) :
    buf.read pre.length xs.length = some xs := by
  rw [h.read (by simp), List.append_assoc, List.drop_left, List.take_left]

variable {header high low : UInt8} {digits rest : List UInt8} {len : UInt16} {llen : UInt8}

theorem short_iff {tl idLen : UInt16} (hllen : llen.toNat = digits.length)
    (hlen : len.toNat = digits.length + 3 + rest.length)
    (hid : idLen.toNat ≤ 2) :
    len.toUInt32 < llen.toUInt32 + 3 + tl.toUInt32 + idLen.toUInt32 ↔ rest.length < tl.toNat + idLen.toNat := by
  have htl := tl.toNat_lt
  have hllen_lt := llen.toNat_lt
  have hthree : (3 : UInt32).toNat = 3 := rfl
  rw [UInt32.lt_iff_toNat_lt, UInt16.toNat_toUInt32, UInt32.toNat_add, UInt32.toNat_add, UInt32.toNat_add,
    UInt8.toNat_toUInt32, UInt16.toNat_toUInt32, UInt16.toNat_toUInt32, hthree, hllen, hlen]
  omega

/-- The topic's part of `checkPublish`, once the packet is long enough for it. -/
def topicTail (buf : Buffer) (llen : UInt8) (tl msgIdLen : UInt16) (topicName : List UInt8) :
    Option (Option (List UInt8 × UInt16 × Option UInt16)) :=
  if ¬ TopicName topicName then some none else
  if msgIdLen = 0 then some (some (topicName, tl, none)) else
  (readUint16 buf (llen.toNat + 3 + tl.toNat)).bind fun msgId =>
    if msgId = 0 then some none else some (some (topicName, tl, some msgId))

theorem checkPublish_topicTail (hstarts : buf.Starts (header :: digits ++ high :: low :: rest))
    (hllen : llen.toNat = digits.length) (hlen : len.toNat = digits.length + 3 + rest.length)
    (hqos : header &&& 0x06 ≠ MQTTQOS2) :
    checkPublish buf len llen =
      if rest.length < (wordOf high low).toNat + (if header &&& 0x06 = MQTTQOS1 then 2 else 0) then some none
      else topicTail buf llen (wordOf high low) (if header &&& 0x06 = MQTTQOS1 then 2 else 0)
        (rest.take (wordOf high low).toNat) := by
  have hheader : buf.get 0 = some header := hstarts.get (by simp)
  have htl : readUint16 buf (llen.toNat + 1) = some (wordOf high low) := by
    rw [hllen]
    exact @readUint16_starts _ (header :: digits) _ _ _ hstarts
  set idLen : UInt16 := if header &&& 0x06 = MQTTQOS1 then 2 else 0 with hidLen
  have hid : idLen.toNat = if header &&& 0x06 = MQTTQOS1 then 2 else 0 := by
    rw [hidLen]
    split <;> rfl
  have hshort := @short_iff _ _ _ _ (wordOf high low) idLen hllen hlen (by rw [hid]; split <;> omega)
  rw [← hid]
  by_cases hlt : rest.length < (wordOf high low).toNat + idLen.toNat
  · simp only [checkPublish, hheader, htl, if_neg hqos, ← hidLen, hshort, if_pos hlt, bind, Option.bind, pure]
  · have htopic : buf.read (llen.toNat + 3) (wordOf high low).toNat = some (rest.take (wordOf high low).toNat) := by
      have hsplit : header :: digits ++ high :: low :: rest = (header :: digits ++ [high, low]) ++
          rest.take (wordOf high low).toNat ++ rest.drop (wordOf high low).toNat := by
        rw [List.append_assoc, List.append_assoc, List.take_append_drop]
        rfl
      have hpre : (header :: digits ++ [high, low]).length = llen.toNat + 3 := by
        rw [hllen, List.length_append, List.length_cons]
        rfl
      have htake : (rest.take (wordOf high low).toNat).length = (wordOf high low).toNat := by
        rw [List.length_take]
        omega
      have hread := read_starts (hsplit ▸ hstarts)
      rwa [hpre, htake] at hread
    simp only [checkPublish, hheader, htl, if_neg hqos, ← hidLen, hshort, if_neg hlt, htopic, bind, Option.bind,
      pure]
    set topicName := rest.take (wordOf high low).toNat with htopicName
    have hempty : wordOf high low = 0 ↔ topicName = [] := by
      rw [htopicName, ← UInt16.toNat_inj, List.take_eq_nil_iff]
      constructor
      · exact fun h0 => .inl h0
      · rintro (h0 | h0)
        · exact h0
        · rw [h0, List.length_nil] at hlt
          exact Nat.eq_zero_of_not_pos fun hpos => hlt (Nat.add_pos_left hpos _)
    rw [topicTail]
    by_cases hname : TopicName topicName
    · obtain ⟨hne, hzero, hplus, hhash⟩ := hname
      rw [if_neg (mt hempty.mp hne), if_neg hzero, if_neg (not_or.mpr ⟨hplus, hhash⟩),
        if_neg (not_not_intro ⟨hne, hzero, hplus, hhash⟩)]
      rfl
    · rw [if_pos hname]
      by_cases hne : topicName = []
      · rw [if_pos (hempty.mpr hne)]
      · by_cases hzero : 0 ∈ topicName
        · rw [if_neg (mt hempty.mp hne), if_pos hzero]
        · have hwild : 0x2B ∈ topicName ∨ 0x23 ∈ topicName := by
            by_contra hno
            exact hname ⟨hne, hzero, not_or.mp hno⟩
          rw [if_neg (mt hempty.mp hne), if_neg hzero, if_pos hwild]

theorem checkPublish_eq (hstarts : buf.Starts (header :: digits ++ high :: low :: rest))
    (hllen : llen.toNat = digits.length)
    (hlen : len.toNat = digits.length + 3 + rest.length) :
    checkPublish buf len llen = some ((messageOf header (high :: low :: rest)).map fun m =>
      (m.topic, UInt16.ofNat m.topic.length, m.msgId)) := by
  by_cases hqos : header &&& 0x06 = MQTTQOS2
  · have hheader : buf.get 0 = some header := hstarts.get (by simp)
    simp only [checkPublish, hheader, messageOf, hqos, true_or, if_true, Option.map_none, bind, Option.bind, pure]
  rw [checkPublish_topicTail hstarts hllen hlen hqos]
  set tl := wordOf high low with htl
  by_cases hlt : rest.length < tl.toNat
  · simp only [messageOf, ← htl, hlt, true_or, or_true, if_true, Option.map_none]
    rw [if_pos (Nat.lt_add_right _ hlt)]
  by_cases hname : TopicName (rest.take tl.toNat)
  · have hlength : UInt16.ofNat (rest.take tl.toNat).length = tl := by
      rw [List.length_take, Nat.min_eq_left (Nat.le_of_not_lt hlt), UInt16.ofNat_toNat]
    simp only [messageOf, ← htl, topicTail, hqos, hlt, hname, not_true, false_or, if_false]
    by_cases hone : header &&& 0x06 = MQTTQOS1
    · have hdrop : (rest.drop tl.toNat).length = rest.length - tl.toNat := List.length_drop
      have htwo : (2 : UInt16) ≠ 0 := by decide
      simp only [if_pos hone, if_neg htwo]
      match htail : rest.drop tl.toNat with
      | [] =>
        rw [htail, List.length_nil] at hdrop
        rw [if_pos (by omega)]
        rfl
      | [last] =>
        rw [htail, List.length_singleton] at hdrop
        rw [if_pos (by omega)]
        rfl
      | idHigh :: idLow :: payload =>
        rw [htail, List.length_cons, List.length_cons] at hdrop
        have hid : readUint16 buf (llen.toNat + 3 + tl.toNat) = some (wordOf idHigh idLow) := by
          have hsplit : header :: digits ++ high :: low :: rest =
              (header :: digits ++ [high, low] ++ rest.take tl.toNat) ++ idHigh :: idLow :: payload := by
            rw [List.append_assoc, ← htail, List.take_append_drop, List.append_assoc]
            rfl
          have hpre : (header :: digits ++ [high, low] ++ rest.take tl.toNat).length = llen.toNat + 3 +
              tl.toNat := by
            rw [hllen, List.length_append, List.length_append, List.length_cons, List.length_take,
              Nat.min_eq_left (Nat.le_of_not_lt hlt)]
            rfl
          have hread := readUint16_starts (hsplit ▸ hstarts)
          rwa [hpre] at hread
        rw [if_neg (by omega), hid, Option.bind_some]
        by_cases hzero : wordOf idHigh idLow = 0
        · simp only [if_pos hzero, Option.map_none]
        · simp only [if_neg hzero, Option.map_some, hlength]
    · simp only [if_neg hone, Nat.add_zero, if_neg hlt, if_true, Option.map_some, hlength]
  · simp only [messageOf, ← htl, topicTail, hname, not_false_eq_true, or_true, if_true, Option.map_none, ite_self]

/-! ## Handing it over -/

/-- The callback is handed the topic as a text of C, and a payload that ends where the packet does. -/
def Shows (packet : List UInt8) (m : Message) : MqttEvent → Prop
  | .callback topic payload length buffer =>
    buffer.read topic (m.topic.length + 1) = some (m.topic ++ [0]) ∧ topic + m.topic.length + 1 ≤ payload ∧
      payload + length.toNat = packet.length ∧ packet.drop payload = m.payload ∧
      buffer.read payload length.toNat = some m.payload
  | _ => False

/-- The topic is moved over the low byte of its length, and the zero takes the place of its last byte. -/
theorem moveTopic {pre topic post : List UInt8} (hstarts : buf.Starts (pre ++ low :: topic ++ post)) :
    ∃ moved ended, buf.write pre.length topic = some moved ∧ moved.write (pre.length + topic.length)
      [0] = some ended ∧
      ended.Starts (pre ++ (topic ++ [0]) ++ post) := by
  have hsplit : low :: topic = (low :: topic).dropLast ++ [(low :: topic).getLast (List.cons_ne_nil low topic)] :=
    (List.dropLast_concat_getLast (List.cons_ne_nil low topic)).symm
  have hinit : topic.length = (low :: topic).dropLast.length := by rw [List.length_dropLast, List.length_cons]; rfl
  have hlength := hstarts.length_le
  rw [List.length_append, List.length_append, List.length_cons] at hlength
  generalize (low :: topic).dropLast = old at hsplit hinit
  generalize (low :: topic).getLast _ = last at hsplit
  rw [hsplit, ← List.append_assoc, List.append_assoc (pre ++ old)] at hstarts
  obtain ⟨moved, hmoved⟩ := buf.exists_write (show pre.length + topic.length ≤ defaultBufferSize by omega)
  have hstarts₁ := hstarts.write_middle hinit hmoved
  rw [← List.append_assoc] at hstarts₁
  obtain ⟨ended, hended⟩ := moved.exists_write
    (show pre.length + topic.length + [(0 : UInt8)].length ≤ defaultBufferSize by rw [List.length_singleton]; omega)
  have hstarts₂ := hstarts₁.write_middle (show [(0 : UInt8)].length = _ from rfl)
    (by rw [List.length_append]; exact hended)
  rw [List.append_assoc pre] at hstarts₂
  exact ⟨moved, ended, hmoved, hended, hstarts₂⟩

theorem payloadLength {tl idLen : UInt16} (hllen : llen.toNat = digits.length)
    (hlen : len.toNat = digits.length + 3 + rest.length)
    (hfits : tl.toNat + idLen.toNat ≤ rest.length) :
    (len.toUInt32 - llen.toUInt32 - 3 - tl.toUInt32 - idLen.toUInt32).toNat =
      rest.length - tl.toNat - idLen.toNat := by
  have hlen_lt := len.toNat_lt
  have hthree : (3 : UInt32).toNat = 3 := rfl
  rw [UInt32.toNat_sub, UInt32.toNat_sub, UInt32.toNat_sub, UInt32.toNat_sub, UInt16.toNat_toUInt32,
    UInt8.toNat_toUInt32, UInt16.toNat_toUInt32, UInt16.toNat_toUInt32, hthree, hllen, hlen]
  omega

theorem deliver_shows {c : PubSubClient} (hstarts : c.buffer.Starts (header :: digits ++ high :: low :: rest))
    (hllen : llen.toNat = digits.length) (hlen : len.toNat = digits.length + 3 + rest.length) {m : Message}
    (hm : messageOf header (high :: low :: rest) = some m) :
    ∃ buffer event, c.deliver len llen (UInt16.ofNat m.topic.length) (if m.msgId.isSome then 2 else 0) m.topic =
      some (c.withBuffer buffer, [event]) ∧ Shows (header :: digits ++ high :: low :: rest) m event := by
  obtain ⟨hword, id, hrest, hid⟩ := messageOf_split hm
  have htl : (UInt16.ofNat m.topic.length).toNat = m.topic.length := by rw [← hword, UInt16.ofNat_toNat]
  have hidLen : (if m.msgId.isSome then 2 else 0 : UInt16).toNat = id.length := by
    rw [hid]
    split <;> rfl
  have hpacket : header :: digits ++ high :: low :: rest = (header :: digits ++ [high]) ++ low :: m.topic ++
      (id ++ m.payload) := by
    rw [hrest]
    simp
  have hlength : rest.length = m.topic.length + (id.length + m.payload.length) := by
    rw [hrest, List.length_append, List.length_append]
  have hpre : (header :: digits ++ [high]).length = llen.toNat + 2 := by
    rw [hllen, List.length_append, List.length_cons]
    rfl
  obtain ⟨moved, ended, hmoved, hended, hafter⟩ := moveTopic (hpacket ▸ hstarts)
  rw [hpre] at hmoved hended
  have hpayload := @payloadLength _ _ _ _ (UInt16.ofNat m.topic.length) (if m.msgId.isSome then 2 else 0) hllen hlen
    (by rw [htl, hidLen]; omega)
  rw [htl, hidLen, hlength, Nat.add_sub_cancel_left, Nat.add_sub_cancel_left] at hpayload
  have hfront : (header :: digits ++ [high] ++ low :: m.topic ++ id).length = llen.toNat + 3 + m.topic.length +
      id.length := by
    rw [List.length_append, List.length_append, hpre, List.length_cons]
    omega
  have hbehind : (header :: digits ++ [high] ++ (m.topic ++ [0]) ++ id).length = llen.toNat + 3 + m.topic.length +
      id.length := by
    rw [List.length_append, List.length_append, hpre, List.length_append, List.length_singleton]
    omega
  refine ⟨ended, .callback (llen.toNat + 2) (llen.toNat + 3 + m.topic.length + id.length)
    (len.toUInt32 - llen.toUInt32 - 3 - (UInt16.ofNat m.topic.length).toUInt32 -
      (if m.msgId.isSome then 2 else 0 : UInt16).toUInt32) ended, ?_, ?_, ?_, ?_, ?_, ?_⟩
  · simp only [deliver, hmoved, htl, hidLen, hended, bind, Option.bind, pure]
  · have hread := read_starts hafter
    rwa [hpre, List.length_append, List.length_singleton] at hread
  · omega
  · rw [hpayload, hpacket, ← List.append_assoc, List.length_append, hfront]
  · rw [hpacket, ← List.append_assoc, ← hfront, List.drop_left]
  · rw [← List.append_assoc, ← List.append_nil m.payload, ← List.append_assoc] at hafter
    have hread := read_starts hafter
    rwa [hbehind, ← hpayload] at hread

end

/-! ## Sending from the buffer -/

theorem lengthDigits_length (n : Nat) (len : UInt16) : (lengthDigits n len).length ≤ n := by
  induction n generalizing len with
  | zero => exact Nat.le_refl 0
  | succ n ih =>
    simp only [lengthDigits]
    split
    · exact Nat.succ_le_succ (ih _)
    · exact Nat.succ_le_succ (Nat.zero_le n)

theorem buildHeader_read (buf : Buffer) (header : UInt8) (length : UInt16) {body : List UInt8}
    (hbody : buf.read MQTT_MAX_HEADER_SIZE body.length = some body) :
    ∃ buffer, buildHeader buf header length = some ((lengthDigits 4 length).length + 1, buffer) ∧
      buffer.read (MQTT_MAX_HEADER_SIZE - ((lengthDigits 4 length).length + 1))
        ((lengthDigits 4 length).length + 1 + body.length) = some (header :: lengthDigits 4 length ++ body) := by
  have hfour := lengthDigits_length 4 length
  have hmax : MQTT_MAX_HEADER_SIZE = 5 := rfl
  have hsize : defaultBufferSize = 1024 := rfl
  rw [hmax] at hbody ⊢
  generalize hdigits : lengthDigits 4 length = digits at hfour
  obtain ⟨buffer₁, h₁⟩ := buf.exists_write
    (show 5 - 1 - digits.length + [header].length ≤ defaultBufferSize by rw [List.length_singleton]; omega)
  obtain ⟨buffer₂, h₂⟩ := buffer₁.exists_write (show 5 - digits.length + digits.length ≤ defaultBufferSize by omega)
  refine ⟨buffer₂, ?_, ?_⟩
  · simp only [buildHeader, hdigits, hmax, h₁, h₂, bind, Option.bind, pure]
  · have hfirst : buffer₂.read (5 - (digits.length + 1)) 1 = some [header] := by
      rw [CArray.read_write_before h₂ (by omega), show 5 - (digits.length + 1) = 5 - 1 - digits.length by omega]
      exact CArray.read_write h₁
    have hsecond : buffer₂.read (5 - (digits.length + 1) + 1) digits.length = some digits := by
      rw [show 5 - (digits.length + 1) + 1 = 5 - digits.length by omega]
      exact CArray.read_write h₂
    have hthird : buffer₂.read (5 - (digits.length + 1) + (1 + digits.length)) body.length = some body := by
      rw [show 5 - (digits.length + 1) + (1 + digits.length) = 5 by omega, CArray.read_write_after h₂ (by omega),
        CArray.read_write_after h₁ (by rw [List.length_singleton]; omega), hbody]
    have hall := CArray.read_append (CArray.read_append hfirst hsecond) hthird
    rwa [Nat.add_comm 1, List.singleton_append] at hall

/-- The packet goes out as it stands behind its header, as far as the link takes it. -/
theorem write_sends (c : PubSubClient) (header : UInt8) (length : UInt16) (lost : Nat) (millis : UInt32)
    {body packet : List UInt8} (hbody : c.buffer.read MQTT_MAX_HEADER_SIZE length.toNat = some body)
    (hpacket : packet = header :: lengthDigits 4 length ++ body) :
    ∃ buffer, c.write header length lost millis = some
      (UInt16.ofNat (packet.length - lost) == UInt16.ofNat packet.length,
        (c.withBuffer buffer).noteSent (UInt16.ofNat (packet.length - lost)) (UInt16.ofNat packet.length) millis,
        packet, packet.length - lost) := by
  have hfour := lengthDigits_length 4 length
  obtain ⟨hroom, hlen⟩ := CArray.length_read hbody
  have hmax : MQTT_MAX_HEADER_SIZE = 5 := rfl
  have hsize : defaultBufferSize = 1024 := rfl
  obtain ⟨buffer, hheader, hread⟩ := buildHeader_read c.buffer header length (hlen ▸ hbody)
  have hlength : packet.length = (lengthDigits 4 length).length + 1 + body.length := by
    rw [hpacket, List.length_append, List.length_cons]
  have hexpected : length + UInt16.ofNat ((lengthDigits 4 length).length + 1) = UInt16.ofNat packet.length := by
    rw [← UInt16.toNat_inj, UInt16.toNat_add, UInt16.toNat_ofNat', UInt16.toNat_ofNat', hlength, hlen]
    omega
  have htoNat : (UInt16.ofNat packet.length).toNat = (lengthDigits 4 length).length + 1 + body.length := by
    rw [UInt16.toNat_ofNat', hlength]
    omega
  have hsent : (UInt16.ofNat (packet.length - lost)).toNat = packet.length - lost := by
    rw [UInt16.toNat_ofNat']
    omega
  refine ⟨buffer, ?_⟩
  rw [← hpacket, ← htoNat] at hread
  simp only [write, hheader, bind, Option.bind, pure, hexpected, hread, hsent]

def pubackOf (msgId : UInt16) : List UInt8 := [MQTTPUBACK, 2, (msgId >>> 8).toUInt8, (msgId &&& 0xFF).toUInt8]

theorem acknowledge_sends (c : PubSubClient) (msgId : UInt16) (io : DispatchIo) :
    ∃ buffer, c.acknowledge msgId io = some
      ((c.withBuffer buffer).noteSent (UInt16.ofNat (4 - io.ackLost)) 4 io.millis,
        [.puback (pubackOf msgId) (4 - io.ackLost)]) := by
  obtain ⟨buffer₁, h₁⟩ := c.buffer.exists_write (show MQTT_MAX_HEADER_SIZE + [(msgId >>> 8).toUInt8].length ≤
    defaultBufferSize
    from Nat.le_of_ble_eq_true rfl)
  obtain ⟨buffer₂, h₂⟩ := buffer₁.exists_write
    (show MQTT_MAX_HEADER_SIZE + 1 + [(msgId &&& 0xFF).toUInt8].length ≤
      defaultBufferSize from Nat.le_of_ble_eq_true rfl)
  have hhigh : buffer₂.read MQTT_MAX_HEADER_SIZE 1 = some [(msgId >>> 8).toUInt8] := by
    rw [CArray.read_write_before h₂ (Nat.le_refl _)]
    exact CArray.read_write h₁
  have hbody := CArray.read_append hhigh (CArray.read_write h₂)
  obtain ⟨buffer, hwrite⟩ := (c.withBuffer buffer₂).write_sends MQTTPUBACK 2 io.ackLost io.millis hbody
    (show pubackOf msgId = _ from rfl)
  refine ⟨buffer, ?_⟩
  simp only [acknowledge, h₁, h₂, hwrite, bind, Option.bind, pure]
  rfl

/-! ## A packet is finished -/

/-- The client after a message: what was built lies in the buffer, and an acknowledgement may have gone out. -/
def acknowledged (c : PubSubClient) (m : Message) (io : DispatchIo) : PubSubClient :=
  if m.msgId.isSome then c.noteSent (UInt16.ofNat (4 - io.ackLost)) 4 io.millis else c

def pubackEvents (m : Message) (io : DispatchIo) : List MqttEvent :=
  match m.msgId with
  | none => []
  | some msgId => [.puback (pubackOf msgId) (4 - io.ackLost)]

def ShowsAll (c : PubSubClient) (packet : List UInt8) (m : Message) : List MqttEvent → Prop
  | [] => c.callback = false
  | [event] => c.callback = true ∧ Shows packet m event
  | _ => False

section
variable {c : PubSubClient} {header high low : UInt8} {digits rest : List UInt8} {len : UInt16} {llen : UInt8}

theorem dispatchPublish_refused (hstarts : c.buffer.Starts (header :: digits ++ high :: low :: rest))
    (hllen : llen.toNat = digits.length) (hlen : len.toNat = digits.length + 3 + rest.length) (io : DispatchIo)
    (hm : messageOf header (high :: low :: rest) = none) : c.dispatchPublish len llen io = some (false, c, []) := by
  simp only [dispatchPublish, checkPublish_eq hstarts hllen hlen, hm, Option.map_none, bind, Option.bind, pure]

theorem dispatchPublish_message (hstarts : c.buffer.Starts (header :: digits ++ high :: low :: rest))
    (hllen : llen.toNat = digits.length) (hlen : len.toNat = digits.length + 3 + rest.length) (io : DispatchIo)
    {m : Message}
    (hm : messageOf header (high :: low :: rest) = some m) :
    ∃ buffer shown, c.dispatchPublish len llen io =
        some (true, (c.withBuffer buffer).acknowledged m io, shown ++ pubackEvents m io) ∧
      ShowsAll c (header :: digits ++ high :: low :: rest) m shown := by
  -- The callback first, and then the acknowledgement, each over what the buffer holds by then.
  obtain ⟨buffer₁, shown, hshown, hshows⟩ : ∃ buffer shown,
      c.handOver len llen (UInt16.ofNat m.topic.length) (if m.msgId.isSome then 2 else 0) m.topic =
        some (c.withBuffer buffer, shown) ∧
      ShowsAll c (header :: digits ++ high :: low :: rest) m shown := by
    by_cases hcallback : c.callback = true
    · obtain ⟨buffer, event, hdeliver, hshows⟩ := deliver_shows hstarts hllen hlen hm
      exact ⟨buffer, [event], by rw [handOver, if_pos hcallback, hdeliver], hcallback, hshows⟩
    · exact ⟨c.buffer, [], by rw [handOver, if_neg hcallback]; rfl, Bool.eq_false_of_not_eq_true hcallback⟩
  cases hid : m.msgId with
  | none =>
    refine ⟨buffer₁, shown, ?_, hshows⟩
    simp only [hid, Option.isSome_none, Bool.false_eq_true, if_false] at hshown
    simp only [dispatchPublish, checkPublish_eq hstarts hllen hlen, hm, Option.map_some, hid, bind, Option.bind,
      pure, hshown, acknowledged, pubackEvents, Option.isSome_none, Bool.false_eq_true, if_false, List.append_nil]
  | some msgId =>
    obtain ⟨buffer₂, hack⟩ := (c.withBuffer buffer₁).acknowledge_sends msgId io
    refine ⟨buffer₂, shown, ?_, hshows⟩
    simp only [hid, Option.isSome_some, if_true] at hshown
    simp only [dispatchPublish, checkPublish_eq hstarts hllen hlen, hm, Option.map_some, hid, bind, Option.bind,
      pure, hshown, hack, acknowledged, pubackEvents, Option.isSome_some, if_true]
    rfl

end

inductive PacketFinished (c : PubSubClient) (packet inbound : List UInt8) (io : DispatchIo) : Option MqttCall → Prop
  | refused : answerOf packet = .refused →
      PacketFinished c packet inbound io (some ⟨false, c.resetReader.violated, inbound, [.dispatched packet]⟩)
  | nothing : answerOf packet = .nothing →
      PacketFinished c packet inbound io
        (some ⟨c.connectionState == .CONNECTED, c.resetReader, inbound, [.dispatched packet]⟩)
  | pong : answerOf packet = .pong →
      PacketFinished c packet inbound io
        (some ⟨(c.resetReader.pingAnswered io.millis).connectionState == .CONNECTED,
          c.resetReader.pingAnswered io.millis, inbound, [.dispatched packet]⟩)
  | message {m : Message} {buffer : Buffer} {shown : List MqttEvent} : answerOf packet = .message m →
      ShowsAll c packet m shown →
      PacketFinished c packet inbound io
        (some ⟨((c.resetReader.withBuffer buffer).acknowledged m io).connectionState == .CONNECTED,
          (c.resetReader.withBuffer buffer).acknowledged m io, inbound,
            .dispatched packet :: (shown ++ pubackEvents m io)⟩)

theorem remainingLengthValid_publish {header : UInt8} {remaining : UInt32}
    (h : remainingLengthValid header remaining = true)
    (htype : header &&& 0xF0 = MQTTPUBLISH) : 2 ≤ remaining.toNat := by
  unfold remainingLengthValid at h
  simp only [htype] at h
  have htwo := of_decide_eq_true h
  exact UInt32.le_iff_toNat_le.mp htwo

theorem ReadsPayload.body {c : PubSubClient} {header : UInt8} {rest : List UInt8} (h : ReadsPayload c header rest)
    (hwhole : PubSubClient.verdict c.bufferSize (header :: rest) = some .Complete) :
    (rest.drop c.rxLengthLength.toNat).length = c.rxRemaining.toNat ∧
      (rest.take c.rxLengthLength.toNat).length = c.rxLengthLength.toNat := by
  have hdone := h.done
  have hwithin := h.within
  have hnot : ¬ c.rxPayloadDone < c.rxRemaining := by
    intro hlt
    rw [h.verdict, if_pos hlt] at hwhole
    cases hwhole
  rw [UInt32.lt_iff_toNat_lt] at hnot
  rw [List.length_drop, List.length_take]
  omega

theorem finishPacket_finished {c : PubSubClient} {header : UInt8} {rest : List UInt8}
    (h : ReadsPayload c header rest)
    (hwhole : verdict c.bufferSize (header :: rest) = some .Complete) (inbound : List UInt8) (io : DispatchIo) :
    PacketFinished c (header :: rest) inbound io (c.finishPacket inbound io) := by
  obtain ⟨hbody, hdigits⟩ := h.body hwhole
  have hpacket : c.resetReader.buffer.read 0 c.rxLen.toNat = some (header :: rest) := by
    rw [h.len]
    exact @read_starts _ [] _ [] (by rw [List.append_nil]; exact h.starts)
  have hheader : c.resetReader.buffer.get 0 = some header := h.starts.get (Nat.succ_pos _)
  have hanswer : answerOf (header :: rest) = answerOf (header :: rest) := rfl
  conv at hanswer => rhs; simp only [answerOf, h.headed.count, Option.bind_some]
  by_cases hpublish : header &&& 0xF0 = MQTTPUBLISH
  · simp only [if_pos hpublish] at hanswer
    have htwo : 2 ≤ c.rxRemaining.toNat := by
      refine remainingLengthValid_publish ?_ hpublish
      have hvalid := h.headed.lengthValid
      rwa [UInt32.ofNat_toNat] at hvalid
    obtain ⟨high, low, tail, htail⟩ : ∃ high low tail, rest.drop c.rxLengthLength.toNat = high :: low :: tail := by
      match hcase : rest.drop c.rxLengthLength.toNat with
      | [] =>
        rw [hcase, List.length_nil] at hbody
        omega
      | [_] =>
        rw [hcase, List.length_singleton] at hbody
        omega
      | high :: low :: tail => exact ⟨high, low, tail, rfl⟩
    have hsplit : header :: rest = header :: rest.take c.rxLengthLength.toNat ++ high :: low :: tail := by
      rw [List.cons_append, ← htail, List.take_append_drop]
    have hlen : c.rxLen.toNat = (rest.take c.rxLengthLength.toNat).length + 3 + tail.length := by
      have hlength := congrArg List.length hsplit
      rw [List.length_append, List.length_cons, List.length_cons, List.length_cons, List.length_cons] at hlength
      rw [h.len]
      omega
    have hstarts : c.resetReader.buffer.Starts (header :: rest.take c.rxLengthLength.toNat ++ high :: low ::
        tail) :=
      hsplit ▸ h.starts
    rw [htail] at hanswer
    cases hm : messageOf header (high :: low :: tail) with
    | none =>
      rw [hm] at hanswer
      have hdispatch := dispatchPublish_refused hstarts hdigits.symm hlen io hm
      simp only [finishPacket, dispatchPacket, hpacket, hheader, if_pos hpublish, hdispatch, bind, Option.bind,
        pure]
      exact .refused hanswer
    | some m =>
      rw [hm] at hanswer
      obtain ⟨buffer, shown, hdispatch, hshows⟩ := dispatchPublish_message hstarts hdigits.symm hlen io hm
      simp only [finishPacket, dispatchPacket, hpacket, hheader, if_pos hpublish, hdispatch, bind, Option.bind,
        pure]
      exact .message hanswer (hsplit ▸ hshows)
  · simp only [if_neg hpublish] at hanswer
    by_cases hping : header &&& 0xF0 = MQTTPINGRESP
    · have hconnack : header &&& 0xF0 ≠ MQTTCONNACK := by
        rw [hping]
        decide
      simp only [if_pos hping] at hanswer
      simp only [finishPacket, dispatchPacket, hpacket, hheader, if_neg hpublish, if_neg hconnack, if_pos hping,
        bind, Option.bind, pure]
      exact .pong hanswer
    · simp only [if_neg hping] at hanswer
      by_cases hconnack : header &&& 0xF0 = MQTTCONNACK
      · simp only [hconnack, true_or, if_true] at hanswer
        simp only [finishPacket, dispatchPacket, hpacket, hheader, if_neg hpublish, if_pos hconnack, bind,
          Option.bind, pure]
        exact .refused hanswer
      · simp only [hconnack, false_or] at hanswer
        simp only [finishPacket, dispatchPacket, hpacket, hheader, if_neg hpublish, if_neg hconnack, if_neg hping,
          bind, Option.bind, pure]
        by_cases hack : header &&& 0xF0 = MQTTPUBACK ∨ header &&& 0xF0 = MQTTPUBREC ∨ header &&& 0xF0 = MQTTPUBREL ∨
            header &&& 0xF0 = MQTTPUBCOMP
        · simp only [if_pos hack] at hanswer ⊢
          exact .refused hanswer
        · simp only [if_neg hack] at hanswer ⊢
          exact .nothing hanswer

end PubSubClient

end CanSystems
