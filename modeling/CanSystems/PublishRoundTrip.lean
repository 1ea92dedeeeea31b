import CanSystems.KeepAlive

/-!
# What is published is read back

`publishPacket` holds the bytes of a message at QoS 0. Both publishes send them,
one built in the buffer and one in pieces. The reader takes them for one packet,
whose length its own digits spell, and hands the callback the topic and the
payload that were published.
-/

namespace CanSystems

open PubSubClient

namespace PubSubClient

/-! ## The length of a packet -/

theorem toNat_shiftRight_seven (len : UInt16) : (len >>> 7).toNat = len.toNat / 128 := by
  have hseven : (7 : UInt16).toNat % 16 = 7 := rfl
  rw [UInt16.toNat_shiftRight, hseven, Nat.shiftRight_eq_div_pow]

theorem toNat_digit (len : UInt16) : (len &&& 127).toUInt8.toNat = len.toNat % 128 := by
  have hmask : (127 : UInt16).toNat = 2 ^ 7 - 1 := rfl
  rw [UInt16.toNat_toUInt8, UInt16.toNat_and, hmask, Nat.and_two_pow_sub_one_eq_mod]
  omega

/-- A digit has the top bit free, so the mark that more follow can be told from it and taken off. -/
theorem digit_bits (len : UInt16) :
    (len &&& 127).toUInt8 &&& 128 = 0 ∧ (len &&& 127).toUInt8 &&& 127 = (len &&& 127).toUInt8 ∧
      ((len &&& 127).toUInt8 ||| 0x80) &&& 128 ≠ 0 ∧
      ((len &&& 127).toUInt8 ||| 0x80) &&& 127 = (len &&& 127).toUInt8 := by
  have hall : ∀ b : Fin 128, UInt8.ofNat b &&& 128 = 0 ∧ UInt8.ofNat b &&& 127 = UInt8.ofNat b ∧
      (UInt8.ofNat b ||| 0x80) &&& 128 ≠ 0 ∧ (UInt8.ofNat b ||| 0x80) &&& 127 = UInt8.ofNat b := by
    decide +kernel
  have hdigit : UInt8.ofNat (len.toNat % 128) = (len &&& 127).toUInt8 := by
    rw [← toNat_digit, UInt8.ofNat_toNat]
  rw [← hdigit]
  exact hall ⟨len.toNat % 128, Nat.mod_lt _ (by decide)⟩

theorem lengthDigits_last (n : Nat) {len : UInt16} (hlen : len.toNat < 128) :
    lengthDigits (n + 1) len = [(len &&& 127).toUInt8] := by
  have hzero : ¬ len >>> 7 > 0 := by
    intro hpos
    have hpos := UInt16.lt_iff_toNat_lt.mp hpos
    rw [toNat_shiftRight_seven, Nat.div_eq_of_lt hlen] at hpos
    exact Nat.lt_irrefl 0 hpos
  rw [lengthDigits]
  simp only [if_neg hzero]

theorem lengthDigits_more (n : Nat) {len : UInt16} (hlen : 128 ≤ len.toNat) :
    lengthDigits (n + 1) len = ((len &&& 127).toUInt8 ||| 0x80) :: lengthDigits n (len >>> 7) := by
  have hpos : len >>> 7 > 0 := by
    refine UInt16.lt_iff_toNat_lt.mpr ?_
    rw [toNat_shiftRight_seven]
    exact Nat.div_pos hlen (by decide)
  rw [lengthDigits]
  simp only [if_pos hpos]

theorem lengthDigits_spells (n : Nat) {len : UInt16} (hlen : len.toNat < 128 ^ (n + 1)) :
    digitCount (lengthDigits (n + 1) len) = some (lengthDigits (n + 1) len).length ∧
      lengthOf (lengthDigits (n + 1) len) = len.toNat := by
  induction n generalizing len with
  | zero =>
    obtain ⟨hlast, hsame, -⟩ := digit_bits len
    rw [lengthDigits_last 0 hlen, digitCount, if_pos hlast, lengthOf_singleton, hsame, toNat_digit]
    exact ⟨rfl, Nat.mod_eq_of_lt hlen⟩
  | succ n ih =>
    obtain ⟨hlast, hsame, hmore, hmarked⟩ := digit_bits len
    by_cases hone : len.toNat < 128
    · rw [lengthDigits_last (n + 1) hone, digitCount, if_pos hlast, lengthOf_singleton, hsame, toNat_digit]
      exact ⟨rfl, Nat.mod_eq_of_lt hone⟩
    · have hless : (len >>> 7).toNat < 128 ^ (n + 1) := by
        rw [toNat_shiftRight_seven]
        exact Nat.div_lt_of_lt_mul (by rwa [pow_succ, Nat.mul_comm] at hlen)
      obtain ⟨hcount, hspells⟩ := ih hless
      rw [lengthDigits_more (n + 1) (Nat.le_of_not_lt hone), digitCount, if_neg hmore, hcount, lengthOf, hmarked,
        hspells, toNat_digit, toNat_shiftRight_seven]
      exact ⟨rfl, Nat.mod_add_div _ _⟩

theorem wordOf_bytes (tl : UInt16) : wordOf (tl >>> 8).toUInt8 (tl &&& 0xFF).toUInt8 = tl := by
  have hlt := tl.toNat_lt
  have height : (8 : UInt16).toNat % 16 = 8 := rfl
  have hmask : (0xFF : UInt16).toNat = 2 ^ 8 - 1 := rfl
  rw [← UInt16.toNat_inj, toNat_wordOf, UInt16.toNat_toUInt8, UInt16.toNat_toUInt8, UInt16.toNat_shiftRight,
    UInt16.toNat_and, height, hmask, Nat.and_two_pow_sub_one_eq_mod, Nat.shiftRight_eq_div_pow]
  omega

/-! ## The packet in the reader -/

theorem publishHeader_valid (retained : Bool) :
    fixedHeaderValid (publishHeader retained) = true ∧ publishHeader retained &&& 0xF0 = MQTTPUBLISH ∧
      publishHeader retained &&& 0x06 ≠ MQTTQOS2 ∧ publishHeader retained &&& 0x06 ≠ MQTTQOS1 := by
  cases retained <;> decide +kernel

section
variable {bufferSize : UInt16} {header : UInt8} {digits body : List UInt8}

theorem Headed.waits_whole (h : Headed bufferSize header digits digits.length body.length)
    (hfour : digits.length ≤ 4) :
    Framing.Waits (PubSubClient.verdict bufferSize) [] (header :: digits ++ body) := by
  intro ys zs hpacket hzs
  rw [List.nil_append]
  cases ys with
  | nil => rfl
  | cons first ys =>
    obtain ⟨rfl, hsplit⟩ := List.cons.inj hpacket
    have hlength := congrArg List.length hsplit
    have hpos := List.length_pos_iff.mpr hzs
    rw [List.append_eq, List.append_eq, List.length_append, List.length_append] at hlength
    rcases List.append_eq_append_iff.mp hsplit with ⟨front, hys, -⟩ | ⟨left, hdigits, -⟩
    · rw [hys, (h.append front).verdict, ← hys, if_pos (by omega)]
    · -- The cut lies in the digits, or right behind them.
      by_cases hnil : left = []
      · rw [hnil, List.append_nil] at hdigits
        subst hdigits
        rw [h.verdict, if_pos (by omega)]
      · have hshort : ys.length < digits.length := by
          rw [hdigits, List.length_append]
          exact Nat.lt_add_of_pos_right (List.length_pos_iff.mpr hnil)
        have hcount : digitCount ys = none := by
          by_contra hsome
          obtain ⟨n, hn⟩ := Option.ne_none_iff_exists'.mp hsome
          have hall := digitCount_append hn left
          rw [← hdigits, h.count] at hall
          have hle := (digitCount_le hn).2
          rw [← Option.some.inj hall] at hle
          omega
        rw [verdict_of_digits h.valid hcount, if_neg (by omega)]

theorem Headed.verdict_whole (h : Headed bufferSize header digits digits.length body.length) :
    PubSubClient.verdict bufferSize (header :: digits ++ body) = some .Complete := by
  rw [List.cons_append, (h.append body).verdict, List.length_append, if_neg (Nat.lt_irrefl _)]

end

section
variable {bufferSize : UInt16} {topic payload : List UInt8}

theorem publishPacket_eq (topic payload : List UInt8) (retained : Bool) :
    publishPacket topic payload retained = publishHeader retained ::
      lengthDigits 4 (UInt16.ofNat (2 + topic.length + payload.length)) ++ (lengthPrefixed topic ++ payload) := by
  rw [publishPacket, publishFront, List.append_assoc]

theorem publish_headed (hroom : MQTT_MAX_HEADER_SIZE + 2 + topic.length + payload.length ≤ bufferSize.toNat)
    (retained : Bool) :
    Headed bufferSize (publishHeader retained) (lengthDigits 4 (UInt16.ofNat (2 + topic.length + payload.length)))
      (lengthDigits 4 (UInt16.ofNat (2 + topic.length + payload.length))).length
        (lengthPrefixed topic ++ payload).length := by
  have hmax : MQTT_MAX_HEADER_SIZE = 5 := rfl
  have hsize := bufferSize.toNat_lt
  have hlength : (lengthPrefixed topic ++ payload).length = 2 + topic.length + payload.length := by
    rw [List.length_append, length_lengthPrefixed]
  rw [hlength]
  generalize hn : 2 + topic.length + payload.length = n
  have htoNat : (UInt16.ofNat n).toNat = n := by
    rw [UInt16.toNat_ofNat']
    omega
  have hfour := lengthDigits_length 4 (UInt16.ofNat n)
  obtain ⟨hcount, hspells⟩ := lengthDigits_spells 3 (Nat.lt_trans (UInt16.ofNat n).toNat_lt (by decide))
  obtain ⟨hvalid, htype, -⟩ := publishHeader_valid retained
  refine ⟨hvalid, hcount, ?_, ?_, by omega⟩
  · rw [List.take_length, hspells, htoNat]
  · have htwo : (2 : UInt32) ≤ UInt32.ofNat n := by
      rw [UInt32.le_iff_toNat_le, UInt32.toNat_ofNat_of_lt' (Nat.lt_trans (show n < 65536 by omega) (by decide))]
      exact Nat.le_trans (Nat.le_refl 2) (by omega)
    simp only [remainingLengthValid, htype]
    exact decide_eq_true htwo

theorem publishPacket_length_lt
    (hroom : MQTT_MAX_HEADER_SIZE + 2 + topic.length + payload.length ≤ bufferSize.toNat)
    (retained : Bool) : (publishPacket topic payload retained).length < 65536 := by
  have hmax : MQTT_MAX_HEADER_SIZE = 5 := rfl
  have hsize := bufferSize.toNat_lt
  have hfour := lengthDigits_length 4 (UInt16.ofNat (2 + topic.length + payload.length))
  rw [publishPacket_eq, List.length_append, List.length_append, List.length_cons, length_lengthPrefixed]
  omega

theorem publish_answer (htopic : TopicName topic) (hlength : topic.length < 65536) (payload : List UInt8)
    (retained : Bool) :
    answerOf (publishPacket topic payload retained) = .message ⟨topic, payload, none⟩ := by
  obtain ⟨-, htype, htwo, hone⟩ := publishHeader_valid retained
  obtain ⟨hcount, -⟩ :=
    lengthDigits_spells 3 (Nat.lt_trans (UInt16.ofNat (2 + topic.length + payload.length)).toNat_lt (by decide))
  have htl : (wordOf (UInt16.ofNat topic.length >>> 8).toUInt8 (UInt16.ofNat topic.length &&& 0xFF).toUInt8).toNat =
      topic.length := by
    rw [wordOf_bytes, UInt16.toNat_ofNat', Nat.mod_eq_of_lt hlength]
  have hmessage : messageOf (publishHeader retained) (lengthPrefixed topic ++ payload) = some ⟨topic, payload,
      none⟩ := by
    rw [lengthPrefixed, List.cons_append, List.cons_append]
    simp only [messageOf, htl, List.take_left, List.drop_left, htwo, hone, htopic, false_or, not_true, or_false,
      if_false]
    rw [if_neg (by rw [List.length_append]; omega)]
  rw [publishPacket_eq, List.cons_append]
  simp only [answerOf, htype, if_true, digitCount_append hcount, Option.bind_some, List.drop_left, hmessage]

end

/-! ## What the link is handed -/

end PubSubClient

def MqttEvent.written : MqttEvent → List UInt8
  | .publish bytes taken => bytes.take taken
  | _ => []

def MqttCall.written (call : MqttCall) : List UInt8 := call.log.flatMap MqttEvent.written

namespace PubSubClient

/-- The pieces of a payload are its front, as long as the count that is kept of them. -/
theorem sendChunks_writes (lost : Nat → Nat) (n i : Nat) (payload : List UInt8) :
    (sendChunks lost n i payload).2.flatMap MqttEvent.written <+: payload ∧
      (sendChunks lost n i payload).1 = UInt16.ofNat
        ((sendChunks lost n i payload).2.flatMap MqttEvent.written).length := by
  induction n generalizing i payload with
  | zero => exact ⟨List.nil_prefix, rfl⟩
  | succ n ih =>
    rw [sendChunks]
    by_cases hempty : payload = []
    · rw [if_pos hempty]
      exact ⟨List.nil_prefix, rfl⟩
    · rw [if_neg hempty]
      set chunk := payload.take progmemChunkSize with hchunk
      by_cases hwhole : chunk.length - lost i = chunk.length
      · obtain ⟨hstart, hsent⟩ := ih (i + 1) (payload.drop progmemChunkSize)
        simp only [hwhole, if_true, List.flatMap_cons, MqttEvent.written, List.take_length]
        refine ⟨?_, ?_⟩
        · have hall := (List.prefix_append_right_inj chunk).mpr hstart
          rwa [hchunk, List.take_append_drop] at hall
        · rw [hsent, List.length_append, UInt16.ofNat_add]
      · simp only [if_neg hwhole, List.flatMap_cons, List.flatMap_nil, List.append_nil, MqttEvent.written,
          List.length_take]
        refine ⟨(List.take_prefix _ chunk).trans (List.take_prefix _ payload), ?_⟩
        rw [Nat.min_eq_left (Nat.sub_le _ _)]

/-- What sending a message comes to: a front of its packet, and all of it where that is the answer. -/
structure Writes (packet : List UInt8) (lost : Nat → Nat) (ok : Bool) (written : List UInt8) : Prop where
  front : written <+: packet
  whole : ok = true → written = packet
  accepted : (∀ i, lost i = 0) → ok = true

theorem sendPublish_writes {c : PubSubClient} (hsize : c.bufferSize.toNat ≤ defaultBufferSize) (topic : CString)
    (payload : List UInt8) (retained : Bool) (io : PublishIo)
    (hroom : MQTT_MAX_HEADER_SIZE + 2 + c.lengthWithin topic + payload.length ≤ c.bufferSize.toNat) :
    ∃ ok c' log, c.sendPublish topic payload retained io = some (ok, c', log) ∧
      Writes (publishPacket topic.chars payload retained) io.lost ok (log.flatMap MqttEvent.written) := by
  obtain ⟨buffer, hsend⟩ := sendPublish_builds hsize topic payload retained io hroom rfl
  have hlength := publishPacket_length_lt (lengthWithin_eq hroom ▸ hroom) retained
  refine ⟨_, _, _, hsend, ?_⟩
  generalize publishPacket topic.chars payload retained = packet at hlength
  simp only [List.flatMap_cons, List.flatMap_nil, List.append_nil, MqttEvent.written]
  refine ⟨List.take_prefix _ packet, fun hok => ?_, fun hlost => ?_⟩
  · have hsent := congrArg UInt16.toNat (beq_iff_eq.mp hok)
    rw [UInt16.toNat_ofNat', UInt16.toNat_ofNat'] at hsent
    exact List.take_of_length_le (by omega)
  · rw [hlost 0, Nat.sub_zero]
    exact beq_self_eq_true _

theorem sendPublish_P_writes {c : PubSubClient} (hsize : c.bufferSize.toNat ≤ defaultBufferSize) (topic : CString)
    (payload : List UInt8) (retained : Bool) (io : PublishIo)
    (hroom : MQTT_MAX_HEADER_SIZE + 2 + c.lengthWithin topic + payload.length ≤ c.bufferSize.toNat) :
    ∃ ok c' log, c.sendPublish_P topic payload retained io = some (ok, c', log) ∧
      Writes (publishPacket topic.chars payload retained) io.lost ok (log.flatMap MqttEvent.written) := by
  have hcap : defaultBufferSize = 1024 := rfl
  obtain ⟨buffer, sent, log, hchunks, hsend⟩ := sendPublish_P_streams hsize topic payload retained io
    (Nat.le_trans (Nat.le_add_right _ _) hroom) (by omega) rfl
  have hlength := publishPacket_length_lt (lengthWithin_eq hroom ▸ hroom) retained
  refine ⟨_, _, _, hsend, ?_⟩
  rw [publishPacket, List.length_append] at hlength
  rw [publishPacket, List.flatMap_cons, MqttEvent.written]
  generalize publishFront topic.chars payload.length retained = front at hlength hchunks
  by_cases hfirst : front.length - io.lost 0 = front.length
  · obtain ⟨hstart, hsent⟩ := sendChunks_writes io.lost payload.length 1 payload
    rw [if_pos hfirst] at hchunks
    rw [← hchunks] at hstart hsent
    have hstart : log.flatMap MqttEvent.written <+: payload := hstart
    have hsent : sent = UInt16.ofNat (log.flatMap MqttEvent.written).length := hsent
    have hle := hstart.length_le
    rw [hfirst, List.take_length]
    refine ⟨(List.prefix_append_right_inj front).mpr hstart, fun hok => ?_, fun hlost => ?_⟩
    · have hall := congrArg UInt16.toNat (beq_iff_eq.mp hok)
      rw [hsent, ← UInt16.ofNat_add, UInt16.toNat_ofNat', UInt16.toNat_ofNat'] at hall
      rw [hstart.eq_of_length (by omega)]
    · have hall := sendChunks_all hlost 1 (Nat.le_refl payload.length)
      rw [← hchunks] at hall
      have hall : sent = UInt16.ofNat payload.length := hall
      rw [hall, ← UInt16.ofNat_add]
      exact beq_self_eq_true _
  · rw [if_neg hfirst] at hchunks
    obtain ⟨rfl, rfl⟩ := Prod.mk.inj hchunks
    rw [List.flatMap_nil, List.append_nil]
    refine ⟨(List.take_prefix _ front).trans (List.prefix_append front payload), fun hok => ?_, fun hlost => ?_⟩
    · have hall := congrArg UInt16.toNat (beq_iff_eq.mp hok)
      rw [UInt16.add_zero, UInt16.toNat_ofNat', UInt16.toNat_ofNat'] at hall
      exact absurd (by omega) hfirst
    · exact absurd (by rw [hlost 0, Nat.sub_zero]) hfirst

theorem send_writes {c : PubSubClient} (hsize : c.bufferSize.toNat ≤ defaultBufferSize) (topic : CString)
    (call : PublishCall)
    (io : PublishIo) (hroom : MQTT_MAX_HEADER_SIZE + 2 + c.lengthWithin topic + call.payload.length ≤
      c.bufferSize.toNat) :
    ∃ ok c' log, c.send topic call io = some (ok, c', log) ∧
      Writes (publishPacket topic.chars call.payload call.retained) io.lost ok (log.flatMap MqttEvent.written) := by
  unfold send
  split
  · exact sendPublish_P_writes hsize topic call.payload call.retained io hroom
  · exact sendPublish_writes hsize topic call.payload call.retained io hroom

/-! ## One pass over a whole packet -/

end PubSubClient

def RxIo.Hands (rx : RxIo) (n : Nat) : Prop :=
  n ≤ rx.header ∧ ∃ ready answer rest, rx.payload = (ready, answer) :: rest ∧ n ≤ ready.toNat ∧ n ≤ answer

namespace PubSubClient

section
variable {c : PubSubClient} {header : UInt8} {digits body : List UInt8}

theorem advanceHeader_whole {pre xs : List UInt8} (h : ReadsHeader c pre) (hpacket : pre ++ xs = header :: digits)
    (hheaded : Headed c.bufferSize header digits digits.length body.length) (hfour : digits.length ≤ 4)
    (hbody : body ≠ [])
    {asks : Nat} (hasks : xs.length ≤ asks) :
    ∃ c', c.advanceHeader (xs ++ body) asks = some (.Complete, c', body) ∧ SameSession c c' ∧
      ReadsPayload c' header digits := by
  induction xs generalizing c pre asks with
  | nil =>
    have hcount := h.count
    rw [List.append_nil] at hpacket
    rw [hpacket, List.tail_cons, hheaded.count] at hcount
    cases hcount
  | cons b xs ih =>
    obtain ⟨asks, rfl⟩ := Nat.exists_eq_add_of_le' (Nat.le_trans (Nat.succ_pos _) hasks)
    have hsplit : pre ++ [b] ++ xs = header :: digits := by rw [List.append_assoc, List.singleton_append, hpacket]
    have hopen := hheaded.waits_whole hfour (pre ++ [b]) (xs ++ body)
      (by rw [← List.append_assoc (pre ++ [b]), hsplit]) (List.append_ne_nil_of_right_ne_nil xs hbody)
    obtain ⟨r, c₁, hbyte, hsame, htaken⟩ := headerByte_taken h b
    rw [List.cons_append, advanceHeader, hbyte]
    cases htaken with
    | more _ hreads =>
      obtain ⟨c', hcall, hsame', hreads'⟩ :=
        ih hreads hsplit (hsame.bufferSize ▸ hheaded) (Nat.le_of_succ_le_succ hasks)
      exact ⟨c', hcall, hsame.trans hsame', hreads'⟩
    | @whole _ header' rest hbytes hreads =>
      rw [hbytes] at hsplit
      obtain ⟨rfl, hdigits⟩ := List.cons.inj hsplit
      -- The reader stops at the last digit.
      have hcount := digitCount_append hreads.headed.count xs
      have hdigits : rest ++ xs = digits := hdigits
      rw [hdigits, hheaded.count] at hcount
      have hle := (digitCount_le hreads.headed.count).2
      have hlength := congrArg List.length hdigits
      rw [List.length_append] at hlength
      have hnil : xs = [] := by
        rw [← List.length_eq_zero_iff]
        have hall := Option.some.inj hcount
        omega
      subst hnil
      rw [List.append_nil] at hdigits
      exact ⟨c₁, rfl, hsame, hdigits ▸ hreads⟩
    | broken _ hverdict =>
      rw [List.nil_append, hverdict] at hopen
      cases hopen

theorem advancePayload_whole (hsize : c.bufferSize.toNat ≤ defaultBufferSize) (h : ReadsPayload c header digits)
    (hheaded : Headed c.bufferSize header digits digits.length body.length) (hbody : body ≠ []) {ready : UInt32}
    {answer : Nat}
    (hready : body.length ≤ ready.toNat) (hanswer : body.length ≤ answer) (rest : List (UInt32 × Nat)) :
    ∃ c', c.advancePayload body ((ready, answer) :: rest) = some (.Complete, c', []) ∧ SameSession c c' ∧
      ReadsPayload c' header (digits ++ body) := by
  have hpos := List.length_pos_iff.mpr hbody
  have hdigits : c.rxLengthLength.toNat = digits.length := Option.some.inj (h.headed.count.symm.trans hheaded.count)
  have hremaining : c.rxRemaining.toNat = body.length := by
    rw [← h.headed.spells, hdigits, hheaded.spells]
  have hdone : c.rxPayloadDone.toNat = 0 := by
    have hall := h.done
    omega
  have hmore : c.rxPayloadDone < c.rxRemaining := by
    rw [UInt32.lt_iff_toNat_lt]
    omega
  have hleft : (c.rxRemaining - c.rxPayloadDone).toNat = body.length := by
    rw [UInt32.toNat_sub_of_le _ _ (UInt32.le_iff_toNat_le.mpr h.within)]
    omega
  have hnone : ready ≠ 0 := by
    intro hzero
    rw [hzero] at hready
    exact Nat.not_le_of_lt hpos hready
  have htake : ¬ ready < c.rxRemaining - c.rxPayloadDone := by
    rw [UInt32.lt_iff_toNat_lt]
    omega
  have hgot : body.take (min answer body.length) = body := List.take_of_length_le (by omega)
  obtain ⟨buffer, hfill, hwrite⟩ := h.exists_fill hsize (Nat.le_refl _) (Nat.le_of_eq hleft.symm)
  have hreads := h.addPayload (Nat.le_of_eq hleft.symm) hwrite
  have hadd : SameSession c (c.addPayload body buffer) := ⟨rfl, rfl, rfl, rfl, rfl, rfl, rfl, rfl, rfl, rfl, rfl⟩
  obtain ⟨c', taken, left, hnil, hsame, hreads', hcall⟩ :=
    advancePayload_read (c := c.addPayload body buffer) hsize hreads [] rest
  obtain ⟨rfl, rfl⟩ := List.append_eq_nil_iff.mp hnil.symm
  rw [List.append_nil] at hreads'
  have hend : ¬ c'.rxPayloadDone < c'.rxRemaining := by
    have hverdict := hreads'.verdict
    rw [hsame.bufferSize, hadd.bufferSize] at hverdict
    have hwhole := hheaded.verdict_whole
    rw [List.cons_append, hverdict] at hwhole
    intro hlt
    rw [if_pos hlt] at hwhole
    cases hwhole
  rw [if_neg hend] at hcall
  refine ⟨c', ?_, hadd.trans hsame, hreads'⟩
  rw [advancePayload, if_pos hmore, if_neg hnone]
  simp only [if_neg htake, hleft, hgot, if_neg hbody, hleft ▸ hfill, List.drop_length, hcall]

theorem pumpReader_whole (hsize : c.bufferSize.toNat ≤ defaultBufferSize) (h : Stands c [])
    (hheaded : Headed c.bufferSize header digits digits.length body.length) (hfour : digits.length ≤ 4)
    (hbody : body ≠ [])
    (t : UInt32) {rx : RxIo} (hrx : rx.Hands (header :: digits ++ body).length) (io : DispatchIo) :
    ∃ c', c.pumpReader (header :: digits ++ body) t true rx io = (c'.heard t).finishPacket
      [] io ∧ SameSession c c' ∧
      ReadsPayload c' header (digits ++ body) := by
  obtain ⟨hasks, ready, answer, rest, hpayload, hready, hanswer⟩ := hrx
  rw [List.length_append] at hasks hready hanswer
  have hsame := c.beginPacket_same t
  have hphase := c.beginPacket_phase t
  have hreads : ReadsHeader (c.beginPacket t) [] := by
    cases (h.begin t).reads with
    | header hreads => exact hreads
  have hheader : (c.beginPacket t).rxPhase = .Header := by
    cases hcase : (c.beginPacket t).rxPhase with
    | Idle => exact absurd hcase hphase
    | Header => rfl
    | Payload => exact absurd hcase hreads.phase
  rw [← hsame.bufferSize] at hheaded hsize
  have hasks : (header :: digits).length ≤ rx.header := by omega
  have hready : body.length ≤ ready.toNat := by omega
  have hanswer : body.length ≤ answer := by omega
  obtain ⟨c₁, hcall₁, hsame₁, hreads₁⟩ := advanceHeader_whole hreads (List.nil_append _) hheaded hfour hbody hasks
  rw [← hsame₁.bufferSize] at hheaded hsize
  obtain ⟨c₂, hcall₂, hsame₂, hreads₂⟩ := advancePayload_whole hsize hreads₁ hheaded hbody hready hanswer rest
  refine ⟨c₂, ?_, (hsame.trans hsame₁).trans hsame₂, hreads₂⟩
  have hbegins : ¬ (c.rxPhase = .Idle ∧ true = false) := fun hidle => Bool.noConfusion hidle.2
  have hnot : ¬ (RxResult.Complete = .Malformed ∨ RxResult.Complete = .TooLarge) := by simp
  simp only [pumpReader, if_neg hbegins, if_pos hheader, hcall₁, bind, Option.bind, if_neg hnot, pumpPayload,
    if_pos hreads₁.phase, hpayload, hcall₂, if_true]

end

/-! ## The callback -/

theorem PacketFinished.message_seen {c : PubSubClient} {packet inbound topic payload : List UInt8} {io : DispatchIo}
    {result : Option MqttCall} (h : PacketFinished c packet inbound io result)
    (hanswer : answerOf packet = .message ⟨topic, payload, none⟩) (hcallback : c.callback = true)
    (hup : c.connectionState = .CONNECTED) :
    ∃ call, result = some call ∧ call.ok = true ∧ call.inbound = inbound ∧
      call.log.filterMap MqttEvent.seen = [.message topic payload (UInt32.ofNat payload.length)] := by
  cases h with
  | refused hother => cases hother.symm.trans hanswer
  | nothing hother => cases hother.symm.trans hanswer
  | pong hother => cases hother.symm.trans hanswer
  | message hmessage hshows =>
    cases hmessage.symm.trans hanswer
    have hseen := hshows.seen (answerOf_topic hanswer).2.1
    rw [if_pos hcallback] at hseen
    refine ⟨_, rfl, beq_iff_eq.mpr hup, rfl, ?_⟩
    rw [List.filterMap_cons_none rfl, List.filterMap_append, hseen]
    rfl

end PubSubClient

/-- The client that is sent the bytes calls its callback once, with the topic and the payload. -/
structure ReadsBack (c : PubSubClient) (bytes topic payload : List UInt8) : Prop where
  /-- In a pass that finds all of them. -/
  whole : ∀ t rx io, rx.Hands bytes.length → ∃ call, c.pumpReader bytes t true rx io = some call ∧ call.ok = true ∧
    call.inbound = [] ∧ call.log.filterMap MqttEvent.seen = [.message topic payload (UInt32.ofNat payload.length)]
  /-- In any passes that find some of them, and with any publishes in between. -/
  pieces : ∀ ops s, (∀ op ∈ ops, op.Served) → MqttSession.run ⟨c, bytes, []⟩ ops = some s →
    s.client.connectionState ≠ .CONNECTION_TIMEOUT → s.Drained →
      s.inbound = [] ∧ s.seen = [.message topic payload (UInt32.ofNat payload.length)] ∧
        s.client.connectionState = .CONNECTED

section
variable {c : PubSubClient} {topic payload : List UInt8}

theorem publishPacket_read_back (hsize : c.bufferSize.toNat ≤ defaultBufferSize) (hstands : Stands c [])
    (hup : c.connectionState = .CONNECTED) (hcallback : c.callback = true) (htopic : TopicName topic)
    (hroom : MQTT_MAX_HEADER_SIZE + 2 + topic.length + payload.length ≤ c.bufferSize.toNat) (retained : Bool) :
    ReadsBack c (publishPacket topic payload retained) topic payload := by
  have hcap : defaultBufferSize = 1024 := rfl
  have hanswer := publish_answer htopic (by omega) payload retained
  have hheaded := publish_headed hroom retained
  have hfour := lengthDigits_length 4 (UInt16.ofNat (2 + topic.length + payload.length))
  have hwaits := hheaded.waits_whole hfour
  have hwhole := hheaded.verdict_whole
  rw [← publishPacket_eq] at hwaits hwhole
  refine ⟨fun t rx io hrx => ?_, fun ops s hserved hrun hintime hdrained => ?_⟩
  · rw [publishPacket_eq] at hrx hwhole hanswer ⊢
    obtain ⟨c', hpump, hsame, hreads⟩ := pumpReader_whole hsize hstands hheaded hfour (List.cons_ne_nil _ _) t hrx
      io
    have hs := heard_same c' t
    rw [hpump]
    rw [List.cons_append] at hwhole hanswer
    refine PacketFinished.message_seen (finishPacket_finished (hs.readsPayload hreads) ?_ [] io) hanswer ?_ ?_
    · rw [hs.bufferSize, hsame.bufferSize, hwhole]
    · rw [hs.callback, hsame.callback, hcallback]
    · rw [hs.connectionState, hsame.connectionState, hup]
  · have hfollows : Follows c.bufferSize c.callback ⟨c, publishPacket topic payload retained, []⟩
        ⟨[], [], .CONNECTED⟩ :=
      ⟨rfl, rfl, hstands, rfl, hup.symm⟩
    obtain hout | ⟨taken, hinbound, hends⟩ := hfollows.run hsize hserved hrun
    · exact absurd hout hintime
    have hfed := Framing.feedAll_whole (F := delivering c.bufferSize c.callback) (p := ⟨[], [], .CONNECTED⟩) rfl rfl
      hwaits hwhole
    have hsame := Framing.feedAll_eq_of_drained (F := delivering c.bufferSize c.callback)
      (p := ⟨[], [], .CONNECTED⟩)
      (hinbound.symm.trans (List.append_nil _).symm)
      (hdrained.imp_right fun hended => beq_eq_false_iff_ne.mpr (hends.state ▸ hended)) (.inl rfl)
    rw [hsame, hfed] at hends
    have hsettled : (delivering c.bufferSize c.callback).settle ⟨[], .CONNECTED⟩
      ([] ++ publishPacket topic payload retained)
        .Complete = ⟨[.message topic payload (UInt32.ofNat payload.length)], .CONNECTED⟩ := by
      simp only [delivering, if_true, List.nil_append, Delivered.answer, hanswer, Message.seen, hcallback,
        List.append_nil]
    rw [hsettled] at hends
    refine ⟨hdrained.resolve_right fun hended => hended hends.state.symm, hends.seen.symm, hends.state.symm⟩

end

/-! ## A publish that is accepted -/

namespace PubSubClient

theorem PacketFinished.settled {c : PubSubClient} {packet inbound : List UInt8} {io : DispatchIo} {call : MqttCall}
    (h : PacketFinished c packet inbound io (some call)) (hok : call.ok = true) :
    call.client.callback = c.callback ∧ call.client.connectionState = .CONNECTED := by
  cases h with
  | refused => cases hok
  | nothing => exact ⟨rfl, beq_iff_eq.mp hok⟩
  | pong => exact ⟨(pingAnswered_same c.resetReader io.millis).callback, beq_iff_eq.mp hok⟩
  | @message m buffer =>
    exact ⟨(acknowledged_reader (c.resetReader.withBuffer buffer) m io).callback, beq_iff_eq.mp hok⟩

/-- Finishing the packet in progress keeps the callback, and the session unless it fails. -/
theorem settleReader_settled {c : PubSubClient} (hsize : c.bufferSize.toNat ≤ defaultBufferSize)
    {pending : List UInt8}
    (h : Stands c pending) (hup : c.connectionState = .CONNECTED) {inbound : List UInt8} {rounds : List RxIo}
    {io : DispatchIo} {settled : MqttCall} (hcall : c.settleReader inbound rounds io = some settled)
    (hok : settled.ok = true) :
    settled.client.callback = c.callback ∧ settled.client.connectionState = .CONNECTED := by
  by_cases hidle : c.rxPhase = .Idle
  · rw [settleReader, if_pos hidle] at hcall
    cases hcall
    exact ⟨rfl, hup⟩
  · obtain ⟨taken, left, -, -, hreader⟩ := settleReader_call hsize h hidle inbound rounds io
    rw [hcall] at hreader
    generalize hresult : some settled = result at hreader
    cases hreader with
    | fails =>
      cases hresult
      cases hok
    | @finishes _ c' header rest hsame hpacket hreads hverdict =>
      have hfinished := finishPacket_finished hreads (by rw [hsame.bufferSize, ← hpacket, hverdict]) left io
      rw [show c'.finishPacket left io = some settled from hresult.symm] at hfinished
      obtain ⟨hcallback, hstate⟩ := hfinished.settled hok
      exact ⟨hcallback.trans hsame.callback, hstate⟩

theorem settleReader_written {c : PubSubClient} (hsize : c.bufferSize.toNat ≤ defaultBufferSize)
    {pending : List UInt8}
    (h : Stands c pending) {inbound : List UInt8} {rounds : List RxIo} {io : DispatchIo} {settled : MqttCall}
    (hcall : c.settleReader inbound rounds io = some settled) : settled.log.flatMap MqttEvent.written = [] := by
  have hsends := (settleReader_timers hsize h hcall 0).sends
  rw [List.flatMap_eq_nil_iff]
  intro event hevent
  match event with
  | .publish bytes 0 => rfl
  | .publish bytes (taken + 1) => exact (hsends _ hevent (Nat.succ_ne_zero taken)).elim
  | .dispatched _ => rfl
  | .callback _ _ _ _ => rfl
  | .puback _ _ => rfl
  | .pingreq _ => rfl

theorem Sent.whole {c c' : PubSubClient} {io : PublishIo} {ok : Bool} {log : List MqttEvent}
    (h : Sent c io (some (ok, c', log)))
    (hok : ok = true) : ∃ buffer, Undisturbed (c.withBuffer buffer) c' := by
  cases h with
  | refused => cases hok
  | @sent buffer sent expected =>
    rw [beq_iff_eq.mp hok]
    exact ⟨buffer, noteSent_same _ expected io.millis⟩

section
variable {c : PubSubClient} {inbound : List UInt8} {topic : CString} {call : PublishCall} {io : PublishIo}

theorem publish_settled (htopic : call.topic = some topic) (hvalid : c.topicNameValid topic = true)
    (hlink : io.connected = true)
    (hup : c.connectionState = .CONNECTED) {settled : MqttCall}
    (hsettled : c.settleReader inbound io.rounds io.dispatch = some settled) (hok : settled.ok = true) {ok : Bool}
    {c' : PubSubClient} {log : List MqttEvent} (hsend : settled.client.send topic call io = some (ok, c', log)) :
    c.publish inbound call io = some ⟨ok, c', settled.inbound, settled.log ++ log⟩ := by
  simp only [publish, htopic, hvalid, connected, hlink, hup, settleAndSend, hsettled, hok, hsend,
    Bool.true_eq_false, if_false, beq_self_eq_true, Option.bind_some, Option.map_some]

theorem publish_accepted (htopic : call.topic = some topic) {result : MqttCall}
    (hcall : c.publish inbound call io = some result)
    (haccepted : result.ok = true) :
    c.topicNameValid topic = true ∧ io.connected = true ∧ c.connectionState = .CONNECTED ∧
      ∃ settled, c.settleReader inbound io.rounds io.dispatch = some settled ∧ settled.ok = true ∧
        ∃ log, settled.client.send topic call io = some (true, result.client, log) ∧ result.log = settled.log ++
          log := by
  cases publish_published hcall with
  | nothing => cases haccepted
  | unlinked => cases haccepted
  | unsettled _ _ hfail => cases haccepted.symm.trans hfail
  | @sent topic' settled ok c' log hlink hup htopic' hvalid hsettled hok hsend =>
    cases htopic.symm.trans htopic'
    have hall : ok = true := haccepted
    subst hall
    exact ⟨hvalid, hlink, hup, settled, hsettled, hok, log, hsend, rfl⟩

theorem sendPublish_room {payload : List UInt8} {retained : Bool} {c' : PubSubClient} {log : List MqttEvent}
    (hsend : c.sendPublish topic payload retained io = some (true, c', log)) :
    MQTT_MAX_HEADER_SIZE + 2 + c.lengthWithin topic + payload.length ≤ c.bufferSize.toNat := by
  by_contra hlong
  rw [sendPublish, if_pos (Nat.lt_of_not_le hlong)] at hsend
  cases hsend

theorem topicName_of_valid {payload : List UInt8} (hvalid : c.topicNameValid topic = true)
    (hroom : MQTT_MAX_HEADER_SIZE + 2 + c.lengthWithin topic + payload.length ≤ c.bufferSize.toNat) :
    TopicName topic.chars := by
  rw [topicNameValid, lengthWithin_eq hroom, List.take_length] at hvalid
  simp only [Bool.and_eq_true, bne_iff_ne, Bool.not_eq_true', List.contains_eq_mem,
    decide_eq_false_iff_not] at hvalid
  exact ⟨hvalid.1.1, topic.ends, hvalid.1.2, hvalid.2⟩

end

end PubSubClient

/-- What a publish sends in any session is read back as it was published, and the publish from flash sends the
same. -/
theorem published_read_back {c c' : PubSubClient} {size : UInt16} (hsize : c.setBufferSize size = (true, c'))
    (sent now : UInt32) (stream : List UInt8) {before : List MqttOp} {s : MqttSession}
    (hrun : (MqttSession.opened c' sent now stream).run before = some s) (hcallback : s.client.callback = true)
    (topic : CString) (payload : List UInt8) (retained : Bool) (io : PublishIo) {result : MqttCall}
    (hcall : s.client.publish s.inbound ⟨false, some topic, payload, retained⟩ io = some result)
    (haccepted : result.ok = true) :
    ReadsBack result.client result.written topic.chars payload ∧
      ∀ lost, ∃ result_P, s.client.publish s.inbound ⟨true, some topic, payload, retained⟩
        { io with lost := lost } = some result_P ∧
        Writes result.written lost result_P.ok result_P.written := by
  have hopened := opened_sound hsize sent now stream
  have hbuffer : c'.bufferSize = size := hopened.bufferSize
  have hle : size.toNat ≤ defaultBufferSize := by
    rw [← hbuffer]
    exact setBufferSize_le hsize
  obtain ⟨s', hrun', hsound⟩ := hopened.run hle before
  cases hrun.symm.trans hrun'
  obtain ⟨hvalid, hlink, hup, settled, hsettled, hok, log, hsend, hlog⟩ := publish_accepted rfl hcall haccepted
  -- The packet in progress is finished, whichever publish follows.
  obtain ⟨settled', hsettled', hsound', hidle⟩ := hsound.settle hle hup io
  cases hsettled.symm.trans hsettled'
  obtain ⟨pending, hstands, -⟩ := hsound.stands
  have hle' : s.client.bufferSize.toNat ≤ defaultBufferSize := hsound.bufferSize ▸ hle
  have hle'' : settled.client.bufferSize.toNat ≤ defaultBufferSize := hsound'.bufferSize ▸ hle
  obtain ⟨hcallback', hup'⟩ := settleReader_settled hle' hstands hup hsettled hok
  have hunwritten := settleReader_written hle' hstands hsettled
  have hroom := sendPublish_room hsend
  have hwritten : result.written = publishPacket topic.chars payload retained := by
    obtain ⟨ok, c₁, log₁, hsend₁, hwrites⟩ :=
      send_writes hle'' topic ⟨false, some topic, payload, retained⟩ io hroom
    cases hsend.symm.trans hsend₁
    rw [MqttCall.written, hlog, List.flatMap_append, hunwritten, List.nil_append]
    exact hwrites.whole rfl
  rw [hwritten]
  refine ⟨?_, fun lost => ?_⟩
  · have hsends := send_sent hle'' topic ⟨false, some topic, payload, retained⟩ io
    rw [hsend] at hsends
    obtain ⟨buffer, hsame⟩ := hsends.whole rfl
    have hbuffer' : result.client.bufferSize = settled.client.bufferSize := hsame.bufferSize
    refine publishPacket_read_back (hbuffer' ▸ hle'') (hsame.stands ((hidle hok).withBuffer buffer)) ?_ ?_ ?_ ?_
      retained
    · exact hsame.connectionState.trans hup'
    · exact hsame.callback.trans (hcallback'.trans hcallback)
    · refine topicName_of_valid ?_ hroom
      rwa [topicNameValid, lengthWithin, hsound'.bufferSize, ← hsound.bufferSize]
    · rwa [hbuffer', ← lengthWithin_eq hroom]
  · set io' : PublishIo := { io with lost := lost }
    obtain ⟨ok, c₁, log₁, hsend₁, hwrites⟩ :=
      send_writes hle'' topic ⟨true, some topic, payload, retained⟩ io' hroom
    have hsettled' : s.client.settleReader s.inbound io'.rounds io'.dispatch = some settled := hsettled
    have hlink' : io'.connected = true := hlink
    refine ⟨_, publish_settled rfl hvalid hlink' hup hsettled' hok hsend₁, ?_⟩
    rw [MqttCall.written, List.flatMap_append, hunwritten, List.nil_append]
    exact hwrites

/-- A message that fills the buffer. -/
theorem published_read_back_full :
    ∃ result, (MqttSession.opened ((PubSubClient.new true).setBufferSize 9).2 0 0 []).client.publish []
        ⟨false, some ⟨[0x61], by decide⟩, [7], true⟩ ⟨true, [], ⟨0, 0⟩, fun _ => 0, 0⟩ = some result ∧
      result.ok = true ∧ result.written = [0x31, 4, 0, 1, 0x61, 7] ∧ ReadsBack result.client result.written [0x61]
        [7] ∧
      ∀ lost, ∃ result_P, (MqttSession.opened ((PubSubClient.new true).setBufferSize 9).2 0 0 []).client.publish []
        ⟨true, some ⟨[0x61], by decide⟩, [7], true⟩ ⟨true, [], ⟨0, 0⟩, lost, 0⟩ = some result_P ∧
          Writes result.written lost result_P.ok result_P.written := by
  have hsent : ((MqttSession.opened ((PubSubClient.new true).setBufferSize 9).2 0 0 []).client.publish []
      ⟨false, some ⟨[0x61], by decide⟩, [7], true⟩ ⟨true, [], ⟨0, 0⟩, fun _ => 0, 0⟩).any
      (fun result => result.ok && result.written == [0x31, 4, 0, 1, 0x61, 7]) = true := by
    decide +kernel
  obtain ⟨result, hcall, hresult⟩ := (Option.any_eq_true _ _).mp hsent
  obtain ⟨hok, hwritten⟩ := Bool.and_eq_true_iff.mp hresult
  refine ⟨result, hcall, hok, beq_iff_eq.mp hwritten, ?_⟩
  exact @published_read_back (.new true) _ 9 (by decide +kernel) 0 0 [] [] _ rfl rfl ⟨[0x61], by decide⟩ [7] true
    ⟨true, [], ⟨0, 0⟩, fun _ => 0, 0⟩ result hcall hok

end CanSystems
