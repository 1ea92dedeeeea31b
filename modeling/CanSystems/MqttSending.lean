import CanSystems.MqttMessage

/-!
# What is sent

`Pinged` says what the keep-alive part of a pass can do; it never touches the
buffer. A packet that is published is built there from the front, so it fits
when the check before it says so; `Sent` says what that leaves of the client.
-/

namespace CanSystems

namespace PubSubClient

/-! ## A ping leaves the reader alone -/

/-- The reader's own fields, the buffer and what the answers go by are as they were. -/
structure SameReader (c c' : PubSubClient) : Prop where
  buffer : c'.buffer = c.buffer
  bufferSize : c'.bufferSize = c.bufferSize
  rxPhase : c'.rxPhase = c.rxPhase
  rxLen : c'.rxLen = c.rxLen
  rxLengthLength : c'.rxLengthLength = c.rxLengthLength
  rxMultiplier : c'.rxMultiplier = c.rxMultiplier
  rxRemaining : c'.rxRemaining = c.rxRemaining
  rxPayloadDone : c'.rxPayloadDone = c.rxPayloadDone
  callback : c'.callback = c.callback

structure Undisturbed (c c' : PubSubClient) : Prop extends SameReader c c' where
  connectionState : c'.connectionState = c.connectionState

theorem Undisturbed.refl (c : PubSubClient) :
    Undisturbed c c := ⟨⟨rfl, rfl, rfl, rfl, rfl, rfl, rfl, rfl, rfl⟩, rfl⟩

theorem Undisturbed.trans {c c' c'' : PubSubClient} (h : Undisturbed c c') (h' : Undisturbed c' c'') :
    Undisturbed c c'' where
  buffer := h'.buffer.trans h.buffer
  bufferSize := h'.bufferSize.trans h.bufferSize
  rxPhase := h'.rxPhase.trans h.rxPhase
  rxLen := h'.rxLen.trans h.rxLen
  rxLengthLength := h'.rxLengthLength.trans h.rxLengthLength
  rxMultiplier := h'.rxMultiplier.trans h.rxMultiplier
  rxRemaining := h'.rxRemaining.trans h.rxRemaining
  rxPayloadDone := h'.rxPayloadDone.trans h.rxPayloadDone
  callback := h'.callback.trans h.callback
  connectionState := h'.connectionState.trans h.connectionState

theorem SameReader.readsPayload {c c' : PubSubClient} (hs : SameReader c c') {header : UInt8} {rest : List UInt8}
    (h : ReadsPayload c header rest) : ReadsPayload c' header rest where
  phase := hs.rxPhase ▸ h.phase
  starts := hs.buffer ▸ h.starts
  len := hs.rxLen ▸ h.len
  headed := by
    rw [hs.bufferSize, hs.rxLengthLength, hs.rxRemaining]
    exact h.headed
  done := by
    rw [hs.rxLengthLength, hs.rxPayloadDone]
    exact h.done
  within := by
    rw [hs.rxPayloadDone, hs.rxRemaining]
    exact h.within

theorem SameReader.stands {c c' : PubSubClient} {bytes : List UInt8} (hs : SameReader c c') (h : Stands c bytes) :
    Stands c' bytes where
  reads := by
    cases h.reads with
    | header hreads =>
      exact .header {
        phase := hs.rxPhase ▸ hreads.phase
        starts := hs.buffer ▸ hreads.starts
        len := hs.rxLen ▸ hreads.len
        short := hreads.short
        valid := hreads.valid
        count := hreads.count
        multiplier := hs.rxMultiplier ▸ hreads.multiplier
        spells := hs.rxRemaining ▸ hreads.spells
        done := hs.rxPayloadDone ▸ hreads.done }
    | payload hreads => exact .payload (hs.readsPayload hreads)
  undecided := hs.bufferSize ▸ h.undecided
  idle := hs.rxPhase ▸ h.idle

theorem Stands.withBuffer {c : PubSubClient} (h : Stands c []) (buffer : Buffer) : Stands (c.withBuffer buffer)
    [] where
  reads := by
    cases h.reads with
    | header hreads =>
      exact .header {
        phase := hreads.phase
        starts := buffer.starts_nil
        len := hreads.len
        short := hreads.short
        valid := hreads.valid
        count := hreads.count
        multiplier := hreads.multiplier
        spells := hreads.spells
        done := hreads.done }
  undecided := rfl
  idle := fun _ => rfl

theorem keepAlivePing_same (c : PubSubClient) (t : UInt32) (lost : Nat) :
    Undisturbed c (c.keepAlivePing t lost).1 := by
  simp only [keepAlivePing]
  split
  · exact ⟨⟨rfl, rfl, rfl, rfl, rfl, rfl, rfl, rfl, rfl⟩, rfl⟩
  · split
    · exact ⟨⟨rfl, rfl, rfl, rfl, rfl, rfl, rfl, rfl, rfl⟩, rfl⟩
    · exact ⟨⟨rfl, rfl, rfl, rfl, rfl, rfl, rfl, rfl, rfl⟩, rfl⟩

theorem noteLate_same (c : PubSubClient) : Undisturbed c c.noteLate := by
  unfold noteLate
  split
  · exact ⟨⟨rfl, rfl, rfl, rfl, rfl, rfl, rfl, rfl, rfl⟩, rfl⟩
  · exact .refl c

theorem noteSent_eq (c : PubSubClient) (sent expected : UInt16) (millis : UInt32) :
    c.noteSent sent expected millis =
      { c with
        lastOutActivity := if sent ≠ 0 then millis else c.lastOutActivity
        connectionState := if sent ≠ 0 ∧ sent ≠ expected then .CONNECTION_LOST else c.connectionState } := by
  by_cases hsent : sent = 0
  · simp [noteSent, hsent]
  · by_cases hall : sent = expected
    · subst hall
      simp [noteSent, hsent]
    · simp [noteSent, hsent, hall]

theorem noteSent_reader (c : PubSubClient) (sent expected : UInt16) (millis : UInt32) :
    SameReader c (c.noteSent sent expected millis) := by
  rw [noteSent_eq]
  exact ⟨rfl, rfl, rfl, rfl, rfl, rfl, rfl, rfl, rfl⟩

theorem noteSent_same (c : PubSubClient) (sent : UInt16) (millis : UInt32) :
    Undisturbed c (c.noteSent sent sent millis) := by
  refine ⟨c.noteSent_reader sent sent millis, ?_⟩
  rw [noteSent_eq]
  exact if_neg fun h => h.2 rfl

theorem acknowledged_reader (c : PubSubClient) (m : Message) (io : DispatchIo) :
    SameReader c (c.acknowledged m io) := by
  unfold acknowledged
  split
  · exact c.noteSent_reader _ 4 io.millis
  · exact (Undisturbed.refl c).toSameReader

theorem heard_same (c : PubSubClient) (t : UInt32) : Undisturbed c (c.heard t) :=
  ⟨⟨rfl, rfl, rfl, rfl, rfl, rfl, rfl, rfl, rfl⟩, rfl⟩

theorem beginRun_same (c : PubSubClient) (t : UInt32) : Undisturbed c (c.beginRun t) :=
  ⟨⟨rfl, rfl, rfl, rfl, rfl, rfl, rfl, rfl, rfl⟩, rfl⟩

def RunOpen (c : PubSubClient) : Prop := c.pingOutstanding = true ∨ c.pingUnsent = true

inductive Pinged (c : PubSubClient) (t : UInt32) (lost : Nat) : Bool × PubSubClient × List MqttEvent → Prop
  | off : c.keepAlive = 0 → Pinged c t lost (true, c, [])
  | late : c.keepAlive ≠ 0 → RunOpen c → c.pingAnswerBudgetMs ≤ t - c.pingDueSince → Pinged c t lost (false, c, [])
  | waits : c.keepAlive ≠ 0 → RunOpen c → t - c.pingDueSince < c.pingAnswerBudgetMs → Pinged c t lost (true, c, [])
  | asks : c.keepAlive ≠ 0 → RunOpen c → t - c.pingDueSince < c.pingAnswerBudgetMs →
      Pinged c t lost (true, c.noteLate.keepAlivePing t lost)
  | begins : c.keepAlive ≠ 0 → ¬ RunOpen c → t - c.lastInActivity > c.pingIntervalMs ∨
    t - c.lastOutActivity > c.pingIntervalMs →
      Pinged c t lost (true, (c.beginRun t).keepAlivePing t lost)
  | quiet : c.keepAlive ≠ 0 → ¬ RunOpen c → t - c.lastInActivity ≤ c.pingIntervalMs →
      t - c.lastOutActivity ≤ c.pingIntervalMs → Pinged c t lost (true, c, [])

theorem servicePing_pinged (c : PubSubClient) (t : UInt32) (waiting : Bool) (lost : Nat) :
    Pinged c t lost (c.servicePing t waiting lost) := by
  by_cases hoff : c.keepAlive = 0
  · rw [servicePing, if_pos hoff]
    exact .off hoff
  rw [servicePing, if_neg hoff]
  by_cases hopen : c.pingOutstanding = true ∨ c.pingUnsent = true
  · rw [if_pos hopen, continueRun]
    by_cases hlate : t - c.pingDueSince ≥ c.pingAnswerBudgetMs
    · rw [if_pos hlate]
      exact .late hoff hopen hlate
    · have hearly := UInt32.not_le.mp hlate
      rw [if_neg hlate]
      simp only
      generalize (if c.pingUnsent then pingRetryIntervalMs else pingReaskIntervalMs) = askAgainAfterMs
      split
      · exact .asks hoff hopen hearly
      · exact .waits hoff hopen hearly
  · rw [if_neg hopen]
    by_cases hdue : t - c.lastInActivity > c.pingIntervalMs ∨ t - c.lastOutActivity > c.pingIntervalMs
    · rw [if_pos hdue]
      exact .begins hoff hopen hdue
    · obtain ⟨hin, hout⟩ := not_or.mp hdue
      rw [if_neg hdue]
      exact .quiet hoff hopen (UInt32.not_lt.mp hin) (UInt32.not_lt.mp hout)

theorem servicePing_same (c : PubSubClient) (t : UInt32) (waiting : Bool) (lost : Nat) :
    Undisturbed c (c.servicePing t waiting lost).2.1 := by
  have hpinged := servicePing_pinged c t waiting lost
  generalize c.servicePing t waiting lost = result at hpinged ⊢
  cases hpinged with
  | off => exact .refl c
  | late => exact .refl c
  | waits => exact .refl c
  | asks => exact (noteLate_same c).trans (keepAlivePing_same _ t lost)
  | begins => exact (beginRun_same c t).trans (keepAlivePing_same _ t lost)
  | quiet => exact .refl c

theorem servicePing_log (c : PubSubClient) (t : UInt32) (waiting : Bool) (lost : Nat) :
    ∀ event ∈ (c.servicePing t waiting lost).2.2, event = .pingreq (2 - lost) := by
  have hpinged := servicePing_pinged c t waiting lost
  generalize c.servicePing t waiting lost = result at hpinged ⊢
  intro event hevent
  cases hpinged with
  | off => cases hevent
  | late => cases hevent
  | waits => cases hevent
  | asks => exact List.mem_singleton.mp hevent
  | begins => exact List.mem_singleton.mp hevent
  | quiet => cases hevent

/-! ## Publishing -/

inductive Sent (c : PubSubClient) (io : PublishIo) : Option (Bool × PubSubClient × List MqttEvent) → Prop
  | refused : Sent c io (some (false, c, []))
  | sent {buffer : Buffer} {sent expected : UInt16} {log : List MqttEvent} :
      (∀ event ∈ log, ∃ bytes taken, event = .publish bytes taken) →
      (sent ≠ 0 → ∃ event ∈ log, event.taken ≠ 0) → ((∀ i, io.lost i = 0) → sent = expected) →
      Sent c io (some (sent == expected, (c.withBuffer buffer).noteSent sent expected io.millis, log))

def lengthPrefixed (text : List UInt8) : List UInt8 :=
  let len := UInt16.ofNat text.length
  (len >>> 8).toUInt8 :: (len &&& 0xFF).toUInt8 :: text

@[simp] theorem length_lengthPrefixed (text : List UInt8) : (lengthPrefixed text).length = 2 + text.length := by
  simp only [lengthPrefixed, List.length_cons]
  omega

theorem writeString_reads (string : CString) (buf : Buffer) (pos : Nat)
    (hroom : pos + 2 + string.chars.length ≤ defaultBufferSize) :
    ∃ buffer, writeString string buf pos = some (pos + 2 + string.chars.length, buffer) ∧
      buffer.read pos (2 + string.chars.length) = some (lengthPrefixed string.chars) ∧
      ∀ q n, q + n ≤ pos → buffer.read q n = buf.read q n := by
  set len := UInt16.ofNat string.chars.length with hlen
  obtain ⟨buffer₁, h₁⟩ := buf.exists_write (show pos + [(len >>> 8).toUInt8].length ≤ defaultBufferSize
    by rw [List.length_singleton]; omega)
  obtain ⟨buffer₂, h₂⟩ := buffer₁.exists_write (show pos + 1 + [(len &&& 0xFF).toUInt8].length ≤ defaultBufferSize
    by rw [List.length_singleton]; omega)
  obtain ⟨buffer₃, h₃⟩ := buffer₂.exists_write hroom
  refine ⟨buffer₃, ?_, ?_, fun q n hn => ?_⟩
  · simp only [writeString, ← hlen, h₁, h₂, h₃, bind, Option.bind, pure]
  · have hhigh : buffer₃.read pos 1 = some [(len >>> 8).toUInt8] := by
      rw [CArray.read_write_before h₃ (by omega), CArray.read_write_before h₂ (Nat.le_refl _)]
      exact CArray.read_write h₁
    have hlow : buffer₃.read (pos + 1) 1 = some [(len &&& 0xFF).toUInt8] := by
      rw [CArray.read_write_before h₃ (by omega)]
      exact CArray.read_write h₂
    exact CArray.read_append (CArray.read_append hhigh hlow) (CArray.read_write h₃)
  · rw [CArray.read_write_before h₃ (by omega), CArray.read_write_before h₂ (by omega),
      CArray.read_write_before h₁ (by omega)]

theorem lengthWithin_eq {c : PubSubClient} {topic : CString} {n : Nat}
    (hroom : MQTT_MAX_HEADER_SIZE + 2 + c.lengthWithin topic + n ≤ c.bufferSize.toNat) :
    c.lengthWithin topic = topic.chars.length := by
  rw [lengthWithin] at hroom ⊢
  omega

def publishHeader (retained : Bool) : UInt8 := MQTTPUBLISH ||| (if retained then 1 else 0)

def publishFront (topic : List UInt8) (length : Nat) (retained : Bool) : List UInt8 :=
  publishHeader retained :: lengthDigits 4 (UInt16.ofNat (2 + topic.length + length)) ++ lengthPrefixed topic

def publishPacket (topic payload : List UInt8) (retained : Bool) : List UInt8 :=
  publishFront topic payload.length retained ++ payload

theorem sendPublish_builds {c : PubSubClient} (hsize : c.bufferSize.toNat ≤ defaultBufferSize) (topic : CString)
    (payload : List UInt8) (retained : Bool) (io : PublishIo) {packet : List UInt8}
    (hroom : MQTT_MAX_HEADER_SIZE + 2 + c.lengthWithin topic + payload.length ≤ c.bufferSize.toNat)
    (hpacket : packet = publishPacket topic.chars payload retained) :
    ∃ buffer, c.sendPublish topic payload retained io = some
      (UInt16.ofNat (packet.length - io.lost 0) == UInt16.ofNat packet.length,
        (c.withBuffer buffer).noteSent (UInt16.ofNat (packet.length - io.lost 0))
          (UInt16.ofNat packet.length) io.millis,
        [.publish packet (packet.length - io.lost 0)]) := by
  have hfits := Nat.not_lt.mpr hroom
  have hmax : MQTT_MAX_HEADER_SIZE = 5 := rfl
  have hcap : defaultBufferSize = 1024 := rfl
  rw [lengthWithin_eq hroom] at hroom
  obtain ⟨buffer₁, h₁, hread₁, -⟩ := writeString_reads topic c.buffer MQTT_MAX_HEADER_SIZE (by omega)
  obtain ⟨buffer₂, h₂⟩ := buffer₁.exists_write
    (show MQTT_MAX_HEADER_SIZE + 2 + topic.chars.length + payload.length ≤ defaultBufferSize by omega)
  have hlength : MQTT_MAX_HEADER_SIZE + 2 + topic.chars.length + payload.length - MQTT_MAX_HEADER_SIZE =
      2 + topic.chars.length + payload.length := by omega
  set length := UInt16.ofNat (2 + topic.chars.length + payload.length) with hlengthOf
  have htoNat : length.toNat = 2 + topic.chars.length + payload.length := by
    rw [hlengthOf, UInt16.toNat_ofNat']
    omega
  have hbody : (c.withBuffer buffer₂).buffer.read MQTT_MAX_HEADER_SIZE length.toNat =
      some (lengthPrefixed topic.chars ++ payload) := by
    rw [htoNat]
    refine CArray.read_append ?_ (CArray.read_write (by rwa [Nat.add_assoc] at h₂))
    show buffer₂.read _ _ = _
    rw [CArray.read_write_before h₂ (by omega), hread₁]
  have hbytes : packet = publishHeader retained :: lengthDigits 4 length ++
      (lengthPrefixed topic.chars ++ payload) := by
    rw [hpacket, publishPacket, publishFront, List.append_assoc]
  obtain ⟨buffer₃, h₃⟩ := (c.withBuffer buffer₂).write_sends (publishHeader retained) length
    (io.lost 0) io.millis hbody hbytes
  refine ⟨buffer₃, ?_⟩
  rw [publishHeader] at h₃
  simp only [sendPublish, if_neg hfits, h₁, h₂, hlength, ← hlengthOf, h₃, bind, Option.bind, pure,
    withBuffer_withBuffer]

theorem sendPublish_sent {c : PubSubClient} (hsize : c.bufferSize.toNat ≤ defaultBufferSize) (topic : CString)
    (payload : List UInt8) (retained : Bool) (io : PublishIo) :
    Sent c io (c.sendPublish topic payload retained io) := by
  by_cases hlong : c.bufferSize.toNat < MQTT_MAX_HEADER_SIZE + 2 + c.lengthWithin topic + payload.length
  · rw [sendPublish, if_pos hlong]
    exact .refused
  · obtain ⟨buffer, hsend⟩ := sendPublish_builds hsize topic payload retained io (Nat.le_of_not_lt hlong) rfl
    rw [hsend]
    refine .sent ?_ ?_ ?_
    · intro event hevent
      rw [List.mem_singleton] at hevent
      exact ⟨_, _, hevent⟩
    · intro hsent
      refine ⟨_, List.mem_singleton_self _, ?_⟩
      intro htaken
      rw [MqttEvent.taken] at htaken
      rw [htaken] at hsent
      exact hsent rfl
    · intro hlost
      rw [hlost 0, Nat.sub_zero]

theorem sendChunks_events (lost : Nat → Nat) (n i : Nat) (payload : List UInt8) :
    ∀ event ∈ (sendChunks lost n i payload).2, ∃ bytes taken, event = .publish bytes taken := by
  induction n generalizing i payload with
  | zero => simp [sendChunks]
  | succ n ih =>
    intro event hevent
    rw [sendChunks] at hevent
    split at hevent
    · cases hevent
    · simp only at hevent
      split at hevent
      · rcases List.mem_cons.mp hevent with hfirst | hrest
        · exact ⟨_, _, hfirst⟩
        · exact ih _ _ event hrest
      · exact ⟨_, _, List.mem_singleton.mp hevent⟩

theorem sendChunks_all {lost : Nat → Nat} (hlost : ∀ i, lost i = 0) {n : Nat} (i : Nat) {payload : List UInt8}
    (hn : payload.length ≤ n) : (sendChunks lost n i payload).1 = UInt16.ofNat payload.length := by
  induction n generalizing i payload with
  | zero =>
    rw [List.eq_nil_of_length_eq_zero (Nat.le_zero.mp hn)]
    rfl
  | succ n ih =>
    have hchunk : progmemChunkSize = 32 := rfl
    rw [sendChunks]
    by_cases hempty : payload = []
    · rw [if_pos hempty, hempty]
      rfl
    · have hpos := List.length_pos_iff.mpr hempty
      rw [if_neg hempty]
      simp only [hlost, Nat.sub_zero, if_true]
      rw [ih (i + 1) (by rw [List.length_drop]; omega), ← UInt16.toNat_inj, UInt16.toNat_add, UInt16.toNat_ofNat',
        UInt16.toNat_ofNat', UInt16.toNat_ofNat', List.length_take, List.length_drop]
      omega

/-- The header and the topic go out as one piece, and the payload behind them in others. -/
theorem sendPublish_P_streams {c : PubSubClient} (hsize : c.bufferSize.toNat ≤ defaultBufferSize) (topic : CString)
    (payload : List UInt8) (retained : Bool) (io : PublishIo) {front : List UInt8}
    (hroom : MQTT_MAX_HEADER_SIZE + 2 + c.lengthWithin topic ≤ c.bufferSize.toNat)
    (hpayload : payload.length ≤ 65535 - 2 - c.lengthWithin topic)
    (hfront : front = publishFront topic.chars payload.length retained) :
    ∃ buffer sent log, (sent, log) =
        (if front.length - io.lost 0 = front.length then sendChunks io.lost payload.length 1 payload else (0, [])) ∧
      c.sendPublish_P topic payload retained io = some
        (UInt16.ofNat (front.length - io.lost 0) + sent == UInt16.ofNat (front.length + payload.length),
          (c.withBuffer buffer).noteSent (UInt16.ofNat (front.length - io.lost 0) + sent)
            (UInt16.ofNat (front.length + payload.length)) io.millis,
          .publish front (front.length - io.lost 0) :: log) := by
  have hfits : ¬ (c.bufferSize.toNat < MQTT_MAX_HEADER_SIZE + 2 + c.lengthWithin topic ∨
      payload.length > 65535 - 2 - c.lengthWithin topic) :=
        not_or.mpr ⟨Nat.not_lt.mpr hroom, Nat.not_lt.mpr hpayload⟩
  have htopic := lengthWithin_eq (n := 0) hroom
  have hmax : MQTT_MAX_HEADER_SIZE = 5 := rfl
  have hcap : defaultBufferSize = 1024 := rfl
  rw [htopic] at hroom hpayload hfits
  have hcount : payload.length + 2 + topic.chars.length = 2 + topic.chars.length + payload.length := by omega
  set digits := lengthDigits 4 (UInt16.ofNat (2 + topic.chars.length + payload.length)) with hdigits
  have hfour : digits.length ≤ 4 := lengthDigits_length 4 _
  obtain ⟨buffer₁, h₁⟩ := c.buffer.exists_write
    (show 0 + [publishHeader retained].length ≤ defaultBufferSize by rw [List.length_singleton]; omega)
  obtain ⟨buffer₂, h₂⟩ := buffer₁.exists_write (show 1 + digits.length ≤ defaultBufferSize by omega)
  obtain ⟨buffer₃, h₃, hread₃, hsame₃⟩ := writeString_reads topic buffer₂ (1 + digits.length) (by omega)
  have hlength : front.length = 1 + digits.length + 2 + topic.chars.length := by
    rw [hfront, publishFront, ← hdigits, List.length_append, List.length_cons, length_lengthPrefixed]
    omega
  have hpacket : buffer₃.read 0 front.length = some front := by
    have hheader : buffer₃.read 0 1 = some [publishHeader retained] := by
      rw [hsame₃ 0 1 (by omega), CArray.read_write_before h₂ (Nat.le_refl _)]
      exact CArray.read_write h₁
    have hmiddle : buffer₃.read (0 + 1) digits.length = some digits := by
      rw [hsame₃ _ _ (by omega)]
      exact CArray.read_write h₂
    have hall := CArray.read_append (CArray.read_append hheader hmiddle) (by rwa [Nat.zero_add])
    rw [hlength, hfront, publishFront, ← hdigits, Nat.add_assoc]
    exact hall
  rw [publishHeader] at h₁
  rcases hchunks : if front.length - io.lost 0 = front.length then sendChunks io.lost payload.length 1 payload else
    (0, [])
    with ⟨sent, log⟩
  refine ⟨buffer₃, sent, log, rfl, ?_⟩
  simp only [sendPublish_P, htopic, if_neg hfits, hcount, ← hdigits, h₁, h₂, h₃, ← hlength, hpacket, hchunks, bind,
    Option.bind, pure]

theorem sendPublish_P_sent {c : PubSubClient} (hsize : c.bufferSize.toNat ≤ defaultBufferSize) (topic : CString)
    (payload : List UInt8) (retained : Bool) (io : PublishIo) :
    Sent c io (c.sendPublish_P topic payload retained io) := by
  by_cases hlong : c.bufferSize.toNat < MQTT_MAX_HEADER_SIZE + 2 + c.lengthWithin topic ∨
      payload.length > 65535 - 2 - c.lengthWithin topic
  · rw [sendPublish_P, if_pos hlong]
    exact .refused
  · obtain ⟨hshort, hpayload⟩ := not_or.mp hlong
    set front := publishFront topic.chars payload.length retained with hfront
    have hpos : 0 < front.length := Nat.succ_pos _
    obtain ⟨buffer, sent, log, hchunks, hsend⟩ :=
      sendPublish_P_streams hsize topic payload retained io (Nat.le_of_not_lt hshort) (Nat.le_of_not_lt hpayload)
        hfront
    rw [hsend]
    refine .sent ?_ ?_ ?_
    · intro event hevent
      rcases List.mem_cons.mp hevent with hfirst | hrest
      · exact ⟨_, _, hfirst⟩
      · split at hchunks
        · obtain ⟨-, rfl⟩ := Prod.mk.inj hchunks
          exact sendChunks_events io.lost _ _ _ event hrest
        · obtain ⟨-, rfl⟩ := Prod.mk.inj hchunks
          cases hrest
    · intro hsent
      by_cases hfirst : front.length - io.lost 0 = 0
      · -- The header is never empty, so nothing behind it went out either.
        rw [if_neg (by omega)] at hchunks
        obtain ⟨rfl, -⟩ := Prod.mk.inj hchunks
        rw [hfirst] at hsent
        exact absurd rfl hsent
      · exact ⟨_, List.mem_cons_self, hfirst⟩
    · intro hlost
      rw [hlost 0, Nat.sub_zero, if_pos rfl] at hchunks
      have hall := sendChunks_all hlost 1 (Nat.le_refl payload.length)
      rw [← hchunks] at hall
      have hall : sent = UInt16.ofNat payload.length := hall
      rw [hlost 0, Nat.sub_zero, hall, ← UInt16.toNat_inj, UInt16.toNat_add, UInt16.toNat_ofNat',
        UInt16.toNat_ofNat', UInt16.toNat_ofNat']
      omega

theorem send_sent {c : PubSubClient} (hsize : c.bufferSize.toNat ≤ defaultBufferSize) (topic : CString)
    (call : PublishCall)
    (io : PublishIo) : Sent c io (c.send topic call io) := by
  unfold send
  split
  · exact sendPublish_P_sent hsize topic call.payload call.retained io
  · exact sendPublish_sent hsize topic call.payload call.retained io

end PubSubClient

end CanSystems
