import CanSystems.MqttSending

/-!
# Delivery does not depend on where the stream is cut

A session takes calls of `loop()` and of the publishes in any order, and each
call takes as many bytes of the stream as the socket happens to hand over.
`delivering` is the session as the standard has it, one byte at a time. A session
whose link stays up and takes what it is given follows it, unless a timeout ends
it, so two sessions over one stream come to the same.
-/

namespace CanSystems

open PubSubClient

/-! ## Sessions -/

inductive MqttOp
  | loop (io : LoopIo)
  | publish (call : PublishCall) (io : PublishIo)

structure MqttSession where
  client : PubSubClient
  inbound : List UInt8
  log : List MqttEvent
  deriving DecidableEq

namespace MqttSession

def call (s : MqttSession) : MqttOp → Option MqttCall
  | .loop io => s.client.loop s.inbound io
  | .publish call io => s.client.publish s.inbound call io

def step (s : MqttSession) (op : MqttOp) : Option MqttSession :=
  (s.call op).map fun call => ⟨call.client, call.inbound, s.log ++ call.log⟩

def run (s : MqttSession) (ops : List MqttOp) : Option MqttSession := ops.foldlM step s

end MqttSession

def MqttOp.Served : MqttOp → Prop
  | .loop io => io.connected = true ∧ io.pingLost = 0 ∧ io.dispatch.ackLost = 0
  | .publish _ io => io.connected = true ∧ io.dispatch.ackLost = 0 ∧ ∀ i, io.lost i = 0

/-! ## What is seen of a session -/

inductive MqttSeen
  | message (topic payload : List UInt8) (length : UInt32)
  | puback (packet : List UInt8)
  deriving DecidableEq

def PubSubClient.cString (buffer : Buffer) (pos : Nat) : List UInt8 := (buffer.cells.drop pos).takeWhile (· != 0)

/-- A call of the callback as it reads its arguments, and what the link took of a PUBACK. -/
def MqttEvent.seen : MqttEvent → Option MqttSeen
  | .callback topic payload length buffer =>
    some (.message (cString buffer topic) ((buffer.cells.drop payload).take length.toNat) length)
  | .puback packet taken => some (.puback (packet.take taken))
  | _ => none

def MqttSession.seen (s : MqttSession) : List MqttSeen := s.log.filterMap MqttEvent.seen

/-! ## One byte at a time -/

structure Delivered where
  seen : List MqttSeen
  state : State

def Message.seen (callback : Bool) (m : Message) : List MqttSeen :=
  (if callback then [.message m.topic m.payload (UInt32.ofNat m.payload.length)] else []) ++
    match m.msgId with
    | none => []
    | some msgId => [.puback (pubackOf msgId)]

def Delivered.answer (d : Delivered) (callback : Bool) (packet : List UInt8) : Delivered :=
  match answerOf packet with
  | .refused => { d with state := .PROTOCOL_ERROR }
  | .nothing | .pong => d
  | .message m => { d with seen := d.seen ++ m.seen callback }

def delivering (bufferSize : UInt16) (callback : Bool) : Framing UInt8 RxResult Delivered where
  verdict := verdict bufferSize
  settle d packet r := if r = .Complete then d.answer callback packet else { d with state := readFailureState r }
  live d := d.state == .CONNECTED

/-! ## A packet is answered as it reads -/

namespace PubSubClient

theorem cString_eq {buffer : Buffer} {pos : Nat} {text : List UInt8}
    (hread : buffer.read pos (text.length + 1) = some (text ++ [0]))
    (hzero : 0 ∉ text) : cString buffer pos = text := by
  unfold CArray.read at hread
  split at hread
  · have htake := Option.some.inj hread
    rw [cString, ← List.take_append_drop (text.length + 1) (buffer.cells.drop pos), htake, List.append_assoc,
      List.takeWhile_append_of_pos]
    · simp
    · intro b hb
      have hne : b ≠ 0 := fun h => hzero (h ▸ hb)
      simpa using hne
  · cases hread

theorem Shows.seen {packet : List UInt8} {m : Message} {event : MqttEvent} (h : Shows packet m event)
    (htopic : 0 ∉ m.topic) :
    event.seen = some (.message m.topic m.payload (UInt32.ofNat m.payload.length)) := by
  cases event with
  | callback topic payload length buffer =>
    obtain ⟨hread, -, -, -, hpayload⟩ := h
    have hlength := (CArray.length_read hpayload).2
    unfold CArray.read at hpayload
    split at hpayload
    · rw [MqttEvent.seen, cString_eq hread htopic, Option.some.inj hpayload, hlength, UInt32.ofNat_toNat]
    · cases hpayload
  | dispatched _ => exact h.elim
  | puback _ _ => exact h.elim
  | pingreq _ => exact h.elim
  | publish _ _ => exact h.elim

theorem ShowsAll.seen {c : PubSubClient} {packet : List UInt8} {m : Message} {shown : List MqttEvent}
    (h : ShowsAll c packet m shown) (htopic : 0 ∉ m.topic) :
    shown.filterMap MqttEvent.seen =
      if c.callback then [.message m.topic m.payload (UInt32.ofNat m.payload.length)] else [] := by
  match shown with
  | [] =>
    have hnone : c.callback = false := h
    rw [hnone]
    rfl
  | [event] =>
    obtain ⟨hcallback, hshows⟩ := h
    rw [hcallback, if_pos rfl, List.filterMap_cons, hshows.seen htopic]
    rfl
  | _ :: _ :: _ => exact h.elim

theorem pubackEvents_seen (m : Message) {io : DispatchIo} (hlost : io.ackLost = 0) :
    (pubackEvents m io).filterMap MqttEvent.seen =
      match m.msgId with
      | none => []
      | some msgId => [.puback (pubackOf msgId)] := by
  unfold pubackEvents
  rw [hlost]
  cases m.msgId with
  | none => rfl
  | some msgId => rfl

theorem pingAnswered_same (c : PubSubClient) (millis : UInt32) : Undisturbed c (c.pingAnswered millis) := by
  unfold pingAnswered
  split
  · exact ⟨⟨rfl, rfl, rfl, rfl, rfl, rfl, rfl, rfl, rfl⟩, rfl⟩
  · exact .refl c

theorem acknowledged_same (c : PubSubClient) (m : Message) {io : DispatchIo} (hlost : io.ackLost = 0) :
    Undisturbed c (c.acknowledged m io) := by
  unfold acknowledged
  rw [hlost]
  split
  · exact noteSent_same c 4 io.millis
  · exact .refl c

/-- What a finished packet makes to be seen, and the state it leaves, are those that its bytes ask for. -/
theorem PacketFinished.answers {c : PubSubClient} {packet inbound : List UInt8} {io : DispatchIo} {call : MqttCall}
    (h : PacketFinished c packet inbound io (some call)) (hlost : io.ackLost = 0) (d : Delivered)
    (hstate : d.state = c.connectionState) :
    call.inbound = inbound ∧ Stands call.client [] ∧ call.client.bufferSize = c.bufferSize ∧
      call.client.callback = c.callback ∧ (d.answer c.callback packet).seen = d.seen ++
        call.log.filterMap MqttEvent.seen ∧
      (d.answer c.callback packet).state = call.client.connectionState := by
  cases h with
  | refused hanswer =>
    refine ⟨rfl, stands_idle rfl rfl rfl rfl rfl, rfl, rfl, ?_, ?_⟩
    · rw [Delivered.answer, hanswer]
      simp [MqttEvent.seen]
    · rw [Delivered.answer, hanswer]
      rfl
  | nothing hanswer =>
    refine ⟨rfl, stands_idle rfl rfl rfl rfl rfl, rfl, rfl, ?_, ?_⟩
    · rw [Delivered.answer, hanswer]
      simp [MqttEvent.seen]
    · rw [Delivered.answer, hanswer]
      exact hstate
  | pong hanswer =>
    have hsame := pingAnswered_same c.resetReader io.millis
    refine ⟨rfl, hsame.stands (stands_idle rfl rfl rfl rfl rfl), hsame.bufferSize, hsame.callback, ?_, ?_⟩
    · rw [Delivered.answer, hanswer]
      simp [MqttEvent.seen]
    · rw [Delivered.answer, hanswer]
      exact hstate.trans hsame.connectionState.symm
  | @message m buffer shown hanswer hshows =>
    have hsame := acknowledged_same (c.resetReader.withBuffer buffer) m hlost
    refine ⟨rfl, hsame.stands (stands_idle rfl rfl rfl rfl rfl), hsame.bufferSize, hsame.callback, ?_, ?_⟩
    · have hmessage := hshows.seen (answerOf_topic hanswer).2.1
      rw [Delivered.answer, hanswer, List.filterMap_cons_none rfl, List.filterMap_append, hmessage,
        pubackEvents_seen m hlost]
      rfl
    · rw [Delivered.answer, hanswer]
      exact hstate.trans hsame.connectionState.symm

theorem settle_broken {bufferSize : UInt16} {callback : Bool} {r : RxResult} (hr : r = .Malformed ∨ r = .TooLarge)
    {d : Delivered} {packet : List UInt8} :
    (delivering bufferSize callback).settle d packet r = { d with state := readFailureState r } := by
  rcases hr with rfl | rfl
  · rfl
  · rfl

/-- A call of the reader takes the session where its bytes do, or a timeout has ended it. -/
theorem ReaderCall.delivers {c : PubSubClient} {heard : PubSubClient → PubSubClient}
    (hheard : ∀ c, Undisturbed c (heard c))
    {bytes taken left : List UInt8} {io : DispatchIo} (hlost : io.ackLost = 0) {pass : Bool} {call : MqttCall}
    (hopen : verdict c.bufferSize bytes = none) (hwaits : Framing.Waits (verdict c.bufferSize) bytes taken)
    (h : ReaderCall c heard (bytes ++ taken) left io pass (some call)) (hup : c.connectionState = .CONNECTED)
    {d : Delivered}
    (hstate : d.state = c.connectionState) :
    call.inbound = left ∧ (call.ok = false ∧ call.client.connectionState = .CONNECTION_TIMEOUT ∨
      ∃ p, (delivering c.bufferSize c.callback).feedAll ⟨bytes, d⟩ taken = p ∧ Stands call.client p.pending ∧
        (pass = false → p.pending = []) ∧ call.client.bufferSize = c.bufferSize ∧
          call.client.callback = c.callback ∧
        p.state.seen = d.seen ++ call.log.filterMap MqttEvent.seen ∧
          p.state.state = call.client.connectionState) := by
  have hlive : (delivering c.bufferSize c.callback).live d = true := beq_iff_eq.mpr (hstate.trans hup)
  generalize hcall : some call = result at h
  cases h with
  | stays hsame hstands =>
    cases hcall
    have hkept := Framing.feedAll_more (F := delivering c.bufferSize c.callback) (p := ⟨bytes, d⟩) hlive hwaits
      (hsame.bufferSize ▸ hstands.undecided)
    refine ⟨rfl, .inr ⟨_, hkept, hstands, nofun, hsame.bufferSize, hsame.callback, ?_,
      hstate.trans hsame.connectionState.symm⟩⟩
    exact (List.append_nil _).symm
  | @fails _ c' r hsame hr =>
    cases hcall
    rcases hr with rfl | ⟨hbroken, hverdict⟩
    · exact ⟨rfl, .inl ⟨rfl, rfl⟩⟩
    · have hwhole := Framing.feedAll_whole (F := delivering c.bufferSize c.callback) (p := ⟨bytes, d⟩) hlive hopen
        hwaits hverdict
      rw [settle_broken hbroken] at hwhole
      exact ⟨rfl, .inr ⟨_, hwhole, stands_idle rfl rfl rfl rfl rfl, fun _ => rfl, hsame.bufferSize,
        hsame.callback, (List.append_nil _).symm, rfl⟩⟩
  | @finishes _ c' header rest hsame hpacket hreads hverdict =>
    have hs := hheard c'
    have hbuffer : (heard c').bufferSize = c.bufferSize := hs.bufferSize.trans hsame.bufferSize
    have hcallback : (heard c').callback = c.callback := hs.callback.trans hsame.callback
    have hwhole := Framing.feedAll_whole (F := delivering c.bufferSize c.callback) (p := ⟨bytes, d⟩) hlive hopen
      hwaits hverdict
    have hfinished := finishPacket_finished (hs.readsPayload hreads) (hbuffer ▸ hpacket ▸ hverdict) left io
    rw [← hcall] at hfinished
    obtain ⟨hleft, hstands, hsize, hcallback', hseen, hstate'⟩ :=
      hfinished.answers hlost d (hstate.trans (hsame.connectionState.symm.trans hs.connectionState.symm))
    rw [hcallback, ← hpacket] at hseen hstate'
    exact ⟨hleft, .inr ⟨_, hwhole, hstands, fun _ => rfl, hsize.trans hbuffer, hcallback'.trans hcallback, hseen,
      hstate'⟩⟩

/-! ## The calls in steps -/

theorem loop_down {c : PubSubClient} (hdown : c.connectionState ≠ .CONNECTED) (inbound : List UInt8) {io : LoopIo}
    (hlink : io.connected = true) : c.loop inbound io = some ⟨false, c, inbound, []⟩ := by
  simp [loop, connected, hlink, hdown]

theorem loop_up {c : PubSubClient} (hup : c.connectionState = .CONNECTED) (inbound : List UInt8) {io : LoopIo}
    (hlink : io.connected = true) {alive : Bool} {c' : PubSubClient} {log : List MqttEvent}
    (hping : c.servicePing io.now io.waiting io.pingLost = (alive, c', log)) :
    c.loop inbound io = if alive = false then some ⟨false, c'.timedOut, inbound, log⟩
      else (c'.pumpReader inbound io.now io.ready io.rx io.dispatch).map (.after log) := by
  simp only [loop, connected, hlink, hup, hping, Bool.true_eq_false, if_false, beq_self_eq_true]

theorem publish_cases {c : PubSubClient} (inbound : List UInt8) (call : PublishCall) {io : PublishIo}
    (hlink : io.connected = true) :
    c.publish inbound call io = some ⟨false, c, inbound, []⟩ ∨
      c.connectionState = .CONNECTED ∧ ∃ topic, call.topic = some topic ∧ c.topicNameValid topic = true ∧
        c.publish inbound call io = c.settleAndSend inbound topic call io := by
  cases htopic : call.topic with
  | none =>
    left
    simp only [publish, htopic]
  | some topic =>
    by_cases hvalid : c.topicNameValid topic = false
    · left
      simp only [publish, htopic, if_pos hvalid]
    · by_cases hup : c.connectionState = .CONNECTED
      · right
        refine ⟨hup, topic, rfl, Bool.eq_true_of_not_eq_false hvalid, ?_⟩
        simp only [publish, htopic, if_neg hvalid, connected, hlink, hup, Bool.true_eq_false, if_false,
          beq_self_eq_true]
      · left
        have hdown : (c.connectionState == .CONNECTED) = false := beq_eq_false_iff_ne.mpr hup
        simp only [publish, htopic, if_neg hvalid, connected, hlink, hdown, Bool.true_eq_false, if_false, if_true]

theorem publish_unlinked (c : PubSubClient) (inbound : List UInt8) (call : PublishCall) {io : PublishIo}
    (hlink : io.connected = false) :
    c.publish inbound call io = some ⟨false, c, inbound, []⟩ ∨
      c.publish inbound call io = some ⟨false, (c.connected false).2, inbound, []⟩ := by
  cases htopic : call.topic with
  | none =>
    left
    simp only [PubSubClient.publish, htopic]
  | some topic =>
    by_cases hvalid : c.topicNameValid topic = false
    · left
      simp only [PubSubClient.publish, htopic, if_pos hvalid]
    · right
      simp only [PubSubClient.publish, htopic, if_neg hvalid, hlink, connected, if_true]

/-- What a publish comes to: nothing at all, a packet in progress that fails, or that packet finished and the
message sent. -/
inductive Published (c : PubSubClient) (inbound : List UInt8) (call : PublishCall) (io : PublishIo) : MqttCall →
    Prop
  | nothing : Published c inbound call io ⟨false, c, inbound, []⟩
  | unlinked : io.connected = false → Published c inbound call io ⟨false, (c.connected false).2, inbound, []⟩
  | unsettled {settled : MqttCall} : c.connectionState = .CONNECTED →
      c.settleReader inbound io.rounds io.dispatch = some settled → settled.ok = false →
        Published c inbound call io settled
  | sent {topic : CString} {settled : MqttCall} {ok : Bool} {c' : PubSubClient} {log : List MqttEvent} :
      io.connected = true → c.connectionState = .CONNECTED → call.topic = some topic →
        c.topicNameValid topic = true →
      c.settleReader inbound io.rounds io.dispatch = some settled → settled.ok = true →
      settled.client.send topic call io = some (ok, c', log) →
      Published c inbound call io ⟨ok, c', settled.inbound, settled.log ++ log⟩

theorem publish_published {c : PubSubClient} {inbound : List UInt8} {call : PublishCall} {io : PublishIo}
    {result : MqttCall}
    (h : c.publish inbound call io = some result) : Published c inbound call io result := by
  by_cases hlink : io.connected = true
  swap
  · have hdown := Bool.eq_false_of_not_eq_true hlink
    rcases publish_unlinked c inbound call hdown with hnothing | hlost
    · rw [hnothing] at h
      cases h
      exact .nothing
    · rw [hlost] at h
      cases h
      exact .unlinked hdown
  rcases publish_cases inbound call hlink with hnothing | ⟨hup, topic, htopic, hvalid, hsettles⟩
  · rw [hnothing] at h
    cases h
    exact .nothing
  rw [hsettles, settleAndSend] at h
  obtain ⟨settled, hsettled, h⟩ := Option.bind_eq_some_iff.mp h
  by_cases hok : settled.ok = false
  · rw [if_pos hok] at h
    cases h
    exact .unsettled hup hsettled hok
  · rw [if_neg hok] at h
    obtain ⟨⟨ok, c', log⟩, hsend, rfl⟩ := Option.map_eq_some_iff.mp h
    exact .sent hlink hup htopic hvalid hsettled (Bool.eq_true_of_not_eq_false hok) hsend

/-- What was sent is not seen, and a link that takes it all leaves the session as it was. -/
theorem Sent.unseen {c : PubSubClient} {io : PublishIo} (hlost : ∀ i, io.lost i = 0) {ok : Bool} {c' : PubSubClient}
    {log : List MqttEvent} (h : Sent c io (some (ok, c', log))) (hstands : Stands c []) :
    Stands c' [] ∧ c'.bufferSize = c.bufferSize ∧ c'.callback = c.callback ∧
      c'.connectionState = c.connectionState ∧
      log.filterMap MqttEvent.seen = [] := by
  cases h with
  | refused => exact ⟨hstands, rfl, rfl, rfl, rfl⟩
  | @sent buffer sent expected _ hevents _ hall =>
    rw [hall hlost]
    have hsame := noteSent_same (c.withBuffer buffer) expected io.millis
    refine ⟨hsame.stands (hstands.withBuffer buffer), hsame.bufferSize, hsame.callback, hsame.connectionState, ?_⟩
    rw [List.filterMap_eq_nil_iff]
    intro event hevent
    obtain ⟨bytes, taken, rfl⟩ := hevents event hevent
    rfl

end PubSubClient

/-! ## A whole session -/

structure Follows (bufferSize : UInt16) (callback : Bool) (s : MqttSession)
    (p : Framing.Place UInt8 Delivered) : Prop where
  bufferSize : s.client.bufferSize = bufferSize
  callback : s.client.callback = callback
  stands : Stands s.client p.pending
  seen : p.state.seen = s.seen
  state : p.state.state = s.client.connectionState

section
variable {bufferSize : UInt16} {callback : Bool} {s s' : MqttSession} {p : Framing.Place UInt8 Delivered}

/-- A timeout ended the session, or it took some bytes and stands where they lead. -/
def Advances (bufferSize : UInt16) (callback : Bool) (s s' : MqttSession)
    (p : Framing.Place UInt8 Delivered) : Prop :=
  s'.client.connectionState = .CONNECTION_TIMEOUT ∨
    ∃ taken, s.inbound = taken ++ s'.inbound ∧
      Follows bufferSize callback s' ((delivering bufferSize callback).feedAll p taken)

theorem Follows.stays (h : Follows bufferSize callback s p) :
    Advances bufferSize callback s ⟨s.client, s.inbound, s.log ++ []⟩ p := by
  rw [List.append_nil]
  exact .inr ⟨[], rfl, h⟩

theorem Follows.loop (hsize : bufferSize.toNat ≤ defaultBufferSize) (h : Follows bufferSize callback s p)
    {io : LoopIo}
    (hserved : (MqttOp.loop io).Served) {call : MqttCall} (hcall : s.client.loop s.inbound io = some call) :
    Advances bufferSize callback s ⟨call.client, call.inbound, s.log ++ call.log⟩ p := by
  obtain ⟨hlink, -, hlost⟩ := hserved
  by_cases hup : s.client.connectionState = .CONNECTED
  · have hsame := servicePing_same s.client io.now io.waiting io.pingLost
    have hpings := servicePing_log s.client io.now io.waiting io.pingLost
    rcases hping : s.client.servicePing io.now io.waiting io.pingLost with ⟨alive, c', log⟩
    rw [hping] at hsame hpings
    rw [loop_up hup s.inbound hlink hping] at hcall
    have hunseen : log.filterMap MqttEvent.seen = [] := by
      rw [List.filterMap_eq_nil_iff]
      intro event hevent
      rw [hpings event hevent]
      rfl
    by_cases halive : alive = false
    · rw [if_pos halive] at hcall
      cases hcall
      exact .inl rfl
    · rw [if_neg halive] at hcall
      obtain ⟨inner, hinner, rfl⟩ := Option.map_eq_some_iff.mp hcall
      have hsize' : c'.bufferSize = bufferSize := hsame.bufferSize.trans h.bufferSize
      have hcallback' : c'.callback = callback := hsame.callback.trans h.callback
      have hstands : Stands c' p.pending := hsame.stands h.stands
      obtain ⟨taken, left, hinbound, hwaits, hreader⟩ :=
        pumpReader_call (by rw [hsize']; exact hsize) hstands s.inbound io.now io.ready io.rx io.dispatch
      rw [hinner] at hreader
      obtain ⟨hleft, hout | ⟨p', hp', hstands', -, hsize'', hcallback'', hseen, hstate⟩⟩ :=
        hreader.delivers (heard_same · io.now) hlost hstands.undecided hwaits
          (hsame.connectionState.trans hup) (h.state.trans hsame.connectionState.symm)
      · exact .inl hout.2
      · rw [hsize', hcallback'] at hp'
        refine .inr ⟨taken, hinbound.trans (by rw [← hleft]; rfl), ?_⟩
        rw [hp']
        refine ⟨hsize''.trans hsize', hcallback''.trans hcallback', hstands', ?_, hstate⟩
        rw [hseen, h.seen, MqttSession.seen, MqttSession.seen, MqttCall.after, List.filterMap_append,
          List.filterMap_append, hunseen, List.nil_append]
  · rw [loop_down hup s.inbound hlink] at hcall
    cases hcall
    exact h.stays

theorem Follows.settle (hsize : bufferSize.toNat ≤ defaultBufferSize) (h : Follows bufferSize callback s p)
    (hup : s.client.connectionState = .CONNECTED) {io : PublishIo} (hlost : io.dispatch.ackLost = 0)
    {settled : MqttCall}
    (hcall : s.client.settleReader s.inbound io.rounds io.dispatch = some settled) :
    settled.ok = false ∧ settled.client.connectionState = .CONNECTION_TIMEOUT ∨
      ∃ taken, s.inbound = taken ++ settled.inbound ∧ ((delivering bufferSize callback).feedAll p taken).pending =
        [] ∧
        Follows bufferSize callback ⟨settled.client, settled.inbound, s.log ++ settled.log⟩
          ((delivering bufferSize callback).feedAll p taken) := by
  by_cases hidle : s.client.rxPhase = .Idle
  · rw [settleReader, if_pos hidle] at hcall
    cases hcall
    refine .inr ⟨[], rfl, h.stands.idle hidle, ?_⟩
    rw [List.append_nil]
    exact h
  · obtain ⟨taken, left, hinbound, hwaits, hreader⟩ :=
      settleReader_call (by rw [h.bufferSize]; exact hsize) h.stands hidle s.inbound io.rounds io.dispatch
    rw [hcall] at hreader
    obtain ⟨hleft, hout | ⟨p', hp', hstands, hnone, hsize', hcallback, hseen, hstate⟩⟩ :=
      hreader.delivers Undisturbed.refl hlost h.stands.undecided hwaits hup h.state
    · exact .inl hout
    · rw [h.bufferSize, h.callback] at hp'
      refine .inr ⟨taken, by rw [hleft, hinbound], by rw [hp', hnone rfl], ?_⟩
      rw [hp']
      refine ⟨hsize'.trans h.bufferSize, hcallback.trans h.callback, hstands, ?_, hstate⟩
      rw [hseen, h.seen, MqttSession.seen, MqttSession.seen, List.filterMap_append]

theorem Follows.publish (hsize : bufferSize.toNat ≤ defaultBufferSize) (h : Follows bufferSize callback s p)
    {call : PublishCall} {io : PublishIo} (hserved : (MqttOp.publish call io).Served) {result : MqttCall}
    (hcall : s.client.publish s.inbound call io = some result) :
    Advances bufferSize callback s ⟨result.client, result.inbound, s.log ++ result.log⟩ p := by
  obtain ⟨hlink, hlost, hsent⟩ := hserved
  cases publish_published hcall with
  | nothing => exact h.stays
  | unlinked hdown => cases hlink.symm.trans hdown
  | unsettled hup hsettled hfail =>
    rcases h.settle hsize hup hlost hsettled with ⟨-, hout⟩ | ⟨taken, hinbound, -, hfollows⟩
    · exact .inl hout
    · exact .inr ⟨taken, hinbound, hfollows⟩
  | @sent topic settled ok c' log _ hup _ _ hsettled hok hsend =>
    rcases h.settle hsize hup hlost hsettled with ⟨hfail, -⟩ | ⟨taken, hinbound, hnone, hfollows⟩
    · cases hok.symm.trans hfail
    · have hsends := send_sent (c := settled.client) (by rw [hfollows.bufferSize]; exact hsize) topic call io
      rw [hsend] at hsends
      obtain ⟨hstands, hsize', hcallback', hstate, hunseen⟩ := hsends.unseen hsent (hnone ▸ hfollows.stands)
      refine .inr ⟨taken, hinbound, hsize'.trans hfollows.bufferSize, hcallback'.trans hfollows.callback, ?_, ?_,
        ?_⟩
      · rw [hnone]
        exact hstands
      · rw [hfollows.seen, MqttSession.seen, MqttSession.seen, ← List.append_assoc,
          List.filterMap_append (l := s.log ++ _), hunseen, List.append_nil]
      · exact hfollows.state.trans hstate.symm

theorem Follows.step (hsize : bufferSize.toNat ≤ defaultBufferSize) (h : Follows bufferSize callback s p)
    {op : MqttOp}
    (hserved : op.Served) (hstep : s.step op = some s') : Advances bufferSize callback s s' p := by
  obtain ⟨call, hcall, rfl⟩ := Option.map_eq_some_iff.mp hstep
  cases op with
  | loop io => exact h.loop hsize hserved hcall
  | publish _ io => exact h.publish hsize hserved hcall

theorem step_ended (hended : s.client.connectionState ≠ .CONNECTED) {op : MqttOp} (hserved : op.Served)
    (hstep : s.step op = some s') : s'.client = s.client := by
  obtain ⟨call, hcall, rfl⟩ := Option.map_eq_some_iff.mp hstep
  cases op with
  | loop io =>
    have hnothing := loop_down hended s.inbound hserved.1
    rw [MqttSession.call, hnothing] at hcall
    cases hcall
    rfl
  | publish call io =>
    cases publish_published hcall with
    | nothing => rfl
    | unlinked hdown => cases hserved.1.symm.trans hdown
    | unsettled hup => exact absurd hup hended
    | sent _ hup => exact absurd hup hended

theorem run_ended {ops : List MqttOp} (hended : s.client.connectionState ≠ .CONNECTED)
    (hserved : ∀ op ∈ ops, op.Served)
    (hrun : s.run ops = some s') : s'.client = s.client := by
  induction ops generalizing s with
  | nil =>
    cases hrun
    rfl
  | cons op ops ih =>
    obtain ⟨s₁, hstep, hrest⟩ := Option.bind_eq_some_iff.mp hrun
    have hsame := step_ended hended (hserved op List.mem_cons_self) hstep
    rw [← hsame]
    exact ih (by rw [hsame]; exact hended) (fun op hop => hserved op (List.mem_cons_of_mem _ hop)) hrest

theorem Follows.run (hsize : bufferSize.toNat ≤ defaultBufferSize) (h : Follows bufferSize callback s p)
    {ops : List MqttOp}
    (hserved : ∀ op ∈ ops, op.Served) (hrun : s.run ops = some s') : Advances bufferSize callback s s' p := by
  induction ops generalizing s p with
  | nil =>
    cases hrun
    exact .inr ⟨[], rfl, h⟩
  | cons op ops ih =>
    obtain ⟨s₁, hstep, hrest⟩ := Option.bind_eq_some_iff.mp hrun
    have hserved' : ∀ op ∈ ops, op.Served := fun op hop => hserved op (List.mem_cons_of_mem _ hop)
    rcases h.step hsize (hserved op List.mem_cons_self) hstep with hout | ⟨taken, hinbound, hfollows⟩
    · left
      rw [run_ended (by rw [hout]; exact State.noConfusion) hserved' hrest]
      exact hout
    · rcases ih hfollows hserved' hrest with hout | ⟨taken', hinbound', hfollows'⟩
      · exact .inl hout
      · refine .inr ⟨taken ++ taken', ?_, ?_⟩
        · rw [hinbound, hinbound', List.append_assoc]
        · rw [Framing.feedAll_append]
          exact hfollows'

end

/-- The session that `connect` opens, with the stream that the broker sends on it. -/
def MqttSession.opened (c : PubSubClient) (sent now : UInt32) (stream : List UInt8) : MqttSession :=
  ⟨c.accepted sent now, stream, []⟩

theorem opened_follows (c : PubSubClient) (sent now : UInt32) (stream : List UInt8) :
    Follows c.bufferSize c.callback (.opened c sent now stream) ⟨[], [], .CONNECTED⟩ :=
  ⟨rfl, rfl, stands_idle rfl rfl rfl rfl rfl, rfl, rfl⟩

def MqttSession.Drained (s : MqttSession) : Prop := s.inbound = [] ∨ s.client.connectionState ≠ .CONNECTED

theorem setBufferSize_le {c c' : PubSubClient} {size : UInt16} (h : c.setBufferSize size = (true, c')) :
    c'.bufferSize.toNat ≤ defaultBufferSize := by
  unfold setBufferSize at h
  split at h
  · cases h
  · rename_i hok
    cases h
    exact UInt16.le_iff_toNat_le.mp (UInt16.not_lt.mp fun hlt => hok (.inr hlt))

/-- Two sessions over one stream, cut in any two ways and with any publishes in between, come to the same. -/
theorem delivery_unfragmented {c c' : PubSubClient} {size : UInt16} (hsize : c.setBufferSize size = (true, c'))
    (sent now : UInt32) (stream : List UInt8) {ops₁ ops₂ : List MqttOp} (hserved₁ : ∀ op ∈ ops₁, op.Served)
    (hserved₂ : ∀ op ∈ ops₂, op.Served) {s₁ s₂ : MqttSession}
    (hrun₁ : (MqttSession.opened c' sent now stream).run ops₁ = some s₁)
    (hrun₂ : (MqttSession.opened c' sent now stream).run ops₂ = some s₂)
    (hintime₁ : s₁.client.connectionState ≠ .CONNECTION_TIMEOUT)
    (hintime₂ : s₂.client.connectionState ≠ .CONNECTION_TIMEOUT)
    (hdrained₁ : s₁.Drained) (hdrained₂ : s₂.Drained) :
    s₁.seen = s₂.seen ∧ s₁.client.connectionState = s₂.client.connectionState := by
  have hfollows := opened_follows c' sent now stream
  have hbuffer := setBufferSize_le hsize
  obtain hout | ⟨taken₁, hinbound₁, h₁⟩ := hfollows.run hbuffer hserved₁ hrun₁
  · exact absurd hout hintime₁
  obtain hout | ⟨taken₂, hinbound₂, h₂⟩ := hfollows.run hbuffer hserved₂ hrun₂
  · exact absurd hout hintime₂
  have hend : ∀ {s : MqttSession} {p : Framing.Place UInt8 Delivered}, s.Drained →
    Follows c'.bufferSize c'.callback s p →
      s.inbound = [] ∨ (delivering c'.bufferSize c'.callback).live p.state = false := by
    intro s p hdrained hs
    refine hdrained.imp_right fun hended => ?_
    exact beq_eq_false_iff_ne.mpr (hs.state ▸ hended)
  have hsame := Framing.feedAll_eq_of_drained (hinbound₁.symm.trans hinbound₂) (hend hdrained₁ h₁)
    (hend hdrained₂ h₂)
  rw [hsame] at h₁
  exact ⟨h₁.seen.symm.trans h₂.seen, h₁.state.symm.trans h₂.state⟩

/-- A pass that finds nothing to ping about, and whose socket hands over so many bytes. -/
def LoopIo.handing (header : Nat) (payload : List (UInt32 × Nat)) : LoopIo :=
  ⟨0, true, false, 0, true, ⟨header, payload⟩, ⟨0, 0⟩⟩

/-- A message above QoS 0, in one pass, and cut in two by a publish that finds it half read. -/
theorem delivery_unfragmented_cut :
    ∃ s₁ s₂, (MqttSession.opened (.new true) 0 0 [0x32, 6, 0, 1, 0x61, 0, 1, 7]).run
      [.loop (.handing 8 [(8, 8)])] = some s₁ ∧
      (MqttSession.opened (.new true) 0 0 [0x32, 6, 0, 1, 0x61, 0, 1, 7]).run
        [.loop (.handing 1 []), .loop (.handing 1 [(2, 2)]),
          .publish ⟨false, some ⟨[0x62], by decide⟩, [], false⟩ ⟨true, [⟨0, [(9, 1), (9, 9)]⟩], ⟨0, 0⟩, fun _ => 0,
            0⟩] = some s₂ ∧
      s₁.seen = [.message [0x61] [7] 1, .puback [0x40, 2, 0, 1]] ∧ s₁.seen = s₂.seen ∧
      s₁.client.connectionState = s₂.client.connectionState := by
  have hserved₁ : ∀ op ∈ [MqttOp.loop (.handing 8 [(8, 8)])], op.Served := by
    simp [MqttOp.Served, LoopIo.handing]
  have hserved₂ : ∀ op ∈ [MqttOp.loop (.handing 1 []), .loop (.handing 1 [(2, 2)]),
      .publish ⟨false, some ⟨[0x62], by decide⟩, [], false⟩ ⟨true, [⟨0, [(9, 1), (9, 9)]⟩], ⟨0, 0⟩, fun _ => 0, 0⟩],
      op.Served := by
    simp [MqttOp.Served, LoopIo.handing]
  have hend₁ : ((MqttSession.opened (.new true) 0 0 [0x32, 6, 0, 1, 0x61, 0, 1, 7]).run
      [.loop (.handing 8 [(8, 8)])]).any (fun s => s.inbound == [] && s.client.connectionState == .CONNECTED &&
        s.seen == [.message [0x61] [7] 1, .puback [0x40, 2, 0, 1]]) = true := by
    decide +kernel
  have hend₂ : ((MqttSession.opened (.new true) 0 0 [0x32, 6, 0, 1, 0x61, 0, 1, 7]).run
      [.loop (.handing 1 []), .loop (.handing 1 [(2, 2)]),
        .publish ⟨false, some ⟨[0x62], by decide⟩, [], false⟩ ⟨true, [⟨0, [(9, 1), (9, 9)]⟩], ⟨0, 0⟩, fun _ => 0,
          0⟩]).any
      (fun s => s.inbound == [] && s.client.connectionState == .CONNECTED) = true := by
    decide +kernel
  obtain ⟨s₁, hrun₁, hs₁⟩ := Option.any_eq_true _ _ |>.mp hend₁
  obtain ⟨s₂, hrun₂, hs₂⟩ := Option.any_eq_true _ _ |>.mp hend₂
  simp only [Bool.and_eq_true, beq_iff_eq] at hs₁ hs₂
  obtain ⟨⟨hinbound₁, hup₁⟩, hseen₁⟩ := hs₁
  obtain ⟨hinbound₂, hup₂⟩ := hs₂
  exact ⟨s₁, s₂, hrun₁, hrun₂, hseen₁,
    @delivery_unfragmented (.new true) _ 1024 (by decide +kernel) 0 0 _ _ _ hserved₁ hserved₂ _ _
    hrun₁ hrun₂ (by rw [hup₁]; exact State.noConfusion) (by rw [hup₂]; exact State.noConfusion) (.inl hinbound₁)
    (.inl hinbound₂)⟩

end CanSystems
