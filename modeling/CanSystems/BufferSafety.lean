import CanSystems.Fragmentation

/-!
# Every access is inside the buffer

A call is `none` when it reaches outside the buffer, so a run that is never
`none` has stayed inside. It also stays inside its packet: what is dispatched is
a piece of the stream that fits the buffer, and what the callback is handed is a
piece of what was dispatched.
-/

namespace CanSystems

open PubSubClient

/-! ## What is handed to the callback -/

def MqttEvent.packet : MqttEvent → Option (List UInt8)
  | .dispatched packet => some packet
  | _ => none

def MqttSession.packets (s : MqttSession) : List (List UInt8) := s.log.filterMap MqttEvent.packet

/-- The topic is that of the packet, ended by a zero, and the payload is the packet from `payload` on to its end. -/
def Inside (packet : List UInt8) (topic payload : Nat) (length : UInt32) (buffer : Buffer) : Prop :=
  ∃ m, answerOf packet = .message m ∧ m.topic ≠ [] ∧ 0 ∉ m.topic ∧
    buffer.read topic (m.topic.length + 1) = some (m.topic ++ [0]) ∧ topic + m.topic.length < payload ∧
    payload + length.toNat = packet.length ∧ buffer.read payload length.toNat = some (packet.drop payload)

/-- The callback is called on the packet that was dispatched right before. -/
def CallbacksAnnounced (log : List MqttEvent) : Prop :=
  ∀ before topic payload length buffer after, log = before ++ .callback topic payload length buffer :: after →
    ∃ before' packet, before = before' ++ [.dispatched packet] ∧ Inside packet topic payload length buffer

theorem CallbacksAnnounced.append {xs ys : List MqttEvent} (hx : CallbacksAnnounced xs)
    (hy : CallbacksAnnounced ys) : CallbacksAnnounced (xs ++ ys) := by
  intro before topic payload length buffer after h
  rcases List.append_eq_append_iff.mp h with ⟨mid, hbefore, hys⟩ | ⟨mid, hxs, hafter⟩
  · obtain ⟨before', packet, hmid, hinside⟩ := hy mid topic payload length buffer after hys
    exact ⟨xs ++ before', packet, by rw [hbefore, hmid, List.append_assoc], hinside⟩
  · cases mid with
    | nil =>
      -- The callback is the first of `ys`.
      obtain ⟨before', packet, hnil, -⟩ := hy [] topic payload length buffer after hafter.symm
      exact absurd hnil.symm (List.append_ne_nil_of_right_ne_nil before' (List.cons_ne_nil _ []))
    | cons event mid =>
      obtain ⟨rfl, -⟩ := List.cons.inj hafter
      exact hx before topic payload length buffer mid hxs

theorem announced_of_none {log : List MqttEvent} (h : ∀ event ∈ log, ∀ topic payload length buffer,
    event ≠ .callback topic payload length buffer) : CallbacksAnnounced log := by
  intro before topic payload length buffer after hlog
  refine absurd rfl (h (.callback topic payload length buffer) ?_ topic payload length buffer)
  rw [hlog]
  exact List.mem_append_right before List.mem_cons_self

theorem inside_of_shows {packet : List UInt8} {m : Message} {topic payload : Nat} {length : UInt32}
    {buffer : Buffer}
    (h : Shows packet m (.callback topic payload length buffer)) (hanswer : answerOf packet = .message m) :
    Inside packet topic payload length buffer := by
  obtain ⟨htopic, hbehind, hend, hpayload, hread⟩ := h
  obtain ⟨hne, hzero, -⟩ := answerOf_topic hanswer
  exact ⟨m, hanswer, hne, hzero, htopic, hbehind, hend, by rw [hpayload, hread]⟩

theorem announced_of_shows {c : PubSubClient} {packet : List UInt8} {m : Message} {shown : List MqttEvent}
    (h : ShowsAll c packet m shown) (hanswer : answerOf packet = .message m) :
    CallbacksAnnounced (.dispatched packet :: shown) := by
  match shown with
  | [] => exact announced_of_none (by simp)
  | [.callback topic payload length buffer] =>
    intro before topic' payload' length' buffer' after hlog
    match before with
    | [] => cases hlog
    | [_] =>
      cases hlog
      exact ⟨[], packet, rfl, inside_of_shows h.2 hanswer⟩
    | _ :: _ :: before => simp at hlog
  | [.dispatched _] => exact h.2.elim
  | [.puback _ _] => exact h.2.elim
  | [.pingreq _] => exact h.2.elim
  | [.publish _ _] => exact h.2.elim
  | _ :: _ :: _ => exact h.elim

/-! ## What a call keeps -/

theorem pubackEvents_not_callback (m : Message)
    (io : DispatchIo) :
    ∀ event ∈ pubackEvents m io, ∀ topic payload length buffer, event ≠ .callback topic payload length buffer := by
  intro event hevent
  unfold pubackEvents at hevent
  split at hevent
  · cases hevent
  · rw [List.mem_singleton.mp hevent]
    intros
    exact MqttEvent.noConfusion

theorem pubackEvents_packet (m : Message) (io : DispatchIo) :
    (pubackEvents m io).filterMap MqttEvent.packet = [] := by
  unfold pubackEvents
  split
  · rfl
  · rfl

theorem packet_of_shows {c : PubSubClient} {packet : List UInt8} {m : Message} {shown : List MqttEvent}
    (h : ShowsAll c packet m shown) : shown.filterMap MqttEvent.packet = [] := by
  match shown with
  | [] => rfl
  | [.callback _ _ _ _] => rfl
  | [.dispatched _] => exact h.2.elim
  | [.puback _ _] => exact h.2.elim
  | [.pingreq _] => exact h.2.elim
  | [.publish _ _] => exact h.2.elim
  | _ :: _ :: _ => exact h.elim

theorem finished_safe {c : PubSubClient} {packet inbound : List UInt8} {io : DispatchIo} {result : Option MqttCall}
    (h : PacketFinished c packet inbound io result) :
    ∃ call, result = some call ∧ call.inbound = inbound ∧ call.client.bufferSize = c.bufferSize ∧
      CallbacksAnnounced call.log ∧
      call.log.filterMap MqttEvent.packet = [packet] ∧ Stands call.client [] := by
  have hlone : CallbacksAnnounced [.dispatched packet] := announced_of_none (by simp)
  cases h with
  | refused => exact ⟨_, rfl, rfl, rfl, hlone, rfl, stands_idle rfl rfl rfl rfl rfl⟩
  | nothing => exact ⟨_, rfl, rfl, rfl, hlone, rfl, stands_idle rfl rfl rfl rfl rfl⟩
  | pong =>
    have hsame := pingAnswered_same c.resetReader io.millis
    exact ⟨_, rfl, rfl, hsame.bufferSize, hlone, rfl, hsame.stands (stands_idle rfl rfl rfl rfl rfl)⟩
  | @message m buffer shown hanswer hshows =>
    have hsame := acknowledged_reader (c.resetReader.withBuffer buffer) m io
    refine ⟨_, rfl, rfl, hsame.bufferSize, ?_, ?_, hsame.stands (stands_idle rfl rfl rfl rfl rfl)⟩
    · exact (announced_of_shows hshows hanswer).append (announced_of_none (pubackEvents_not_callback m io))
    · rw [List.filterMap_cons_some (f := MqttEvent.packet) (b := packet) rfl, List.filterMap_append,
        packet_of_shows hshows, pubackEvents_packet, List.append_nil]

/-- What the reader made of a call: it failed, it waits in mid-packet, or it finished a packet. -/
theorem readerCall_safe {c : PubSubClient} {heard : PubSubClient → PubSubClient}
    (hheard : ∀ c, Undisturbed c (heard c))
    {bytes left : List UInt8} {io : DispatchIo} {pass : Bool} {result : Option MqttCall}
    (h : ReaderCall c heard bytes left io pass result) :
    ∃ call, result = some call ∧ call.inbound = left ∧ call.client.bufferSize = c.bufferSize ∧
      CallbacksAnnounced call.log ∧
      ((call.ok = false ∧ call.log.filterMap MqttEvent.packet = [] ∧ call.client.connectionState ≠ .CONNECTED ∧
          Stands call.client []) ∨
        (pass = true ∧ call.log.filterMap MqttEvent.packet = [] ∧ Stands call.client bytes) ∨
        (call.log.filterMap MqttEvent.packet = [bytes] ∧ bytes.length ≤ c.bufferSize.toNat ∧
          Stands call.client [])) := by
  cases h with
  | stays hsame hstands =>
    exact ⟨_, rfl, rfl, hsame.bufferSize, announced_of_none (by simp), .inr (.inl ⟨rfl, rfl, hstands⟩)⟩
  | @fails _ c' r hsame hr =>
    refine ⟨_, rfl, rfl, hsame.bufferSize, announced_of_none (by simp),
      .inl ⟨rfl, rfl, ?_, stands_idle rfl rfl rfl rfl rfl⟩⟩
    show readFailureState r ≠ .CONNECTED
    cases r <;> exact State.noConfusion
  | @finishes _ c' header rest hsame hpacket hreads hverdict =>
    have hs := hheard c'
    have hsize := hs.bufferSize.trans hsame.bufferSize
    obtain ⟨call, hcall, hleft, hsize', hannounced, hpackets, hstands⟩ :=
      finished_safe (finishPacket_finished (hs.readsPayload hreads) (by rw [hsize, ← hpacket, hverdict]) left io)
    refine ⟨call, hcall, hleft, hsize'.trans hsize, hannounced, .inr (.inr ⟨?_, ?_, hstands⟩)⟩
    · rw [hpackets, hpacket]
    · have hfits := hreads.headed.fits
      have hdone := hreads.done
      have hwithin := hreads.within
      rw [hsame.bufferSize] at hfits
      rw [hpacket, List.length_cons]
      omega

/-! ## What a run keeps -/

/-- The packets are the front of the stream, one behind the other, and each fitted the buffer. -/
structure ReadsSoundly (size : UInt16) (stream : List UInt8) (s : MqttSession) : Prop where
  bufferSize : s.client.bufferSize = size
  announced : CallbacksAnnounced s.log
  fits : ∀ packet ∈ s.packets, packet.length ≤ size.toNat
  packets : s.packets.flatten <+: stream
  stands : ∃ pending, Stands s.client pending ∧
    (s.client.connectionState = .CONNECTED → stream = s.packets.flatten ++ pending ++ s.inbound)

section
variable {size : UInt16} {stream : List UInt8} {s : MqttSession}

/-- A call that took `taken` and looked at no packet, or at the one that these bytes made whole. -/
theorem ReadsSoundly.after (h : ReadsSoundly size stream s) {pending : List UInt8}
    (hstream : stream = s.packets.flatten ++ pending ++ s.inbound) {call : MqttCall} {taken : List UInt8}
    (hinbound : s.inbound = taken ++ call.inbound) (hsize : call.client.bufferSize = size)
    (hannounced : CallbacksAnnounced call.log)
    (hcall : (call.log.filterMap MqttEvent.packet = [] ∧ call.client.connectionState ≠ .CONNECTED ∧
      Stands call.client []) ∨
      (call.log.filterMap MqttEvent.packet = [] ∧ Stands call.client (pending ++ taken)) ∨
      (call.log.filterMap MqttEvent.packet = [pending ++ taken] ∧ (pending ++ taken).length ≤ size.toNat ∧
        Stands call.client [])) :
    ReadsSoundly size stream ⟨call.client, call.inbound, s.log ++ call.log⟩ := by
  have hpackets : MqttSession.packets ⟨call.client, call.inbound, s.log ++ call.log⟩ =
      s.packets ++ call.log.filterMap MqttEvent.packet := List.filterMap_append
  rcases hcall with ⟨hnone, hdown, hstands⟩ | ⟨hnone, hstands⟩ | ⟨hone, hlength, hstands⟩
  · rw [hnone, List.append_nil] at hpackets
    refine ⟨hsize, h.announced.append hannounced, ?_, ?_, [], hstands, fun hup' => absurd hup' hdown⟩
    · rw [hpackets]
      exact h.fits
    · rw [hpackets]
      exact h.packets
  · rw [hnone, List.append_nil] at hpackets
    refine ⟨hsize, h.announced.append hannounced, ?_, ?_, _, hstands, fun _ => ?_⟩
    · rw [hpackets]
      exact h.fits
    · rw [hpackets]
      exact h.packets
    · rw [hpackets, hstream, hinbound]
      simp only [List.append_assoc]
  · rw [hone] at hpackets
    have hflat : stream = (s.packets ++ [pending ++ taken]).flatten ++ [] ++ call.inbound := by
      rw [hstream, hinbound, List.flatten_append, List.flatten_singleton]
      simp only [List.append_assoc, List.nil_append]
    refine ⟨hsize, h.announced.append hannounced, ?_, ?_, [], hstands, fun _ => ?_⟩
    · rw [hpackets]
      intro packet hpacket
      rcases List.mem_append.mp hpacket with hold | hnew
      · exact h.fits packet hold
      · rw [List.mem_singleton.mp hnew]
        exact hlength
    · rw [hpackets]
      exact ⟨call.inbound, (hflat.trans (by rw [List.append_nil])).symm⟩
    · rw [hpackets]
      exact hflat

theorem ReadsSoundly.untouched (h : ReadsSoundly size stream s) {c' : PubSubClient} {log : List MqttEvent}
    (hsame : s.client.SameReader c')
    (hstate : c'.connectionState = .CONNECTED → s.client.connectionState = .CONNECTED)
    (hpackets : log.filterMap MqttEvent.packet = []) (hannounced : CallbacksAnnounced log) :
    ReadsSoundly size stream ⟨c', s.inbound, s.log ++ log⟩ := by
  have hall : MqttSession.packets ⟨c', s.inbound, s.log ++ log⟩ = s.packets := by
    rw [MqttSession.packets, List.filterMap_append, hpackets, List.append_nil]
    rfl
  obtain ⟨pending, hstands, hstream⟩ := h.stands
  refine ⟨hsame.bufferSize.trans h.bufferSize, h.announced.append hannounced, ?_, ?_, pending, hsame.stands hstands,
    ?_⟩
  · rw [hall]
    exact h.fits
  · rw [hall]
    exact h.packets
  · intro hup
    rw [hall]
    exact hstream (hstate hup)

theorem pings_safe {c : PubSubClient} {t : UInt32} {waiting : Bool} {lost : Nat} {alive : Bool} {c' : PubSubClient}
    {log : List MqttEvent} (hping : c.servicePing t waiting lost = (alive, c', log)) :
    CallbacksAnnounced log ∧ log.filterMap MqttEvent.packet = [] := by
  have hpings := servicePing_log c t waiting lost
  rw [hping] at hpings
  refine ⟨announced_of_none ?_, ?_⟩
  · intro event hevent
    rw [hpings event hevent]
    intros
    exact MqttEvent.noConfusion
  · rw [List.filterMap_eq_nil_iff]
    intro event hevent
    rw [hpings event hevent]
    rfl

theorem unlinked_same (c : PubSubClient) :
    c.SameReader (c.connected false).2 ∧ (c.connected false).2.connectionState ≠ .CONNECTED := by
  rw [connected, if_pos rfl]
  by_cases hup : c.connectionState = .CONNECTED
  · rw [if_pos hup]
    exact ⟨⟨rfl, rfl, rfl, rfl, rfl, rfl, rfl, rfl, rfl⟩, State.noConfusion⟩
  · rw [if_neg hup]
    exact ⟨(Undisturbed.refl c).toSameReader, hup⟩

theorem loop_unlinked (c : PubSubClient) (inbound : List UInt8) {io : LoopIo} (hlink : io.connected = false) :
    c.loop inbound io = some ⟨false, (c.connected false).2, inbound, []⟩ := by
  simp only [loop, hlink, connected, if_true]

theorem ReadsSoundly.loop (hle : size.toNat ≤ defaultBufferSize) (h : ReadsSoundly size stream s) (io : LoopIo) :
    ∃ call, s.client.loop s.inbound io = some call ∧
      ReadsSoundly size stream ⟨call.client, call.inbound, s.log ++ call.log⟩ := by
  by_cases hlink : io.connected = true
  · by_cases hup : s.client.connectionState = .CONNECTED
    · have hsame := servicePing_same s.client io.now io.waiting io.pingLost
      rcases hping : s.client.servicePing io.now io.waiting io.pingLost with ⟨alive, c', log⟩
      rw [hping] at hsame
      obtain ⟨hannounced, hnone⟩ := pings_safe hping
      rw [loop_up hup s.inbound hlink hping]
      by_cases halive : alive = false
      · rw [if_pos halive]
        have htimed : s.client.SameReader c'.timedOut :=
          ⟨hsame.buffer, hsame.bufferSize, hsame.rxPhase, hsame.rxLen, hsame.rxLengthLength, hsame.rxMultiplier,
            hsame.rxRemaining, hsame.rxPayloadDone, hsame.callback⟩
        exact ⟨_, rfl, h.untouched htimed State.noConfusion hnone hannounced⟩
      · rw [if_neg halive]
        obtain ⟨pending, hstands, hstream⟩ := h.stands
        have hsize : c'.bufferSize = size := hsame.bufferSize.trans h.bufferSize
        obtain ⟨taken, left, hinbound, -, hreader⟩ :=
          pumpReader_call (by rw [hsize]; exact hle) (hsame.stands hstands) s.inbound io.now io.ready io.rx
            io.dispatch
        obtain ⟨call, hcall, hleft, hsize', hannounced', hcases⟩ := readerCall_safe (heard_same · io.now) hreader
        have hpackets : (call.after log).log.filterMap MqttEvent.packet = call.log.filterMap MqttEvent.packet := by
          rw [MqttCall.after, List.filterMap_append, hnone, List.nil_append]
        rw [hcall]
        refine ⟨_, rfl, h.after (hstream hup) (show _ = taken ++ _ from ?_) (hsize'.trans hsize)
          (hannounced.append hannounced') ?_⟩
        · rw [hinbound, ← hleft]
          rfl
        · rw [hpackets]
          rcases hcases with ⟨-, hfailed⟩ | ⟨-, hwaits⟩ | hdone
          · exact .inl hfailed
          · exact .inr (.inl hwaits)
          · rw [hsize] at hdone
            exact .inr (.inr hdone)
    · rw [loop_down hup s.inbound hlink]
      exact ⟨_, rfl, h.untouched (Undisturbed.refl _).toSameReader id rfl (announced_of_none (by simp))⟩
  · obtain ⟨hsame, hdown⟩ := unlinked_same s.client
    refine ⟨_, loop_unlinked s.client s.inbound (Bool.eq_false_of_not_eq_true hlink), ?_⟩
    exact h.untouched hsame (fun hup => absurd hup hdown) rfl (announced_of_none (by simp))

theorem ReadsSoundly.settle (hle : size.toNat ≤ defaultBufferSize) (h : ReadsSoundly size stream s)
    (hup : s.client.connectionState = .CONNECTED) (io : PublishIo) :
    ∃ call, s.client.settleReader s.inbound io.rounds io.dispatch = some call ∧
      ReadsSoundly size stream ⟨call.client, call.inbound, s.log ++ call.log⟩ ∧
        (call.ok = true → Stands call.client []) := by
  obtain ⟨pending, hstands, hstream⟩ := h.stands
  by_cases hidle : s.client.rxPhase = .Idle
  · refine ⟨⟨true, s.client, s.inbound, []⟩, by rw [settleReader, if_pos hidle], ?_,
      fun _ => hstands.idle hidle ▸ hstands⟩
    exact h.untouched (Undisturbed.refl _).toSameReader id rfl (announced_of_none (by simp))
  · obtain ⟨taken, left, hinbound, -, hreader⟩ :=
      settleReader_call (by rw [h.bufferSize]; exact hle) hstands hidle s.inbound io.rounds io.dispatch
    obtain ⟨call, hcall, hleft, hsize, hannounced, hcases⟩ := readerCall_safe Undisturbed.refl hreader
    refine ⟨call, hcall, ?_, ?_⟩
    · refine h.after (hstream hup) (show _ = taken ++ _ by rw [hinbound, hleft]) (hsize.trans h.bufferSize)
        hannounced ?_
      rcases hcases with ⟨-, hfailed⟩ | ⟨hpass, -⟩ | hdone
      · exact .inl hfailed
      · cases hpass
      · rw [h.bufferSize] at hdone
        exact .inr (.inr hdone)
    · intro hok
      rcases hcases with ⟨hfail, -⟩ | ⟨hpass, -⟩ | ⟨-, -, hdone⟩
      · rw [hok] at hfail
        cases hfail
      · cases hpass
      · exact hdone

theorem sent_safe {c : PubSubClient} {io : PublishIo} {result : Option (Bool × PubSubClient × List MqttEvent)}
    (h : Sent c io result) (hstands : Stands c []) :
    ∃ ok c' log, result = some (ok, c', log) ∧ c'.bufferSize = c.bufferSize ∧ Stands c' [] ∧
      (c'.connectionState = .CONNECTED → c.connectionState = .CONNECTED) ∧ CallbacksAnnounced log ∧
      log.filterMap MqttEvent.packet = [] := by
  cases h with
  | refused => exact ⟨_, _, _, rfl, rfl, hstands, id, announced_of_none (by simp), rfl⟩
  | @sent buffer sent expected log hevents =>
    have hsame := (c.withBuffer buffer).noteSent_reader sent expected io.millis
    refine ⟨_, _, _, rfl, hsame.bufferSize, hsame.stands (hstands.withBuffer buffer), ?_, announced_of_none ?_, ?_⟩
    · rw [noteSent_eq]
      intro hup
      by_cases hshort : sent ≠ 0 ∧ sent ≠ expected
      · rw [if_pos hshort] at hup
        cases hup
      · rwa [if_neg hshort] at hup
    · intro event hevent
      obtain ⟨bytes, taken, rfl⟩ := hevents event hevent
      intros
      exact MqttEvent.noConfusion
    · rw [List.filterMap_eq_nil_iff]
      intro event hevent
      obtain ⟨bytes, taken, rfl⟩ := hevents event hevent
      rfl

theorem ReadsSoundly.publish (hle : size.toNat ≤ defaultBufferSize) (h : ReadsSoundly size stream s)
    (call : PublishCall) (io : PublishIo) :
    ∃ result, s.client.publish s.inbound call io = some result ∧
      ReadsSoundly size stream ⟨result.client, result.inbound, s.log ++ result.log⟩ := by
  have hstay : ReadsSoundly size stream ⟨s.client, s.inbound, s.log ++ []⟩ :=
    h.untouched (Undisturbed.refl _).toSameReader id rfl (announced_of_none (by simp))
  by_cases hlink : io.connected = true
  · rcases publish_cases s.inbound call hlink with hnothing | ⟨hup, topic, -, -, hsettles⟩
    · exact ⟨_, hnothing, hstay⟩
    · obtain ⟨settled, hsettled, hsound, hidle⟩ := h.settle hle hup io
      rw [hsettles, settleAndSend, hsettled, Option.bind_some]
      by_cases hok : settled.ok = false
      · exact ⟨settled, by rw [if_pos hok], hsound⟩
      · have hstands := hidle (Bool.eq_true_of_not_eq_false hok)
        obtain ⟨ok, c', log, hsend, hsize, hstands', hstate, hannounced, hnone⟩ :=
          sent_safe (send_sent (c := settled.client) (by rw [hsound.bufferSize]; exact hle) topic call io) hstands
        obtain ⟨pending, hpending, hstream⟩ := hsound.stands
        have hempty : pending = [] := hpending.reads.eq_take.trans hstands.reads.eq_take.symm
        have hpackets : MqttSession.packets ⟨c', settled.inbound, s.log ++ (settled.log ++ log)⟩ =
            MqttSession.packets ⟨settled.client, settled.inbound, s.log ++ settled.log⟩ := by
          rw [MqttSession.packets, MqttSession.packets, ← List.append_assoc,
            List.filterMap_append (l := s.log ++ _), hnone, List.append_nil]
        refine ⟨_, by rw [if_neg hok, hsend]; rfl, hsize.trans hsound.bufferSize, ?_, ?_, ?_, [], hstands', ?_⟩
        · rw [← List.append_assoc]
          exact hsound.announced.append hannounced
        · rw [hpackets]
          exact hsound.fits
        · rw [hpackets]
          exact hsound.packets
        · intro hup'
          rw [hpackets]
          have hcut := hstream (hstate hup')
          rwa [hempty] at hcut
  · obtain ⟨hsame, hdown⟩ := unlinked_same s.client
    rcases publish_unlinked s.client s.inbound call (Bool.eq_false_of_not_eq_true hlink) with hnothing | hlost
    · exact ⟨_, hnothing, hstay⟩
    · exact ⟨_, hlost, h.untouched hsame (fun hup => absurd hup hdown) rfl (announced_of_none (by simp))⟩

theorem ReadsSoundly.step (hle : size.toNat ≤ defaultBufferSize) (h : ReadsSoundly size stream s) (op : MqttOp) :
    ∃ s', s.step op = some s' ∧ ReadsSoundly size stream s' := by
  cases op with
  | loop io =>
    obtain ⟨call, hcall, hsound⟩ := h.loop hle io
    exact ⟨_, by rw [MqttSession.step, MqttSession.call, hcall]; rfl, hsound⟩
  | publish call io =>
    obtain ⟨result, hcall, hsound⟩ := h.publish hle call io
    exact ⟨_, by rw [MqttSession.step, MqttSession.call, hcall]; rfl, hsound⟩

theorem ReadsSoundly.run (hle : size.toNat ≤ defaultBufferSize) (h : ReadsSoundly size stream s)
    (ops : List MqttOp) :
    ∃ s', s.run ops = some s' ∧ ReadsSoundly size stream s' := by
  induction ops generalizing s with
  | nil => exact ⟨s, rfl, h⟩
  | cons op ops ih =>
    obtain ⟨s₁, hstep, hsound⟩ := h.step hle op
    obtain ⟨s', hrun, hsound'⟩ := ih hsound
    exact ⟨s', by rw [MqttSession.run, List.foldlM_cons, hstep]; exact hrun, hsound'⟩

end

theorem opened_sound {c c' : PubSubClient} {size : UInt16} (hsize : c.setBufferSize size = (true, c'))
    (sent now : UInt32)
    (stream : List UInt8) : ReadsSoundly size stream (.opened c' sent now stream) := by
  have hbuffer : c'.bufferSize = size := by
    unfold setBufferSize at hsize
    split at hsize
    · cases hsize
    · cases hsize
      rfl
  refine ⟨hbuffer, announced_of_none (by simp [MqttSession.opened]), ?_, List.nil_prefix, [],
    stands_idle rfl rfl rfl rfl rfl, fun _ => rfl⟩
  intro packet hpacket
  cases hpacket

/-- No call reaches outside the buffer, nothing that does not fit it is looked at, and what the callback is handed
lies in the packet that arrived. -/
theorem buffer_safe {c c' : PubSubClient} {size : UInt16} (hsize : c.setBufferSize size = (true, c'))
    (sent now : UInt32)
    (stream : List UInt8) (ops : List MqttOp) :
    ∃ s, (MqttSession.opened c' sent now stream).run ops = some s ∧ s.packets.flatten <+: stream ∧
      (∀ packet ∈ s.packets, packet.length ≤ size.toNat) ∧
      ∀ before topic payload length buffer after, s.log = before ++ .callback topic payload length buffer :: after →
        ∃ before' packet, before = before' ++ [.dispatched packet] ∧ Inside packet topic payload length buffer := by
  have hbuffer : c'.bufferSize = size := (opened_sound hsize sent now stream).bufferSize
  have hle : size.toNat ≤ defaultBufferSize := by
    rw [← hbuffer]
    exact setBufferSize_le hsize
  obtain ⟨s, hrun, hsound⟩ := (opened_sound hsize sent now stream).run hle ops
  exact ⟨s, hrun, hsound.packets, hsound.fits, hsound.announced⟩

/-- A packet that fills the buffer, and one that names a longer topic than it holds. -/
theorem buffer_safe_full :
    ∃ s, (MqttSession.opened ((PubSubClient.new true).setBufferSize 8).2 0 0
        [0x32, 6, 0, 1, 0x61, 0, 1, 7, 0x30, 4, 0, 9, 0x61, 0x62]).run
        [.loop (.handing 9 [(9, 9)]), .loop (.handing 9 [(9, 9)])] = some s ∧
      s.packets.flatten <+: [0x32, 6, 0, 1, 0x61, 0, 1, 7, 0x30, 4, 0, 9, 0x61, 0x62] ∧
      (∀ packet ∈ s.packets, packet.length ≤ (8 : UInt16).toNat) ∧
      ∀ before topic payload length buffer after, s.log = before ++ .callback topic payload length buffer :: after →
        ∃ before' packet, before = before' ++ [.dispatched packet] ∧ Inside packet topic payload length buffer :=
  buffer_safe (c := .new true) (by decide +kernel) 0 0 _ _

end CanSystems
