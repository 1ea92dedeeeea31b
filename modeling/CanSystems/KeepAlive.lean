import CanSystems.BufferSafety

/-!
# The keep-alive

Real time is a number of milliseconds, of which a call sees the low 32 bits. A
`SessionWatch` goes along with a session and notes when the link last took bytes, when a
packet last came in, and, for the run of pings that is open, since when the side
that went quiet first had been. `Alive` holds of every session whose `loop()`
calls are at most a tenth of the keep-alive apart, and bounds both from the calls
so far.
-/

namespace CanSystems

open PubSubClient

/-! ## The settings -/

inductive MqttSetting
  | keepAlive (seconds : UInt16)
  | pingInterval (seconds : UInt16)
  | bufferSize (size : UInt16)

def PubSubClient.set (c : PubSubClient) : MqttSetting → PubSubClient
  | .keepAlive seconds => c.setKeepAlive seconds
  | .pingInterval seconds => c.setPingInterval seconds
  | .bufferSize size => (c.setBufferSize size).2

def PubSubClient.configured (c : PubSubClient) (settings : List MqttSetting) : PubSubClient := settings.foldl set c

structure PubSubClient.Configured (c : PubSubClient) : Prop where
  pingInterval : c.pingInterval ≤ c.keepAlive
  bufferSize : c.bufferSize.toNat ≤ defaultBufferSize

theorem PubSubClient.Configured.set {c : PubSubClient} (h : c.Configured) (setting : MqttSetting) :
    (c.set setting).Configured := by
  cases setting with
  | keepAlive seconds =>
    refine ⟨?_, h.bufferSize⟩
    rw [PubSubClient.set, setKeepAlive]
    by_cases hover : c.wantedPingInterval > seconds
    · simp only [if_pos hover]
      exact UInt16.le_refl _
    · simp only [if_neg hover]
      exact UInt16.not_lt.mp hover
  | pingInterval seconds =>
    refine ⟨?_, h.bufferSize⟩
    rw [PubSubClient.set, setPingInterval]
    by_cases hover : seconds > c.keepAlive
    · simp only [if_pos hover]
      exact UInt16.le_refl _
    · simp only [if_neg hover]
      exact UInt16.not_lt.mp hover
  | bufferSize size =>
    rw [PubSubClient.set, setBufferSize]
    by_cases hsize : size = 0 ∨ size > UInt16.ofNat defaultBufferSize
    · rw [if_pos hsize]
      exact h
    · rw [if_neg hsize]
      refine ⟨h.pingInterval, ?_⟩
      have hle := UInt16.le_iff_toNat_le.mp (UInt16.not_lt.mp (not_or.mp hsize).2)
      exact hle

theorem new_configured (callback : Bool) (settings : List MqttSetting) :
    ((PubSubClient.new callback).configured settings).Configured := by
  have hnew : (PubSubClient.new callback).Configured := ⟨UInt16.le_refl _, Nat.le_refl _⟩
  generalize PubSubClient.new callback = c at hnew
  induction settings generalizing c with
  | nil => exact hnew
  | cons setting settings ih => exact ih _ (hnew.set setting)

theorem toNat_pingIntervalMs (c : PubSubClient) : c.pingIntervalMs.toNat = 1000 * c.pingInterval.toNat := by
  have hlt := c.pingInterval.toNat_lt
  have hthousand : (1000 : UInt32).toNat = 1000 := rfl
  rw [pingIntervalMs, UInt32.toNat_mul, UInt16.toNat_toUInt32, hthousand]
  omega

theorem toNat_patienceMs (c : PubSubClient) :
    (c.keepAliveMs * brokerPatienceNumerator / brokerPatienceDenominator).toNat = 1400 * c.keepAlive.toNat := by
  have hlt := c.keepAlive.toNat_lt
  have hthousand : (1000 : UInt32).toNat = 1000 := rfl
  have hseven : brokerPatienceNumerator.toNat = 7 := rfl
  have hfive : brokerPatienceDenominator.toNat = 5 := rfl
  rw [UInt32.toNat_div, UInt32.toNat_mul, keepAliveMs, UInt32.toNat_mul, UInt16.toNat_toUInt32, hthousand, hseven,
    hfive]
  omega

theorem PubSubClient.Configured.budget {c : PubSubClient} (h : c.Configured) :
    c.pingIntervalMs ≤ c.keepAliveMs * brokerPatienceNumerator / brokerPatienceDenominator ∧
      c.pingAnswerBudgetMs.toNat = 1400 * c.keepAlive.toNat - 1000 * c.pingInterval.toNat := by
  have hle := UInt16.le_iff_toNat_le.mp h.pingInterval
  have hms : c.pingIntervalMs ≤ c.keepAliveMs * brokerPatienceNumerator / brokerPatienceDenominator := by
    rw [UInt32.le_iff_toNat_le, toNat_pingIntervalMs, toNat_patienceMs]
    omega
  refine ⟨hms, ?_⟩
  rw [pingAnswerBudgetMs, UInt32.toNat_sub_of_le _ _ hms, toNat_pingIntervalMs, toNat_patienceMs]

/-! ## The timers -/

def Heard (log : List MqttEvent) : Prop := log.filterMap MqttEvent.packet ≠ []

instance (log : List MqttEvent) : Decidable (Heard log) := inferInstanceAs (Decidable (_ ≠ _))

/-- What a call makes of the timers, the ping aside: a packet is heard at `lastIn`, and what goes out is of one
kind and goes out at `lastOut`. -/
structure PacketTimers (c : PubSubClient) (lastIn lastOut : UInt32) (kind : MqttEvent → Prop) (c' : PubSubClient)
    (log : List MqttEvent) : Prop where
  keepAlive : c'.keepAlive = c.keepAlive
  pingInterval : c'.pingInterval = c.pingInterval
  pingUnsent : c'.pingUnsent = c.pingUnsent
  pingDueSince : c'.pingDueSince = c.pingDueSince
  lastOut : c'.lastOutActivity = c.lastOutActivity ∨ c'.lastOutActivity = lastOut ∧ ∃ event ∈ log, event.taken ≠ 0
  lastIn : c'.lastInActivity = c.lastInActivity ∨ c'.lastInActivity = lastIn ∧ Heard log
  pingOutstanding : c'.pingOutstanding = c.pingOutstanding ∨ c'.pingOutstanding = false ∧ Heard log
  sends : ∀ event ∈ log, event.taken ≠ 0 → kind event

def MqttEvent.IsPuback : MqttEvent → Prop
  | .puback _ _ => True
  | _ => False

def MqttEvent.IsPublish : MqttEvent → Prop
  | .publish _ _ => True
  | _ => False

theorem PubSubClient.SameSession.timers {c c' : PubSubClient} (h : SameSession c c') (lastIn lastOut : UInt32)
    (kind : MqttEvent → Prop) : PacketTimers c lastIn lastOut kind c' [] where
  keepAlive := h.keepAlive
  pingInterval := h.pingInterval
  pingUnsent := h.pingUnsent
  pingDueSince := h.pingDueSince
  lastOut := .inl h.lastOutActivity
  lastIn := .inl h.lastInActivity
  pingOutstanding := .inl h.pingOutstanding
  sends := by simp

theorem not_taken_of_shows {c : PubSubClient} {packet : List UInt8} {m : Message} {shown : List MqttEvent}
    (h : ShowsAll c packet m shown) : ∀ event ∈ shown, event.taken = 0 := by
  match shown with
  | [] => simp
  | [.callback _ _ _ _] => simp [MqttEvent.taken]
  | [.dispatched _] => exact h.2.elim
  | [.puback _ _] => exact h.2.elim
  | [.pingreq _] => exact h.2.elim
  | [.publish _ _] => exact h.2.elim
  | _ :: _ :: _ => exact h.elim

theorem PacketTimers.runOpen {c c' : PubSubClient} {lastIn lastOut : UInt32} {kind : MqttEvent → Prop}
    {log : List MqttEvent}
    (h : PacketTimers c lastIn lastOut kind c' log) (hopen : RunOpen c') : RunOpen c := by
  rcases hopen with hasked | hunsent
  · rcases h.pingOutstanding with hsame | ⟨hanswered, -⟩
    · exact .inl (hsame ▸ hasked)
    · rw [hanswered] at hasked
      cases hasked
  · exact .inr (h.pingUnsent ▸ hunsent)

theorem pingAnswered_timers (c : PubSubClient) (millis : UInt32) :
    SameSession { c with pingOutstanding := false } (c.pingAnswered millis) := by
  by_cases hwaiting : c.pingOutstanding = true
  · rw [pingAnswered, if_pos hwaiting]
    exact ⟨rfl, rfl, rfl, rfl, rfl, rfl, rfl, rfl, rfl, rfl, rfl⟩
  · rw [pingAnswered, if_neg hwaiting]
    exact ⟨rfl, rfl, rfl, rfl, rfl, Bool.eq_false_of_not_eq_true hwaiting, rfl, rfl, rfl, rfl, rfl⟩

theorem PubSubClient.PacketFinished.timers {c : PubSubClient} {packet inbound : List UInt8} {io : DispatchIo}
    {call : MqttCall}
    (h : PacketFinished c packet inbound io (some call)) :
    PacketTimers c c.lastInActivity io.millis MqttEvent.IsPuback call.client call.log ∧ Heard call.log := by
  cases h with
  | refused =>
    exact ⟨⟨rfl, rfl, rfl, rfl, .inl rfl, .inl rfl, .inl rfl, by simp [MqttEvent.taken]⟩, List.cons_ne_nil _ _⟩
  | nothing =>
    exact ⟨⟨rfl, rfl, rfl, rfl, .inl rfl, .inl rfl, .inl rfl, by simp [MqttEvent.taken]⟩, List.cons_ne_nil _ _⟩
  | pong =>
    have hsame := pingAnswered_timers c.resetReader io.millis
    exact ⟨⟨hsame.keepAlive, hsame.pingInterval, hsame.pingUnsent, hsame.pingDueSince, .inl hsame.lastOutActivity,
      .inl hsame.lastInActivity, .inr ⟨hsame.pingOutstanding, List.cons_ne_nil _ _⟩, by simp [MqttEvent.taken]⟩,
      List.cons_ne_nil _ _⟩
  | @message m buffer shown hanswer hshows =>
    refine ⟨?_, List.cons_ne_nil _ _⟩
    unfold acknowledged pubackEvents
    cases hid : m.msgId with
    | none =>
      simp only [Option.isSome_none, Bool.false_eq_true, if_false, List.append_nil]
      refine ⟨rfl, rfl, rfl, rfl, .inl rfl, .inl rfl, .inl rfl, ?_⟩
      intro event hevent htaken
      rcases List.mem_cons.mp hevent with rfl | hshown
      · exact absurd rfl htaken
      · exact absurd (not_taken_of_shows hshows event hshown) htaken
    | some msgId =>
      simp only [Option.isSome_some, if_true]
      rw [noteSent_eq]
      refine ⟨rfl, rfl, rfl, rfl, ?_, .inl rfl, .inl rfl, ?_⟩
      · by_cases hsent : UInt16.ofNat (4 - io.ackLost) = 0
        · exact .inl (if_neg (not_not_intro hsent))
        · refine .inr ⟨if_pos hsent, .puback (pubackOf msgId) (4 - io.ackLost), by simp, ?_⟩
          intro hnone
          exact hsent (congrArg UInt16.ofNat hnone)
      · intro event hevent htaken
        rcases List.mem_cons.mp hevent with rfl | hevent
        · exact absurd rfl htaken
        · rcases List.mem_append.mp hevent with hshown | hpuback
          · exact absurd (not_taken_of_shows hshows event hshown) htaken
          · rw [List.mem_singleton.mp hpuback]
            trivial

/-- A read hears a packet at `t` or leaves the clock of the side that comes in alone. -/
theorem PubSubClient.ReaderCall.timers {c : PubSubClient} {heard : PubSubClient → PubSubClient} {t : UInt32}
    (hheard : heard = id ∨ heard = (PubSubClient.heard · t)) (hundisturbed : ∀ c, Undisturbed c (heard c))
    {bytes left : List UInt8} {io : DispatchIo} {pass : Bool} {call : MqttCall}
    (h : ReaderCall c heard bytes left io pass (some call)) :
    PacketTimers c t io.millis MqttEvent.IsPuback call.client call.log := by
  generalize hcall : some call = result at h
  cases h with
  | stays hsame _ =>
    cases hcall
    exact hsame.timers t io.millis MqttEvent.IsPuback
  | fails hsame _ =>
    cases hcall
    have h := hsame.timers t io.millis MqttEvent.IsPuback
    exact ⟨h.keepAlive, h.pingInterval, h.pingUnsent, h.pingDueSince, h.lastOut, h.lastIn, h.pingOutstanding,
      h.sends⟩
  | @finishes _ c' header rest hsame hpacket hreads hverdict =>
    have hs := hundisturbed c'
    have hwhole : verdict (heard c').bufferSize (header :: rest) = some .Complete := by
      rw [hs.bufferSize, hsame.bufferSize, ← hpacket, hverdict]
    have hfinished := finishPacket_finished (hs.readsPayload hreads) hwhole left io
    rw [← hcall] at hfinished
    obtain ⟨htimers, hheardLog⟩ := hfinished.timers
    rcases hheard with rfl | rfl
    · exact ⟨htimers.keepAlive.trans hsame.keepAlive, htimers.pingInterval.trans hsame.pingInterval,
        htimers.pingUnsent.trans hsame.pingUnsent, htimers.pingDueSince.trans hsame.pingDueSince,
        htimers.lastOut.imp_left (·.trans hsame.lastOutActivity),
          .inl ((htimers.lastIn.elim id And.left).trans hsame.lastInActivity),
        htimers.pingOutstanding.imp_left (·.trans hsame.pingOutstanding), htimers.sends⟩
    · exact ⟨htimers.keepAlive.trans hsame.keepAlive, htimers.pingInterval.trans hsame.pingInterval,
        htimers.pingUnsent.trans hsame.pingUnsent, htimers.pingDueSince.trans hsame.pingDueSince,
        htimers.lastOut.imp_left (·.trans hsame.lastOutActivity), .inr ⟨htimers.lastIn.elim id And.left, hheardLog⟩,
        htimers.pingOutstanding.imp_left (·.trans hsame.pingOutstanding), htimers.sends⟩

theorem keepAlivePing_timers (c : PubSubClient) (t : UInt32) (lost : Nat) :
    (c.keepAlivePing t lost).1.keepAlive = c.keepAlive ∧ (c.keepAlivePing t lost).1.pingInterval = c.pingInterval ∧
      (c.keepAlivePing t lost).1.pingDueSince = c.pingDueSince ∧
      (2 - lost = 2 ∧ (c.keepAlivePing t lost).1.lastOutActivity = t ∧
        (c.keepAlivePing t lost).1.lastInActivity = t ∧
          (c.keepAlivePing t lost).1.pingOutstanding = true ∨
        (c.keepAlivePing t lost).1.lastOutActivity = c.lastOutActivity ∧
          (c.keepAlivePing t lost).1.lastInActivity = c.lastInActivity ∧
          (c.keepAlivePing t lost).1.pingOutstanding = c.pingOutstanding ∧
            (c.keepAlivePing t lost).1.pingUnsent = true) := by
  simp only [keepAlivePing]
  by_cases htaken : 2 - lost = 2
  · simp [htaken]
  · by_cases hunsent : c.pingUnsent = false
    · simp [htaken, hunsent]
    · simp [htaken, hunsent]

/-! ## Real time -/

/-- When a call is made, when it answers a packet, and when it sends what it publishes. -/
structure CallTimes where
  start : Nat
  answer : Nat
  send : Nat
  deriving DecidableEq

def CallTimes.takes (times : CallTimes) : MqttEvent → Nat
  | .puback _ _ => times.answer
  | .publish _ _ => times.send
  | _ => times.start

/-- When the link last took bytes, if it did at `took` before. -/
def CallTimes.lastTaken (times : CallTimes) (took : Nat) (log : List MqttEvent) : Nat :=
  log.foldl (fun took event => if event.taken = 0 then took else times.takes event) took

structure TimedOp where
  op : MqttOp
  times : CallTimes

def TimedOp.clocked (timed : TimedOp) : MqttOp :=
  match timed.op with
  | .loop io => .loop { io with
      now := UInt32.ofNat timed.times.start
      dispatch := { io.dispatch with millis := UInt32.ofNat timed.times.answer } }
  | .publish call io => .publish call { io with
      dispatch := { io.dispatch with millis := UInt32.ofNat timed.times.answer }
      millis := UInt32.ofNat timed.times.send }

def TimedOp.isLoop (timed : TimedOp) : Bool :=
  match timed.op with
  | .loop _ => true
  | .publish _ _ => false

instance (c : PubSubClient) : Decidable (RunOpen c) := inferInstanceAs (Decidable (_ ∨ _))

/-- What is noted of a session: the end of the last call, the last `loop()`, when the link last took bytes and
when a packet was last heard. Of the run that was opened last, the call that did and when the side that was quiet
first had last been active. -/
structure Moments where
  clock : Nat
  lastLoop : Nat
  took : Nat
  heard : Nat
  begun : Nat
  quiet : Nat
  deriving DecidableEq

structure SessionWatch extends Moments where
  session : MqttSession
  deriving DecidableEq

namespace SessionWatch

def call (w : SessionWatch) (timed : TimedOp) : Option MqttCall := w.session.call timed.clocked

def Opens (w : SessionWatch) (call : MqttCall) : Prop := ¬ RunOpen w.session.client ∧ RunOpen call.client

instance (w : SessionWatch) (call : MqttCall) : Decidable (w.Opens call) := inferInstanceAs (Decidable (_ ∧ _))

def note (w : SessionWatch) (timed : TimedOp) (call : MqttCall) : SessionWatch where
  session := ⟨call.client, call.inbound, w.session.log ++ call.log⟩
  clock := timed.times.send
  lastLoop := if timed.isLoop then timed.times.start else w.lastLoop
  took := timed.times.lastTaken w.took call.log
  heard := if Heard call.log then timed.times.start else w.heard
  begun := if w.Opens call then timed.times.start else w.begun
  quiet := if w.Opens call then min w.took w.heard else w.quiet

def step (w : SessionWatch) (timed : TimedOp) : Option SessionWatch := (w.call timed).map (w.note timed)

/-- The clock goes forward, and a `loop()` comes at most a tenth of the keep-alive after the one before. -/
def Timely (keepAlive : Nat) (w : SessionWatch) (timed : TimedOp) : Prop :=
  w.clock ≤ timed.times.start ∧ timed.times.start ≤ timed.times.answer ∧ timed.times.answer ≤ timed.times.send ∧
    (timed.isLoop = true → timed.times.start ≤ w.lastLoop + 100 * keepAlive)

instance (keepAlive : Nat) (w : SessionWatch) (timed : TimedOp) : Decidable (w.Timely keepAlive timed) :=
  inferInstanceAs (Decidable (_ ∧ _ ∧ _ ∧ (_ → _)))

def run (keepAlive : Nat) (w : SessionWatch) (ops : List TimedOp) : Option SessionWatch :=
  ops.foldlM (fun w timed => if w.Timely keepAlive timed then w.step timed else none) w

/-- A session whose CONNECT went out at `sent` and whose CONNACK was read at `now`. -/
def opened (c : PubSubClient) (sent now : Nat) (stream : List UInt8) : SessionWatch where
  session := .opened c (UInt32.ofNat sent) (UInt32.ofNat now) stream
  clock := now
  lastLoop := now
  took := sent
  heard := now
  begun := now
  quiet := sent

end SessionWatch

section
variable {times : CallTimes} {took : Nat}

theorem lastTaken_append (xs ys : List MqttEvent) :
    times.lastTaken took (xs ++ ys) = times.lastTaken (times.lastTaken took xs) ys := List.foldl_append

theorem lastTaken_eq {log : List MqttEvent} {t : Nat} (h : ∀ event ∈ log, event.taken ≠ 0 → times.takes event = t) :
    times.lastTaken took log = if ∃ event ∈ log, event.taken ≠ 0 then t else took := by
  induction log generalizing took with
  | nil => simp [CallTimes.lastTaken]
  | cons event log ih =>
    have hrest := @ih (if event.taken = 0 then took else times.takes event)
      (fun event' hevent' => h event' (List.mem_cons_of_mem _ hevent'))
    rw [CallTimes.lastTaken] at hrest ⊢
    rw [List.foldl_cons, hrest]
    by_cases hlater : ∃ event' ∈ log, event'.taken ≠ 0
    · obtain ⟨event', hevent', htaken'⟩ := hlater
      rw [if_pos ⟨event', hevent', htaken'⟩, if_pos ⟨event', List.mem_cons_of_mem _ hevent', htaken'⟩]
    · rw [if_neg hlater]
      by_cases htaken : event.taken = 0
      · rw [if_pos htaken, if_neg]
        rintro ⟨event', hevent', htaken'⟩
        rcases List.mem_cons.mp hevent' with rfl | hmem
        · exact htaken' htaken
        · exact hlater ⟨event', hmem, htaken'⟩
      · rw [if_neg htaken, if_pos ⟨event, List.mem_cons_self, htaken⟩, h event List.mem_cons_self htaken]

end

/-- The clocks of the client are real times that lie back, the one of what goes out no later than bytes were
taken. -/
structure Clocked (c : PubSubClient) (m : Moments) (sentAt cameAt : Nat) : Prop where
  lastOut : c.lastOutActivity = UInt32.ofNat sentAt
  lastIn : c.lastInActivity = UInt32.ofNat cameAt
  out_le : sentAt ≤ m.took
  took_le : m.took ≤ m.clock
  in_le : cameAt ≤ m.clock
  heard_le : m.heard ≤ m.clock
  loop_le : m.lastLoop ≤ m.clock

/-- At the last `loop()` a ping was not due on the side, or a run could still have been waited for. -/
def Rested (c : PubSubClient) (m : Moments) (side : Nat) : Prop :=
  m.lastLoop ≤ side + 1000 * c.pingInterval.toNat ∨
    m.lastLoop + 1000 * c.pingInterval.toNat < side + 1400 * c.keepAlive.toNat

/-- The run that is open is timed from `quiet`, where one of the sides was last active. -/
structure Pinging (c : PubSubClient) (m : Moments) (sentAt cameAt quiet : Nat) : Prop where
  due : c.pingDueSince = UInt32.ofNat (quiet + 1000 * c.pingInterval.toNat)
  out_le : quiet ≤ sentAt
  in_le : quiet ≤ cameAt
  quiet_le : quiet ≤ m.quiet
  due_lt : quiet + 1000 * c.pingInterval.toNat < m.lastLoop
  asked : c.pingOutstanding = true →
    quiet + 1000 * c.pingInterval.toNat ≤ sentAt ∧ quiet + 1000 * c.pingInterval.toNat ≤ cameAt
  /-- The last `loop()` was in time, or it opened the run later than it would have let it wait. -/
  bound : m.lastLoop < quiet + 1400 * c.keepAlive.toNat ∨
    m.begun = m.lastLoop ∧ m.lastLoop < quiet + 1500 * c.keepAlive.toNat ∧
      10 * c.pingInterval.toNat < c.keepAlive.toNat ∧
      (c.pingOutstanding = true → m.lastLoop ≤ sentAt ∧ m.lastLoop ≤ cameAt)

structure Alive (c : PubSubClient) (m : Moments) (sentAt cameAt : Nat) : Prop where
  clocked : Clocked c m sentAt cameAt
  resting : ¬ RunOpen c → cameAt ≤ m.heard ∧ Rested c m sentAt ∧ Rested c m cameAt
  pinging : RunOpen c → ∃ quiet, Pinging c m sentAt cameAt quiet

section
variable {c c' : PubSubClient} {m m' : Moments} {sentAt cameAt : Nat}

theorem Rested.mono {side side' : Nat} (h : Rested c m side) (hloop : m'.lastLoop = m.lastLoop)
    (hpingInterval : c'.pingInterval = c.pingInterval) (hkeepAlive : c'.keepAlive = c.keepAlive)
    (hle : side ≤ side') :
    Rested c' m' side' := by
  rw [Rested] at h ⊢
  rw [hloop, hpingInterval, hkeepAlive]
  omega

theorem Pinging.rested {quiet : Nat} (h : Pinging c m sentAt cameAt quiet) (hasked : c.pingOutstanding = true) :
    Rested c m sentAt ∧ Rested c m cameAt := by
  obtain ⟨hsent, hcame⟩ := h.asked hasked
  rw [Rested, Rested]
  rcases h.bound with hbound | ⟨-, -, -, hlate⟩
  · omega
  · have hlast := hlate hasked
    omega

/-- What is read or published between two calls of `loop()`, or in the second half of one. -/
theorem Alive.handles (h : Alive c m sentAt cameAt) {times : CallTimes} {t₁ t₂ : Nat} (hstart : m.clock ≤ t₁)
    (hanswer : t₁ ≤ t₂) {kind : MqttEvent → Prop} (hkind : ∀ event, kind event → times.takes event = t₂)
    {log : List MqttEvent}
    (hread : PacketTimers c (UInt32.ofNat t₁) (UInt32.ofNat t₂) kind c' log)
    (hm' : m' = { m with
      clock := t₂
      took := times.lastTaken m.took log
      heard := if Heard log then t₁ else m.heard }) :
    ∃ sentAt' cameAt', Alive c' m' sentAt' cameAt' := by
  have hclock := h.clocked
  have htook : m'.took = if ∃ event ∈ log, event.taken ≠ 0 then t₂ else m.took := by
    rw [hm']
    refine lastTaken_eq ?_
    intro event hevent htaken
    exact hkind event (hread.sends event hevent htaken)
  have hheard : m'.heard = if Heard log then t₁ else m.heard := by rw [hm']
  obtain ⟨sentAt', hsent, hsent_le, hsent_ge⟩ : ∃ sentAt', c'.lastOutActivity = UInt32.ofNat sentAt' ∧
      sentAt' ≤ m'.took ∧ sentAt ≤ sentAt' := by
    have hout := hclock.out_le
    have htook_le := hclock.took_le
    rcases hread.lastOut with hsame | ⟨hanswered, htaken⟩
    · refine ⟨sentAt, hsame.trans hclock.lastOut, ?_, Nat.le_refl _⟩
      rw [htook]
      split
      · omega
      · exact hout
    · refine ⟨t₂, hanswered, ?_, by omega⟩
      rw [htook, if_pos htaken]
  obtain ⟨cameAt', hcame, hcame_le, hcame_ge, hcame_heard⟩ : ∃ cameAt', c'.lastInActivity = UInt32.ofNat cameAt' ∧
      cameAt' ≤ t₁ ∧ cameAt ≤ cameAt' ∧ (cameAt ≤ m'.heard → cameAt' ≤ m'.heard) := by
    have hin := hclock.in_le
    rcases hread.lastIn with hsame | ⟨hpacket, hlog⟩
    · exact ⟨cameAt, hsame.trans hclock.lastIn, by omega, Nat.le_refl _, id⟩
    · refine ⟨t₁, hpacket, Nat.le_refl _, by omega, fun _ => ?_⟩
      rw [hheard, if_pos hlog]
  have hloop : m'.lastLoop = m.lastLoop := by rw [hm']
  have hmono : ∀ {side side' : Nat}, Rested c m side → side ≤ side' → Rested c' m' side' :=
    fun h hle => h.mono hloop hread.pingInterval hread.keepAlive hle
  refine ⟨sentAt', cameAt', ⟨hsent, hcame, hsent_le, ?_, ?_, ?_, ?_⟩, ?_, ?_⟩
  · have htook_le := hclock.took_le
    rw [htook, hm']
    simp only
    split
    · exact Nat.le_refl _
    · omega
  · rw [hm']
    exact Nat.le_trans hcame_le hanswer
  · have hheard_le := hclock.heard_le
    rw [hheard, hm']
    simp only
    split
    · exact hanswer
    · omega
  · have hloop_le := hclock.loop_le
    rw [hloop, hm']
    simp only
    omega
  · intro hclosed
    by_cases hwas : RunOpen c
    · -- The answer has come: the ping had been taken, and the link took nothing less since.
      rcases hread.pingOutstanding with hsame | ⟨-, hlog⟩
      · exact absurd (hwas.imp hsame.trans hread.pingUnsent.trans) hclosed
      · have hasked : c.pingOutstanding = true :=
          hwas.resolve_right fun hunsent => hclosed (.inr (hread.pingUnsent.trans hunsent))
        obtain ⟨quiet, hping⟩ := h.pinging hwas
        obtain ⟨hout, hin⟩ := hping.rested hasked
        refine ⟨?_, hmono hout hsent_ge, hmono hin hcame_ge⟩
        rw [hheard, if_pos hlog]
        exact hcame_le
    · obtain ⟨hle, hout, hin⟩ := h.resting hwas
      refine ⟨hcame_heard ?_, hmono hout hsent_ge, hmono hin hcame_ge⟩
      have hheard_le := hclock.heard_le
      rw [hheard]
      split
      · omega
      · exact hle
  · intro hopen'
    obtain ⟨quiet, hping⟩ := h.pinging (hread.runOpen hopen')
    have hasked : c'.pingOutstanding = true → c.pingOutstanding = true := by
      intro hasked'
      rcases hread.pingOutstanding with hsame | ⟨hanswered, -⟩
      · exact hsame ▸ hasked'
      · rw [hanswered] at hasked'
        cases hasked'
    refine ⟨quiet, ?_, Nat.le_trans hping.out_le hsent_ge, Nat.le_trans hping.in_le hcame_ge, ?_, ?_, ?_, ?_⟩
    · rw [hread.pingDueSince, hread.pingInterval, hping.due]
    · rw [hm']
      exact hping.quiet_le
    · rw [hread.pingInterval, hloop]
      exact hping.due_lt
    · intro hasked'
      obtain ⟨hout, hin⟩ := hping.asked (hasked hasked')
      rw [hread.pingInterval]
      exact ⟨Nat.le_trans hout hsent_ge, Nat.le_trans hin hcame_ge⟩
    · rw [hread.keepAlive, hread.pingInterval, hloop]
      refine hping.bound.imp_right ?_
      intro ⟨hbegun, hlate, hshort, hpast⟩
      refine ⟨?_, hlate, hshort, ?_⟩
      · rw [hm']
        exact hbegun
      · intro hasked'
        obtain ⟨hout, hin⟩ := hpast (hasked hasked')
        exact ⟨Nat.le_trans hout hsent_ge, Nat.le_trans hin hcame_ge⟩

theorem keepAlivePing_log (c : PubSubClient) (t : UInt32) (lost : Nat) :
    (c.keepAlivePing t lost).2 = [.pingreq (2 - lost)] := by
  simp [keepAlivePing]

/-- Asking keeps the run open; a ping that is taken brings both sides up to now. -/
theorem Pinging.asks {quiet : Nat} (h : Pinging c m sentAt cameAt quiet) (hclock : Clocked c m sentAt cameAt)
    {times : CallTimes}
    (hnow : m.clock = times.start) (hloop : m.lastLoop = times.start) (lost : Nat) :
    RunOpen (c.keepAlivePing (UInt32.ofNat times.start) lost).1 ∧
      ∃ sentAt' cameAt', Alive (c.keepAlivePing (UInt32.ofNat times.start) lost).1
        { m with took := times.lastTaken m.took [.pingreq (2 - lost)] } sentAt' cameAt' := by
  obtain ⟨hkeepAlive, hpingInterval, hdue, hcases⟩ := keepAlivePing_timers c (UInt32.ofNat times.start) lost
  generalize (c.keepAlivePing (UInt32.ofNat times.start) lost).1 = c' at hkeepAlive hpingInterval hdue hcases ⊢
  have htook : times.lastTaken m.took [.pingreq (2 - lost)] = if 2 - lost = 0 then m.took else times.start := rfl
  have hdue_lt := h.due_lt
  have hout_le := h.out_le
  have hin_le := h.in_le
  have htook_le := hclock.took_le
  rcases hcases with ⟨htaken, hsent, hcame, hasked⟩ | ⟨hsent, hcame, hasked, hunsent⟩
  · rw [htook, htaken]
    refine ⟨.inl hasked, times.start, times.start,
      ⟨hsent, hcame, Nat.le_refl _, Nat.le_of_eq hnow.symm, Nat.le_of_eq hnow.symm, hclock.heard_le,
        hclock.loop_le⟩, fun hclosed => absurd (.inl hasked) hclosed, fun _ => ⟨quiet, ?_⟩⟩
    refine ⟨by rw [hdue, hpingInterval, h.due], by omega, by omega, h.quiet_le, ?_, fun _ => ?_, ?_⟩
    · rw [hpingInterval]
      exact hdue_lt
    · rw [hpingInterval]
      omega
    · rw [hpingInterval, hkeepAlive]
      refine h.bound.imp_right fun ⟨hbegun, hlate, hshort, _⟩ => ⟨hbegun, hlate, hshort, fun _ => ?_⟩
      simp only [hloop, Nat.le_refl, and_self]
  · refine ⟨.inr hunsent, sentAt, cameAt,
      ⟨hsent.trans hclock.lastOut, hcame.trans hclock.lastIn, ?_, ?_, hclock.in_le, hclock.heard_le,
        hclock.loop_le⟩, fun hclosed => absurd (.inr hunsent) hclosed, fun _ => ⟨quiet, ?_⟩⟩
    · have hout := hclock.out_le
      rw [htook]
      simp only
      split
      · exact hout
      · omega
    · rw [htook]
      simp only
      split
      · exact htook_le
      · omega
    · refine ⟨by rw [hdue, hpingInterval, h.due], hout_le, hin_le, h.quiet_le, ?_, ?_, ?_⟩
      · rw [hpingInterval]
        exact hdue_lt
      · rw [hpingInterval, hasked]
        exact h.asked
      · rw [hpingInterval, hkeepAlive, hasked]
        exact h.bound

/-- The next `loop()` finds the run less than a clock's turn old, so its deadline is told right. -/
theorem Pinging.early {quiet t : Nat} (hc : c.Configured) (h : Pinging c m sentAt cameAt quiet)
    (hle : m.lastLoop ≤ t)
    (hgap : t ≤ m.lastLoop + 100 * c.keepAlive.toNat)
    (hearly : UInt32.ofNat t - c.pingDueSince < c.pingAnswerBudgetMs) :
    t < quiet + 1400 * c.keepAlive.toNat := by
  have hK := c.keepAlive.toNat_lt
  have hI := UInt16.le_iff_toNat_le.mp hc.pingInterval
  have hdue_lt := h.due_lt
  have hlast : m.lastLoop < quiet + 1500 * c.keepAlive.toNat := by
    rcases h.bound with hbound | ⟨-, hbound, -, -⟩
    · omega
    · exact hbound
  rw [h.due, UInt32.lt_iff_toNat_lt, Time.toNat_sub_ofNat (by omega) (by omega), hc.budget.2] at hearly
  omega

/-- A side that had rested at the last `loop()` is timed right by the next. -/
theorem Rested.since {side t : Nat} (hc : c.Configured) (h : Rested c m side) (hle : side ≤ t)
    (hgap : t ≤ m.lastLoop + 100 * c.keepAlive.toNat) :
    (UInt32.ofNat t - UInt32.ofNat side).toNat = t - side ∧
    (c.keepAlive ≠ 0 → t < side + 1500 * c.keepAlive.toNat) := by
  have hK := c.keepAlive.toNat_lt
  have hI := UInt16.le_iff_toNat_le.mp hc.pingInterval
  have hlast : t ≤ side + 1500 * c.keepAlive.toNat := by
    rcases h with hleft | hright
    · omega
    · omega
  refine ⟨Time.toNat_sub_ofNat hle (by omega), fun hne => ?_⟩
  have hpos : 0 < c.keepAlive.toNat := Nat.pos_of_ne_zero fun h0 => hne (UInt16.toNat_inj.mp h0)
  rcases h with hleft | hright
  · omega
  · omega

theorem Alive.quietSince (hc : c.Configured) (h : Alive c m sentAt cameAt) (hclosed : ¬ RunOpen c) {t : Nat}
    (hstart : m.clock ≤ t)
    (hgap : t ≤ m.lastLoop + 100 * c.keepAlive.toNat) :
    ∃ quiet, c.quietSince (UInt32.ofNat t) = UInt32.ofNat quiet ∧ quiet ≤ sentAt ∧ quiet ≤ cameAt ∧
      Rested c m quiet := by
  obtain ⟨-, hout, hin⟩ := h.resting hclosed
  have hout_le := h.clocked.out_le
  have htook_le := h.clocked.took_le
  have hin_le := h.clocked.in_le
  obtain ⟨hsinceOut, -⟩ := hout.since hc (Nat.le_trans (Nat.le_trans hout_le htook_le) hstart) hgap
  obtain ⟨hsinceIn, -⟩ := hin.since hc (Nat.le_trans hin_le hstart) hgap
  rw [PubSubClient.quietSince, h.clocked.lastIn, h.clocked.lastOut]
  by_cases hearlier : UInt32.ofNat t - UInt32.ofNat cameAt > UInt32.ofNat t - UInt32.ofNat sentAt
  · rw [if_pos hearlier]
    rw [gt_iff_lt, UInt32.lt_iff_toNat_lt, hsinceOut, hsinceIn] at hearlier
    exact ⟨cameAt, rfl, by omega, Nat.le_refl _, hin⟩
  · rw [if_neg hearlier]
    rw [gt_iff_lt, UInt32.lt_iff_toNat_lt, hsinceOut, hsinceIn] at hearlier
    exact ⟨sentAt, rfl, Nat.le_refl _, by omega, hout⟩

/-- A run that a `loop()` opens is in time, or the ping interval is shorter than the gap before that call. -/
theorem Alive.begins (hc : c.Configured) (hne : c.keepAlive ≠ 0) (h : Alive c m sentAt cameAt)
    (hclosed : ¬ RunOpen c) {t : Nat}
    (hstart : m.clock ≤ t) (hgap : t ≤ m.lastLoop + 100 * c.keepAlive.toNat)
    (hdue : UInt32.ofNat t - c.lastInActivity > c.pingIntervalMs ∨
      UInt32.ofNat t - c.lastOutActivity > c.pingIntervalMs) :
    ∃ quiet, Pinging (c.beginRun (UInt32.ofNat t))
      { m with clock := t, lastLoop := t, begun := t, quiet := min m.took m.heard } sentAt cameAt quiet := by
  obtain ⟨hheard, hout, hin⟩ := h.resting hclosed
  obtain ⟨quiet, hquiet, hquietOut, hquietIn, hrested⟩ := h.quietSince hc hclosed hstart hgap
  have hout_le := h.clocked.out_le
  have htook_le := h.clocked.took_le
  have hin_le := h.clocked.in_le
  have hI := UInt16.le_iff_toNat_le.mp hc.pingInterval
  have hpos : 0 < c.keepAlive.toNat := Nat.pos_of_ne_zero fun h0 => hne (UInt16.toNat_inj.mp h0)
  have hunasked : c.pingOutstanding = true → False := fun hasked => hclosed (.inl hasked)
  obtain ⟨hsinceOut, -⟩ := hout.since hc (Nat.le_trans (Nat.le_trans hout_le htook_le) hstart) hgap
  obtain ⟨hsinceIn, -⟩ := hin.since hc (Nat.le_trans hin_le hstart) hgap
  have hpast : quiet + 1000 * c.pingInterval.toNat < t := by
    rw [h.clocked.lastIn, h.clocked.lastOut, gt_iff_lt, gt_iff_lt, UInt32.lt_iff_toNat_lt, UInt32.lt_iff_toNat_lt,
      hsinceOut, hsinceIn, toNat_pingIntervalMs] at hdue
    omega
  refine ⟨quiet, ?_, hquietOut, hquietIn,
    Nat.le_min.mpr ⟨Nat.le_trans hquietOut hout_le, Nat.le_trans hquietIn hheard⟩, hpast,
      fun hasked => (hunasked hasked).elim, ?_⟩
  · have hms : c.pingIntervalMs = UInt32.ofNat (1000 * c.pingInterval.toNat) := by
      rw [← toNat_pingIntervalMs, UInt32.ofNat_toNat]
    rw [beginRun, hquiet, hms, UInt32.ofNat_add]
  · by_cases hbound : t < quiet + 1400 * c.keepAlive.toNat
    · exact .inl hbound
    · refine .inr ⟨rfl, ?_, ?_, fun hasked => (hunasked hasked).elim⟩
      · have hlt := (hrested.since hc (by omega) hgap).2 hne
        exact hlt
      · rw [Rested] at hrested
        show 10 * c.pingInterval.toNat < c.keepAlive.toNat
        omega

/-- The run goes on into the next `loop()`, which is in time for it. -/
theorem Pinging.waits {quiet t : Nat} (h : Pinging c m sentAt cameAt quiet) (hle : m.lastLoop ≤ t)
    (hbound : t < quiet + 1400 * c.keepAlive.toNat) :
    Pinging c { m with clock := t, lastLoop := t } sentAt cameAt quiet :=
  ⟨h.due, h.out_le, h.in_le, h.quiet_le, Nat.lt_of_lt_of_le h.due_lt hle, h.asked, .inl hbound⟩

theorem Clocked.later (h : Clocked c m sentAt cameAt) {t : Nat} (hle : m.clock ≤ t) :
    Clocked c { m with clock := t, lastLoop := t } sentAt cameAt :=
  ⟨h.lastOut, h.lastIn, h.out_le, Nat.le_trans h.took_le hle, Nat.le_trans h.in_le hle, Nat.le_trans h.heard_le hle,
    Nat.le_refl t⟩

theorem noteLate_timers (c : PubSubClient) : SameSession c c.noteLate := by
  unfold noteLate
  split
  · exact ⟨rfl, rfl, rfl, rfl, rfl, rfl, rfl, rfl, rfl, rfl, rfl⟩
  · exact .refl c

theorem Pinging.same {quiet : Nat} (h : Pinging c m sentAt cameAt quiet) (hsame : SameSession c c') :
    Pinging c' m sentAt cameAt quiet where
  due := by rw [hsame.pingDueSince, hsame.pingInterval, h.due]
  out_le := h.out_le
  in_le := h.in_le
  quiet_le := h.quiet_le
  due_lt := by
    rw [hsame.pingInterval]
    exact h.due_lt
  asked := by
    rw [hsame.pingInterval, hsame.pingOutstanding]
    exact h.asked
  bound := by
    rw [hsame.pingInterval, hsame.keepAlive, hsame.pingOutstanding]
    exact h.bound

/-- A timely `loop()` that goes on is in time for the broker, and for the run that it finds. -/
theorem Alive.ping (hc : c.Configured) (hne : c.keepAlive ≠ 0) (h : Alive c m sentAt cameAt) {times : CallTimes}
    (hstart : m.clock ≤ times.start) (hgap : times.start ≤ m.lastLoop + 100 * c.keepAlive.toNat) {lost : Nat}
    {log : List MqttEvent} (hping : Pinged c (UInt32.ofNat times.start) lost (true, c', log)) :
    times.start < m.took + 1500 * c.keepAlive.toNat ∧
      (RunOpen c → times.start < m.quiet + 1400 * c.keepAlive.toNat) ∧
      ∃ sentAt' cameAt', Alive c' { m with
        clock := times.start
        lastLoop := times.start
        took := times.lastTaken m.took log
        begun := if ¬ RunOpen c ∧ RunOpen c' then times.start else m.begun
        quiet := if ¬ RunOpen c ∧ RunOpen c' then min m.took m.heard else m.quiet } sentAt' cameAt' := by
  have hloop : m.lastLoop ≤ times.start := Nat.le_trans h.clocked.loop_le hstart
  have hout_le := h.clocked.out_le
  have hpos : 0 < c.keepAlive.toNat := Nat.pos_of_ne_zero fun h0 => hne (UInt16.toNat_inj.mp h0)
  have hlater := h.clocked.later hstart
  generalize hresult : (true, c', log) = result at hping
  cases hping with
  | off hoff => exact absurd hoff hne
  | late => cases hresult
  | waits _ hopen hearly =>
    cases hresult
    obtain ⟨quiet, hpinging⟩ := h.pinging hopen
    have hbound := hpinging.early hc hloop hgap hearly
    have hquietOut := hpinging.out_le
    have hquiet_le := hpinging.quiet_le
    refine ⟨by omega, fun _ => by omega, sentAt, cameAt, ?_⟩
    rw [if_neg (fun hnew => hnew.1 hopen), if_neg (fun hnew => hnew.1 hopen)]
    exact ⟨hlater, fun hclosed => absurd hopen hclosed, fun _ => ⟨quiet, hpinging.waits hloop hbound⟩⟩
  | asks _ hopen hearly =>
    obtain ⟨quiet, hpinging⟩ := h.pinging hopen
    have hbound := hpinging.early hc hloop hgap hearly
    have hquietOut := hpinging.out_le
    have hquiet_le := hpinging.quiet_le
    refine ⟨by omega, fun _ => by omega, ?_⟩
    rw [if_neg (fun hnew => hnew.1 hopen), if_neg (fun hnew => hnew.1 hopen)]
    have hsame := noteLate_timers c
    have hclock : Clocked c.noteLate { m with clock := times.start, lastLoop := times.start } sentAt cameAt :=
      { hlater with lastOut := hsame.lastOutActivity.trans hlater.lastOut, lastIn := hsame.lastInActivity.trans hlater.lastIn }
    obtain ⟨-, halive⟩ := ((hpinging.waits hloop hbound).same hsame).asks hclock rfl rfl lost
    rw [← keepAlivePing_log c.noteLate (UInt32.ofNat times.start) lost, ← (Prod.mk.inj hresult).2] at halive
    exact halive
  | begins _ hclosed hdue =>
    obtain ⟨quiet, hpinging⟩ := h.begins hc hne hclosed hstart hgap hdue
    have hbound : times.start < quiet + 1500 * c.keepAlive.toNat := by
      rcases hpinging.bound with hbound | ⟨-, hbound, -⟩
      · exact Nat.lt_of_lt_of_le hbound (Nat.add_le_add_left (Nat.mul_le_mul_right _ (by decide)) quiet)
      · exact hbound
    have hquietOut := hpinging.out_le
    have hclock : Clocked (c.beginRun (UInt32.ofNat times.start))
        { m with clock := times.start, lastLoop := times.start, begun := times.start, quiet := min m.took m.heard }
        sentAt cameAt :=
      ⟨hlater.lastOut, hlater.lastIn, hlater.out_le, hlater.took_le, hlater.in_le, hlater.heard_le, hlater.loop_le⟩
    obtain ⟨hopen, halive⟩ := hpinging.asks hclock rfl rfl lost
    rw [← keepAlivePing_log (c.beginRun (UInt32.ofNat times.start)) (UInt32.ofNat times.start) lost,
      ← (Prod.mk.inj hresult).2] at halive
    rw [← (Prod.mk.inj hresult).2] at hopen
    refine ⟨by omega, fun hopen => absurd hopen hclosed, ?_⟩
    rw [if_pos ⟨hclosed, hopen⟩, if_pos ⟨hclosed, hopen⟩]
    exact halive
  | quiet _ hclosed hin hout =>
    cases hresult
    obtain ⟨hheard, hrestedOut, hrestedIn⟩ := h.resting hclosed
    have htook_le := h.clocked.took_le
    have hin_le := h.clocked.in_le
    have hI := UInt16.le_iff_toNat_le.mp hc.pingInterval
    obtain ⟨hsinceOut, -⟩ := hrestedOut.since hc (Nat.le_trans (Nat.le_trans hout_le htook_le) hstart) hgap
    obtain ⟨hsinceIn, -⟩ := hrestedIn.since hc (Nat.le_trans hin_le hstart) hgap
    rw [h.clocked.lastOut, UInt32.le_iff_toNat_le, hsinceOut, toNat_pingIntervalMs] at hout
    rw [h.clocked.lastIn, UInt32.le_iff_toNat_le, hsinceIn, toNat_pingIntervalMs] at hin
    refine ⟨by omega, fun hopen => absurd hopen hclosed, sentAt, cameAt, ?_⟩
    rw [if_neg (fun hnew => hclosed hnew.2), if_neg (fun hnew => hclosed hnew.2)]
    refine ⟨hlater, fun _ => ⟨hheard, .inl ?_, .inl ?_⟩, fun hopen => absurd hopen hclosed⟩
    · show times.start ≤ sentAt + 1000 * c.pingInterval.toNat
      omega
    · show times.start ≤ cameAt + 1000 * c.pingInterval.toNat
      omega

theorem Alive.later (h : Alive c m sentAt cameAt) (hclock : m.clock ≤ m'.clock) (hloop : m'.lastLoop = m.lastLoop)
    (htook : m'.took = m.took) (hheard : m'.heard = m.heard)
    (hrun : RunOpen c → m'.begun = m.begun ∧ m'.quiet = m.quiet) :
    Alive c m' sentAt cameAt := by
  have hc := h.clocked
  refine ⟨⟨hc.lastOut, hc.lastIn, ?_, ?_, Nat.le_trans hc.in_le hclock, ?_, ?_⟩, ?_, ?_⟩
  · rw [htook]
    exact hc.out_le
  · rw [htook]
    exact Nat.le_trans hc.took_le hclock
  · rw [hheard]
    exact Nat.le_trans hc.heard_le hclock
  · rw [hloop]
    exact Nat.le_trans hc.loop_le hclock
  · intro hclosed
    obtain ⟨hle, hout, hin⟩ := h.resting hclosed
    rw [hheard]
    exact ⟨hle, hout.mono hloop rfl rfl (Nat.le_refl _), hin.mono hloop rfl rfl (Nat.le_refl _)⟩
  · intro hopen
    obtain ⟨quiet, hping⟩ := h.pinging hopen
    obtain ⟨hbegun, hquiet⟩ := hrun hopen
    refine ⟨quiet, hping.due, hping.out_le, hping.in_le, ?_, ?_, hping.asked, ?_⟩
    · rw [hquiet]
      exact hping.quiet_le
    · rw [hloop]
      exact hping.due_lt
    · rw [hloop, hbegun]
      exact hping.bound

end

/-! ## The calls -/

theorem heard_append_left {xs ys : List MqttEvent} (h : ¬ Heard xs) : Heard (xs ++ ys) ↔ Heard ys := by
  rw [Heard, Heard, List.filterMap_append, not_not.mp h, List.nil_append]

theorem heard_append_right {xs ys : List MqttEvent} (h : ¬ Heard ys) : Heard (xs ++ ys) ↔ Heard xs := by
  rw [Heard, Heard, List.filterMap_append, not_not.mp h, List.append_nil]

theorem takes_puback (times : CallTimes) (event : MqttEvent) (h : event.IsPuback) :
    times.takes event = times.answer := by
  cases event with
  | puback _ _ => rfl
  | _ => exact h.elim

theorem takes_publish (times : CallTimes) (event : MqttEvent) (h : event.IsPublish) :
    times.takes event = times.send := by
  cases event with
  | publish _ _ => rfl
  | _ => exact h.elim

theorem settleReader_timers {c : PubSubClient} (hsize : c.bufferSize.toNat ≤ defaultBufferSize)
    {pending : List UInt8}
    (h : Stands c pending) {inbound : List UInt8} {rounds : List RxIo} {io : DispatchIo} {settled : MqttCall}
    (hcall : c.settleReader inbound rounds io = some settled) (t : UInt32) :
    PacketTimers c t io.millis MqttEvent.IsPuback settled.client settled.log := by
  by_cases hidle : c.rxPhase = .Idle
  · rw [settleReader, if_pos hidle] at hcall
    cases hcall
    exact (SameSession.refl c).timers t io.millis MqttEvent.IsPuback
  · obtain ⟨taken, left, -, -, hreader⟩ := settleReader_call hsize h hidle inbound rounds io
    rw [hcall] at hreader
    exact hreader.timers (.inl rfl) Undisturbed.refl

theorem pumpReader_timers {c : PubSubClient} (hsize : c.bufferSize.toNat ≤ defaultBufferSize) {pending : List UInt8}
    (h : Stands c pending) {inbound : List UInt8} {t : UInt32} {ready : Bool} {rx : RxIo} {io : DispatchIo}
    {call : MqttCall}
    (hcall : c.pumpReader inbound t ready rx io = some call) :
    PacketTimers c t io.millis MqttEvent.IsPuback call.client call.log := by
  obtain ⟨taken, left, -, -, hreader⟩ := pumpReader_call hsize h inbound t ready rx io
  rw [hcall] at hreader
  exact hreader.timers (.inr rfl) (heard_same · t)

theorem PubSubClient.Sent.timers {c c' : PubSubClient} {io : PublishIo} {ok : Bool} {log : List MqttEvent}
    (h : Sent c io (some (ok, c', log))) :
    PacketTimers c io.millis io.millis MqttEvent.IsPublish c' log ∧ ¬ Heard log := by
  cases h with
  | refused => exact ⟨(SameSession.refl c).timers io.millis io.millis MqttEvent.IsPublish, not_not_intro rfl⟩
  | @sent buffer sent expected _ hevents htaken _ =>
    rw [noteSent_eq]
    refine ⟨⟨rfl, rfl, rfl, rfl, ?_, .inl rfl, .inl rfl, ?_⟩, not_not_intro ?_⟩
    · by_cases hsent : sent = 0
      · exact .inl (if_neg (not_not_intro hsent))
      · exact .inr ⟨if_pos hsent, htaken hsent⟩
    · intro event hevent _
      obtain ⟨bytes, taken, rfl⟩ := hevents event hevent
      trivial
    · rw [List.filterMap_eq_nil_iff]
      intro event hevent
      obtain ⟨bytes, taken, rfl⟩ := hevents event hevent
      rfl

theorem PubSubClient.Pinged.settings {c c' : PubSubClient} {t : UInt32} {lost : Nat} {goes : Bool}
    {log : List MqttEvent}
    (h : Pinged c t lost (goes, c', log)) : c'.keepAlive = c.keepAlive ∧ c'.pingInterval = c.pingInterval := by
  generalize hresult : (goes, c', log) = result at h
  cases h with
  | off => cases hresult; exact ⟨rfl, rfl⟩
  | late => cases hresult; exact ⟨rfl, rfl⟩
  | waits => cases hresult; exact ⟨rfl, rfl⟩
  | asks =>
    obtain ⟨hkeepAlive, hpingInterval, -⟩ := keepAlivePing_timers c.noteLate t lost
    rw [← (Prod.mk.inj hresult).2] at hkeepAlive hpingInterval
    have hsame := noteLate_timers c
    exact ⟨hkeepAlive.trans hsame.keepAlive, hpingInterval.trans hsame.pingInterval⟩
  | begins =>
    obtain ⟨hkeepAlive, hpingInterval, -⟩ := keepAlivePing_timers (c.beginRun t) t lost
    rw [← (Prod.mk.inj hresult).2] at hkeepAlive hpingInterval
    exact ⟨hkeepAlive, hpingInterval⟩
  | quiet => cases hresult; exact ⟨rfl, rfl⟩

/-- What a watch keeps to: the session is sound, and as long as it is up its run and its clocks are in time. -/
structure Kept (c : PubSubClient) (stream : List UInt8) (w : SessionWatch) : Prop where
  sound : ReadsSoundly c.bufferSize stream w.session
  alive : w.session.client.connectionState = .CONNECTED → w.session.client.keepAlive = c.keepAlive ∧
    w.session.client.pingInterval = c.pingInterval ∧ ∃ sentAt cameAt,
      Alive w.session.client w.toMoments sentAt cameAt

section
variable {c : PubSubClient} {stream : List UInt8} {w : SessionWatch}

/-- A call of `loop()` that is in time: it goes on no later than the broker waits, and it ends a run that is over.
-/
theorem Kept.loop (hc : c.Configured) (hne : c.keepAlive ≠ 0) (h : Kept c stream w) {io : LoopIo}
    {times : CallTimes}
    (htimely : w.Timely c.keepAlive.toNat ⟨.loop io, times⟩) {call : MqttCall}
    (hcall : w.call ⟨.loop io, times⟩ = some call) :
    (call.ok = true → times.start < w.took + 1500 * c.keepAlive.toNat) ∧
      (w.session.client.connectionState = .CONNECTED → RunOpen w.session.client →
        w.quiet + 1400 * c.keepAlive.toNat ≤ w.lastLoop → call.ok = false) ∧
      (call.client.connectionState = .CONNECTED → call.client.keepAlive = c.keepAlive ∧
        call.client.pingInterval = c.pingInterval ∧
        ∃ sentAt cameAt, Alive call.client (w.note ⟨.loop io, times⟩ call).toMoments sentAt cameAt) := by
  obtain ⟨hstart, hanswer, hsend, hgap⟩ := htimely
  have hgap := hgap rfl
  simp only at hstart hanswer hsend hgap
  generalize hio : ({ io with
      now := UInt32.ofNat times.start
      dispatch := { io.dispatch with millis := UInt32.ofNat times.answer } } : LoopIo) = io'
  have hnow : io'.now = UInt32.ofNat times.start := by rw [← hio]
  have hmillis : io'.dispatch.millis = UInt32.ofNat times.answer := by rw [← hio]
  have hcall' : w.session.client.loop w.session.inbound io' = some call := by
    rw [← hio]
    exact hcall
  by_cases hlink : io'.connected = true
  · by_cases hup : w.session.client.connectionState = .CONNECTED
    · obtain ⟨hkeepAlive, hpingInterval, sentAt, cameAt, halive⟩ := h.alive hup
      have hsame := servicePing_same w.session.client io'.now io'.waiting io'.pingLost
      have hpinged := servicePing_pinged w.session.client io'.now io'.waiting io'.pingLost
      have hlog := servicePing_log w.session.client io'.now io'.waiting io'.pingLost
      rcases hping : w.session.client.servicePing io'.now io'.waiting io'.pingLost with ⟨goes, c', log⟩
      rw [hping] at hsame hpinged hlog
      rw [loop_up hup w.session.inbound hlink hping] at hcall'
      cases goes with
      | false =>
        cases hcall'
        exact ⟨Bool.noConfusion, fun _ _ _ => rfl, State.noConfusion⟩
      | true =>
        have hconfigured : w.session.client.Configured := by
          refine ⟨?_, ?_⟩
          · rw [hkeepAlive, hpingInterval]
            exact hc.pingInterval
          · rw [h.sound.bufferSize]
            exact hc.bufferSize
        rw [hnow] at hpinged
        rw [← hkeepAlive] at hgap hne
        obtain ⟨hbroker, hrun, sentAt', cameAt', halive'⟩ := halive.ping hconfigured hne hstart hgap hpinged
        rw [hkeepAlive] at hbroker hrun
        have hunheard : ¬ Heard log := by
          refine not_not_intro (List.filterMap_eq_nil_iff.mpr ?_)
          intro event hevent
          rw [hlog event hevent]
          rfl
        obtain ⟨inner, hinner, rfl⟩ := Option.map_eq_some_iff.mp hcall'
        obtain ⟨pending, hstands, -⟩ := h.sound.stands
        have hsize : c'.bufferSize.toNat ≤ defaultBufferSize := by
          rw [hsame.bufferSize]
          exact hconfigured.bufferSize
        have htimers := pumpReader_timers hsize (hsame.stands hstands) hinner
        obtain ⟨hkeepAlive', hpingInterval'⟩ := hpinged.settings
        refine ⟨fun _ => hbroker, fun _ hopen hover => ?_, fun _ => ?_⟩
        · have hloop := halive.clocked.loop_le
          have hearly := hrun hopen
          omega
        · refine ⟨htimers.keepAlive.trans (hkeepAlive'.trans hkeepAlive),
            htimers.pingInterval.trans (hpingInterval'.trans hpingInterval), ?_⟩
          rw [hnow, hmillis] at htimers
          obtain ⟨sentAt'', cameAt'', halive''⟩ :=
            halive'.handles (Nat.le_refl _) hanswer (takes_puback times) htimers rfl
          refine ⟨sentAt'', cameAt'', halive''.later hsend rfl (lastTaken_append _ _) ?_ ?_⟩
          · simp only [SessionWatch.note, MqttCall.after, heard_append_left hunheard]
          · intro hopen
            have hopens : w.Opens (.after log inner) ↔ ¬ RunOpen w.session.client ∧ RunOpen c' :=
              and_congr_right fun _ => ⟨fun _ => htimers.runOpen hopen, fun _ => hopen⟩
            simp only [SessionWatch.note, hopens, and_self]
    · rw [loop_down hup w.session.inbound hlink] at hcall'
      cases hcall'
      exact ⟨Bool.noConfusion, fun _ _ _ => rfl, fun hup' => absurd hup' hup⟩
  · rw [loop_unlinked _ _ (Bool.eq_false_of_not_eq_true hlink)] at hcall'
    cases hcall'
    exact ⟨Bool.noConfusion, fun _ _ _ => rfl, fun hup => absurd hup (unlinked_same w.session.client).2⟩

theorem Kept.configured (hc : c.Configured) (h : Kept c stream w)
    (hup : w.session.client.connectionState = .CONNECTED) :
    w.session.client.Configured := by
  obtain ⟨hkeepAlive, hpingInterval, -⟩ := h.alive hup
  refine ⟨?_, ?_⟩
  · rw [hkeepAlive, hpingInterval]
    exact hc.pingInterval
  · rw [h.sound.bufferSize]
    exact hc.bufferSize

/-- What a publish takes in and sends lies between two calls of `loop()`. -/
theorem Kept.publish (hc : c.Configured) (h : Kept c stream w) {publish : PublishCall} {io : PublishIo}
    {times : CallTimes}
    (htimely : w.Timely c.keepAlive.toNat ⟨.publish publish io, times⟩) {call : MqttCall}
    (hcall : w.call ⟨.publish publish io, times⟩ = some call) (hup' : call.client.connectionState = .CONNECTED) :
    call.client.keepAlive = c.keepAlive ∧ call.client.pingInterval = c.pingInterval ∧
      ∃ sentAt cameAt, Alive call.client (w.note ⟨.publish publish io, times⟩ call).toMoments sentAt cameAt := by
  obtain ⟨hstart, hanswer, hsend, -⟩ := htimely
  simp only at hstart hanswer hsend
  generalize hio : ({ io with
      dispatch := { io.dispatch with millis := UInt32.ofNat times.answer }
      millis := UInt32.ofNat times.send } : PublishIo) = io'
  have hdispatch : io'.dispatch.millis = UInt32.ofNat times.answer := by rw [← hio]
  have hmillis : io'.millis = UInt32.ofNat times.send := by rw [← hio]
  have hcall' : w.session.client.publish w.session.inbound publish io' = some call := by
    rw [← hio]
    exact hcall
  have hnew : ∀ {call : MqttCall}, (RunOpen call.client → RunOpen w.session.client) → ¬ w.Opens call :=
    fun hopen hnew => hnew.1 (hopen hnew.2)
  cases publish_published hcall' with
  | nothing =>
    obtain ⟨hkeepAlive, hpingInterval, sentAt, cameAt, halive⟩ := h.alive hup'
    refine ⟨hkeepAlive, hpingInterval, sentAt, cameAt, halive.later ?_ rfl rfl rfl fun _ => ?_⟩
    · exact Nat.le_trans hstart (Nat.le_trans hanswer hsend)
    · have hclosed : ¬ w.Opens ⟨false, w.session.client, w.session.inbound, []⟩ := hnew id
      simp only [SessionWatch.note, hclosed, if_false, and_self]
  | unlinked => exact absurd hup' (unlinked_same w.session.client).2
  | unsettled hup hsettled =>
    obtain ⟨hkeepAlive, hpingInterval, sentAt, cameAt, halive⟩ := h.alive hup
    obtain ⟨pending, hstands, -⟩ := h.sound.stands
    have hread := settleReader_timers (h.configured hc hup).bufferSize hstands hsettled (UInt32.ofNat times.start)
    rw [hdispatch] at hread
    obtain ⟨sentAt', cameAt', halive'⟩ := halive.handles hstart hanswer (takes_puback times) hread rfl
    refine ⟨hread.keepAlive.trans hkeepAlive, hread.pingInterval.trans hpingInterval, sentAt', cameAt', ?_⟩
    refine halive'.later hsend rfl rfl rfl fun _ => ?_
    simp only [SessionWatch.note, hnew hread.runOpen, if_false, and_self]
  | @sent topic settled ok c' log _ hup _ _ hsettled _ hsent =>
    obtain ⟨hkeepAlive, hpingInterval, sentAt, cameAt, halive⟩ := h.alive hup
    obtain ⟨pending, hstands, -⟩ := h.sound.stands
    have hread := settleReader_timers (h.configured hc hup).bufferSize hstands hsettled (UInt32.ofNat times.start)
    rw [hdispatch] at hread
    obtain ⟨sentAt', cameAt', halive'⟩ := halive.handles hstart hanswer (takes_puback times) hread rfl
    have hsettledSize : settled.client.bufferSize.toNat ≤ defaultBufferSize := by
      obtain ⟨settled', hsettled', hsound, -⟩ := h.sound.settle hc.bufferSize hup io'
      cases hsettled.symm.trans hsettled'
      rw [hsound.bufferSize]
      exact hc.bufferSize
    have hsends := send_sent hsettledSize topic publish io'
    rw [hsent] at hsends
    obtain ⟨htimers, hunheard⟩ := hsends.timers
    rw [hmillis] at htimers
    obtain ⟨sentAt'', cameAt'', halive''⟩ := halive'.handles hsend (Nat.le_refl _) (takes_publish times) htimers rfl
    refine ⟨htimers.keepAlive.trans (hread.keepAlive.trans hkeepAlive),
      htimers.pingInterval.trans (hread.pingInterval.trans hpingInterval), sentAt'', cameAt'', ?_⟩
    refine halive''.later (Nat.le_refl _) rfl (lastTaken_append _ _) ?_ fun _ => ?_
    · simp only [SessionWatch.note, heard_append_right hunheard, hunheard, if_false]
    · have hclosed : ¬ w.Opens ⟨ok, c', settled.inbound, settled.log ++ log⟩ :=
        hnew fun hopen => hread.runOpen (htimers.runOpen hopen)
      simp only [SessionWatch.note, hclosed, if_false, and_self]

theorem Kept.call (hc : c.Configured) (h : Kept c stream w) (timed : TimedOp) :
    ∃ call, w.call timed = some call ∧
      ReadsSoundly c.bufferSize stream ⟨call.client, call.inbound, w.session.log ++ call.log⟩ := by
  obtain ⟨s', hstep, hsound⟩ := h.sound.step hc.bufferSize timed.clocked
  obtain ⟨call, hcall, rfl⟩ := Option.map_eq_some_iff.mp hstep
  exact ⟨call, hcall, hsound⟩

theorem Kept.step (hc : c.Configured) (hne : c.keepAlive ≠ 0) (h : Kept c stream w) {timed : TimedOp}
    {w' : SessionWatch}
    (htimely : w.Timely c.keepAlive.toNat timed) (hstep : w.step timed = some w') : Kept c stream w' := by
  obtain ⟨call, hcall, hsound⟩ := h.call hc timed
  rw [SessionWatch.step, hcall, Option.map_some] at hstep
  cases hstep
  refine ⟨hsound, fun hup => ?_⟩
  obtain ⟨op, times⟩ := timed
  cases op with
  | loop io => exact (h.loop hc hne htimely hcall).2.2 hup
  | publish publish io => exact h.publish hc htimely hcall hup

theorem Kept.run (hc : c.Configured) (hne : c.keepAlive ≠ 0) (h : Kept c stream w) (ops : List TimedOp)
    {w' : SessionWatch}
    (hrun : w.run c.keepAlive.toNat ops = some w') : Kept c stream w' := by
  induction ops generalizing w with
  | nil =>
    cases hrun
    exact h
  | cons timed ops ih =>
    rw [SessionWatch.run, List.foldlM_cons] at hrun
    obtain ⟨w₁, hfirst, hrest⟩ := Option.bind_eq_some_iff.mp hrun
    split at hfirst
    · rename_i htimely
      exact ih (h.step hc hne htimely hfirst) hrest
    · cases hfirst

end

/-- The settings alone; what an earlier session left of the rest does not matter. -/
structure SameSettings (c c' : PubSubClient) : Prop where
  keepAlive : c'.keepAlive = c.keepAlive
  pingInterval : c'.pingInterval = c.pingInterval
  bufferSize : c'.bufferSize = c.bufferSize

theorem opened_kept {c : PubSubClient} {sent now : Nat} (hle : sent ≤ now)
    (hprompt : now ≤ sent + 1000 * c.pingInterval.toNat ∨
      now + 1000 * c.pingInterval.toNat < sent + 1400 * c.keepAlive.toNat) (stream : List UInt8) :
    Kept c stream (.opened c sent now stream) := by
  have hclosed : ¬ RunOpen (c.accepted (UInt32.ofNat sent) (UInt32.ofNat now)) := by
    rintro (hasked | hunsent)
    · cases hasked
    · cases hunsent
  refine ⟨⟨rfl, announced_of_none (by simp [SessionWatch.opened, MqttSession.opened]), ?_, List.nil_prefix, [],
    stands_idle rfl rfl rfl rfl rfl, fun _ => rfl⟩, fun _ => ⟨rfl, rfl, sent, now, ?_⟩⟩
  · intro packet hpacket
    cases hpacket
  · exact ⟨⟨rfl, rfl, Nat.le_refl _, hle, Nat.le_refl _, Nat.le_refl _, Nat.le_refl _⟩,
      fun _ => ⟨Nat.le_refl _, hprompt, .inl (Nat.le_add_right _ _)⟩, fun hopen => absurd hopen hclosed⟩

/-- The ping interval is within the keep-alive, and the session ends before the broker ends it: no `loop()` goes
on where the link took nothing for 3/2 of the keep-alive, and a run of pings that is open was in time at the last
`loop()`, or was opened by that call and is ended by the next. -/
theorem gives_up_in_time (callback : Bool) (settings : List MqttSetting) {c : PubSubClient}
    (hsettings : SameSettings ((PubSubClient.new callback).configured settings) c) (hne : c.keepAlive ≠ 0) :
    c.pingInterval ≤ c.keepAlive ∧
      c.pingIntervalMs ≤ c.keepAliveMs * brokerPatienceNumerator / brokerPatienceDenominator ∧
      c.pingAnswerBudgetMs.toNat = 1400 * c.keepAlive.toNat - 1000 * c.pingInterval.toNat ∧
      ∀ sent now stream ops w, sent ≤ now →
        (now ≤ sent + 1000 * c.pingInterval.toNat ∨
          now + 1000 * c.pingInterval.toNat < sent + 1400 * c.keepAlive.toNat) →
        (SessionWatch.opened c sent now stream).run c.keepAlive.toNat ops = some w →
          (∀ timed, w.Timely c.keepAlive.toNat timed → ∃ call, w.call timed = some call ∧
            (timed.isLoop = true → call.ok = true → timed.times.start < w.took + 1500 * c.keepAlive.toNat)) ∧
          (w.session.client.connectionState = .CONNECTED → RunOpen w.session.client →
            w.lastLoop < w.quiet + 1400 * c.keepAlive.toNat ∨
              w.begun = w.lastLoop ∧ 10 * c.pingInterval.toNat < c.keepAlive.toNat ∧
                ∀ timed, w.Timely c.keepAlive.toNat timed → timed.isLoop = true →
                  ∀ call, w.call timed = some call → call.ok = false) := by
  have hnew := new_configured callback settings
  have hc : c.Configured := by
    refine ⟨?_, ?_⟩
    · rw [hsettings.pingInterval, hsettings.keepAlive]
      exact hnew.pingInterval
    · rw [hsettings.bufferSize]
      exact hnew.bufferSize
  obtain ⟨hms, hbudget⟩ := hc.budget
  refine ⟨hc.pingInterval, hms, hbudget, ?_⟩
  intro sent now stream ops w hle hprompt hrun
  have hkept := (opened_kept hle hprompt stream).run hc hne ops hrun
  refine ⟨?_, ?_⟩
  · intro timed htimely
    obtain ⟨call, hcall, -⟩ := hkept.call hc timed
    refine ⟨call, hcall, fun hloop => ?_⟩
    obtain ⟨op, times⟩ := timed
    cases op with
    | loop io => exact (hkept.loop hc hne htimely hcall).1
    | publish _ _ => cases hloop
  · intro hup hopen
    by_cases hover : w.quiet + 1400 * c.keepAlive.toNat ≤ w.lastLoop
    · right
      obtain ⟨hkeepAlive, hpingInterval, sentAt, cameAt, halive⟩ := hkept.alive hup
      obtain ⟨quiet, hping⟩ := halive.pinging hopen
      have hquiet := hping.quiet_le
      have hbound := hping.bound
      rw [hkeepAlive, hpingInterval] at hbound
      rcases hbound with hearly | ⟨hbegun, -, hshort, -⟩
      · omega
      · refine ⟨hbegun, hshort, ?_⟩
        intro timed htimely hloop call hcall
        obtain ⟨op, times⟩ := timed
        cases op with
        | loop io => exact (hkept.loop hc hne htimely hcall).2.1 hup hopen hover
        | publish _ _ => cases hloop
    · exact .inl (Nat.lt_of_not_le hover)

def TimedOp.pass (t lost : Nat) (rx : Option RxIo) : TimedOp :=
  ⟨.loop ⟨0, true, false, lost, rx.isSome, rx.getD ⟨0, []⟩, ⟨0, 0⟩⟩, ⟨t, t, t⟩⟩

def PubSubClient.keeping (keepAlive pingInterval : UInt16) : PubSubClient :=
  (PubSubClient.new true).configured [.keepAlive keepAlive, .pingInterval pingInterval]

/-- The ping is due after five seconds, and is waited for. -/
theorem gives_up_in_time_waits :
    ∃ w, (SessionWatch.opened (.keeping 60 5) 0 0 []).run (PubSubClient.keeping 60 5).keepAlive.toNat
      [.pass 6000 0 none] = some w ∧
      (∃ call, w.call (.pass 12000 0 none) = some call ∧
        12000 < w.took + 1500 * (PubSubClient.keeping 60 5).keepAlive.toNat) ∧
      (w.lastLoop < w.quiet + 1400 * (PubSubClient.keeping 60 5).keepAlive.toNat ∨
        w.begun = w.lastLoop ∧ 10 * (PubSubClient.keeping 60 5).pingInterval.toNat <
          (PubSubClient.keeping 60 5).keepAlive.toNat) := by
  obtain ⟨-, -, -, hbound⟩ := gives_up_in_time true [.keepAlive 60, .pingInterval 5] (c := .keeping 60 5)
    ⟨rfl, rfl, rfl⟩ (by decide)
  have hrun : ((SessionWatch.opened (.keeping 60 5) 0 0 []).run (PubSubClient.keeping 60 5).keepAlive.toNat
    [.pass 6000 0 none]).any
      (fun w => decide (w.session.client.connectionState = .CONNECTED ∧ RunOpen w.session.client ∧
        w.Timely (PubSubClient.keeping 60 5).keepAlive.toNat (.pass 12000 0 none) ∧
        (w.call (.pass 12000 0 none)).any (·.ok))) = true := by
    decide +kernel
  obtain ⟨w, hw, hdecided⟩ := (Option.any_eq_true _ _).mp hrun
  obtain ⟨hup, hopen, htimely, hgoes⟩ := of_decide_eq_true hdecided
  obtain ⟨hcalls, hrunOpen⟩ := hbound 0 0 [] _ w (Nat.le_refl 0) (.inl (by decide)) hw
  obtain ⟨call, hcall, hbroker⟩ := hcalls _ htimely
  rw [hcall] at hgoes
  exact ⟨w, hw, ⟨call, hcall, hbroker rfl hgoes⟩, (hrunOpen hup hopen).imp_right fun h => ⟨h.1, h.2.1⟩⟩

/-- The PINGRESP comes last of all to be in time, and the ping of the next run has been due for long: the run is
open past its deadline and a gap. A CONNACK as late has the broker wait as long. -/
theorem run_outlasts_deadline :
    ((SessionWatch.opened (.keeping 1 0) 0 0 [0xD0, 0]).run 1
        ((List.range 14).map (fun i => .pass (1 + 100 * i) 0 none) ++
          [.pass 1399 0 (some ⟨2, []⟩), .pass 1499 0 none])).any
      (fun w => w.session.client.connectionState = .CONNECTED ∧ RunOpen w.session.client ∧
        w.Timely 1 (.pass 1599 0 none) ∧
        w.quiet + 1400 * 1 + 100 * 1 < 1599) = true ∧
    (SessionWatch.opened (.keeping 1 0) 0 1500 []).Timely 1 (.pass 1500 2 none) ∧
      ((SessionWatch.opened (.keeping 1 0) 0 1500 []).call (.pass 1500 2 none)).any
        (fun call => call.ok = true) = true ∧
      ¬ 1500 < (SessionWatch.opened (.keeping 1 0) 0 1500 []).took + 1500 * 1 := by
  decide +kernel

end CanSystems
