import CanSystems.KeepAlive

/-!
# What an answer leaves of the run

A PINGRESP ends the run that waits for it, but for one flag: a ping that was asked
for again and refused stays unsent. Where none is, no run is open, so the next
deadline is that of a ping that falls due later; where one is, the run goes on, and
its deadline is the old one.
-/

namespace CanSystems

open PubSubClient

namespace PubSubClient

/-- `servicePing` finds a ping due. -/
def FallsDue (c : PubSubClient) (t : UInt32) : Prop :=
  c.keepAlive ≠ 0 ∧ ¬ RunOpen c ∧
    (t - c.lastInActivity > c.pingIntervalMs ∨ t - c.lastOutActivity > c.pingIntervalMs)

instance (c : PubSubClient) (t : UInt32) : Decidable (c.FallsDue t) := inferInstanceAs (Decidable (_ ∧ _ ∧ _))

def RunKept (c c' : PubSubClient) : Prop := c'.pingDueSince = c.pingDueSince ∧ (RunOpen c' → RunOpen c)

def serviced (c : PubSubClient) (io : LoopIo) : PubSubClient := (c.servicePing io.now io.waiting io.pingLost).2.1

end PubSubClient

def MqttEvent.IsPong : MqttEvent → Prop
  | .dispatched (header :: _) => header &&& 0xF0 = MQTTPINGRESP
  | _ => False

instance : DecidablePred MqttEvent.IsPong
  | .dispatched (header :: _) => inferInstanceAs (Decidable (header &&& 0xF0 = MQTTPINGRESP))
  | .dispatched [] => isFalse id
  | .callback _ _ _ _ | .puback _ _ | .pingreq _ | .publish _ _ => isFalse id

namespace MqttSession

def Serves (s : MqttSession) (io : LoopIo) : Prop := io.connected = true ∧ s.client.connectionState = .CONNECTED

def PingDue (s : MqttSession) : MqttOp → Prop
  | .loop io => s.Serves io ∧ s.client.FallsDue io.now
  | .publish _ _ => False

/-- The pass ends the session, its run of pings being over its deadline. -/
def EndsOnDeadline (s : MqttSession) (io : LoopIo) : Prop :=
  s.Serves io ∧ (s.client.servicePing io.now io.waiting io.pingLost).1 = false

def Answers (s : MqttSession) (io : LoopIo) (call : MqttCall) : Prop :=
  (s.client.serviced io).pingOutstanding = true ∧ ∃ event ∈ call.log, event.IsPong

instance (s : MqttSession) (io : LoopIo) : Decidable (s.EndsOnDeadline io) :=
  inferInstanceAs (Decidable ((_ ∧ _) ∧ _))

instance (s : MqttSession) (io : LoopIo) (call : MqttCall) : Decidable (s.Answers io call) :=
  inferInstanceAs (Decidable (_ ∧ _))

def NoneDue : MqttSession → List MqttOp → Prop
  | _, [] => True
  | s, op :: ops => ¬ s.PingDue op ∧ ∀ s', s.step op = some s' → NoneDue s' ops

/-- The last ping to fall due in the run did so in a `loop()` of it, and `dueAt` is when the side that went quiet
first then made it due. -/
def LastDue (s : MqttSession) (ops : List MqttOp) (dueAt : UInt32) : Prop :=
  ∃ before io after s₁ s₂, ops = before ++ .loop io :: after ∧ s.run before = some s₁ ∧ s₁.PingDue (.loop io) ∧
    s₁.step (.loop io) = some s₂ ∧ s₂.NoneDue after ∧ dueAt = s₁.client.quietSince io.now + s₁.client.pingIntervalMs

/-- Whatever comes next, a pass that ends the session on a deadline counts it from a ping that fell due since. -/
def Forgotten (s : MqttSession) : Prop :=
  ∀ ops s' io, s.run ops = some s' → s'.EndsOnDeadline io →
    ∃ dueAt, s.LastDue ops dueAt ∧ s'.client.pingAnswerBudgetMs ≤ io.now - dueAt

end MqttSession

/-! ## What opens a run -/

/-- A pass opens a run where a ping falls due, and otherwise leaves a closed one closed. -/
theorem serviced_cases (c : PubSubClient) (io : LoopIo) :
    (c.serviced io).keepAlive = c.keepAlive ∧
      (c.FallsDue io.now ∧ (c.serviced io).pingDueSince = c.quietSince io.now + c.pingIntervalMs ∨
        ¬ c.FallsDue io.now ∧ (c.serviced io).pingDueSince = c.pingDueSince ∧
          (RunOpen (c.serviced io) → RunOpen c)) := by
  have hpinged := servicePing_pinged c io.now io.waiting io.pingLost
  unfold serviced
  generalize c.servicePing io.now io.waiting io.pingLost = result at hpinged ⊢
  have hkeepAlive := hpinged.settings.1
  refine ⟨hkeepAlive, ?_⟩
  have hopened : ∀ {c' : PubSubClient}, RunOpen c → c'.pingDueSince = c.pingDueSince →
      c.FallsDue io.now ∧ c'.pingDueSince = c.quietSince io.now + c.pingIntervalMs ∨
        ¬ c.FallsDue io.now ∧ c'.pingDueSince = c.pingDueSince ∧ (RunOpen c' → RunOpen c) :=
    fun hopen hsame => .inr ⟨fun hdue => hdue.2.1 hopen, hsame, fun _ => hopen⟩
  cases hpinged with
  | off hoff => exact .inr ⟨fun hdue => hdue.1 hoff, rfl, id⟩
  | late _ hopen => exact hopened hopen rfl
  | waits _ hopen => exact hopened hopen rfl
  | asks _ hopen =>
    refine hopened hopen ?_
    rw [(keepAlivePing_timers c.noteLate io.now io.pingLost).2.2.1]
    exact (noteLate_timers c).pingDueSince
  | begins hne hclosed hdue =>
    refine .inl ⟨⟨hne, hclosed, hdue⟩, ?_⟩
    rw [(keepAlivePing_timers (c.beginRun io.now) io.now io.pingLost).2.2.1]
    rfl
  | quiet _ hclosed hin hout =>
    refine .inr ⟨fun hdue => ?_, rfl, id⟩
    exact hdue.2.2.elim (UInt32.not_lt.mpr hin) (UInt32.not_lt.mpr hout)

theorem serviced_same (c : PubSubClient) (io : LoopIo) : Undisturbed c (c.serviced io) :=
  servicePing_same c io.now io.waiting io.pingLost

theorem loop_serves {s : MqttSession} {io : LoopIo} (h : s.Serves io) :
    s.client.loop s.inbound io =
      if (s.client.servicePing io.now io.waiting io.pingLost).1 = false then
        some ⟨false, (s.client.serviced io).timedOut, s.inbound,
          (s.client.servicePing io.now io.waiting io.pingLost).2.2⟩
      else ((s.client.serviced io).pumpReader s.inbound io.now io.ready io.rx io.dispatch).map
        (.after (s.client.servicePing io.now io.waiting io.pingLost).2.2) := by
  unfold serviced
  generalize hping : s.client.servicePing io.now io.waiting io.pingLost = result
  obtain ⟨alive, c', log⟩ := result
  exact loop_up h.2 s.inbound h.1 hping

theorem loop_idle {s : MqttSession} {io : LoopIo} (h : ¬ s.Serves io) {call : MqttCall}
    (hcall : s.client.loop s.inbound io = some call) :
    call.log = [] ∧ call.client.keepAlive = s.client.keepAlive ∧ RunKept s.client call.client := by
  by_cases hlink : io.connected = true
  · rw [loop_down (fun hup => h ⟨hlink, hup⟩) _ hlink] at hcall
    cases hcall
    exact ⟨rfl, rfl, rfl, id⟩
  · rw [loop_unlinked _ _ (Bool.eq_false_of_not_eq_true hlink)] at hcall
    cases hcall
    rw [connected, if_pos rfl]
    split
    · exact ⟨rfl, rfl, rfl, id⟩
    · exact ⟨rfl, rfl, rfl, id⟩

theorem deadline_of_ends {s : MqttSession} {io : LoopIo} (h : s.EndsOnDeadline io) :
    RunOpen s.client ∧ s.client.pingAnswerBudgetMs ≤ io.now - s.client.pingDueSince := by
  have hpinged := servicePing_pinged s.client io.now io.waiting io.pingLost
  have hends := h.2
  generalize s.client.servicePing io.now io.waiting io.pingLost = result at hpinged hends
  cases hpinged with
  | late _ hopen hlate => exact ⟨hopen, hlate⟩
  | _ => cases hends

section
variable {size : UInt16} {stream : List UInt8} {s : MqttSession}

/-- A pass in which a ping falls due opens a run that is timed by it; any other leaves the run as it was, or
closes it. -/
theorem loop_runs (hle : size.toNat ≤ defaultBufferSize) (h : ReadsSoundly size stream s) {io : LoopIo}
    {call : MqttCall}
    (hcall : s.client.loop s.inbound io = some call) :
    call.client.keepAlive = s.client.keepAlive ∧
      (s.PingDue (.loop io) ∧ call.client.pingDueSince = s.client.quietSince io.now + s.client.pingIntervalMs ∨
        ¬ s.PingDue (.loop io) ∧ RunKept s.client call.client) := by
  by_cases hserves : s.Serves io
  swap
  · obtain ⟨-, hkeepAlive, hkept⟩ := loop_idle hserves hcall
    exact ⟨hkeepAlive, .inr ⟨fun hdue => hserves hdue.1, hkept⟩⟩
  obtain ⟨hkeepAlive, hruns⟩ := serviced_cases s.client io
  have hsame := serviced_same s.client io
  have hafter : ∀ {c' : PubSubClient}, RunKept (s.client.serviced io) c' →
      s.PingDue (.loop io) ∧ c'.pingDueSince = s.client.quietSince io.now + s.client.pingIntervalMs ∨
        ¬ s.PingDue (.loop io) ∧ RunKept s.client c' := by
    intro c' hkept
    rcases hruns with ⟨hdue, hdueSince⟩ | ⟨hnot, hsince, hopens⟩
    · exact .inl ⟨⟨hserves, hdue⟩, hkept.1.trans hdueSince⟩
    · exact .inr ⟨fun hdue => hnot hdue.2, hkept.1.trans hsince, fun hopen => hopens (hkept.2 hopen)⟩
  rw [loop_serves hserves] at hcall
  by_cases hends : (s.client.servicePing io.now io.waiting io.pingLost).1 = false
  · rw [if_pos hends] at hcall
    cases hcall
    exact ⟨hkeepAlive, hafter ⟨rfl, id⟩⟩
  · rw [if_neg hends] at hcall
    obtain ⟨inner, hinner, rfl⟩ := Option.map_eq_some_iff.mp hcall
    obtain ⟨pending, hstands, -⟩ := h.stands
    have hsize : (s.client.serviced io).bufferSize = size := hsame.bufferSize.trans h.bufferSize
    have htimers := pumpReader_timers (by rw [hsize]; exact hle) (hsame.stands hstands) hinner
    exact ⟨htimers.keepAlive.trans hkeepAlive, hafter ⟨htimers.pingDueSince, htimers.runOpen⟩⟩

theorem publish_runs (hle : size.toNat ≤ defaultBufferSize) (h : ReadsSoundly size stream s) {publish : PublishCall}
    {io : PublishIo} {call : MqttCall} (hcall : s.client.publish s.inbound publish io = some call) :
    call.client.keepAlive = s.client.keepAlive ∧ RunKept s.client call.client := by
  obtain ⟨pending, hstands, -⟩ := h.stands
  have hle' : s.client.bufferSize.toNat ≤ defaultBufferSize := h.bufferSize ▸ hle
  cases publish_published hcall with
  | nothing => exact ⟨rfl, rfl, id⟩
  | unlinked =>
    rw [connected, if_pos rfl]
    split
    · exact ⟨rfl, rfl, id⟩
    · exact ⟨rfl, rfl, id⟩
  | unsettled _ hsettled =>
    have hread := settleReader_timers hle' hstands hsettled 0
    exact ⟨hread.keepAlive, hread.pingDueSince, hread.runOpen⟩
  | @sent topic settled ok c' log _ hup _ _ hsettled _ hsent =>
    have hread := settleReader_timers hle' hstands hsettled 0
    obtain ⟨settled', hsettled', hsound, -⟩ := h.settle hle hup io
    cases hsettled.symm.trans hsettled'
    have hsends := send_sent (by rw [hsound.bufferSize]; exact hle) topic publish io
    rw [hsent] at hsends
    have htimers := hsends.timers.1
    exact ⟨htimers.keepAlive.trans hread.keepAlive, htimers.pingDueSince.trans hread.pingDueSince,
      fun hopen => hread.runOpen (htimers.runOpen hopen)⟩

theorem step_runs (hle : size.toNat ≤ defaultBufferSize) (h : ReadsSoundly size stream s) {op : MqttOp}
    {s' : MqttSession}
    (hstep : s.step op = some s') :
    s'.client.keepAlive = s.client.keepAlive ∧
      ((∃ io, op = .loop io ∧ s.PingDue op ∧
          s'.client.pingDueSince = s.client.quietSince io.now + s.client.pingIntervalMs) ∨
        ¬ s.PingDue op ∧ RunKept s.client s'.client) := by
  obtain ⟨call, hcall, rfl⟩ := Option.map_eq_some_iff.mp hstep
  cases op with
  | loop io =>
    obtain ⟨hkeepAlive, hruns⟩ := loop_runs hle h hcall
    exact ⟨hkeepAlive, hruns.imp_left fun hdue => ⟨io, rfl, hdue⟩⟩
  | publish publish io =>
    obtain ⟨hkeepAlive, hkept⟩ := publish_runs hle h hcall
    exact ⟨hkeepAlive, .inr ⟨id, hkept⟩⟩

/-- A run of pings that is open at the end is the one there was, or that of the ping which fell due last. -/
theorem run_due (hle : size.toNat ≤ defaultBufferSize) (h : ReadsSoundly size stream s) {ops : List MqttOp}
    {s' : MqttSession} (hrun : s.run ops = some s') (hopen : RunOpen s'.client) :
    (s.NoneDue ops ∧ RunOpen s.client ∧ s'.client.pingDueSince = s.client.pingDueSince) ∨
      s.LastDue ops s'.client.pingDueSince := by
  induction ops generalizing s with
  | nil =>
    cases hrun
    exact .inl ⟨trivial, hopen, rfl⟩
  | cons op ops ih =>
    obtain ⟨s₁, hstep, hsound⟩ := h.step hle op
    have hrest := hrun
    rw [MqttSession.run, List.foldlM_cons, hstep] at hrest
    rcases ih hsound hrest with ⟨hnone, hopen₁, hsince⟩ | ⟨before, io, after, s₂, s₃, rfl, hbefore, hdue, hdueStep,
      hlast⟩
    · rcases (step_runs hle h hstep).2 with ⟨io, rfl, hdue, hdueSince⟩ | ⟨hnot, hkept⟩
      · exact .inr ⟨[], io, ops, s, s₁, rfl, rfl, hdue, hstep, hnone, hsince.trans hdueSince⟩
      · refine .inl ⟨⟨hnot, fun s₂ hstep' => ?_⟩, hkept.2 hopen₁, hsince.trans hkept.1⟩
        cases hstep.symm.trans hstep'
        exact hnone
    · refine .inr ⟨op :: before, io, after, s₂, s₃, rfl, ?_, hdue, hdueStep, hlast⟩
      rw [MqttSession.run, List.foldlM_cons, hstep]
      exact hbefore

theorem run_keepAlive (hle : size.toNat ≤ defaultBufferSize) (h : ReadsSoundly size stream s)
    (hpings : RunOpen s.client → s.client.keepAlive ≠ 0) {ops : List MqttOp} {s' : MqttSession}
    (hrun : s.run ops = some s') : RunOpen s'.client → s'.client.keepAlive ≠ 0 := by
  induction ops generalizing s with
  | nil =>
    cases hrun
    exact hpings
  | cons op ops ih =>
    obtain ⟨s₁, hstep, hsound⟩ := h.step hle op
    rw [MqttSession.run, List.foldlM_cons, hstep] at hrun
    obtain ⟨hkeepAlive, hruns⟩ := step_runs hle h hstep
    refine ih hsound (fun hopen => ?_) hrun
    rw [hkeepAlive]
    rcases hruns with ⟨io, rfl, hdue, -⟩ | ⟨-, hkept⟩
    · exact hdue.2.1
    · exact hpings (hkept.2 hopen)

end

theorem answerOf_pong {packet : List UInt8} (h : (MqttEvent.dispatched packet).IsPong) :
    answerOf packet = .pong := by
  match packet with
  | [] => exact h.elim
  | header :: rest =>
    have htype : header &&& 0xF0 = MQTTPINGRESP := h
    simp only [answerOf, htype]
    rfl

theorem readerCall_pong {c : PubSubClient} {t : UInt32} {bytes left : List UInt8} {io : DispatchIo}
    {call : MqttCall}
    (h : ReaderCall c (·.heard t) bytes left io true (some call)) (hpong : ∃ event ∈ call.log, event.IsPong) :
    call.client.pingOutstanding = false ∧ call.client.pingUnsent = c.pingUnsent ∧
      call.client.connectionState = c.connectionState ∧ call.client.keepAlive = c.keepAlive := by
  obtain ⟨event, hevent, hpong⟩ := hpong
  generalize hcall : some call = result at h
  cases h with
  | stays hsame _ =>
    cases hcall
    cases hevent
  | fails hsame _ =>
    cases hcall
    cases hevent
  | @finishes _ c' header rest hsame hpacket hreads hverdict =>
    have hs := heard_same c' t
    have hwhole : verdict (c'.heard t).bufferSize (header :: rest) = some .Complete := by
      rw [hs.bufferSize, hsame.bufferSize, ← hpacket, hverdict]
    have hfinished := finishPacket_finished (hs.readsPayload hreads) hwhole left io
    rw [← hcall] at hfinished
    have hanswer : answerOf (header :: rest) = .pong := by
      obtain ⟨call', hcall', -, -, -, hpackets, -⟩ := finished_safe hfinished
      cases hcall'
      match event with
      | .dispatched packet =>
        have hmem : packet ∈ call.log.filterMap MqttEvent.packet := List.mem_filterMap.mpr ⟨_, hevent, rfl⟩
        rw [hpackets, List.mem_singleton] at hmem
        rw [← hmem]
        exact answerOf_pong hpong
    cases hfinished with
    | pong =>
      have hsame' := pingAnswered_timers (c'.heard t).resetReader io.millis
      exact ⟨hsame'.pingOutstanding, hsame'.pingUnsent.trans hsame.pingUnsent,
        hsame'.connectionState.trans hsame.connectionState, hsame'.keepAlive.trans hsame.keepAlive⟩
    | refused hother => cases hother.symm.trans hanswer
    | nothing hother => cases hother.symm.trans hanswer
    | message hother => cases hother.symm.trans hanswer

section
variable {size : UInt16} {stream : List UInt8} {s : MqttSession}

theorem answers_leaves (hle : size.toNat ≤ defaultBufferSize) (h : ReadsSoundly size stream s) {io : LoopIo}
    {call : MqttCall}
    (hcall : s.client.loop s.inbound io = some call) (hpong : ∃ event ∈ call.log, event.IsPong) :
    call.client.pingOutstanding = false ∧ call.client.pingUnsent = (s.client.serviced io).pingUnsent ∧
      call.client.connectionState = .CONNECTED ∧ call.client.keepAlive = s.client.keepAlive := by
  obtain ⟨event, hevent, hpong⟩ := hpong
  have hserves : s.Serves io := by
    by_contra hidle
    rw [(loop_idle hidle hcall).1] at hevent
    cases hevent
  have hunseen : event ∉ (s.client.servicePing io.now io.waiting io.pingLost).2.2 := by
    intro hping
    rw [servicePing_log _ _ _ _ event hping] at hpong
    cases hpong
  have hsame := serviced_same s.client io
  rw [loop_serves hserves] at hcall
  by_cases hends : (s.client.servicePing io.now io.waiting io.pingLost).1 = false
  · rw [if_pos hends] at hcall
    cases hcall
    exact absurd hevent hunseen
  rw [if_neg hends] at hcall
  obtain ⟨inner, hinner, rfl⟩ := Option.map_eq_some_iff.mp hcall
  obtain ⟨pending, hstands, -⟩ := h.stands
  have hsize : (s.client.serviced io).bufferSize = size := hsame.bufferSize.trans h.bufferSize
  obtain ⟨taken, left, -, -, hreader⟩ := pumpReader_call (by rw [hsize]; exact hle) (hsame.stands hstands) s.inbound
    io.now io.ready io.rx io.dispatch
  rw [hinner] at hreader
  have hlater : event ∈ inner.log := (List.mem_append.mp hevent).resolve_left hunseen
  obtain ⟨hanswered, hunsent, hstate, hkeepAlive⟩ := readerCall_pong hreader ⟨event, hlater, hpong⟩
  exact ⟨hanswered, hunsent, hstate.trans (hsame.connectionState.trans hserves.2),
    hkeepAlive.trans (serviced_cases s.client io).1⟩

/-- A ping that is still unsent keeps its old deadline, and a pass may come after it. -/
theorem ends_of_unsent (hup : s.client.connectionState = .CONNECTED) (hne : s.client.keepAlive ≠ 0)
    (hunsent : s.client.pingUnsent = true) : ¬ s.Forgotten := by
  intro h
  let io : LoopIo := ⟨s.client.pingDueSince + s.client.pingAnswerBudgetMs, true, false, 0, false, ⟨0, []⟩, ⟨0, 0⟩⟩
  have hover : io.now - s.client.pingDueSince = s.client.pingAnswerBudgetMs := by
    show s.client.pingDueSince + s.client.pingAnswerBudgetMs - s.client.pingDueSince = _
    rw [UInt32.add_comm, UInt32.add_sub_cancel]
  have hends : s.EndsOnDeadline io := by
    refine ⟨⟨rfl, hup⟩, ?_⟩
    rw [servicePing, if_neg hne, if_pos (.inr hunsent), continueRun, hover, if_pos (UInt32.le_refl _)]
  obtain ⟨dueAt, ⟨before, io', after, -, -, hnone, -⟩, -⟩ := h [] s io rfl hends
  exact absurd hnone (by simp)

end

/-- In every session, a PINGRESP that a pass takes in while a ping is outstanding is the end of that ping exactly
when no ask for it was refused since the link last took one. -/
theorem answered_ping_forgotten_iff {c c' : PubSubClient} {size : UInt16}
    (hsize : c.setBufferSize size = (true, c'))
    (sent now : UInt32) (stream : List UInt8) (before : List MqttOp) {s : MqttSession}
    (hrun : (MqttSession.opened c' sent now stream).run before = some s) (io : LoopIo) {call : MqttCall}
    (hcall : s.call (.loop io) = some call) (hanswers : s.Answers io call) :
    MqttSession.Forgotten ⟨call.client, call.inbound, s.log ++ call.log⟩ ↔
      (s.client.serviced io).pingUnsent = false := by
  have hopened := opened_sound hsize sent now stream
  have hbuffer : c'.bufferSize = size := hopened.bufferSize
  have hle : size.toNat ≤ defaultBufferSize := by
    rw [← hbuffer]
    exact setBufferSize_le hsize
  have hsound : ReadsSoundly size stream s := by
    obtain ⟨s', hrun', hsound⟩ := hopened.run hle before
    cases hrun.symm.trans hrun'
    exact hsound
  have hsoundAfter : ReadsSoundly size stream ⟨call.client, call.inbound, s.log ++ call.log⟩ := by
    obtain ⟨call', hcall', hsound'⟩ := hsound.loop hle io
    cases hcall.symm.trans hcall'
    exact hsound'
  obtain ⟨hanswered, hunsent, hup, hkeepAlive⟩ := answers_leaves hle hsound hcall hanswers.2
  have hpings := run_keepAlive hle hopened (fun hopen => by simp [MqttSession.opened, accepted, RunOpen] at hopen)
    hrun
  rw [← hunsent]
  constructor
  · intro hforgotten
    by_contra hne
    refine ends_of_unsent hup ?_ (Bool.eq_true_of_not_eq_false hne) hforgotten
    rw [hkeepAlive]
    rcases (serviced_cases s.client io).2 with ⟨hdue, -⟩ | ⟨-, -, hopens⟩
    · exact hdue.1
    · exact hpings (hopens (.inl hanswers.1))
  · intro hnone ops s' io' hrun' hends
    have hclosed : ¬ RunOpen call.client := by
      rintro (hopen | hopen)
      · rw [hanswered] at hopen
        cases hopen
      · rw [hnone] at hopen
        cases hopen
    obtain ⟨hopen, hlate⟩ := deadline_of_ends hends
    rcases run_due hle hsoundAfter hrun' hopen with ⟨-, hopen, -⟩ | hlast
    · exact absurd hopen hclosed
    · exact ⟨_, hlast, hlate⟩

def LoopIo.pass (now : UInt32) (pingLost : Nat) (ready : Bool) : LoopIo :=
  ⟨now, true, false, pingLost, ready, ⟨2, []⟩, ⟨0, now⟩⟩

/-- The ping is taken when it is due, and its answer comes in a pass of its own. -/
theorem answered_ping_forgotten_plain :
    ∃ s call, (MqttSession.opened ((PubSubClient.new true).setBufferSize 1024).2 0 0 [0xD0, 0]).run
        [.loop (.pass 15001 0 false)] = some s ∧ s.call (.loop (.pass 15100 0 true)) = some call ∧
      (MqttSession.Forgotten ⟨call.client, call.inbound, s.log ++ call.log⟩ ↔
        (s.client.serviced (.pass 15100 0 true)).pingUnsent = false) := by
  have hrun : ((MqttSession.opened ((PubSubClient.new true).setBufferSize 1024).2 0 0 [0xD0, 0]).run
      [.loop (.pass 15001 0 false)]).any (fun s => (s.call (.loop (.pass 15100 0 true))).any
        fun call => decide (s.Answers (.pass 15100 0 true) call)) = true := by
    decide +kernel
  obtain ⟨s, hs, hcalls⟩ := (Option.any_eq_true _ _).mp hrun
  obtain ⟨call, hcall, hanswers⟩ := (Option.any_eq_true _ _).mp hcalls
  have hsize : (PubSubClient.new true).setBufferSize 1024 =
      (true, ((PubSubClient.new true).setBufferSize 1024).2) := by
    decide +kernel
  exact ⟨s, call, hs, hcall, answered_ping_forgotten_iff (c := .new true) (s := s) hsize 0 0 [0xD0, 0] _ hs _
    hcall (of_decide_eq_true hanswers)⟩

/-- The ask after four seconds is refused and the answer comes in the same pass; two seconds later the session is
over. -/
theorem answered_ping_not_forgotten :
    ¬ ∀ (c c' : PubSubClient) (size : UInt16), c.setBufferSize size = (true, c') →
      ∀ (sent now : UInt32) (stream : List UInt8) (before : List MqttOp) (s : MqttSession),
      (MqttSession.opened c' sent now stream).run before = some s →
      ∀ (io : LoopIo) (call : MqttCall), s.call (.loop io) = some call → s.Answers io call →
        MqttSession.Forgotten ⟨call.client, call.inbound, s.log ++ call.log⟩ := by
  intro h
  have hrun : ((MqttSession.opened ((PubSubClient.new true).setBufferSize 1024).2 0 0 [0xD0, 0]).run
      [.loop (.pass 15001 0 false)]).any (fun s => (s.call (.loop (.pass 19001 2 true))).any
        fun call => decide (s.Answers (.pass 19001 2 true) call ∧
          MqttSession.EndsOnDeadline ⟨call.client, call.inbound, s.log ++ call.log⟩ (.pass 21000 0 false))) =
            true := by
    decide +kernel
  obtain ⟨s, hs, hcalls⟩ := (Option.any_eq_true _ _).mp hrun
  obtain ⟨call, hcall, hboth⟩ := (Option.any_eq_true _ _).mp hcalls
  obtain ⟨hanswers, hends⟩ := of_decide_eq_true hboth
  obtain ⟨dueAt, ⟨before, io, after, -, -, hnone, -⟩, -⟩ :=
    h (.new true) _ 1024 (by decide +kernel) 0 0 [0xD0, 0] _ s hs _ call hcall hanswers [] _ _ rfl hends
  exact absurd hnone (by simp)

end CanSystems
