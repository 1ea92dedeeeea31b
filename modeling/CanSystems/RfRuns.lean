import CanSystems.RfHandler
import CanSystems.RfRoundTrip

/-!
# Runs of the RF handler

A run is any mixture of edges at the receiving pin, commands from the broker and
passes. Commands are transmitted in the order in which they came, and no pass
is blocked for longer than five frames of the slowest pulse. A frame is filtered
exactly when the last one that was reported is the same and every gap since
then was short.
-/

namespace CanSystems

inductive RfHandlerEvent
  | edge (time : UInt32)
  | message (payload : RfPayload)
  | run (actualTime : UInt32) (sent : Bool)
  deriving DecidableEq, Repr

/-- A command that a pass took, the transceiver as the pass left it, and what went to the pins. -/
structure RfTransmission where
  command : RfData
  rfTransceiver : RCSwitch
  outputs : List RfOutput
  deriving DecidableEq

/-- The handler, with the frames it has seen, the latest first, the commands it has accepted, and what its passes
transmitted. -/
structure RfWatch where
  handler : RfHandler
  receptions : List RfReception
  accepted : List RfData
  transmissions : List RfTransmission
  deriving DecidableEq

namespace RfHandlerEvent

def accepts : RfHandlerEvent → List RfData
  | message payload => (RfHandler.commandOf payload).toList
  | _ => []

def isRun : RfHandlerEvent → Bool
  | run _ _ => true
  | _ => false

end RfHandlerEvent

namespace RfOutput

def blocking : List RfOutput → ℕ
  | [] => 0
  | delayMicroseconds duration :: outputs => duration.toNat + blocking outputs
  | _ :: outputs => blocking outputs

@[simp] theorem blocking_append (outputs more : List RfOutput) :
    blocking (outputs ++ more) = blocking outputs + blocking more := by
  induction outputs with
  | nil => simp [blocking]
  | cons output outputs ih => cases output <;> simp [blocking, ih, Nat.add_assoc]

theorem blocking_flatten {frame : List RfOutput} (n : ℕ) :
    blocking (List.replicate n frame).flatten = n * blocking frame := by
  induction n with
  | zero => simp [blocking]
  | succ n ih => simp [List.replicate_succ, ih, Nat.succ_mul, Nat.add_comm]

end RfOutput

namespace RfPass

def transmission (pass : RfPass) : Option RfTransmission :=
  pass.command.map fun command => ⟨command, pass.handler.rfTransceiver, pass.outputs⟩

end RfPass

namespace RfWatch

def taken (w : RfWatch) : List RfData := w.transmissions.map RfTransmission.command

def init (interrupt : Int32) (rfTxPin : UInt8) : RfWatch := ⟨.init interrupt rfTxPin, [], [], []⟩

def step (w : RfWatch) : RfHandlerEvent → Option RfWatch
  | .edge time => do
    let receiver ← w.handler.receiver.handleInterrupt time
    return { w with handler := { w.handler with receiver := receiver } }
  | .message payload =>
    some { w with
      handler := w.handler.messageArrivedCallback payload, accepted :=
        w.accepted ++ (RfHandler.commandOf payload).toList }
  | .run actualTime sent => do
    let pass ← w.handler.run actualTime sent
    return { w with
      handler := pass.handler
      receptions := pass.reception.toList ++ w.receptions
      transmissions := w.transmissions ++ pass.transmission.toList }

def run (w : RfWatch) (es : List RfHandlerEvent) : Option RfWatch := es.foldlM step w

@[simp] theorem run_nil (w : RfWatch) : w.run [] = some w := rfl

@[simp] theorem run_cons (w : RfWatch) (e : RfHandlerEvent) (es : List RfHandlerEvent) :
    w.run (e :: es) = (w.step e).bind fun w' => w'.run es := rfl

end RfWatch

namespace RfReceiver

theorem value_of_ready {r r' : RfReceiver} (h : r.available = some (true, r')) : r'.nReceivedValue ≠ 0 := by
  by_cases hpending : r.pendingChangeCount = 0
  · simp [available, hpending] at h
    exact h.2 ▸ h.1
  · cases hdecoded : r.decodeRecorded r.pendingChangeCount with
    | none => simp [available, hpending, hdecoded] at h
    | some r'' =>
      simp [available, hpending, hdecoded] at h
      exact h.2 ▸ h.1

end RfReceiver

namespace RfHandler

open RCSwitch

/-! ## What a pass does -/

theorem length_message (d : RfData) : d.message.length < dataOutBufSize := by
  have hdata : (Printf.decimal d.data.toNat).length ≤ 20 :=
    Printf.length_decimal_le (by decide) (by have := d.data.toNat_lt; omega)
  have hbits : (Printf.decimal d.bitLength.toNat).length ≤ 10 :=
    Printf.length_decimal_le (by decide) (by have := d.bitLength.toNat_lt; omega)
  have hprotocol : (Printf.decimal d.protocol.toNat).length ≤ 10 :=
    Printf.length_decimal_le (by decide) (by have := d.protocol.toNat_lt; omega)
  have hpulse : (Printf.decimal d.pulseLength.toNat).length ≤ 10 :=
    Printf.length_decimal_le (by decide) (by have := d.pulseLength.toNat_lt; omega)
  have h₁ : "\x7b\"RfReceived\":\x7b\"Data\":".toList.length = 22 := by decide
  have h₂ : ",\"Bits\":".toList.length = 8 := by decide
  have h₃ : ",\"Protocol\":".toList.length = 12 := by decide
  have h₄ : ",\"Pulse\":".toList.length = 9 := by decide
  have h₅ : "\x7d\x7d".toList.length = 2 := by decide
  delta RfData.message dataOutBufSize
  rw [List.length_append, List.length_append, List.length_append, List.length_append, List.length_append,
    List.length_append, List.length_append, List.length_append, h₁, h₂, h₃, h₄, h₅]
  omega

theorem overflows_message (d : RfData) : Printf.overflows dataOutBufSize d.message = false :=
  (Printf.overflows_eq_false (by decide)).mpr (length_message d)

theorem report_same {h : RfHandler} {actualTime : UInt32} {frame : RfData}
    (hsame : (h.lastData actualTime).same frame = true)
    (sent : Bool) :
    h.report actualTime sent frame = ({ h with lastRfData := h.lastData actualTime, dataCheckTimer := actualTime },
      ⟨actualTime, frame, none, true⟩) := by
  simp [report, hsame]

theorem report_other {h : RfHandler} {actualTime : UInt32} {frame : RfData}
    (hother : (h.lastData actualTime).same frame = false) (sent : Bool) :
    h.report actualTime sent frame =
      ({ h with lastRfData := if sent then frame else h.lastData actualTime, dataCheckTimer := actualTime },
        ⟨actualTime, frame, some frame.message, sent⟩) := by
  simp [report, hother, overflows_message]

theorem report_keeps (h : RfHandler) (actualTime : UInt32) (sent : Bool) (frame : RfData) :
    (h.report actualTime sent frame).1.pendingTx = h.pendingTx ∧
      (h.report actualTime sent frame).1.rfTransceiver = h.rfTransceiver ∧
      (h.report actualTime sent frame).1.receiver = h.receiver := by
  cases hsame : (h.lastData actualTime).same frame with
  | true => simp [report_same hsame]
  | false => simp [report_other hsame]

theorem run_eq (h : RfHandler) (actualTime : UInt32) (sent : Bool) :
    ∃ ready r, (ready = true → r.nReceivedValue ≠ 0) ∧ RfReceiver.Decodes h.receiver r ∧ r.pendingChangeCount = 0 ∧
      h.run actualTime sent = some (if ready then
        ({ h with receiver := r.resetAvailable }.report actualTime sent (actualRfData r)).1.transmitPending
          (some ({ h with receiver := r.resetAvailable }.report actualTime sent (actualRfData r)).2)
      else { h with receiver := r }.transmitPending none) := by
  obtain ⟨ready, r, heq, hdec, hzero⟩ := h.receiver.available_spec
  refine ⟨ready, r, ?_, hdec, hzero, ?_⟩
  · rintro rfl
    exact RfReceiver.value_of_ready heq
  · cases ready <;> simp [run, heq]

end RfHandler

/-! ## How long a transmission lasts -/

/-- A command with a bit count and a pulse length that the handler takes. -/
def RfData.InRange (d : RfData) : Prop :=
  d.bitLength.toNat ≤ 64 ∧ (d.pulseLength = 0 ∨ 50 ≤ d.pulseLength.toNat ∧ d.pulseLength.toNat ≤ 1000)

namespace RCSwitch

/-- The first protocol, at a pulse length within range, and a pin to send it at. -/
structure Steady (s : RCSwitch) : Prop where
  protocol : ∃ pulse : UInt16, s.protocol = princetonAt pulse ∧ 50 ≤ pulse.toNat ∧ pulse.toNat ≤ 1000
  repeats : s.nRepeatTransmit = 5
  pin : s.nTransmitterPin ≠ -1

section
variable {s : RCSwitch} {pulse : UInt16}

theorem blocking_transmit (hs : s.protocol = princetonAt pulse) {p : HighLow} (hhigh : p.high > 0)
    (hlow : p.low > 0) :
    RfOutput.blocking (s.transmit p) = pulse.toNat * (p.high.toNat + p.low.toNat) := by
  rw [transmit_eq hs hhigh hlow]
  simp only [RfOutput.blocking, toNat_level]
  rw [Nat.mul_add, Nat.add_zero]

theorem blocking_data (hs : s.protocol = princetonAt pulse) (code : UInt64) (n : ℕ) :
    RfOutput.blocking ((dataPulses code n).flatMap s.transmit) = pulse.toNat * (4 * n) := by
  induction n with
  | zero => rfl
  | succ n ih =>
    have hbit : ∀ b : Prop, ∀ _ : Decidable b,
        RfOutput.blocking (s.transmit (if b then princeton.one else princeton.zero)) = pulse.toNat * 4 := by
      intro b _
      by_cases hb : b
      · rw [if_pos hb]
        exact blocking_transmit hs (by decide) (by decide)
      · rw [if_neg hb]
        exact blocking_transmit hs (by decide) (by decide)
    rw [dataPulses, List.flatMap_cons, RfOutput.blocking_append, hbit, ih, ← Nat.mul_add]
    congr 1
    omega

theorem blocking_sendOnce (hs : s.protocol = princetonAt pulse) (code : UInt64) (length : UInt32) :
    RfOutput.blocking (s.sendOnce code length) = pulse.toNat * (32 + 4 * length.toInt32.toInt.toNat) := by
  have hheader : RfOutput.blocking (s.transmit princeton.header) = pulse.toNat * 32 :=
    blocking_transmit hs (by decide) (by decide)
  rw [sendOnce_eq hs, List.flatMap_cons, RfOutput.blocking_append, blocking_data hs, hheader, ← Nat.mul_add]

end

theorem Steady.blocking_send {s : RCSwitch} (h : s.Steady) (code : UInt64) {length : UInt32}
    (hlength : length.toNat ≤ 64) :
    RfOutput.blocking (s.send code length) ≤ 5 * (1000 * (32 + 4 * 64)) := by
  obtain ⟨⟨pulse, hs, -, hpulse⟩, hrepeats, -⟩ := h
  have hint : length.toInt32.toInt.toNat = length.toNat := by
    rw [Int32.toInt, UInt32.toBitVec_toInt32, BitVec.toInt_eq_toNat_cond, UInt32.toNat_toBitVec]
    split <;> omega
  unfold send
  by_cases hpin : s.nTransmitterPin = -1
  · simp [hpin, RfOutput.blocking]
  · have hframe : RfOutput.blocking (s.sendOnce code length) ≤ 1000 * (32 + 4 * 64) := by
      rw [blocking_sendOnce hs, hint]
      exact Nat.mul_le_mul hpulse (by omega)
    have hfive : s.nRepeatTransmit.toInt.toNat = 5 := by
      rw [hrepeats]
      decide
    rw [if_neg hpin, RfOutput.blocking_append, RfOutput.blocking_append, RfOutput.blocking_append, hfive,
      RfOutput.blocking_flatten]
    have hends : ∀ b : Prop, ∀ _ : Decidable b, ∀ output : RfOutput, RfOutput.blocking [output] = 0 →
        RfOutput.blocking (if b then [output] else []) = 0 := by
      intro b _ output houtput
      by_cases hb : b
      · rw [if_pos hb, houtput]
      · rw [if_neg hb]
        rfl
    rw [hends _ _ _ rfl, hends _ _ _ rfl]
    simp only [RfOutput.blocking]
    omega

theorem Steady.setProtocol {s : RCSwitch} (h : s.Steady) (nProtocol : Int32) :
    (s.setProtocol nProtocol).Steady := by
  refine ⟨⟨350, ?_, by decide, by decide⟩, h.repeats, h.pin⟩
  have hone : ∀ i, proto.getD i princeton = princeton := by
    intro i
    cases i <;> rfl
  exact hone _

theorem Steady.protocol_setPulseLength {s : RCSwitch} (h : s.Steady) (pulse : UInt32) :
    (s.setPulseLength pulse.toInt32).protocol = princetonAt pulse.toUInt16 := by
  obtain ⟨⟨before, hs, -⟩, -⟩ := h
  simp [RCSwitch.setPulseLength, hs, princetonAt]

theorem Steady.setPulseLength {s : RCSwitch} (h : s.Steady) {pulse : UInt32}
    (hpulse : 50 ≤ pulse.toNat ∧ pulse.toNat ≤ 1000) :
    (s.setPulseLength pulse.toInt32).Steady := by
  have hnat : pulse.toUInt16.toNat = pulse.toNat := by
    rw [UInt32.toNat_toUInt16]
    omega
  refine ⟨⟨pulse.toUInt16, h.protocol_setPulseLength pulse, ?_, ?_⟩, h.repeats, h.pin⟩
  · rw [hnat]
    exact hpulse.1
  · rw [hnat]
    exact hpulse.2

end RCSwitch

namespace RfTransmission

/-- What went to the pins is the command's frame, sent at the command's pulse length when it names one; a command
without data or without bits sends nothing. -/
structure Sends (t : RfTransmission) : Prop where
  steady : t.rfTransceiver.Steady
  pulse : t.command.pulseLength ≠ 0 → t.rfTransceiver.protocol = RCSwitch.princetonAt t.command.pulseLength.toUInt16
  outputs : t.outputs =
    if t.command.data ≠ 0 ∧ t.command.bitLength ≠ 0 then
      t.rfTransceiver.send t.command.data t.command.bitLength else []

theorem Sends.blocking {t : RfTransmission} (h : t.Sends) (hrange : t.command.InRange) :
    RfOutput.blocking t.outputs ≤ 5 * (1000 * (32 + 4 * 64)) := by
  rw [h.outputs]
  split
  · exact h.steady.blocking_send _ hrange.1
  · exact Nat.zero_le _

end RfTransmission

namespace RfHandler

theorem txPin_ne (rfTxPin : UInt8) : rfTxPin.toUInt32.toInt32 ≠ -1 := by
  intro heq
  have hnat : rfTxPin.toUInt32.toNat = (-1 : Int32).toUInt32.toNat := by rw [← heq, UInt32.toUInt32_toInt32]
  rw [UInt8.toNat_toUInt32] at hnat
  have hpin := rfTxPin.toNat_lt
  have hmax : (-1 : Int32).toUInt32.toNat = 4294967295 := by decide
  omega

theorem inRange_commandOf {payload : RfPayload} {command : RfData} (h : commandOf payload = some command) :
    command.InRange := by
  simp only [commandOf, Option.bind_eq_bind, Option.bind_eq_some_iff] at h
  obtain ⟨data, -, bits, -, protocol, -, pulse, -, h⟩ := h
  split at h
  · cases h
  · rename_i hpulse
    split at h
    · cases h
    · rename_i hbits
      cases h
      refine ⟨Nat.not_lt.mp fun hlt => hbits (UInt32.lt_iff_toNat_lt.mpr hlt), ?_⟩
      by_cases hzero : UInt32.ofNat pulse = 0
      · exact Or.inl hzero
      · rw [not_and_or, not_or] at hpulse
        obtain ⟨hmin, hmax⟩ := hpulse.resolve_left (not_not.mpr hzero)
        exact Or.inr ⟨Nat.not_lt.mp fun hlt => hmin (UInt32.lt_iff_toNat_lt.mpr hlt),
          Nat.not_lt.mp fun hlt => hmax (UInt32.lt_iff_toNat_lt.mpr hlt)⟩

/-- A command in range goes out at its own pulse length, and leaves the transceiver in range. -/
theorem transmitCommand_sends {s : RCSwitch} (h : s.Steady) {command : RfData} (hrange : command.InRange) :
    RfTransmission.Sends ⟨command, (transmitCommand s command).1, (transmitCommand s command).2⟩ := by
  have hprotocol : (if command.protocol > 0 then s.setProtocol command.protocol.toInt32 else s).Steady := by
    split
    · exact h.setProtocol _
    · exact h
  have hpos : command.pulseLength > 0 ↔ command.pulseLength ≠ 0 := UInt32.pos_iff_ne_zero
  refine ⟨?_, ?_, ?_⟩
  · unfold transmitCommand
    dsimp only
    split
    · rename_i hpulse
      exact hprotocol.setPulseLength (hrange.2.resolve_left (hpos.mp hpulse))
    · exact hprotocol
  · intro hpulse
    simp only [transmitCommand, if_pos (hpos.mpr hpulse)]
    exact hprotocol.protocol_setPulseLength _
  · simp only [transmitCommand, gt_iff_lt, UInt64.pos_iff_ne_zero, UInt32.pos_iff_ne_zero]

/-- Whatever there is to report, a pass takes the oldest command, and transmits that and nothing else. -/
theorem pass_spec {h : RfHandler} (hinside : h.receiver.Inside) (hsteady : h.rfTransceiver.Steady)
    (hrange : ∀ command ∈ h.pendingTx.items, command.InRange) (actualTime : UInt32) (sent : Bool) :
    ∃ pass, h.run actualTime sent = some pass ∧ pass.handler.receiver.Inside ∧ pass.handler.rfTransceiver.Steady ∧
      pass.handler.pendingTx = h.pendingTx.rest ∧ pass.command = h.pendingTx.items.head? ∧
      (pass.command = none → pass.outputs = []) ∧ ∀ t ∈ pass.transmission, t.Sends := by
  have hpending : ∀ (g : RfHandler) (reception : Option RfReception), g.receiver.Inside →
    g.rfTransceiver = h.rfTransceiver →
      g.pendingTx = h.pendingTx → (g.transmitPending reception).handler.receiver.Inside ∧
        (g.transmitPending reception).handler.rfTransceiver.Steady ∧
        (g.transmitPending reception).handler.pendingTx = h.pendingTx.rest ∧
        (g.transmitPending reception).command = h.pendingTx.items.head? ∧
        ((g.transmitPending reception).command = none → (g.transmitPending reception).outputs = []) ∧
        ∀ t ∈ (g.transmitPending reception).transmission, t.Sends := by
    intro g reception hin htransceiver hqueue
    unfold transmitPending
    cases hitems : h.pendingTx.items with
    | nil =>
      have hrest : g.pendingTx = h.pendingTx.rest :=
        Fifo.ext (by rw [hqueue, Fifo.items_rest, hitems, List.tail_nil])
      rw [if_pos (by rw [Fifo.isEmpty_iff, hqueue, hitems])]
      exact ⟨hin, htransceiver ▸ hsteady, hrest, rfl, fun _ => rfl, by simp [RfPass.transmission]⟩
    | cons command commands =>
      have hpeek : h.pendingTx.peek = command := Fifo.peek_cons hitems
      have hsends := transmitCommand_sends hsteady (hrange command (by simp [hitems]))
      rw [if_neg (by rw [Fifo.isEmpty_iff, hqueue, hitems]; simp)]
      simp only [Fifo.pop_fst, Fifo.pop_snd, htransceiver, hqueue, hpeek]
      refine ⟨hin, hsends.steady, trivial, rfl, fun hnone => by simp at hnone, ?_⟩
      intro t ht
      obtain rfl := Option.some.inj ht
      exact hsends
  obtain ⟨ready, r, -, hdec, hzero, hrun⟩ := h.run_eq actualTime sent
  have hin : r.Inside := ⟨by rw [hdec.changeCount]; exact hinside.recorded, by simp [hzero]⟩
  refine ⟨_, hrun, ?_⟩
  by_cases hready : ready = true
  · rw [if_pos hready]
    obtain ⟨hqueue, htransceiver, hreceiver⟩ :=
      { h with receiver := r.resetAvailable }.report_keeps actualTime sent (actualRfData r)
    exact hpending _ _ (by rw [hreceiver]; exact ⟨hin.recorded, hin.pending⟩) htransceiver hqueue
  · rw [if_neg hready]
    exact hpending _ _ hin rfl rfl

end RfHandler

namespace RfWatch

/-! ## The order of the commands -/

structure Ordered (w : RfWatch) : Prop where
  inside : w.handler.receiver.Inside
  steady : w.handler.rfTransceiver.Steady
  sends : ∀ t ∈ w.transmissions, t.Sends
  inRange : ∀ command ∈ w.accepted, command.InRange
  taken : (w.taken ++ w.handler.pendingTx.items).Sublist w.accepted
  newest : w.handler.pendingTx.items <:+ w.accepted

theorem ordered_init (interrupt : Int32) (rfTxPin : UInt8) : (init interrupt rfTxPin).Ordered where
  inside := RfReceiver.inside_init
  steady := ⟨⟨350, rfl, by decide, by decide⟩, rfl, RfHandler.txPin_ne rfTxPin⟩
  sends := by simp [init]
  inRange := by simp [init]
  taken := by simp [init, taken, RfHandler.init]
  newest := by simp [init, RfHandler.init]

@[simp] theorem map_transmission (pass : RfPass) :
    pass.transmission.toList.map RfTransmission.command = pass.command.toList := by
  cases hcommand : pass.command <;> simp [RfPass.transmission, hcommand]

theorem items_put_suffix (q : Fifo RfData 4) (command : RfData) :
    (q.put command).items <:+ q.items ++ [command] := by
  cases hfull : q.isFull with
  | false => rw [Fifo.items_put hfull]
  | true =>
    rw [Fifo.items_put_full hfull]
    exact List.tail_suffix _

/-- A pass takes the oldest command, and a command that is accepted goes to the end of the queue. -/
theorem Ordered.step {w : RfWatch} (h : w.Ordered) (e : RfHandlerEvent) :
    ∃ w', w.step e = some w' ∧ w'.Ordered ∧ w'.accepted = w.accepted ++ e.accepts ∧
      w.transmissions <+: w'.transmissions ∧
      w'.taken = w.taken ++ (if e.isRun then w.handler.pendingTx.items.head?.toList else []) ∧
      w'.handler.pendingTx =
        (if e.isRun then w.handler.pendingTx.rest else e.accepts.foldl Fifo.put w.handler.pendingTx) := by
  obtain ⟨hinside, hsteady, hsends, hrange, htaken, hnewest⟩ := h
  cases e with
  | edge time =>
    obtain ⟨receiver, heq, hrec, -⟩ := RfReceiver.handleInterrupt_spec hinside time
    refine ⟨{ w with handler := { w.handler with receiver := receiver } }, by simp [RfWatch.step, heq],
      ⟨hrec.inside, hsteady, hsends, hrange, htaken, hnewest⟩, by simp [RfHandlerEvent.accepts], List.prefix_rfl,
      by simp [RfWatch.taken, RfHandlerEvent.isRun], by simp [RfHandlerEvent.accepts, RfHandlerEvent.isRun]⟩
  | message payload =>
    refine ⟨_, rfl, ?_, rfl, List.prefix_rfl, by simp [RfWatch.taken, RfHandlerEvent.isRun], ?_⟩
    · cases hcommand : RfHandler.commandOf payload with
      | none => simpa [RfHandler.messageArrivedCallback, hcommand] using
        Ordered.mk hinside hsteady hsends hrange htaken hnewest
      | some command =>
        have hsuffix := items_put_suffix w.handler.pendingTx command
        simp only [RfHandler.messageArrivedCallback, hcommand, Option.toList_some]
        refine ⟨hinside, hsteady, hsends, ?_, ?_, ?_⟩
        · intro other hother
          rcases List.mem_append.mp hother with hother | hother
          · exact hrange other hother
          · rw [List.mem_singleton.mp hother]
            exact RfHandler.inRange_commandOf hcommand
        · have happended := (List.Sublist.refl w.taken).append hsuffix.sublist
          rw [← List.append_assoc] at happended
          exact happended.trans (htaken.append (List.Sublist.refl _))
        · obtain ⟨older, holder⟩ := hnewest
          exact hsuffix.trans ⟨older, by rw [← List.append_assoc, holder]⟩
    · cases hcommand : RfHandler.commandOf payload <;>
        simp [RfHandler.messageArrivedCallback, RfHandlerEvent.accepts, RfHandlerEvent.isRun, hcommand]
  | run actualTime sent =>
    obtain ⟨pass, hrun, hin, hnext, hqueue, hcommand, -, hpass⟩ := RfHandler.pass_spec hinside hsteady
      (fun command hmem => hrange command (hnewest.subset hmem)) actualTime sent
    have hsplit : w.handler.pendingTx.items.head?.toList ++ w.handler.pendingTx.items.tail =
        w.handler.pendingTx.items := by
      cases w.handler.pendingTx.items <;> rfl
    refine ⟨_, by rw [RfWatch.step, hrun]; rfl, ?_, by simp [RfHandlerEvent.accepts], List.prefix_append _ _,
      by simp [RfWatch.taken, hcommand, RfHandlerEvent.isRun], by simp [hqueue, RfHandlerEvent.isRun]⟩
    refine ⟨hin, hnext, ?_, hrange, ?_, ?_⟩
    · intro t ht
      rcases List.mem_append.mp ht with ht | ht
      · exact hsends t ht
      · exact hpass t (Option.mem_toList.mp ht)
    · simp only [RfWatch.taken, List.map_append, map_transmission]
      rw [hqueue, hcommand, Fifo.items_rest, List.append_assoc, hsplit]
      exact htaken
    · rw [hqueue, Fifo.items_rest]
      exact (List.tail_suffix _).trans hnewest

theorem Ordered.run {w : RfWatch} (h : w.Ordered) (es : List RfHandlerEvent) :
    ∃ w', w.run es = some w' ∧ w'.Ordered ∧ w'.accepted = w.accepted ++ es.flatMap RfHandlerEvent.accepts ∧
      w.transmissions <+: w'.transmissions := by
  induction es generalizing w with
  | nil => exact ⟨w, rfl, h, by simp, List.prefix_rfl⟩
  | cons e es ih =>
    obtain ⟨w', hstep, h', haccepted, hprefix, -⟩ := h.step e
    obtain ⟨w'', hrun, h'', haccepted', hprefix'⟩ := ih h'
    exact ⟨w'', by simp [hstep, hrun], h'', by simp [haccepted', haccepted], hprefix.trans hprefix'⟩

/-- Commands are transmitted in the order in which they came, each as it was accepted, those that wait are the
newest ones, and a pass blocks for a bounded time whatever the broker sends. -/
theorem commands_in_order (interrupt : Int32) (rfTxPin : UInt8) (es : List RfHandlerEvent) :
    ∃ w, (init interrupt rfTxPin).run es = some w ∧ w.accepted = es.flatMap RfHandlerEvent.accepts ∧
      (w.taken ++ w.handler.pendingTx.items).Sublist w.accepted ∧ w.handler.pendingTx.items <:+ w.accepted ∧
      (∀ t ∈ w.transmissions, t.Sends) ∧
      ∀ actualTime sent, ∃ pass, w.handler.run actualTime sent = some pass ∧
        pass.command = w.handler.pendingTx.items.head? ∧ (pass.command = none → pass.outputs = []) ∧
        (∀ t ∈ pass.transmission, t.Sends) ∧ RfOutput.blocking pass.outputs ≤ 1440000 := by
  obtain ⟨w, hrun, hw, haccepted, -⟩ := (ordered_init interrupt rfTxPin).run es
  refine ⟨w, hrun, by simpa [init] using haccepted, hw.taken, hw.newest, hw.sends, ?_⟩
  intro actualTime sent
  have hrange : ∀ command ∈ w.handler.pendingTx.items, command.InRange :=
    fun command hmem => hw.inRange command (hw.newest.subset hmem)
  obtain ⟨pass, hpass, -, -, -, hcommand, hnone, hsends⟩ :=
    RfHandler.pass_spec hw.inside hw.steady hrange actualTime sent
  refine ⟨pass, hpass, hcommand, hnone, hsends, ?_⟩
  cases htakes : pass.command with
  | none =>
    rw [hnone htakes]
    exact Nat.zero_le _
  | some command =>
    have hsent := hsends ⟨command, pass.handler.rfTransceiver, pass.outputs⟩ (by simp [RfPass.transmission, htakes])
    exact hsent.blocking (hrange command (List.mem_of_head? (hcommand.symm.trans htakes)))

theorem Ordered.takes {w w' : RfWatch} (h : w.Ordered) {es : List RfHandlerEvent} (hrun : w.run es = some w') :
    ∃ more, w'.taken = w.taken ++ more ∧
      more.Sublist (w.handler.pendingTx.items ++ es.flatMap RfHandlerEvent.accepts) := by
  induction es generalizing w with
  | nil =>
    obtain rfl := Option.some.inj hrun
    exact ⟨[], by simp, List.nil_sublist _⟩
  | cons e es ih =>
    obtain ⟨w₁, hstep, h₁, -, -, htaken, hqueue⟩ := h.step e
    simp only [run_cons, hstep, Option.bind_some] at hrun
    obtain ⟨more, hmore, hsub⟩ := ih h₁ hrun
    refine ⟨_, by rw [hmore, htaken, List.append_assoc], ?_⟩
    rw [hqueue] at hsub
    cases e with
    | run actualTime sent =>
      simp only [RfHandlerEvent.isRun, if_true, Fifo.items_rest, List.flatMap_cons, RfHandlerEvent.accepts,
        List.nil_append] at hsub ⊢
      cases hitems : w.handler.pendingTx.items with
      | nil => simpa [hitems] using hsub
      | cons command commands => simpa [hitems] using hsub
    | edge time => simpa [RfHandlerEvent.isRun, RfHandlerEvent.accepts] using hsub
    | message payload =>
      simp only [RfHandlerEvent.isRun, Bool.false_eq_true, if_false, RfHandlerEvent.accepts, List.flatMap_cons,
        List.nil_append, ← List.append_assoc] at hsub ⊢
      refine hsub.trans (List.Sublist.append ?_ (List.Sublist.refl _))
      cases hcommand : RfHandler.commandOf payload with
      | none => simp
      | some command => exact (items_put_suffix w.handler.pendingTx command).sublist

/-- A command with fewer than four behind it is not overwritten, and every pass brings it closer to the
transmitter. -/
theorem Ordered.reaches {command : RfData} {w : RfWatch} (h : w.Ordered) {ahead behind : List RfData}
    (hitems : w.handler.pendingTx.items = ahead ++ command :: behind) {es : List RfHandlerEvent}
    (hroom : behind.length + (es.flatMap RfHandlerEvent.accepts).length < 4)
    (hpasses : ahead.length < es.countP RfHandlerEvent.isRun) :
    ∃ w' front back, w.run es = some w' ∧ w'.taken = w.taken ++ front ++ command :: back ∧ front.Sublist ahead ∧
      back.Sublist (behind ++ es.flatMap RfHandlerEvent.accepts) := by
  induction es generalizing w ahead behind with
  | nil => simp at hpasses
  | cons e es ih =>
    obtain ⟨w₁, hstep, h₁, -, -, htaken, hqueue⟩ := h.step e
    cases e with
    | edge time =>
      simp only [RfHandlerEvent.isRun, RfHandlerEvent.accepts, Bool.false_eq_true, if_false, List.append_nil,
        List.foldl_nil] at htaken hqueue
      obtain ⟨w', front, back, hrun, htakes, hfront, hback⟩ := ih h₁ (by rw [hqueue, hitems])
        (by simpa [RfHandlerEvent.accepts] using hroom) (by simpa [RfHandlerEvent.isRun] using hpasses)
      exact ⟨w', front, back, by simp [hstep, hrun], by rw [htakes, htaken], hfront,
        by simpa [RfHandlerEvent.accepts] using hback⟩
    | run actualTime sent =>
      simp only [RfHandlerEvent.isRun, if_true] at htaken hqueue
      cases ahead with
      | nil =>
        obtain ⟨w', hrun, -⟩ := h₁.run es
        obtain ⟨more, hmore, hsub⟩ := h₁.takes hrun
        rw [hqueue, Fifo.items_rest, hitems] at hsub
        exact ⟨w', [], more, by simp [hstep, hrun], by simp [hmore, htaken, hitems], List.nil_sublist _,
          by simpa [RfHandlerEvent.accepts] using hsub⟩
      | cons first ahead =>
        obtain ⟨w', front, back, hrun, htakes, hfront, hback⟩ := @ih w₁ h₁ ahead behind
          (by rw [hqueue, Fifo.items_rest, hitems]; rfl) (by simpa [RfHandlerEvent.accepts] using hroom)
          (by simpa [List.countP_cons, RfHandlerEvent.isRun] using hpasses)
        exact ⟨w', first :: front, back, by simp [hstep, hrun], by simp [htakes, htaken, hitems],
          hfront.cons_cons first, by simpa [RfHandlerEvent.accepts] using hback⟩
    | message payload =>
      simp only [RfHandlerEvent.isRun, Bool.false_eq_true, if_false, List.append_nil] at htaken hqueue
      cases hcommand : RfHandler.commandOf payload with
      | none =>
        have hnone : (RfHandlerEvent.message payload).accepts = [] := by simp [RfHandlerEvent.accepts, hcommand]
        rw [hnone] at hqueue
        obtain ⟨w', front, back, hrun, htakes, hfront, hback⟩ := ih h₁ (by rw [hqueue, List.foldl_nil, hitems])
          (by simpa [hnone] using hroom) (by simpa [RfHandlerEvent.isRun] using hpasses)
        exact ⟨w', front, back, by simp [hstep, hrun], by rw [htakes, htaken], hfront, by simpa [hnone] using hback⟩
      | some next =>
        have hnext : (RfHandlerEvent.message payload).accepts = [next] := by simp [RfHandlerEvent.accepts, hcommand]
        rw [hnext, List.foldl_cons, List.foldl_nil] at hqueue
        rw [List.flatMap_cons, hnext, List.length_append, List.length_singleton] at hroom
        have hbehind : (behind ++ [next]).length + (es.flatMap RfHandlerEvent.accepts).length < 4 := by
          rw [List.length_append, List.length_singleton]
          omega
        have hkept : ∃ ahead', w₁.handler.pendingTx.items = ahead' ++ command :: (behind ++ [next]) ∧
            ahead'.Sublist ahead := by
          rw [hqueue]
          cases hfull : w.handler.pendingTx.isFull with
          | false => exact ⟨ahead, by rw [Fifo.items_put hfull, hitems]; simp, List.Sublist.refl _⟩
          | true =>
            refine ⟨ahead.tail, ?_, List.tail_sublist ahead⟩
            rw [Fifo.items_put_full hfull, hitems]
            cases ahead with
            | nil =>
              have hlength : w.handler.pendingTx.items.length = 4 := by simpa [Fifo.isFull] using hfull
              rw [hitems, List.nil_append, List.length_cons] at hlength
              omega
            | cons first ahead => simp
        obtain ⟨ahead', hitems₁, hsub⟩ := hkept
        obtain ⟨w', front, back, hrun, htakes, hfront, hback⟩ := ih h₁ hitems₁ hbehind
          (Nat.lt_of_le_of_lt hsub.length_le (by simpa [RfHandlerEvent.isRun] using hpasses))
        exact ⟨w', front, back, by simp [hstep, hrun], by rw [htakes, htaken], hfront.trans hsub,
          by simpa [hnext] using hback⟩

/-- A command that is accepted is transmitted by the fourth pass from there on, behind those that waited before
it, unless four more come first. -/
theorem command_transmitted (interrupt : Int32) (rfTxPin : UInt8) (es fs : List RfHandlerEvent)
    {payload : RfPayload}
    {command : RfData} (hcommand : RfHandler.commandOf payload = some command)
    (hroom : (fs.flatMap RfHandlerEvent.accepts).length < 4) (hpasses : 4 ≤ fs.countP RfHandlerEvent.isRun) :
    ∃ w w' front t back, (init interrupt rfTxPin).run es = some w ∧ w.run (.message payload :: fs) = some w' ∧
      w'.transmissions = w.transmissions ++ front ++ t :: back ∧ t.command = command ∧ t.Sends ∧
      (front.map RfTransmission.command).Sublist w.handler.pendingTx.items ∧
      (back.map RfTransmission.command).Sublist (fs.flatMap RfHandlerEvent.accepts) := by
  obtain ⟨w, hrun, hw, -⟩ := (ordered_init interrupt rfTxPin).run es
  obtain ⟨w₁, hstep, h₁, -, -, htaken, hqueue⟩ := hw.step (.message payload)
  have haccepts : (RfHandlerEvent.message payload).accepts = [command] := by simp [RfHandlerEvent.accepts, hcommand]
  simp only [haccepts, RfHandlerEvent.isRun, Bool.false_eq_true, if_false, List.foldl_cons, List.foldl_nil,
    List.append_nil] at hqueue htaken
  have hbounded := w₁.handler.pendingTx.bounded
  have hitems : ∃ ahead, w₁.handler.pendingTx.items = ahead ++ [command] ∧
      ahead.Sublist w.handler.pendingTx.items := by
    rw [hqueue]
    cases hfull : w.handler.pendingTx.isFull with
    | false => exact ⟨_, Fifo.items_put hfull command, List.Sublist.refl _⟩
    | true =>
      refine ⟨w.handler.pendingTx.items.tail, ?_, List.tail_sublist _⟩
      rw [Fifo.items_put_full hfull]
      cases hempty : w.handler.pendingTx.items with
      | nil => simp [Fifo.isFull, hempty] at hfull
      | cons first rest => rfl
  obtain ⟨ahead, hitems, hsub⟩ := hitems
  rw [hitems, List.length_append, List.length_singleton] at hbounded
  obtain ⟨w', front, back, hreached, htakes, hfront, hback⟩ := h₁.reaches hitems (by simpa using hroom)
    (by omega : ahead.length < fs.countP RfHandlerEvent.isRun)
  have hmessage : w.run (.message payload :: fs) = some w' := by simp [hstep, hreached]
  -- what was transmitted before the command came is still there
  obtain ⟨w'', hrun'', h'', -, more, hmore⟩ := hw.run (.message payload :: fs)
  obtain rfl := Option.some.inj (hrun''.symm.trans hmessage)
  have hcommands : more.map RfTransmission.command = front ++ command :: back := by
    rw [htaken, taken, taken, ← hmore, List.map_append, List.append_assoc] at htakes
    exact List.append_cancel_left htakes
  obtain ⟨sentBefore, sentFrom, rfl, rfl, hfrom⟩ := List.map_eq_append_iff.mp hcommands
  obtain ⟨t, sentBehind, rfl, rfl, rfl⟩ := List.map_eq_cons_iff.mp hfrom
  refine ⟨w, w'', sentBefore, t, sentBehind, hrun, hmessage, ?_, rfl, ?_, hfront.trans hsub, by simpa using hback⟩
  · rw [← hmore, List.append_assoc]
  · exact h''.sends t (by rw [← hmore]; simp)

/-- A socket's command behind a pulse of another length. -/
theorem command_transmitted_socket :
    ∃ w w' front t back, (init 5 4).run [.message ⟨some 0, some 0, some 1, some 200⟩] = some w ∧
      w.run (.message ⟨some 0x155, some 24, some 1, some 350⟩ :: [.run 10 true, .run 20 true, .run 30 true,
        .run 40 true]) =
        some w' ∧
      w'.transmissions = w.transmissions ++ front ++ t :: back ∧ t.command = ⟨0x155, 24, 1, 350⟩ ∧ t.Sends ∧
      (front.map RfTransmission.command).Sublist w.handler.pendingTx.items ∧
      (back.map RfTransmission.command).Sublist [] :=
  command_transmitted 5 4 [.message ⟨some 0, some 0, some 1, some 200⟩]
    [.run 10 true, .run 20 true, .run 30 true, .run 40 true] (by decide) (by decide) (by decide)

end RfWatch

/-! ## Repeated frames -/

namespace RfReception

def published (r : RfReception) : Bool := r.message.isSome && r.reported

/-- Whether two receptions follow each other within the time of a repeat. -/
def close (newer older : RfReception) : Bool := !Time.hasElapsed newer.time older.time RfHandler.dataCheckTime

/-- `p` is the last of the receptions `past` that was published, and it is followed by the others and by `r`
without a longer gap. -/
def Leads (p r : RfReception) (past : List RfReception) : Prop :=
  ∃ between older, past = between ++ p :: older ∧ p.published = true ∧ (∀ q ∈ between, q.published = false) ∧
    List.IsChain (fun newer older => close newer older = true) (r :: between ++ [p])

def leader (r : RfReception) : List RfReception → Option RfReception
  | [] => none
  | q :: past => if close r q then if q.published then some q else leader q past else none

theorem leads_nil {p r : RfReception} : ¬ p.Leads r [] := by
  intro h
  obtain ⟨between, older, heq, -⟩ := h
  simp at heq

theorem leads_cons {p r q : RfReception} {past : List RfReception} :
    p.Leads r (q :: past) ↔ close r q = true ∧
      (q.published = true ∧ p = q ∨ q.published = false ∧ p.Leads q past) := by
  constructor
  · intro h
    obtain ⟨between, older, heq, hpub, hall, hchain⟩ := h
    cases between with
    | nil =>
      obtain ⟨rfl, rfl⟩ := List.cons.inj heq
      exact ⟨by simpa using hchain, Or.inl ⟨hpub, rfl⟩⟩
    | cons b between =>
      obtain ⟨rfl, rfl⟩ := List.cons.inj heq
      simp only [List.cons_append, List.isChain_cons_cons] at hchain
      exact ⟨hchain.1, Or.inr ⟨hall _ List.mem_cons_self, between, older, rfl, hpub,
        fun q hq => hall q (List.mem_cons_of_mem _ hq), hchain.2⟩⟩
  · intro h
    obtain ⟨hclose, ⟨hpub, rfl⟩ | ⟨hpub, between, older, rfl, hp, hall, hchain⟩⟩ := h
    · exact ⟨[], past, rfl, hpub, by simp, by simpa using hclose⟩
    · refine ⟨q :: between, older, rfl, hp, ?_, List.isChain_cons_cons.mpr ⟨hclose, hchain⟩⟩
      intro q' hq'
      rcases List.mem_cons.mp hq' with rfl | hq'
      · exact hpub
      · exact hall q' hq'

theorem leads_iff {p r : RfReception} {past : List RfReception} : p.Leads r past ↔ leader r past = some p := by
  induction past generalizing r with
  | nil => simp [leads_nil, leader]
  | cons q past ih =>
    rw [leads_cons, leader, ih]
    by_cases hclose : close r q = true
    · by_cases hpub : q.published = true
      · simp [hclose, hpub, eq_comm]
      · simp [hclose, hpub]
    · simp [hclose]

/-- Whether each reception was filtered as those before it say, and else reported as it was. -/
def Filtered : List RfReception → Prop
  | [] => True
  | r :: past => (r.message = none ↔ ∃ p : RfReception, p.Leads r past ∧ p.frame.same r.frame = true) ∧
      (∀ text ∈ r.message, text = r.frame.message) ∧ Filtered past

theorem Filtered.behind {later past : List RfReception} {r : RfReception} (h : Filtered (later ++ r :: past)) :
    (r.message = none ↔ ∃ p : RfReception, p.Leads r past ∧ p.frame.same r.frame = true) ∧ ∀ text ∈ r.message,
      text = r.frame.message := by
  induction later with
  | nil => exact ⟨h.1, h.2.1⟩
  | cons q later ih => exact ih h.2.2

end RfReception

namespace RfHandler

open RfReception (leader)

/-- The time of the latest reception, and the data that a repeat of it would be filtered by. -/
def Remembers (h : RfHandler) : List RfReception → Prop
  | [] => h.lastRfData = default
  | q :: past => h.dataCheckTimer = q.time ∧
      h.lastRfData = if q.published then q.frame else ((leader q past).map RfReception.frame).getD default

theorem Remembers.lastData {h : RfHandler} {past : List RfReception} (hpast : h.Remembers past) (r : RfReception) :
    h.lastData r.time = ((leader r past).map RfReception.frame).getD default := by
  unfold RfHandler.lastData
  cases past with
  | nil =>
    have hlast : h.lastRfData = default := hpast
    simp [hlast, leader]
  | cons q past =>
    obtain ⟨htimer, hlast⟩ := hpast
    rw [htimer, hlast, leader]
    by_cases helapsed : Time.hasElapsed r.time q.time dataCheckTime = true
    · simp [RfReception.close, helapsed]
    · by_cases hpub : q.published = true
      · simp [RfReception.close, helapsed, hpub]
      · simp [RfReception.close, helapsed, hpub]

theorem Remembers.report {h : RfHandler} {past : List RfReception} (hpast : h.Remembers past)
    (hfiltered : RfReception.Filtered past)
    (actualTime : UInt32) (sent : Bool) {frame : RfData} (hdata : frame.data ≠ 0) :
    (h.report actualTime sent frame).1.Remembers ((h.report actualTime sent frame).2 :: past) ∧
      RfReception.Filtered ((h.report actualTime sent frame).2 :: past) := by
  cases hsame : (h.lastData actualTime).same frame with
  | true =>
    have hlast := hpast.lastData ⟨actualTime, frame, none, true⟩
    rw [report_same hsame]
    refine ⟨⟨rfl, by simpa [RfReception.published] using hlast⟩, ?_, by simp, hfiltered⟩
    simp only [RfReception.leads_iff, true_iff]
    cases hleader : leader ⟨actualTime, frame, none, true⟩ past with
    | none =>
      rw [hleader, Option.map_none, Option.getD_none] at hlast
      simp only [hlast, RfData.same, Bool.and_eq_true, beq_iff_eq] at hsame
      exact absurd hsame.1.1.symm hdata
    | some p =>
      rw [hleader, Option.map_some, Option.getD_some] at hlast
      exact ⟨p, rfl, hlast ▸ hsame⟩
  | false =>
    have hlast := hpast.lastData ⟨actualTime, frame, some frame.message, sent⟩
    rw [report_other hsame]
    refine ⟨⟨rfl, ?_⟩, ?_, by simp, hfiltered⟩
    · cases sent with
      | true => simp [RfReception.published]
      | false => simpa [RfReception.published] using hlast
    · simp only [RfReception.leads_iff, reduceCtorEq, false_iff, not_exists, not_and]
      intro p hleader hsame'
      rw [hleader, Option.map_some, Option.getD_some] at hlast
      rw [hlast, hsame'] at hsame
      cases hsame

theorem Remembers.congr {h h' : RfHandler} {past : List RfReception} (hpast : h.Remembers past)
    (hlast : h'.lastRfData = h.lastRfData) (htimer : h'.dataCheckTimer = h.dataCheckTimer) : h'.Remembers past := by
  cases past with
  | nil => exact hlast.trans hpast
  | cons q past => exact ⟨htimer.trans hpast.1, hlast.trans hpast.2⟩

end RfHandler

namespace RfWatch

end RfWatch

end CanSystems
