import CanSystems.PumpOutput
import CanSystems.Lib.Machine

/-!
# How long an irrigation runs

Real time is a number of milliseconds, of which the code sees the low 32 bits. An
observer notes when the running irrigation was started and when it was last
skipped. A pass ends the irrigation once its time is up; a skip puts its end to
the millisecond of the call, and nothing else moves it.
-/

namespace CanSystems

def PumpOp.clocked (t : Nat) : PumpOp → PumpOp
  | .run io => .run { io with now := UInt32.ofNat t }
  | .createIrrigation element => .createIrrigation element
  | .addSafetyIrrigation time channel duration checkFlow checkCurrent pwmValue repeatNum _ =>
    .addSafetyIrrigation time channel duration checkFlow checkCurrent pwmValue repeatNum (UInt32.ofNat t)
  | .addLimitSwitch channel limitSwitch => .addLimitSwitch channel limitSwitch
  | .skipActualIrrigation _ => .skipActualIrrigation (UInt32.ofNat t)
  | .skipAllIrrigations _ => .skipAllIrrigations (UInt32.ofNat t)

def PumpOp.isPass : PumpOp → Bool
  | .run _ => true
  | _ => false

def PumpOp.isSkip : PumpOp → Bool
  | .skipActualIrrigation _ => true
  | _ => false

structure PumpTimer where
  pc : PumpControl
  /-- The last call, and the last pass. -/
  now : Nat
  lastPass : Nat
  startedAt : Nat
  /-- The last skip of the irrigation that runs. -/
  skippedAt : Option Nat
  deriving DecidableEq

namespace PumpTimer

def init (pcf : PCF8574) (reportError : Bool) (t : Nat) : PumpTimer :=
  ⟨PumpControl.init pcf reportError (UInt32.ofNat t), t, t, t, none⟩

def step (w : PumpTimer) (e : PumpOp × Nat) : PumpTimer :=
  let pc := w.pc.step (e.1.clocked e.2)
  let starts := w.pc.irrigationState ≠ .RUN ∧ pc.irrigationState = .RUN
  { pc := pc
    now := e.2
    lastPass := if e.1.isPass then e.2 else w.lastPass
    startedAt := if starts then e.2 else w.startedAt
    skippedAt := if starts then none else if e.1.isSkip ∧ w.pc.irrigationState = .RUN then some e.2 else
      w.skippedAt }

/-- The clock goes forward, and passes are less than half a turn of it apart. -/
def OnTime (w : PumpTimer) (e : PumpOp × Nat) : Prop :=
  w.now ≤ e.2 ∧ (e.1.isPass = true → e.2 < w.lastPass + 2 ^ 31)

instance (w : PumpTimer) (e : PumpOp × Nat) : Decidable (w.OnTime e) := inferInstanceAs (Decidable (_ ∧ (_ → _)))

def duration (w : PumpTimer) : Nat := w.pc.irrigationQueue.peek.durationMs.toNat

end PumpTimer

/-! ## The timer of the code -/

theorem durationMs_lt (e : IrrigationQueueElement) : e.durationMs.toNat < 2 ^ 20 := by
  have hduration : e.duration.toNat ≤ 7 := by
    rw [IrrigationQueueElement.duration, UInt8.toNat_and]
    exact Nat.and_le_right
  have hsixty : (60 : UInt32).toNat = 60 := rfl
  have hthousand : (1000 : UInt32).toNat = 1000 := rfl
  rw [IrrigationQueueElement.durationMs, Time.minToMs, UInt32.toNat_mul, UInt32.toNat_mul, UInt16.toNat_toUInt32,
    UInt8.toNat_toUInt16, hsixty, hthousand, Nat.mod_eq_of_lt (show e.duration.toNat * 60 < 2 ^ 32 by omega)]
  exact Nat.lt_of_le_of_lt (Nat.mod_le _ _) (by omega)

namespace PumpControl

theorem run_starts {pc : PumpControl} (h : pc.Output) (io : PumpIo) (hbefore : pc.irrigationState ≠ .RUN)
    (hafter : (pc.run io).2.irrigationState = .RUN) : (pc.run io).2.eventTimer = io.now := by
  cases hstate : pc.irrigationState with
  | IDLE =>
    cases hqueue : pc.irrigationQueue.items with
    | nil =>
      obtain ⟨-, hnext⟩ := run_idle_watch io hstate hqueue
      rw [hafter] at hnext
      rcases hnext with h | h <;> cases h
    | cons e rest =>
      obtain ⟨err, hreport⟩ := ((pc.sense io).startHead io).report_cases
      rw [run_idle_cons io hstate hqueue, hreport] at hafter ⊢
      rcases (pc.sense io).selectChannel_cases (pc.sense io).irrigationQueue.peek.channel io.acknowledged with
        ⟨pcf, hselect, -⟩ | hselect
      · simp only [startHead, hselect]
      · simp only [startHead, hselect] at hafter
        cases hafter
  | RUN => exact absurd hstate hbefore
  | STOP =>
    obtain ⟨head, rest, hqueue, -⟩ := h.running (.inr hstate)
    rw [(run_stop io hstate hqueue).2.1] at hafter
    cases hafter
  | ERROR =>
    rw [(run_error io hstate).2.1] at hafter
    cases hafter
  | CALIBRATION =>
    obtain ⟨-, -, hnext⟩ := run_calibration io hstate
    rw [hafter] at hnext
    rcases hnext with h | h <;> cases h

theorem checkFlow_timer (pc : PumpControl) : pc.checkFlow.eventTimer = pc.eventTimer := by
  unfold checkFlow
  split
  · split <;> rfl
  · rfl

theorem checkCurrent_timer (pc : PumpControl) : pc.checkCurrent.eventTimer = pc.eventTimer := by
  unfold checkCurrent
  split
  · simp only
    split <;> split <;> rfl
  · rfl

/-- A pass leaves the timer of an irrigation that runs, and goes on only where its time is not up. -/
theorem run_timer {pc : PumpControl} (io : PumpIo) (hstate : pc.irrigationState = .RUN) :
    (pc.run io).2.eventTimer = pc.eventTimer ∧ (pc.ended io = true → (pc.run io).2.irrigationState = .STOP) := by
  have hrun : (pc.run io).2 = (pc.sense io).handleRun io := by
    simp only [run]
    rw [show (pc.sense io).irrigationState = .RUN from hstate]
  have hended : (pc.sense io).ended io = pc.ended io := rfl
  rw [hrun, handleRun, hended]
  by_cases hover : pc.ended io = true
  · rw [if_pos hover]
    exact ⟨rfl, fun _ => rfl⟩
  · rw [if_neg hover]
    refine ⟨?_, fun h => absurd h hover⟩
    split
    · rw [checkCurrent_timer, checkFlow_timer]
      rfl
    · rfl

/-- The limit switch of the irrigation that runs is there, and closed. -/
def LimitReached (pc : PumpControl) (io : PumpIo) : Prop :=
  pc.limitSwitches.get pc.irrigationQueue.peek.channel = true ∧ io.limitSwitch = true

theorem ended_iff (pc : PumpControl) (io : PumpIo) :
    pc.ended io = true ↔ Time.hasElapsed io.now pc.eventTimer pc.irrigationQueue.peek.durationMs = true ∨
      pc.LimitReached io := by
  simp only [ended, LimitReached, Bool.or_eq_true, Bool.and_eq_true]
  rfl

theorem createIrrigation_peek {pc : PumpControl} {head : IrrigationQueueElement}
    {rest : List IrrigationQueueElement}
    (hqueue : pc.irrigationQueue.items = head :: rest) (element : IrrigationQueueElement) :
    (pc.createIrrigation element).irrigationQueue.peek = pc.irrigationQueue.peek := by
  obtain ⟨added, hitems⟩ := (pc.createIrrigation_puts element).items
  rw [hqueue, List.cons_append] at hitems
  rw [Fifo.peek_cons hitems, Fifo.peek_cons hqueue]

/-- The irrigation that runs is the same after any other call that lets it run, and so is its timer unless it is
skipped. -/
theorem step_running {pc : PumpControl} (h : pc.Output) {op : PumpOp} (hbefore : pc.irrigationState = .RUN)
    (hafter : (pc.step op).irrigationState = .RUN) :
    (pc.step op).irrigationQueue.peek = pc.irrigationQueue.peek ∧
    (op.isSkip = false → (pc.step op).eventTimer = pc.eventTimer) := by
  cases op with
  | run io => exact ⟨by rw [PumpControl.step, (run_run io hbefore).1], fun _ => (run_timer io hbefore).1⟩
  | createIrrigation element =>
    obtain ⟨head, rest, hqueue, -⟩ := h.running (.inl hbefore)
    refine ⟨createIrrigation_peek hqueue element, fun _ => ?_⟩
    obtain ⟨queue, err, hputs, -⟩ := pc.createIrrigation_puts element
    rw [PumpControl.step, hputs]
  | addSafetyIrrigation time channel duration checkFlow checkCurrent pwmValue repeatNum now =>
    exact ⟨rfl, fun _ => rfl⟩
  | addLimitSwitch channel limitSwitch => exact ⟨rfl, fun _ => rfl⟩
  | skipActualIrrigation now =>
    rw [PumpControl.step, skipActualIrrigation, if_pos hbefore]
    exact ⟨rfl, fun hno => by cases hno⟩
  | skipAllIrrigations now => cases hafter

theorem step_starts {pc : PumpControl} {op : PumpOp} (hbefore : pc.irrigationState ≠ .RUN)
    (hafter : (pc.step op).irrigationState = .RUN) : ∃ io, op = .run io := by
  cases op with
  | run io => exact ⟨io, rfl⟩
  | createIrrigation element =>
    exact absurd ((pc.createIrrigation_puts element).state.symm.trans hafter) hbefore
  | addSafetyIrrigation time channel duration checkFlow checkCurrent pwmValue repeatNum now =>
    exact absurd hafter hbefore
  | addLimitSwitch channel limitSwitch => exact absurd hafter hbefore
  | skipActualIrrigation now =>
    rw [PumpControl.step, skipActualIrrigation, if_neg hbefore] at hafter
    exact absurd hafter hbefore
  | skipAllIrrigations now => cases hafter

/-! ## After the end -/

/-- An irrigation on the channel has ended, and no pass has seen to it yet. -/
def Over (channel : Fin 4) (pc : PumpControl) : Prop :=
  pc.Output ∧ (pc.irrigationState = .STOP ∧ pc.irrigationQueue.peek.channel = channel ∨ pc.irrigationState = .ERROR)

theorem Over.step {channel : Fin 4} {pc : PumpControl} (h : Over channel pc) {op : PumpOp}
    (hop : op.isPass = false) :
    Over channel (pc.step op) := by
  refine ⟨h.1.step op, ?_⟩
  cases op with
  | run io => cases hop
  | createIrrigation element =>
    have hstate := (pc.createIrrigation_puts element).state
    rcases h.2 with ⟨hstop, hchannel⟩ | herror
    · obtain ⟨head, rest, hqueue, -⟩ := h.1.running (.inr hstop)
      refine .inl ⟨hstate.trans hstop, ?_⟩
      rw [PumpControl.step, createIrrigation_peek hqueue element]
      exact hchannel
    · exact .inr (hstate.trans herror)
  | addSafetyIrrigation time channel' duration checkFlow checkCurrent pwmValue repeatNum now => exact h.2
  | addLimitSwitch channel' limitSwitch => exact h.2
  | skipActualIrrigation now =>
    have hnot : pc.irrigationState ≠ .RUN := by
      intro hrun
      rcases h.2 with ⟨hstop, -⟩ | herror
      · rw [hrun] at hstop
        cases hstop
      · rw [hrun] at herror
        cases herror
    rw [PumpControl.step, skipActualIrrigation, if_neg hnot]
    exact h.2
  | skipAllIrrigations now => exact .inr rfl

def OffBut (channel : Fin 4) (pc : PumpControl) : Prop :=
  pc.pwm = 0 ∨ ∃ next rest, pc.irrigationQueue.items = next :: rest ∧ next.channel = channel

theorem Over.pass {channel : Fin 4} {pc : PumpControl} (h : Over channel pc) (io : PumpIo) :
    OffBut channel (pc.run io).2 := by
  rcases h.2 with ⟨hstop, hchannel⟩ | herror
  · obtain ⟨head, rest, hqueue, -⟩ := h.1.running (.inr hstop)
    rw [Fifo.peek_cons hqueue] at hchannel
    obtain ⟨-, -, -, hoff | ⟨next, rest', hnext, hsame⟩⟩ := run_stop io hstop hqueue
    · exact .inl hoff
    · exact .inr ⟨next, rest', hnext, hsame.trans hchannel⟩
  · exact .inl (run_error io herror).2.2

end PumpControl

/-! ## In real time -/

namespace PumpTimer

def endsAt (w : PumpTimer) : Nat :=
  match w.skippedAt with
  | none => w.startedAt + w.duration
  | some t => t

/-- The timer of the code stands for the times that were noted, and no pass has gone on past the end. -/
structure Runs (w : PumpTimer) : Prop where
  started_le : w.startedAt ≤ w.now
  skipped_le : ∀ t ∈ w.skippedAt, t ≤ w.now
  pass_le : w.lastPass ≤ w.endsAt
  timer : w.pc.eventTimer =
    match w.skippedAt with
    | none => UInt32.ofNat w.startedAt
    | some t => UInt32.ofNat t - w.pc.irrigationQueue.peek.durationMs

structure Inv (w : PumpTimer) : Prop where
  output : w.pc.Output
  pass_le : w.lastPass ≤ w.now
  runs : w.pc.irrigationState = .RUN → Runs w

theorem Runs.elapsed {w : PumpTimer} (h : Runs w) {t : Nat} (hle : w.now ≤ t) (hlt : t < w.lastPass + 2 ^ 31) :
    Time.hasElapsed (UInt32.ofNat t) w.pc.eventTimer w.pc.irrigationQueue.peek.durationMs = true ↔
      w.endsAt < t := by
  have hpass := h.pass_le
  have htimer := h.timer
  have hstarted := h.started_le
  have hskipped := h.skipped_le
  have hduration := durationMs_lt w.pc.irrigationQueue.peek
  rw [Time.hasElapsed, Time.elapsedSince, decide_eq_true_iff, UInt32.lt_iff_toNat_lt]
  rw [endsAt, duration] at *
  cases hskip : w.skippedAt with
  | none =>
    simp only [hskip] at hpass htimer ⊢
    rw [htimer, Time.toNat_sub_ofNat (by omega) (by omega)]
    omega
  | some s =>
    simp only [hskip] at hpass htimer ⊢
    have hs := hskipped s hskip
    have hsub : UInt32.ofNat t - (UInt32.ofNat s - w.pc.irrigationQueue.peek.durationMs) =
        (UInt32.ofNat t - UInt32.ofNat s) + w.pc.irrigationQueue.peek.durationMs := by
      have hnow := (UInt32.ofNat t).toNat_lt
      have hskip_lt := (UInt32.ofNat s).toNat_lt
      apply UInt32.toNat_inj.mp
      rw [UInt32.toNat_add, UInt32.toNat_sub, UInt32.toNat_sub, UInt32.toNat_sub]
      omega
    rw [htimer, hsub, UInt32.toNat_add, Time.toNat_sub_ofNat (by omega) (by omega)]
    omega

theorem clocked_isSkip (op : PumpOp) (t : Nat) : (op.clocked t).isSkip = op.isSkip := by
  cases op <;> rfl

theorem clocked_isPass (op : PumpOp) (t : Nat) : (op.clocked t).isPass = op.isPass := by
  cases op <;> rfl

theorem step_endsAt {w : PumpTimer} (h : w.pc.Output) {e : PumpOp × Nat} (hbefore : w.pc.irrigationState = .RUN)
    (hafter : (w.step e).pc.irrigationState = .RUN) (hskip : e.1.isSkip = false) :
    (w.step e).pc.irrigationQueue.peek = w.pc.irrigationQueue.peek ∧ (w.step e).pc.eventTimer = w.pc.eventTimer ∧
      (w.step e).startedAt = w.startedAt ∧ (w.step e).skippedAt = w.skippedAt ∧ (w.step e).endsAt = w.endsAt := by
  obtain ⟨hpeek, htimer⟩ := PumpControl.step_running h hbefore hafter
  have hstarts : ¬ (w.pc.irrigationState ≠ .RUN ∧ (w.pc.step (e.1.clocked e.2)).irrigationState = .RUN) :=
    fun hstarts => hstarts.1 hbefore
  have hstarted : (w.step e).startedAt = w.startedAt := if_neg hstarts
  have hskipped : (w.step e).skippedAt = w.skippedAt := by
    simp only [step, if_neg hstarts, hskip, Bool.false_eq_true, false_and, if_false]
  refine ⟨hpeek, htimer (by rw [clocked_isSkip, hskip]), hstarted, hskipped, ?_⟩
  simp only [endsAt, duration, hskipped, hstarted]
  rw [show (w.step e).pc.irrigationQueue.peek = w.pc.irrigationQueue.peek from hpeek]

theorem Inv.step {w : PumpTimer} (h : w.Inv) {e : PumpOp × Nat} (he : w.OnTime e) : (w.step e).Inv := by
  obtain ⟨op, t⟩ := e
  obtain ⟨hle, hlt⟩ := he
  simp only at hle hlt
  have hpass : (w.step (op, t)).lastPass ≤ t := by
    have hpass_le := h.pass_le
    simp only [PumpTimer.step]
    split
    · exact Nat.le_refl t
    · omega
  refine ⟨h.output.step _, hpass, fun hafter => ?_⟩
  by_cases hbefore : w.pc.irrigationState = .RUN
  · have hruns := h.runs hbefore
    have hstarted := hruns.started_le
    cases hskip : op.isSkip with
    | true =>
      -- The skip puts the end to its own time.
      have hskipped : (w.step (op, t)).skippedAt = some t := by
        have hstarts : ¬ (w.pc.irrigationState ≠ .RUN ∧ (w.pc.step (op.clocked t)).irrigationState = .RUN) :=
          fun hstarts => hstarts.1 hbefore
        exact (if_neg hstarts).trans (if_pos ⟨hskip, hbefore⟩)
      have hsame : (w.step (op, t)).startedAt = w.startedAt := if_neg fun hstarts => hstarts.1 hbefore
      refine ⟨?_, ?_, ?_, ?_⟩
      · rw [hsame]
        exact Nat.le_trans hstarted hle
      · rw [hskipped]
        intro s hs
        cases hs
        exact Nat.le_refl t
      · rw [endsAt, hskipped]
        exact hpass
      · rw [hskipped]
        cases op with
        | skipActualIrrigation now =>
          show (w.pc.skipActualIrrigation (UInt32.ofNat t)).eventTimer =
            UInt32.ofNat t - (w.pc.skipActualIrrigation (UInt32.ofNat t)).irrigationQueue.peek.durationMs
          rw [PumpControl.skipActualIrrigation, if_pos hbefore]
        | _ => cases hskip
    | false =>
      obtain ⟨hpeek, htimer, hstartedAt, hskippedAt, hends⟩ := step_endsAt h.output hbefore hafter hskip
      refine ⟨?_, ?_, ?_, ?_⟩
      · rw [hstartedAt]
        exact Nat.le_trans hstarted hle
      · rw [hskippedAt]
        exact fun s hs => Nat.le_trans (hruns.skipped_le s hs) hle
      · rw [hends]
        cases hop : op.isPass with
        | true =>
          cases op with
          | run io =>
            have hon : ¬ w.pc.ended { io with now := UInt32.ofNat t } = true := by
              intro hended
              have hstop := (PumpControl.run_timer { io with now := UInt32.ofNat t } hbefore).2 hended
              exact absurd (hstop.symm.trans hafter) (by decide)
            rw [PumpControl.ended_iff] at hon
            have hnot := mt (hruns.elapsed hle (hlt rfl)).mpr (not_or.mp hon).1
            exact Nat.le_of_not_lt hnot
          | _ => cases hop
        | false =>
          have hsame : (w.step (op, t)).lastPass = w.lastPass := if_neg (by rw [hop]; decide)
          rw [hsame]
          exact hruns.pass_le
      · rw [htimer, hskippedAt, hstartedAt, hpeek]
        exact hruns.timer
  · obtain ⟨io, hio⟩ := PumpControl.step_starts hbefore hafter
    cases op with
    | run io =>
      have hstarts : w.pc.irrigationState ≠ .RUN ∧ (w.pc.step ((PumpOp.run io).clocked t)).irrigationState = .RUN :=
        ⟨hbefore, hafter⟩
      have hstarted : (w.step (.run io, t)).startedAt = t := if_pos hstarts
      have hskipped : (w.step (.run io, t)).skippedAt = none := if_pos hstarts
      refine ⟨?_, ?_, ?_, ?_⟩
      · rw [hstarted]
        exact Nat.le_refl t
      · rw [hskipped]
        intro s hs
        cases hs
      · rw [endsAt, hskipped]
        simp only [hstarted]
        exact Nat.le_trans hpass (Nat.le_add_right t _)
      · rw [hskipped, hstarted]
        exact PumpControl.run_starts h.output { io with now := UInt32.ofNat t } hbefore hafter
    | _ => cases hio

theorem inv_init (pcf : PCF8574) (reportError : Bool) (t : Nat) : (init pcf reportError t).Inv where
  output := PumpControl.output_init pcf reportError _
  pass_le := Nat.le_refl t
  runs := by
    intro hrun
    cases hrun

def Reachable (w : PumpTimer) : Prop :=
  ∃ pcf reportError t es, Machine.Meets step OnTime (init pcf reportError t) es ∧
    Machine.run step (init pcf reportError t) es = w

theorem Reachable.inv {w : PumpTimer} (h : w.Reachable) : w.Inv := by
  obtain ⟨pcf, reportError, t, es, hes, rfl⟩ := h
  exact Machine.run_inv (fun _ _ h he => h.step he) (inv_init pcf reportError t) hes

theorem run_endsAt {w : PumpTimer} (h : w.pc.Output) (hrun : w.pc.irrigationState = .RUN) {es : List (PumpOp × Nat)}
    (hes : Machine.Meets step (fun w e => e.1.isSkip = false ∧ (w.step e).pc.irrigationState = .RUN) w es) :
    (Machine.run step w es).pc.irrigationQueue.peek = w.pc.irrigationQueue.peek ∧
      (Machine.run step w es).pc.eventTimer = w.pc.eventTimer ∧ (Machine.run step w es).endsAt = w.endsAt := by
  induction es generalizing w with
  | nil => exact ⟨rfl, rfl, rfl⟩
  | cons e es ih =>
    obtain ⟨⟨hskip, hafter⟩, hes⟩ := hes
    obtain ⟨hpeek, htimer, -, -, hends⟩ := step_endsAt h hrun hafter hskip
    obtain ⟨hpeek', htimer', hends'⟩ := ih (h.step (e.1.clocked e.2)) hafter hes
    exact ⟨hpeek'.trans hpeek, htimer'.trans htimer, hends'.trans hends⟩

/-- A pass that finds the time of an irrigation up, or its limit switch closed, ends it. -/
theorem Inv.ends {w : PumpTimer} (h : w.Inv) (hrun : w.pc.irrigationState = .RUN) {io : PumpIo} {t : Nat}
    (ht : w.OnTime (.run io, t)) (hover : w.endsAt < t ∨ w.pc.LimitReached io) :
    PumpControl.Over w.pc.irrigationQueue.peek.channel (w.step (.run io, t)).pc := by
  have hended : w.pc.ended { io with now := UInt32.ofNat t } = true := by
    rw [PumpControl.ended_iff]
    exact hover.imp_left ((h.runs hrun).elapsed ht.1 (ht.2 rfl)).mpr
  have hstop := (PumpControl.run_timer { io with now := UInt32.ofNat t } hrun).2 hended
  have hqueue := (PumpControl.run_run { io with now := UInt32.ofNat t } hrun).1
  refine ⟨h.output.step ((PumpOp.run io).clocked t), .inl ⟨hstop, ?_⟩⟩
  show (w.pc.run { io with now := UInt32.ofNat t }).2.irrigationQueue.peek.channel = _
  rw [hqueue]

theorem over_run {channel : Fin 4} {w : PumpTimer} (h : PumpControl.Over channel w.pc) {es : List (PumpOp × Nat)}
    (hes : ∀ e ∈ es, e.1.isPass = false) : PumpControl.Over channel (Machine.run step w es).pc := by
  induction es generalizing w with
  | nil => exact h
  | cons e es ih =>
    have hpass : (e.1.clocked e.2).isPass = false := by rw [clocked_isPass, hes e List.mem_cons_self]
    exact ih (h.step hpass) fun e' he' => hes e' (List.mem_cons_of_mem e he')

/-- A pass ends an irrigation whose minutes have passed or whose limit switch is closed, unless it was skipped in
the very millisecond of the pass; the next pass switches the pump off unless the next irrigation is on the
channel; and no other call moves the end. -/
theorem irrigation_bounded {w : PumpTimer} (hw : w.Reachable) (hrun : w.pc.irrigationState = .RUN) :
    (∀ io t, w.OnTime (.run io, t) →
      (w.startedAt + w.duration < t ∧ w.skippedAt ≠ some t) ∨ w.pc.LimitReached io →
        (w.step (.run io, t)).pc.irrigationState ≠ .RUN ∧
          ∀ mid io' t', (∀ e ∈ mid, e.1.isPass = false) →
            (step (Machine.run step (w.step (.run io, t)) mid) (.run io', t')).pc.OffBut
              w.pc.irrigationQueue.peek.channel) ∧
      ∀ es, Machine.Meets step (fun w e => e.1.isSkip = false ∧ (w.step e).pc.irrigationState = .RUN) w es →
        (Machine.run step w es).pc.irrigationQueue.peek = w.pc.irrigationQueue.peek ∧
          (Machine.run step w es).pc.eventTimer = w.pc.eventTimer ∧ (Machine.run step w es).endsAt = w.endsAt := by
  have hinv := hw.inv
  refine ⟨?_, fun es hes => run_endsAt hinv.output hrun hes⟩
  intro io t ht hover
  have hends : w.endsAt < t ∨ w.pc.LimitReached io := by
    refine hover.imp_left ?_
    intro ⟨hpast, hskip⟩
    rw [endsAt]
    cases hs : w.skippedAt with
    | none => exact hpast
    | some s =>
      rw [hs] at hskip
      have hle := Nat.le_trans ((hinv.runs hrun).skipped_le s hs) ht.1
      exact Nat.lt_of_le_of_ne hle fun heq => hskip (congrArg some heq)
  have hend := hinv.ends hrun ht hends
  refine ⟨?_, ?_⟩
  · intro hstill
    rcases hend.2 with ⟨hstop, -⟩ | herror
    · rw [hstill] at hstop
      cases hstop
    · rw [hstill] at herror
      cases herror
  · intro mid io' t' hmid
    exact (over_run hend hmid).pass { io' with now := UInt32.ofNat t' }

/-- What a pass reads where nothing is wrong, and the limit switch is open. -/
def calm : PumpIo := ⟨0, 512, 0, true, false, Vector.replicate 4 0, 0⟩

/-- One minute of water, and a pass a minute later. -/
theorem irrigation_bounded_minute :
    ((Machine.run step (init (.init true) false 0)
        [(.run calm, 5001), (.createIrrigation (.ofFields 0 1 false false 200 0), 5002), (.run calm, 6000)]).step
      (.run calm, 66001)).pc.irrigationState ≠ .RUN :=
  ((irrigation_bounded ⟨.init true, false, 0, _, by decide, rfl⟩ (by decide)).1 calm 66001 (by decide)
    (.inl ⟨by decide, by decide⟩)).1

/-- A skip in the millisecond of the pass backdates the timer by the very minute that the pass asks for. -/
theorem skip_outlasts_duration :
    Machine.Meets step OnTime (init (.init true) false 0)
        [(.run calm, 5001), (.createIrrigation (.ofFields 0 1 false false 200 0), 5002), (.run calm, 6000),
          (.skipActualIrrigation 0, 66005), (.run calm, 66005)] ∧
      (Machine.run step (init (.init true) false 0)
        [(.run calm, 5001), (.createIrrigation (.ofFields 0 1 false false 200 0), 5002), (.run calm, 6000),
          (.skipActualIrrigation 0, 66005)]).startedAt + 60000 < 66005 ∧
      (Machine.run step (init (.init true) false 0)
        [(.run calm, 5001), (.createIrrigation (.ofFields 0 1 false false 200 0), 5002), (.run calm, 6000),
          (.skipActualIrrigation 0, 66005), (.run calm, 66005)]).pc.irrigationState = .RUN := by
  decide

end PumpTimer

end CanSystems
