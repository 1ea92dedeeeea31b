import CanSystems.PumpControl

/-!
# The pump and the expander

While an irrigation runs, the expander selects its channel. The pump stays on
after it only for an idle pass that finds the next one on the same channel.
-/

namespace CanSystems

namespace PumpControl

structure Output (pc : PumpControl) : Prop where
  running : pc.irrigationState = .RUN ∨ pc.irrigationState = .STOP →
    ∃ head rest, pc.irrigationQueue.items = head :: rest ∧ pc.Selects head
  pump : pc.pwm ≠ 0 → pc.irrigationState = .RUN ∨ pc.irrigationState = .STOP ∨ pc.irrigationState = .ERROR ∨
    (pc.irrigationState = .IDLE ∧ ∃ head rest, pc.irrigationQueue.items = head :: rest ∧ pc.Selects head)

theorem Output.puts {pc pc' : PumpControl} (h : Output pc) (hputs : Puts pc pc') : Output pc' := by
  obtain ⟨added, hitems⟩ := hputs.items
  have hhead : (∃ head rest, pc.irrigationQueue.items = head :: rest ∧ pc.Selects head) →
      ∃ head rest, pc'.irrigationQueue.items = head :: rest ∧ pc'.Selects head := by
    rintro ⟨head, rest, hqueue, hselects⟩
    refine ⟨head, rest ++ added, ?_, ?_⟩
    · rw [hitems, hqueue, List.cons_append]
    · unfold Selects
      rw [hputs.still.pcf]
      exact hselects
  constructor
  case running =>
    intro hstate
    rw [hputs.state] at hstate
    exact hhead (h.running hstate)
  case pump =>
    intro hpwm
    rw [hputs.still.pwm] at hpwm
    rw [hputs.state]
    rcases h.pump hpwm with hs | hs | hs | ⟨hs, hidle⟩
    · exact Or.inl hs
    · exact Or.inr (Or.inl hs)
    · exact Or.inr (Or.inr (Or.inl hs))
    · exact Or.inr (Or.inr (Or.inr ⟨hs, hhead hidle⟩))

theorem Output.run {pc : PumpControl} (h : Output pc) (io : PumpIo) : Output (pc.run io).2 := by
  cases hstate : pc.irrigationState with
  | IDLE =>
    cases hqueue : pc.irrigationQueue.items with
    | cons e rest =>
      obtain ⟨hitems, ⟨hrun, -, hselects⟩ | ⟨herror, -⟩⟩ := run_idle_start io hstate hqueue
      · exact ⟨fun _ => ⟨e, rest, hitems, hselects⟩, fun _ => Or.inl hrun⟩
      · refine ⟨?_, fun _ => Or.inr (Or.inr (Or.inl herror))⟩
        rw [herror]
        rintro (h | h) <;> cases h
    | nil =>
      obtain ⟨hstill, hnext⟩ := run_idle_watch io hstate hqueue
      -- The pump was off before, with nothing in the queue.
      have hoff : pc.pwm = 0 := by
        by_contra hpwm
        rcases h.pump hpwm with hs | hs | hs | ⟨-, head, rest, hitems, -⟩
        · rw [hstate] at hs
          cases hs
        · rw [hstate] at hs
          cases hs
        · rw [hstate] at hs
          cases hs
        · rw [hqueue] at hitems
          cases hitems
      refine ⟨?_, fun hpwm => absurd (hstill.pwm.trans hoff) hpwm⟩
      rcases hnext with hs | hs
      all_goals
        rw [hs]
        rintro (h | h) <;> cases h
  | RUN =>
    obtain ⟨hitems, hstill, hnext⟩ := run_run io hstate
    obtain ⟨head, rest, hqueue, hselects⟩ := h.running (Or.inl hstate)
    constructor
    case running =>
      intro _
      refine ⟨head, rest, ?_, ?_⟩
      · rw [hitems, hqueue]
      · unfold Selects
        rw [hstill.pcf]
        exact hselects
    case pump =>
      intro _
      rcases hnext with hs | hs | hs
      · exact Or.inl hs
      · exact Or.inr (Or.inl hs)
      · exact Or.inr (Or.inr (Or.inl hs))
  | STOP =>
    obtain ⟨head, rest, hqueue, hselects⟩ := h.running (Or.inr hstate)
    obtain ⟨-, hidle, hpcf, hpwm⟩ := run_stop io hstate hqueue
    constructor
    case running =>
      rw [hidle]
      rintro (h | h) <;> cases h
    case pump =>
      intro hon
      rcases hpwm with hoff | ⟨next, rest', hnext, hchannel⟩
      · exact absurd hoff hon
      · refine Or.inr (Or.inr (Or.inr ⟨hidle, next, rest', hnext, ?_⟩))
        unfold Selects
        rw [hpcf, hchannel]
        exact hselects
  | ERROR =>
    obtain ⟨-, hidle, hoff⟩ := run_error io hstate
    refine ⟨?_, fun hpwm => absurd hoff hpwm⟩
    rw [hidle]
    rintro (h | h) <;> cases h
  | CALIBRATION =>
    obtain ⟨-, hstill, hnext⟩ := run_calibration io hstate
    have hoff : pc.pwm = 0 := by
      by_contra hpwm
      have hpump := h.pump hpwm
      rw [hstate] at hpump
      rcases hpump with hs | hs | hs | ⟨hs, -⟩ <;> cases hs
    refine ⟨?_, fun hpwm => absurd (hstill.pwm.trans hoff) hpwm⟩
    rcases hnext with hs | hs
    all_goals
      rw [hs]
      rintro (h | h) <;> cases h

theorem Output.skipActual {pc : PumpControl} (h : Output pc) (now : UInt32) :
    Output (pc.skipActualIrrigation now) := by
  unfold skipActualIrrigation
  split
  · exact ⟨h.running, h.pump⟩
  · exact h

theorem Output.step {pc : PumpControl} (h : Output pc) (op : PumpOp) : Output (pc.step op) := by
  cases op with
  | run io => exact h.run io
  | createIrrigation element => exact h.puts (pc.createIrrigation_puts element)
  | addSafetyIrrigation time channel duration checkFlow checkCurrent pwmValue repeatNum now =>
    exact ⟨h.running, h.pump⟩
  | addLimitSwitch channel limitSwitch => exact ⟨h.running, h.pump⟩
  | skipActualIrrigation now => exact h.skipActual now
  | skipAllIrrigations now =>
    constructor
    case running =>
      intro hs
      rcases hs with hs | hs <;> cases hs
    case pump =>
      intro _
      exact Or.inr (Or.inr (Or.inl rfl))

theorem output_init (pcf : PCF8574) (reportError : Bool) (now : UInt32) :
    Output (init pcf reportError now) := by
  constructor
  case running =>
    intro hs
    rcases hs with hs | hs <;> cases hs
  case pump =>
    intro hpwm
    exact absurd rfl hpwm

end PumpControl

end CanSystems
