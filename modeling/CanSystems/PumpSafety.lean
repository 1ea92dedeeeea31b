import CanSystems.PumpTimer

/-!
# Safety irrigations

What `checkSafetyIrrigations` puts into the queue is the due channels in order,
as far as there is room. The idle pass that puts them also looks for water and
current that should not be there, and where it finds any, the pass after it drops
the irrigation that was put first.
-/

namespace CanSystems

namespace PumpControl

/-! ## What is put -/

def dueChannels (safety : Vector SafetyIrrigationElement 4) (clock : Vector UInt32 4) : List (Fin 4) :=
  (List.finRange 4).filter fun i => SafetyDue (safety.get i) (clock.get i)

def safetyOf (safety : Vector SafetyIrrigationElement 4) (i : Fin 4) : IrrigationQueueElement :=
  (safety.get i).irrigation

theorem createIrrigation_items (pc : PumpControl) (e : IrrigationQueueElement) :
    (pc.createIrrigation e).irrigationQueue.items =
      pc.irrigationQueue.items ++ [e].take (4 - pc.irrigationQueue.items.length) := by
  have hbounded := pc.irrigationQueue.bounded
  unfold createIrrigation
  by_cases hroom : pc.irrigationQueue.isFull = false
  · have hlt : pc.irrigationQueue.items.length ≠ 4 := by simpa [Fifo.isFull] using hroom
    rw [if_pos hroom, List.take_of_length_le (by rw [List.length_singleton]; omega)]
    exact Fifo.items_put hroom e
  · have hfull : pc.irrigationQueue.items.length = 4 := by simpa [Fifo.isFull] using hroom
    rw [if_neg hroom, hfull]
    exact (List.append_nil _).symm

theorem createIrrigation_safety (pc : PumpControl) (e : IrrigationQueueElement) :
    (pc.createIrrigation e).safetyIrrigation = pc.safetyIrrigation := by
  obtain ⟨queue, err, hputs, -⟩ := pc.createIrrigation_puts e
  rw [hputs]

theorem checkSafety_eq (pc : PumpControl) (clock : Vector UInt32 4) (i : Fin 4) :
    pc.checkSafety clock i =
      if SafetyDue (pc.safetyIrrigation.get i) (clock.get i) then pc.createIrrigation
        (safetyOf pc.safetyIrrigation i) else pc :=
  rfl

theorem foldl_checkSafety_items (pc : PumpControl) (clock : Vector UInt32 4) (channels : List (Fin 4)) :
    (channels.foldl (fun pc i => pc.checkSafety clock i) pc).irrigationQueue.items =
      pc.irrigationQueue.items ++
        ((channels.filter fun i => SafetyDue (pc.safetyIrrigation.get i) (clock.get i)).take
          (4 - pc.irrigationQueue.items.length)).map (safetyOf pc.safetyIrrigation) := by
  induction channels generalizing pc with
  | nil => simp
  | cons i channels ih =>
    rw [List.foldl_cons, ih]
    by_cases hdue : SafetyDue (pc.safetyIrrigation.get i) (clock.get i)
    · have hsafety := pc.createIrrigation_safety (safetyOf pc.safetyIrrigation i)
      have hitems := pc.createIrrigation_items (safetyOf pc.safetyIrrigation i)
      rw [checkSafety_eq, if_pos hdue, hsafety, hitems, List.append_assoc]
      simp only [List.filter_cons, hdue, decide_true, if_true]
      by_cases hfull : pc.irrigationQueue.items.length = 4
      · simp [hfull]
      · have hbounded := pc.irrigationQueue.bounded
        obtain ⟨room, hroom⟩ : ∃ room, 4 - pc.irrigationQueue.items.length = room + 1 :=
          ⟨3 - pc.irrigationQueue.items.length, by omega⟩
        rw [hroom, List.take_succ_cons, List.take_nil, List.length_append, List.length_singleton,
          show 4 - (pc.irrigationQueue.items.length + 1) = room by omega, List.take_succ_cons, List.map_cons]
        rfl
    · simp only [checkSafety_eq, hdue, List.filter_cons, decide_false, Bool.false_eq_true, if_false]

theorem checkSafetyIrrigations_items (pc : PumpControl) (clock : Vector UInt32 4) :
    (pc.checkSafetyIrrigations clock).irrigationQueue.items =
      pc.irrigationQueue.items ++ ((dueChannels pc.safetyIrrigation clock).take
        (4 - pc.irrigationQueue.items.length)).map
        (safetyOf pc.safetyIrrigation) := by
  unfold checkSafetyIrrigations dueChannels
  exact foldl_checkSafety_items pc clock (List.finRange 4)

theorem dueChannels_length (safety : Vector SafetyIrrigationElement 4) (clock : Vector UInt32 4) :
    (dueChannels safety clock).length ≤ 4 := by
  have hle := List.length_filter_le (fun i : Fin 4 => decide (SafetyDue (safety.get i) (clock.get i)))
    (List.finRange 4)
  rw [List.length_finRange] at hle
  exact hle

theorem mem_dueChannels {safety : Vector SafetyIrrigationElement 4} {clock : Vector UInt32 4} {i : Fin 4} :
    i ∈ dueChannels safety clock ↔ SafetyDue (safety.get i) (clock.get i) := by
  simp [dueChannels]

/-! ## The idle pass -/

def Overruns (pc : PumpControl) : Prop := 0 < pc.flowCounter ∨ maxAllowedStandbyCurrent < pc.getPositiveCurrent

theorem watchFlow_cases (pc : PumpControl) :
    (0 < pc.flowCounter ∧ ∃ err, pc.watchFlow = { pc with irrigationState := .ERROR, pumpControlErrState := err }) ∨
      (¬ 0 < pc.flowCounter ∧ pc.watchFlow = pc) := by
  by_cases hflow : 0 < pc.flowCounter
  · exact .inl ⟨hflow, _, if_pos hflow⟩
  · exact .inr ⟨hflow, if_neg hflow⟩

theorem watchCurrent_cases (pc : PumpControl) :
    (maxAllowedStandbyCurrent < pc.getPositiveCurrent ∧
      ∃ err, pc.watchCurrent = { pc with irrigationState := .ERROR, pumpControlErrState := err }) ∨
      (¬ maxAllowedStandbyCurrent < pc.getPositiveCurrent ∧ pc.watchCurrent = pc) := by
  by_cases hover : maxAllowedStandbyCurrent < pc.getPositiveCurrent
  · exact .inl ⟨hover, _, if_pos hover⟩
  · exact .inr ⟨hover, if_neg hover⟩

theorem watchIdle_eq (pc : PumpControl) (io : PumpIo) :
    ∃ state err, pc.watchIdle io = { pc with
        irrigationQueue := (pc.checkSafetyIrrigations io.safetyClock).irrigationQueue
        irrigationState := state
        pumpControlErrState := err } ∧
      (pc.Overruns → state = .ERROR) ∧ (¬ pc.Overruns → state = pc.irrigationState) := by
  obtain ⟨queue, err, hputs, -⟩ := pc.checkSafetyIrrigations_puts io.safetyClock
  rw [watchIdle, hputs]
  rcases watchFlow_cases { pc with irrigationQueue := queue, pumpControlErrState := err } with
    ⟨hflow, err', hwatch⟩ | ⟨hflow, hwatch⟩
  · rw [hwatch]
    rcases watchCurrent_cases
      { pc with irrigationQueue := queue, irrigationState := .ERROR, pumpControlErrState := err' } with
      ⟨-, err'', hwatch'⟩ | ⟨-, hwatch'⟩
    · exact ⟨.ERROR, err'', hwatch', fun _ => rfl, fun hno => absurd (.inl hflow) hno⟩
    · exact ⟨.ERROR, err', hwatch', fun _ => rfl, fun hno => absurd (.inl hflow) hno⟩
  · rw [hwatch]
    rcases watchCurrent_cases { pc with irrigationQueue := queue, pumpControlErrState := err } with
      ⟨hover, err'', hwatch'⟩ | ⟨hover, hwatch'⟩
    · exact ⟨.ERROR, err'', hwatch', fun _ => rfl, fun hno => absurd (.inr hover) hno⟩
    · exact ⟨pc.irrigationState, err, hwatch', fun hyes => (hyes.elim hflow hover).elim, fun _ => rfl⟩

theorem run_idle_empty {pc : PumpControl} (io : PumpIo) (hstate : pc.irrigationState = .IDLE)
    (hqueue : pc.irrigationQueue.items = []) :
    (pc.run io).2.irrigationQueue.items = (dueChannels pc.safetyIrrigation io.safetyClock).map
    (safetyOf pc.safetyIrrigation) ∧
      (pc.run io).2.pcf = pc.pcf ∧ (pc.run io).2.safetyIrrigation = pc.safetyIrrigation ∧
      ((pc.sense io).Overruns → (pc.run io).2.irrigationState = .ERROR) ∧
      (¬ (pc.sense io).Overruns → (pc.run io).2.irrigationState = .IDLE) := by
  obtain ⟨err, hreport⟩ := ((pc.sense io).watchIdle io).report_cases
  obtain ⟨state, err', hwatch, hyes, hno⟩ := (pc.sense io).watchIdle_eq io
  have hitems := (pc.sense io).checkSafetyIrrigations_items io.safetyClock
  rw [show (pc.sense io).irrigationQueue.items = [] from hqueue, List.nil_append, List.length_nil, Nat.sub_zero,
    List.take_of_length_le (dueChannels_length _ _)] at hitems
  rw [run_idle_nil io hstate hqueue, hreport, hwatch]
  rw [show (pc.sense io).safetyIrrigation = pc.safetyIrrigation from rfl] at hitems
  generalize (pc.sense io).checkSafetyIrrigations io.safetyClock = checked at hitems
  exact ⟨hitems, rfl, rfl, hyes, fun h => (hno h).trans hstate⟩

theorem run_idle_selected {pc : PumpControl} (io : PumpIo) (hstate : pc.irrigationState = .IDLE)
    {e : IrrigationQueueElement}
    {rest : List IrrigationQueueElement} (hqueue : pc.irrigationQueue.items = e :: rest)
    (hexists : pc.pcf.deviceExists = true)
    (hack : io.acknowledged = true) :
    (pc.run io).2.irrigationQueue.items = e :: rest ∧ (pc.run io).2.irrigationState = .RUN ∧
      (pc.run io).2.pwm = e.pwmValue ∧ (pc.run io).2.Selects e := by
  obtain ⟨hitems, ⟨hrun, hpwm, hselects⟩ | ⟨herror, -⟩⟩ := run_idle_start io hstate hqueue
  · exact ⟨hitems, hrun, hpwm, hselects⟩
  · exfalso
    obtain ⟨pcf, hselect⟩ := (pc.sense io).selectChannel_acknowledged hexists
      (pc.sense io).irrigationQueue.peek.channel
    obtain ⟨err, hreport⟩ := ((pc.sense io).startHead io).report_cases
    rw [run_idle_cons io hstate hqueue, hreport] at herror
    simp only [startHead, hack, hselect] at herror
    cases herror

/-- A safety irrigation that was due runs on its channel, as it was set. -/
def SafetyRuns (safety : Vector SafetyIrrigationElement 4) (clock : Vector UInt32 4) (pc : PumpControl) : Prop :=
  ∃ i : Fin 4, SafetyDue (safety.get i) (clock.get i) ∧ pc.irrigationState = .RUN ∧
    pc.irrigationQueue.peek = safetyOf safety i ∧
    pc.pwm = (safetyOf safety i).pwmValue ∧ pc.Selects (safetyOf safety i)

/-- From an idle state with an empty queue, an overdue safety irrigation runs after two passes unless the first of
them finds water or current. -/
theorem safety_starts_iff {pc : PumpControl} (hidle : pc.irrigationState = .IDLE)
    (hempty : pc.irrigationQueue.items = [])
    (hexists : pc.pcf.deviceExists = true) {io io' : PumpIo} (hack : io'.acknowledged = true)
    (hdue : ∃ i : Fin 4, SafetyDue (pc.safetyIrrigation.get i) (io.safetyClock.get i)) :
    SafetyRuns pc.safetyIrrigation io.safetyClock (pc.run io).2 ∨
        SafetyRuns pc.safetyIrrigation io.safetyClock ((pc.run io).2.run io').2 ↔ ¬ (pc.sense io).Overruns := by
  obtain ⟨hitems, hpcf, -, hyes, hno⟩ := run_idle_empty io hidle hempty
  constructor
  · intro hruns hover
    have herror := hyes hover
    rcases hruns with ⟨i, -, hrun, -⟩ | ⟨i, -, hrun, -⟩
    · rw [herror] at hrun
      cases hrun
    · rw [(run_error io' herror).2.1] at hrun
      cases hrun
  · intro hcalm
    right
    obtain ⟨i, hi⟩ := hdue
    obtain ⟨first, others, hdues⟩ : ∃ first others, dueChannels pc.safetyIrrigation io.safetyClock = first ::
      others :=
      List.exists_cons_of_ne_nil (List.ne_nil_of_mem (mem_dueChannels.mpr hi))
    have hfirst : first ∈ dueChannels pc.safetyIrrigation io.safetyClock := by
      rw [hdues]
      exact List.mem_cons_self
    rw [hdues, List.map_cons] at hitems
    obtain ⟨hqueue, hrun, hpwm, hselects⟩ := run_idle_selected io' (hno hcalm) hitems (by rw [hpcf, hexists]) hack
    exact ⟨first, mem_dueChannels.mp hfirst, hrun, Fifo.peek_cons hqueue, hpwm, hselects⟩

end PumpControl

open PumpControl

/-- A pass in which the flow sensor counts so much, with all the safety timers read at the time of the pass. -/
def PumpIo.at (t : UInt32) (pulses : UInt16) : PumpIo := ⟨t, 512, pulses, true, false, Vector.replicate 4 t, t⟩

/-- A channel that is to have water every minute, two passes after its minute has run out. -/
theorem safety_starts_dry :
    ∃ i : Fin 4, ((Machine.run PumpControl.step (.init (.init true) false 0)
      [.run (.at 5001 0), .addSafetyIrrigation 1 i.val.toUInt8 1 false false 200 0 5002, .run (.at 70000 0),
        .run (.at 70001 0)]).irrigationState = .RUN) := by
  have hruns := (@safety_starts_iff (Machine.run PumpControl.step (.init (.init true) false 0)
    [.run (.at 5001 0), .addSafetyIrrigation 1 2 1 false false 200 0 5002]) (by decide) (by decide) (by decide)
    (.at 70000 0) (.at 70001 0) (by decide) ⟨2, by decide⟩).mpr (by
      rintro (hflow | hcurrent)
      · revert hflow
        decide
      · revert hcurrent
        decide)
  rcases hruns with ⟨i, -, hrun, -⟩ | ⟨i, -, hrun, -⟩
  · revert hrun
    decide
  · exact ⟨2, hrun⟩

/-- One pulse of the flow sensor before the pass, and the channel is left dry. -/
theorem safety_starved :
    (Machine.run PumpControl.step (.init (.init true) false 0)
        [.run (.at 5001 0), .addSafetyIrrigation 1 2 1 false false 200 0 5002]).irrigationState = .IDLE ∧
      (Machine.run PumpControl.step (.init (.init true) false 0)
        [.run (.at 5001 0), .addSafetyIrrigation 1 2 1 false false 200 0 5002]).irrigationQueue.items = [] ∧
      (∃ i : Fin 4, SafetyDue ((Machine.run PumpControl.step (.init (.init true) false 0)
        [.run (.at 5001 0), .addSafetyIrrigation 1 2 1 false false 200 0 5002]).safetyIrrigation.get i) 70000) ∧
      (Machine.run PumpControl.step (.init (.init true) false 0)
        [.run (.at 5001 0), .addSafetyIrrigation 1 2 1 false false 200 0 5002,
          .run (.at 70000 1)]).irrigationState ≠ .RUN ∧
      (Machine.run PumpControl.step (.init (.init true) false 0)
        [.run (.at 5001 0), .addSafetyIrrigation 1 2 1 false false 200 0 5002, .run (.at 70000 1),
          .run (.at 70001 0)]).irrigationState ≠ .RUN := by
  decide

end CanSystems
