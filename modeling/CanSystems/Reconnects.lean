import Mathlib.Data.List.Chain
import CanSystems.Connectivity
import CanSystems.Lib.Machine

/-!
# Passes in real time

The clock a pass reads wraps; the observer counts on. It knows when the current
uninterrupted online period began, and every attempt that found the client
disconnected. A session that `loop()` finds lost ends the period, also where the
same pass gets it back and the device never counts as offline.

In the pass in which the link comes back, the settle timer still holds the start
of the period before: a long enough one clears the ladder at once
(`cleared_too_early`). Where the link is lost and got back in one pass, the timer
is not set at all. In the pass in which the network comes back, the attempt made
at once touches neither the timer nor the ladder (`attempts_not_paced`).
-/

namespace CanSystems

structure ReconnectWatch where
  conn : Connectivity
  now : Nat
  onlineSince : Option Nat
  /-- The online period began without the device having counted as offline before it. -/
  renewed : Bool
  /-- The attempts so far and when they were made, in order. -/
  attempts : List (Nat × ReconnectAttempt)
  restarted : Bool
  deriving DecidableEq, Repr

structure PassEvent where
  after : Nat
  io : LinkIo
  deriving DecidableEq, Repr

namespace ReconnectWatch

def init (rtc : RtcStore) (wdtReset : Bool) (now : Nat) : ReconnectWatch :=
  ⟨Connectivity.init rtc wdtReset (UInt32.ofNat now), now, some now, false, [], false⟩

def pass (w : ReconnectWatch) (e : PassEvent) : ConnectivityPass :=
  w.conn.run (UInt32.ofNat (w.now + e.after)) e.io

/-- `loop` does not find the session standing. -/
def sessionLost (w : ReconnectWatch) (e : PassEvent) : Bool := !((w.conn.checkNetwork e.io).1.loop e.io).1

/-- Since when the device has been online without a break, if it is at the end of the pass. -/
def period (w : ReconnectWatch) (e : PassEvent) : Option Nat :=
  if (w.pass e).conn.onlineState = false then none else
  if w.sessionLost e then some (w.now + e.after) else some (w.onlineSince.getD (w.now + e.after))

def step (w : ReconnectWatch) (e : PassEvent) : ReconnectWatch :=
  if w.restarted then w else
  { conn := (w.pass e).conn
    now := w.now + e.after
    onlineSince := w.period e
    renewed := w.conn.onlineState && (w.sessionLost e || w.renewed)
    attempts := w.attempts ++ (w.pass e).attempts.map fun a => (w.now + e.after, a)
    restarted := (w.pass e).restarted }

/-! ## The ladder is cleared by a link that has proven itself -/

/-- A pass clears the ladder, or ends on a lower rung, only in an online period older than the settle time. -/
def Proven (w : ReconnectWatch) (e : PassEvent) : Prop :=
  w.restarted = false →
    (w.pass e).cleared = true ∨ (w.pass e).conn.backoff.stepIndex < w.conn.backoff.stepIndex →
    ∃ since, (w.step e).onlineSince = some since ∧ since + Connectivity.onlineSettleTime.toNat < (w.step e).now

/-- The network is there and the client is connected when the end of the pass looks. -/
def LinkUp (w : ReconnectWatch) (e : PassEvent) : Prop :=
  (w.conn.served (UInt32.ofNat (w.now + e.after)) e.io).isOnline e.io = true

/-- The pass that finds the link up got it back, or a pass did since the device was marked online and no longer
than the settle time ago. -/
def Recent (w : ReconnectWatch) (e : PassEvent) : Prop :=
  w.conn.onlineState = false ∨ w.sessionLost e = true ∨
    w.renewed = true ∧ ∃ since, w.onlineSince = some since ∧
      w.now + e.after ≤ since + Connectivity.onlineSettleTime.toNat

/-- A link that was got back recently and is up above the first rung finds the settle timer not run out. -/
def SettleTimerFresh (w : ReconnectWatch) (e : PassEvent) : Prop :=
  w.restarted = false → w.LinkUp e → w.conn.backoff.stepIndex.val ≠ 0 → w.Recent e →
    Time.hasElapsed (UInt32.ofNat (w.now + e.after)) w.conn.onlineSinceTimer Connectivity.onlineSettleTime = false

/-- The settle timer holds the beginning of an online period that was not renewed, in the clock's own reading. -/
structure OnlineTracked (w : ReconnectWatch) : Prop where
  online : w.conn.onlineState = w.onlineSince.isSome
  past : ∀ since, w.onlineSince = some since → since ≤ w.now
  timer : ∀ since, w.onlineSince = some since → w.renewed = false → w.conn.onlineSinceTimer = UInt32.ofNat since

theorem onlineTracked_init (rtc : RtcStore) (wdtReset : Bool) (now : Nat) :
    (init rtc wdtReset now).OnlineTracked := by
  refine ⟨rfl, ?_, ?_⟩
  · intro since h
    cases h
    exact Nat.le_refl _
  · intro since h _
    cases h
    rfl

theorem step_restarted {w : ReconnectWatch} (h : w.restarted = true) (e : PassEvent) : w.step e = w := if_pos h

theorem step_running {w : ReconnectWatch} (h : w.restarted = false) (e : PassEvent) :
    w.step e = {
      conn := (w.pass e).conn
      now := w.now + e.after
      onlineSince := w.period e
      renewed := w.conn.onlineState && (w.sessionLost e || w.renewed)
      attempts := w.attempts ++ (w.pass e).attempts.map fun a => (w.now + e.after, a)
      restarted := (w.pass e).restarted } := by
  unfold step
  rw [if_neg]
  simp [h]

theorem period_cases {w : ReconnectWatch} (h : w.OnlineTracked) {e : PassEvent} {since : Nat}
    (hsince : w.period e = some since) :
    (w.pass e).conn.onlineState = true ∧
      ((w.conn.onlineState = false ∨ w.sessionLost e = true) ∧ since = w.now + e.after ∨
        w.conn.onlineState = true ∧ w.sessionLost e = false ∧ w.onlineSince = some since) := by
  have hstate := h.online
  unfold period at hsince
  split at hsince
  · cases hsince
  rename_i hon
  refine ⟨Bool.eq_true_of_not_eq_false hon, ?_⟩
  cases hlost : w.sessionLost e with
  | true =>
    rw [if_pos hlost] at hsince
    cases hsince
    exact Or.inl ⟨Or.inr rfl, rfl⟩
  | false =>
    rw [if_neg (by simp [hlost])] at hsince
    cases hold : w.onlineSince with
    | none =>
      rw [hold] at hsince hstate
      cases hsince
      exact Or.inl ⟨Or.inl hstate, rfl⟩
    | some start =>
      rw [hold] at hsince hstate
      cases hsince
      exact Or.inr ⟨hstate, rfl, rfl⟩

theorem onlineTracked_step (w : ReconnectWatch) (e : PassEvent) (h : w.OnlineTracked) :
    (w.step e).OnlineTracked := by
  by_cases hres : w.restarted = true
  · rw [step_restarted hres]
    exact h
  rw [step_running (Bool.eq_false_of_not_eq_true hres)]
  have htimer := w.conn.run_onlineSinceTimer (UInt32.ofNat (w.now + e.after)) e.io
  refine ⟨?_, ?_, ?_⟩
  · simp only [period]
    split
    · assumption
    · rename_i hon
      rw [Bool.eq_true_of_not_eq_false hon]
      split
      all_goals rfl
  · intro since hsince
    rcases (period_cases h hsince).2 with ⟨-, rfl⟩ | ⟨-, -, hold⟩
    · exact Nat.le_refl _
    · exact Nat.le_trans (h.past since hold) (Nat.le_add_right _ _)
  · intro since hsince hsame
    obtain ⟨hon, hcase⟩ := period_cases h hsince
    simp only [pass] at hon ⊢
    rw [htimer]
    rcases hcase with ⟨hnew, rfl⟩ | ⟨hmarked, -, hold⟩
    · -- a session lost while the device is marked online renews the period
      have hoff : w.conn.onlineState = false := by
        rcases hnew with hoff | hlost
        · exact hoff
        · simpa [hlost] using hsame
      rw [if_pos ⟨hon, hoff⟩]
    · rw [if_neg (by simp [hmarked])]
      refine h.timer since hold ?_
      simp only [hmarked, Bool.true_and, Bool.or_eq_false_iff] at hsame
      exact hsame.2

/-- A pass clears the ladder in the online period it belongs to exactly when the timer is not a leftover. -/
theorem proven_iff (w : ReconnectWatch) (e : PassEvent) (h : w.OnlineTracked) :
    w.Proven e ↔ w.SettleTimerFresh e := by
  have hcleared := w.conn.run_cleared_iff (UInt32.ofNat (w.now + e.after)) e.io
  constructor
  · intro hproven hres hup hrung hrecent
    have hon : (w.pass e).conn.onlineState = true := (w.conn.run_onlineState _ e.io).trans hup
    by_contra helapsed
    obtain ⟨since, hsince, hlong⟩ := hproven hres
      (Or.inl (hcleared.mpr ⟨hon, hrung, Bool.eq_true_of_not_eq_false helapsed⟩))
    rw [step_running hres] at hsince hlong
    simp only at hsince hlong
    rcases (period_cases h hsince).2 with ⟨-, rfl⟩ | ⟨hmarked, hstands, hold⟩
    · omega
    rcases hrecent with hoff | hlost | ⟨-, since', hsince', hyoung⟩
    · rw [hmarked] at hoff
      cases hoff
    · rw [hstands] at hlost
      cases hlost
    · cases hold.symm.trans hsince'
      omega
  · intro hfresh hres hdone
    have hclear : (w.pass e).cleared = true := by
      rcases hdone with hdone | hlower
      · exact hdone
      · exact Connectivity.cleared_of_lower hlower
    obtain ⟨hon, hrung, helapsed⟩ := hcleared.mp hclear
    have hup : w.LinkUp e := (w.conn.run_onlineState _ e.io).symm.trans hon
    have hold : ¬ w.Recent e := fun hrecent =>
      absurd helapsed (Bool.eq_false_iff.mp (hfresh hres hup hrung hrecent))
    unfold Recent at hold
    push Not at hold
    obtain ⟨hmarked, hstands, hlong⟩ := hold
    have hstate := h.online
    rw [Bool.eq_true_of_not_eq_false hmarked, Eq.comm, Option.isSome_iff_exists] at hstate
    obtain ⟨since, hsince⟩ := hstate
    refine ⟨since, ?_, ?_⟩
    · have hon : (w.pass e).conn.onlineState = true := hon
      rw [step_running hres]
      simp [period, hon, hstands, hsince]
    · rw [step_running hres]
      cases hrenewed : w.renewed with
      | true => exact hlong hrenewed since hsince
      | false =>
        rw [h.timer since hsince hrenewed] at helapsed
        exact Time.lt_of_hasElapsed (Nat.le_trans (h.past since hsince) (Nat.le_add_right _ _)) helapsed

/-- Over a whole run, the ladder is cleared by proven links alone exactly when no link that was got back finds a
settle timer that has long run out. -/
theorem ladder_proven_iff (rtc : RtcStore) (wdtReset : Bool) (now : Nat) (es : List PassEvent) :
    Machine.Meets step Proven (init rtc wdtReset now) es ↔
      Machine.Meets step SettleTimerFresh (init rtc wdtReset now) es :=
  Machine.meets_congr (fun w e h _ => onlineTracked_step w e h) proven_iff es (onlineTracked_init rtc wdtReset now)

/-- Ten minutes online, one failed attempt after the link is lost: the link that comes back clears the ladder at
once. -/
theorem cleared_too_early :
    ¬ ∀ (rtc : RtcStore) (wdtReset : Bool) (now : Nat) (es : List PassEvent),
      Machine.Meets step Proven (init rtc wdtReset now) es := by
  intro h
  let refused : ConnectIo := ⟨false, false, true, true⟩
  let accepted : ConnectIo := ⟨false, true, true, true⟩
  let outage : List PassEvent := [⟨600000, ⟨true, accepted, true, true, accepted, true⟩⟩,
    ⟨1, ⟨true, accepted, false, true, accepted, true⟩⟩, ⟨6000, ⟨true, accepted, true, true, refused, true⟩⟩]
  let back : PassEvent := ⟨11000, ⟨true, accepted, true, true, accepted, true⟩⟩
  let w := Machine.run step (init ⟨0, 0, 0, 0⟩ false 0) outage
  have hproven : w.Proven back := (Machine.Meets.append.mp (h ⟨0, 0, 0, 0⟩ false 0 (outage ++ [back]))).2.1
  have hcleared : w.restarted = false ∧ (w.pass back).cleared = true := by decide +kernel
  have hback : (w.step back).onlineSince = some 617001 ∧ (w.step back).now = 617001 := by decide +kernel
  obtain ⟨since, hsince, hlong⟩ := hproven hcleared.1 (Or.inl hcleared.2)
  rw [hback.1, Option.some.injEq] at hsince
  rw [hback.2, ← hsince] at hlong
  omega

end ReconnectWatch

end CanSystems
