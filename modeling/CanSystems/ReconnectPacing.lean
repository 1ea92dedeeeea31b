import Mathlib.Data.List.Chain
import CanSystems.Reconnects

/-!
# Reconnect pacing

Two attempts lie further apart than the wait the first one left, and a failed
attempt climbs a rung. The timer and the ladder follow the attempts of the
retry branch only: the attempt made when the network comes back touches
neither, and where it fails the retry branch may make another in the same pass
(`attempts_not_paced`).
-/

namespace CanSystems

namespace Connectivity

def reconnects (c : Connectivity) (io : LinkIo) : Bool := !c.networkState || !(c.session && io.loopLink && io.alive)

/-- A network that comes back brings the session back, and `loop` finds it alive. -/
def RegainHolds (c : Connectivity) (io : LinkIo) : Prop :=
  c.networkState = false → io.network = true →
    (io.regain.accepted && io.regain.subscribed && io.regain.announced && io.loopLink && io.alive) = true

instance (c : Connectivity) (io : LinkIo) : Decidable (c.RegainHolds io) := inferInstanceAs (Decidable (_ → _ → _))

/-- Between two passes a session is an online device's, on a network that is there. -/
def Settled (c : Connectivity) : Prop := c.session = c.onlineState ∧ (c.session = true → c.networkState = true)

theorem settled_init (rtc : RtcStore) (wdtReset : Bool) (now : UInt32) : (init rtc wdtReset now).Settled :=
  ⟨rfl, fun _ => rfl⟩

theorem served_networkState (c : Connectivity) (now : UInt32) (io : LinkIo) :
    (c.served now io).networkState = io.network := by
  obtain ⟨rtc, session, hcheck, -, -⟩ := c.checkNetwork_cases io
  unfold served
  rcases (c.checkNetwork io).1.serveClient_cases now io with ⟨-, h⟩ | ⟨-, h⟩ | ⟨-, -, -, rtc', ⟨-, h⟩ | ⟨-, h⟩⟩
  all_goals rw [h, hcheck]

theorem served_session {c : Connectivity} {now : UInt32} {io : LinkIo} (hc : c.Settled)
    (hdown : io.network = false) :
    (c.served now io).session = false := by
  obtain ⟨rtc, session, hcheck, -, hcase⟩ := c.checkNetwork_cases io
  have hsession : session = false := by
    rcases hcase with ⟨hsame, hs, -⟩ | ⟨-, -, hs, -⟩ | ⟨hup, -⟩
    · rw [hs]
      by_contra hon
      have hnet := hc.2 (Bool.eq_true_of_not_eq_false hon)
      rw [← hsame, hdown] at hnet
      cases hnet
    · exact hs
    · rw [hdown] at hup
      cases hup
  unfold served
  rcases (c.checkNetwork io).1.serveClient_cases now io with ⟨halive, -⟩ | ⟨-, h⟩ | ⟨-, hnet, -⟩
  · rw [hcheck, hsession] at halive
    cases halive
  · rw [h]
  · rw [hcheck, hdown] at hnet
    cases hnet

theorem settled_run {c : Connectivity} (now : UInt32) (io : LinkIo) (hc : c.Settled) :
    (c.run now io).conn.Settled := by
  obtain ⟨timer, rtc, hend, -, -⟩ := (c.served now io).watchOnline_cases now io
  have hnet := c.served_networkState now io
  have hrun : (c.run now io).conn = ((c.served now io).watchOnline now io).2 := rfl
  unfold Settled
  rw [hrun, hend]
  simp only [isOnline]
  rw [hnet]
  cases hup : io.network with
  | true => simp
  | false => simp [served_session hc hup]

/-- A pass that notes no attempt leaves the rung; one that ends online found the client connected. -/
structure Quiet (c : Connectivity) (now : UInt32) (io : LinkIo) : Prop where
  none : (c.run now io).attempts = []
  rung : (c.served now io).backoff = c.backoff
  timer : (c.served now io).reconnectTimer = c.reconnectTimer ∨ (c.served now io).reconnectTimer = now
  found : (c.served now io).isOnline io = true → c.onlineState = true

/-- A pass that notes an attempt sets the timer; a failure climbs and leaves no session. -/
structure Attempted (c : Connectivity) (now : UInt32) (io : LinkIo) (a : ReconnectAttempt) : Prop where
  one : (c.run now io).attempts = [a]
  before : a.before = c.backoff.stepIndex
  after : a.after = (c.served now io).backoff.stepIndex
  timer : (c.served now io).reconnectTimer = now
  due : a.networkBack = true ∨ Time.hasElapsed now c.reconnectTimer c.backoff.getDelayMs = true
  ok : a.ok = true → (c.served now io).backoff = c.backoff ∧ c.reconnects io = true
  failed : a.ok = false → (c.served now io).backoff = c.backoff.onFailure ∧ (c.served now io).session = false

theorem Attempted.ok_of_online {c : Connectivity} {now : UInt32} {io : LinkIo} {a : ReconnectAttempt}
    (h : c.Attempted now io a) (hon : (c.served now io).isOnline io = true) : a.ok = true := by
  by_contra hfail
  unfold isOnline at hon
  rw [(h.failed (Bool.eq_false_of_not_eq_true hfail)).2] at hon
  simp at hon

theorem run_attempts (c : Connectivity) (now : UInt32) (io : LinkIo) :
    (c.run now io).attempts = (c.checkNetwork io).2 ++ ((c.checkNetwork io).1.serveClient now io).2 := rfl

/-- Where the network comes back and holds, the attempt made at once is the only one. -/
theorem attempted_of_regain {c : Connectivity} (now : UInt32) {io : LinkIo} (hc : c.Settled)
    (hregain : c.RegainHolds io)
    (hup : io.network = true) (hdown : c.networkState = false) : ∃ a, c.Attempted now io a := by
  have hoff : c.session = false := by
    by_contra hon
    have hnet := hc.2 (Bool.eq_true_of_not_eq_false hon)
    rw [hdown] at hnet
    cases hnet
  have hholds := hregain hdown hup
  simp only [Bool.and_eq_true] at hholds
  obtain ⟨⟨⟨⟨haccepted, hsubscribed⟩, hannounced⟩, hlink⟩, halive⟩ := hholds
  obtain ⟨rtc, session, hcheck, -, ⟨hsame, -⟩ | ⟨hlost, -⟩ | ⟨-, -, hs, hone⟩⟩ := c.checkNetwork_cases io
  · rw [hup, hdown] at hsame
    cases hsame
  · rw [hup] at hlost
    cases hlost
  rw [hoff, haccepted, hsubscribed, hannounced] at hs
  rw [hoff, hs] at hone
  rw [hs] at hcheck
  rcases (c.checkNetwork io).1.serveClient_cases now io with ⟨-, h⟩ | ⟨hdead, -⟩ | ⟨hdead, -⟩
  · refine ⟨⟨true, true, c.backoff.stepIndex, c.backoff.stepIndex⟩, ?_, rfl, ?_, ?_, Or.inl rfl, ?_, ?_⟩
    · rw [run_attempts, hone, h]
      rfl
    · unfold served
      rw [h, hcheck]
    · unfold served
      rw [h]
    · intro _
      unfold served
      rw [h, hcheck]
      exact ⟨rfl, by simp [reconnects, hdown]⟩
    · intro h
      cases h
  all_goals
    rw [hcheck, hlink, halive] at hdead
    cases hdead

theorem cases_of_same {c : Connectivity} (now : UInt32) {io : LinkIo} (hc : c.Settled)
    (hsame : io.network = c.networkState) : c.Quiet now io ∨ ∃ a, c.Attempted now io a := by
  have hcheck : c.checkNetwork io = (c, []) := if_pos hsame
  have hserved : c.served now io = (c.serveClient now io).1 := by
    unfold served
    rw [hcheck]
  have hattempts : (c.run now io).attempts = (c.serveClient now io).2 := by
    rw [run_attempts, hcheck]
    rfl
  rcases c.serveClient_cases now io with ⟨halive, h⟩ | ⟨-, h⟩ | ⟨hdead, -, hdue, rtc, hcase⟩
  · left
    refine ⟨?_, ?_, ?_, ?_⟩
    · rw [hattempts, h]
    · rw [hserved, h]
    · rw [hserved, h]
      exact Or.inr rfl
    · intro _
      rw [Bool.and_eq_true, Bool.and_eq_true] at halive
      rw [← hc.1]
      exact halive.1.1
  · left
    refine ⟨?_, ?_, ?_, ?_⟩
    · rw [hattempts, h]
    · rw [hserved, h]
    · rw [hserved, h]
      exact Or.inl rfl
    · intro hon
      rw [hserved, h] at hon
      simp [isOnline] at hon
  · right
    rcases hcase with ⟨-, h⟩ | ⟨-, h⟩
    · refine ⟨⟨false, true, c.backoff.stepIndex, c.backoff.stepIndex⟩, ?_, rfl, ?_, ?_, Or.inr hdue, ?_, ?_⟩
      · rw [hattempts, h]
      · rw [hserved, h]
      · rw [hserved, h]
      · intro _
        rw [hserved, h]
        exact ⟨rfl, by simp [reconnects, hdead]⟩
      · intro h
        cases h
    · refine ⟨⟨false, false, c.backoff.stepIndex, c.backoff.onFailure.stepIndex⟩, ?_, rfl, ?_, ?_, Or.inr hdue, ?_,
        ?_⟩
      · rw [hattempts, h]
      · rw [hserved, h]
      · rw [hserved, h]
      · intro h
        cases h
      · intro _
        rw [hserved, h]
        exact ⟨rfl, rfl⟩

theorem quiet_of_lost {c : Connectivity} (now : UInt32) {io : LinkIo} (hdown : io.network = false)
    (hup : c.networkState = true) : c.Quiet now io := by
  obtain ⟨rtc, session, hcheck, -, ⟨hsame, -⟩ | ⟨-, -, hs, hnone⟩ | ⟨hback, -⟩⟩ := c.checkNetwork_cases io
  · rw [hup, hdown] at hsame
    cases hsame
  · rw [hs] at hcheck
    rcases (c.checkNetwork io).1.serveClient_cases now io with ⟨halive, -⟩ | ⟨-, h⟩ | ⟨-, hnet, -⟩
    · rw [hcheck] at halive
      cases halive
    · refine ⟨?_, ?_, Or.inl ?_, ?_⟩
      · rw [run_attempts, hnone, h]
        rfl
      · unfold served
        rw [h, hcheck]
      · unfold served
        rw [h, hcheck]
      · intro hon
        unfold served at hon
        rw [h] at hon
        simp [isOnline] at hon
    · rw [hcheck, hdown] at hnet
      cases hnet
  · rw [hdown] at hback
    cases hback

theorem run_attempts_cases {c : Connectivity} (now : UInt32) {io : LinkIo} (hc : c.Settled)
    (hregain : c.RegainHolds io) :
    c.Quiet now io ∨ ∃ a, c.Attempted now io a := by
  by_cases hsame : io.network = c.networkState
  · exact cases_of_same now hc hsame
  cases hup : io.network with
  | true =>
    rw [hup] at hsame
    exact Or.inr (attempted_of_regain now hc hregain hup (Bool.eq_false_of_not_eq_true (Ne.symm hsame)))
  | false =>
    rw [hup] at hsame
    exact Or.inl (quiet_of_lost now hup (Bool.eq_true_of_not_eq_false (Ne.symm hsame)))

theorem run_backoff (c : Connectivity) (now : UInt32) (io : LinkIo) :
    (c.run now io).conn.backoff = if (c.run now io).cleared then ⟨0⟩ else (c.served now io).backoff := by
  obtain ⟨timer, rtc, hend, -, -⟩ := (c.served now io).watchOnline_cases now io
  exact congrArg backoff hend

theorem run_backoff_kept {c : Connectivity} {now : UInt32} {io : LinkIo} (h : ¬ (c.run now io).cleared = true) :
    (c.run now io).conn.backoff = (c.served now io).backoff := by
  rw [run_backoff, if_neg h]

theorem run_reconnectTimer (c : Connectivity) (now : UInt32) (io : LinkIo) :
    (c.run now io).conn.reconnectTimer = (c.served now io).reconnectTimer := by
  obtain ⟨timer, rtc, hend, -, -⟩ := (c.served now io).watchOnline_cases now io
  have htimer := congrArg reconnectTimer hend
  exact htimer

/-! ## The rung in RTC memory -/

def Stored (c : Connectivity) : Prop := c.rtc.read .BackoffStep = some (UInt8.ofNat c.backoff.stepIndex)

theorem stored_init (rtc : RtcStore) (wdtReset : Bool) (now : UInt32) : (init rtc wdtReset now).Stored :=
    read_storeStep _

theorem stored_served {c : Connectivity} (now : UInt32) (io : LinkIo) (h : c.Stored) :
    (c.served now io).Stored := by
  obtain ⟨rtc, session, hcheck, hread, -⟩ := c.checkNetwork_cases io
  have hcheckStored : (c.checkNetwork io).1.Stored := by
    unfold Stored
    rw [hcheck]
    exact hread.trans h
  unfold served Stored
  rcases (c.checkNetwork io).1.serveClient_cases now io with ⟨-, h⟩ | ⟨-, h⟩ | ⟨-, -, -, rtc',
    ⟨hkept, h⟩ | ⟨hwritten, h⟩⟩
  · rw [h]
    exact hcheckStored
  · rw [h]
    exact hcheckStored
  · rw [h]
    exact hkept.trans hcheckStored
  · rw [h]
    exact hwritten

theorem stored_run {c : Connectivity} (now : UInt32) (io : LinkIo) (h : c.Stored) : (c.run now io).conn.Stored := by
  obtain ⟨timer, rtc, hend, hzero, hkept⟩ := (c.served now io).watchOnline_cases now io
  have hrun : (c.run now io).conn = ((c.served now io).watchOnline now io).2 := rfl
  unfold Stored
  rw [hrun, hend]
  cases hcleared : (c.served now io).isOnline io && (c.served now io).settles now with
  | true => exact hzero hcleared
  | false =>
    rw [hkept hcleared]
    exact stored_served now io h

end Connectivity

namespace ReconnectWatch

/-! ## The attempts of a run -/

def delayMs (step : Fin 7) : Nat := (ReconnectBackoff.getDelayMs ⟨step⟩).toNat

/-- Attempts wait out the delay of the one before, unless the network has just come back; failures climb; the rung
in RTC memory is the one in use. -/
structure Paced (w : ReconnectWatch) : Prop where
  spaced : w.attempts.IsChain fun a b => b.2.networkBack = true ∨ a.1 + delayMs a.2.after < b.1
  climbs : ∀ a ∈ w.attempts, a.2.ok = false → a.2.after.val = min (a.2.before.val + 1) 6
  stored : w.conn.rtc.read .BackoffStep = some (UInt8.ofNat w.conn.backoff.stepIndex)

/-- The settle timer has not run out when a reconnect above the first rung goes online, and where the device never
went offline it runs for the delay of that rung still. -/
def SettlesLate (w : ReconnectWatch) (e : PassEvent) : Prop :=
  w.conn.reconnects e.io = true → w.LinkUp e → w.conn.backoff.stepIndex.val ≠ 0 →
    Time.hasElapsed (UInt32.ofNat (w.now + e.after)) w.conn.onlineSinceTimer Connectivity.onlineSettleTime = false ∧
    (w.conn.onlineState = true →
      (Time.elapsedSince (UInt32.ofNat (w.now + e.after)) w.conn.onlineSinceTimer).toNat +
        delayMs w.conn.backoff.stepIndex ≤ Connectivity.onlineSettleTime.toNat)

def AttemptsCount (w : ReconnectWatch) (e : PassEvent) : Prop :=
  w.restarted = false → w.conn.RegainHolds e.io ∧ w.SettlesLate e

instance (w : ReconnectWatch) (e : PassEvent) : Decidable (w.LinkUp e) := inferInstanceAs (Decidable (_ = _))

instance (w : ReconnectWatch) (e : PassEvent) : Decidable (w.SettlesLate e) :=
  inferInstanceAs (Decidable (_ → _ → _ → _ ∧ (_ → _)))

instance (w : ReconnectWatch) (e : PassEvent) : Decidable (w.AttemptsCount e) := inferInstanceAs
    (Decidable (_ → _ ∧ _))

/-- The ladder is cleared no sooner than the wait since time `t` on rung `step` is over. -/
def ClearsLate (w : ReconnectWatch) (t : Nat) (step : Fin 7) : Prop :=
  w.conn.onlineState = true → w.conn.backoff.stepIndex.val ≠ 0 →
    (Time.elapsedSince (UInt32.ofNat t) w.conn.onlineSinceTimer).toNat + delayMs step ≤
      Connectivity.onlineSettleTime.toNat

/-- The retry timer was set at the last attempt or later, and its rung is in use until its wait is over. -/
structure Waiting (w : ReconnectWatch) (t : Nat) (step : Fin 7) : Prop where
  timer : ∃ set, t ≤ set ∧ set ≤ w.now ∧ w.conn.reconnectTimer = UInt32.ofNat set
  rung : (w.conn.backoff.stepIndex = step ∧ w.ClearsLate t step) ∨ t + delayMs step < w.now

structure PacedInv (w : ReconnectWatch) : Prop extends w.Paced where
  settled : w.conn.Settled
  waiting : ∀ a ∈ w.attempts.getLast?, w.Waiting a.1 a.2.after

theorem pacedInv_init (rtc : RtcStore) (wdtReset : Bool) (now : Nat) : (init rtc wdtReset now).PacedInv where
  spaced := List.IsChain.nil
  climbs := by
    intro a ha
    cases ha
  stored := Connectivity.stored_init rtc wdtReset _
  settled := Connectivity.settled_init rtc wdtReset _
  waiting := by
    intro a ha
    cases ha

theorem Waiting.retry {w : ReconnectWatch} {t : Nat} {step : Fin 7} {after : Nat} (h : w.Waiting t step)
    (hdue : Time.hasElapsed (UInt32.ofNat (w.now + after)) w.conn.reconnectTimer w.conn.backoff.getDelayMs = true) :
    t + delayMs step < w.now + after := by
  obtain ⟨set, hset, hnow, htimer⟩ := h.timer
  rcases h.rung with ⟨hrung, -⟩ | hover
  · rw [htimer] at hdue
    have hwait := Time.lt_of_hasElapsed (Nat.le_trans hnow (Nat.le_add_right _ _)) hdue
    have hdelay : delayMs step = w.conn.backoff.getDelayMs.toNat := by
      rw [← hrung]
      rfl
    omega
  · omega

theorem Waiting.cleared {w : ReconnectWatch} {t : Nat} {step : Fin 7} {after : Nat} (h : w.Waiting t step)
    (hon : w.conn.onlineState = true) (hrung : w.conn.backoff.stepIndex.val ≠ 0)
    (helapsed : Time.hasElapsed (UInt32.ofNat (w.now + after)) w.conn.onlineSinceTimer
      Connectivity.onlineSettleTime = true) : t + delayMs step < w.now + after := by
  obtain ⟨set, hset, hnow, -⟩ := h.timer
  rcases h.rung with ⟨-, hlate⟩ | hover
  · have hlate := hlate hon hrung
    have hgap : Connectivity.onlineSettleTime.toNat <
        (UInt32.ofNat (w.now + after) - w.conn.onlineSinceTimer).toNat :=
      UInt32.lt_iff_toNat_lt.mp (of_decide_eq_true helapsed)
    unfold Time.elapsedSince at hlate
    have hlt := w.conn.onlineSinceTimer.toNat_lt
    rw [UInt32.toNat_sub, UInt32.toNat_ofNat'] at hgap hlate
    omega
  · omega

theorem delayMs_le : ∀ step : Fin 7, delayMs step ≤ Connectivity.onlineSettleTime.toNat := by decide

theorem Waiting.quiet {w : ReconnectWatch} {e : PassEvent} {t : Nat} {step : Fin 7} (hres : w.restarted = false)
    (hq : w.conn.Quiet (UInt32.ofNat (w.now + e.after)) e.io) (h : w.Waiting t step) :
    (w.step e).Waiting t step := by
  have hcleared := w.conn.run_cleared_iff (UInt32.ofNat (w.now + e.after)) e.io
  have hstate := w.conn.run_onlineState (UInt32.ofNat (w.now + e.after)) e.io
  have hsince := w.conn.run_onlineSinceTimer (UInt32.ofNat (w.now + e.after)) e.io
  obtain ⟨set, hset, hnow, htimer⟩ := h.timer
  rw [step_running hres]
  constructor
  · simp only [pass]
    rw [Connectivity.run_reconnectTimer]
    rcases hq.timer with hold | hnew
    · rw [hold]
      exact ⟨set, hset, by omega, htimer⟩
    · rw [hnew]
      exact ⟨w.now + e.after, by omega, Nat.le_refl _, rfl⟩
  by_cases hclear : (w.pass e).cleared = true
  · right
    obtain ⟨hon, hrung, helapsed⟩ := hcleared.mp hclear
    rw [hstate] at hon
    exact h.cleared (hq.found hon) hrung helapsed
  rcases h.rung with ⟨hrung, hlate⟩ | hover
  · left
    unfold ClearsLate
    simp only [pass]
    rw [Connectivity.run_backoff_kept hclear, hq.rung]
    refine ⟨hrung, ?_⟩
    intro hon
    rw [hsince, if_neg]
    · rw [hstate] at hon
      exact hlate (hq.found hon)
    · intro hfirst
      rw [hstate] at hon
      rw [hq.found hon] at hfirst
      cases hfirst.2
  · right
    simp only
    omega

theorem Waiting.attempt {w : ReconnectWatch} {e : PassEvent} {a : ReconnectAttempt} (hres : w.restarted = false)
    (ha : w.conn.Attempted (UInt32.ofNat (w.now + e.after)) e.io a) (hlate : w.SettlesLate e) :
    (w.step e).Waiting (w.now + e.after) a.after := by
  have hcleared := w.conn.run_cleared_iff (UInt32.ofNat (w.now + e.after)) e.io
  have hstate := w.conn.run_onlineState (UInt32.ofNat (w.now + e.after)) e.io
  have hsince := w.conn.run_onlineSinceTimer (UInt32.ofNat (w.now + e.after)) e.io
  -- a pass that ends online made an attempt that succeeded
  have hsettles : (w.pass e).conn.onlineState = true → w.conn.backoff.stepIndex.val ≠ 0 →
      Time.hasElapsed (UInt32.ofNat (w.now + e.after)) w.conn.onlineSinceTimer Connectivity.onlineSettleTime =
        false ∧
      (w.conn.onlineState = true →
        (Time.elapsedSince (UInt32.ofNat (w.now + e.after)) w.conn.onlineSinceTimer).toNat +
          delayMs w.conn.backoff.stepIndex ≤ Connectivity.onlineSettleTime.toNat) := by
    intro hon
    have hup : w.LinkUp e := hstate.symm.trans hon
    exact hlate (ha.ok (ha.ok_of_online hup)).2 hup
  have hkept : (w.pass e).cleared = false := by
    by_contra hclear
    obtain ⟨hon, hrung, helapsed⟩ := hcleared.mp (Bool.eq_true_of_not_eq_false hclear)
    rw [(hsettles hon hrung).1] at helapsed
    cases helapsed
  have hclear : ¬ (w.pass e).cleared = true := by simp [hkept]
  rw [step_running hres]
  refine ⟨⟨w.now + e.after, Nat.le_refl _, Nat.le_refl _, ?_⟩, Or.inl ?_⟩
  · exact (w.conn.run_reconnectTimer _ _).trans ha.timer
  unfold ClearsLate
  simp only [pass]
  rw [Connectivity.run_backoff_kept hclear]
  refine ⟨ha.after.symm, ?_⟩
  intro hon hrung
  have hok := ha.ok_of_online (hstate.symm.trans hon)
  rw [ha.after, hsince]
  rw [(ha.ok hok).1] at hrung ⊢
  split
  · simp only [Time.elapsedSince, UInt32.sub_self]
    have hdelay := delayMs_le w.conn.backoff.stepIndex
    simpa using hdelay
  · rename_i hfirst
    have hwas : w.conn.onlineState = true := by
      by_contra hoff
      exact hfirst ⟨hon, Bool.eq_false_of_not_eq_true hoff⟩
    exact (hsettles hon hrung).2 hwas

theorem pacedInv_step (w : ReconnectWatch) (e : PassEvent) (h : w.PacedInv) (hguard : w.AttemptsCount e) :
    (w.step e).PacedInv := by
  by_cases hres : w.restarted = true
  · rw [step_restarted hres]
    exact h
  have hres := Bool.eq_false_of_not_eq_true hres
  obtain ⟨hregain, hlate⟩ := hguard hres
  have hrunning := step_running hres e
  have hstored : (w.step e).conn.Stored := by
    rw [hrunning]
    exact Connectivity.stored_run _ _ h.stored
  have hsettled : (w.step e).conn.Settled := by
    rw [hrunning]
    exact Connectivity.settled_run _ _ h.settled
  rcases Connectivity.run_attempts_cases (UInt32.ofNat (w.now + e.after)) h.settled hregain with hq | ⟨a, ha⟩
  · have hsame : (w.step e).attempts = w.attempts := by
      rw [hrunning]
      simp only [pass]
      rw [hq.none, List.map_nil, List.append_nil]
    refine ⟨⟨?_, ?_, hstored⟩, hsettled, ?_⟩
    · rw [hsame]
      exact h.spaced
    · rw [hsame]
      exact h.climbs
    · rw [hsame]
      intro b hb
      exact (h.waiting b hb).quiet hres hq
  · have hmore : (w.step e).attempts = w.attempts ++ [(w.now + e.after, a)] := by
      rw [hrunning]
      simp only [pass]
      rw [ha.one]
      rfl
    refine ⟨⟨?_, ?_, hstored⟩, hsettled, ?_⟩
    · rw [hmore]
      apply h.spaced.append (List.IsChain.singleton _)
      intro b hb x hx
      rw [List.head?_singleton, Option.mem_some_iff] at hx
      subst hx
      rcases ha.due with hback | hdue
      · exact Or.inl hback
      · exact Or.inr ((h.waiting b hb).retry hdue)
    · rw [hmore]
      intro b hb hfail
      rcases List.mem_append.mp hb with hb | hb
      · exact h.climbs b hb hfail
      · rw [List.mem_singleton] at hb
        subst hb
        rw [ha.after, ha.before, (ha.failed hfail).1]
        exact ReconnectBackoff.val_onFailure _
    · rw [hmore, List.getLast?_concat]
      intro b hb
      rw [Option.mem_some_iff] at hb
      subst hb
      exact Waiting.attempt hres ha hlate

/-- A run paces its attempts when no attempt goes uncounted. -/
theorem attempts_paced (rtc : RtcStore) (wdtReset : Bool) (now : Nat) (es : List PassEvent)
    (h : Machine.Meets step AttemptsCount (init rtc wdtReset now) es) :
    (Machine.run step (init rtc wdtReset now) es).Paced :=
  (Machine.run_inv pacedInv_step (pacedInv_init rtc wdtReset now) h).toPaced

def brokerAway : ConnectIo := ⟨false, false, true, true⟩

def brokerThere : ConnectIo := ⟨false, true, true, true⟩

/-- The network drops and comes back, then the session dies and the broker refuses twice before it accepts. -/
def countedOutage : List PassEvent :=
  [⟨2000, ⟨false, brokerAway, true, true, brokerAway, true⟩⟩,
    ⟨58000, ⟨true, brokerThere, true, true, brokerAway, true⟩⟩,
   ⟨1000, ⟨true, brokerAway, false, true, brokerAway, true⟩⟩,
     ⟨5000, ⟨true, brokerAway, true, true, brokerAway, true⟩⟩,
   ⟨11000, ⟨true, brokerAway, true, true, brokerAway, true⟩⟩,
     ⟨21000, ⟨true, brokerAway, true, true, brokerThere, true⟩⟩]

theorem attempts_paced_outage : (Machine.run step (init ⟨0, 0, 0, 0⟩ false 0) countedOutage).Paced :=
  attempts_paced ⟨0, 0, 0, 0⟩ false 0 countedOutage (by decide +kernel)

/-- The broker is still away when the network comes back a minute later: two attempts in one pass. -/
theorem attempts_not_paced :
    ¬ ∀ (rtc : RtcStore) (wdtReset : Bool) (now : Nat) (es : List PassEvent),
      (Machine.run step (init rtc wdtReset now) es).Paced := by
  intro h
  have hspaced := (h ⟨0, 0, 0, 0⟩ false 0 [⟨2000, ⟨false, brokerAway, true, true, brokerAway, true⟩⟩,
    ⟨58000, ⟨true, brokerAway, true, true, brokerAway, true⟩⟩]).spaced
  revert hspaced
  decide +kernel

end ReconnectWatch

end CanSystems
