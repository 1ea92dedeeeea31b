import CanSystems.CanMqttGateway
import CanSystems.Lib.Machine

/-!
# A client that counts as online

The gateway reads a clock of 32 bits, and its timer is set by frames alone. In
real time, with passes at most a second apart, the client counts as online only
while it was heard lately, up to a silence of a whole turn of the clock: then the
timer seems fresh again (`silent_online`).
-/

namespace CanSystems

open Machine

inductive ClientEvent
  | run
  | canFrame (canFrame : CanFrame)

structure ClientTick where
  wait : Nat
  event : ClientEvent

/-- The gateway in real time: when its last pass was, and when the client was last heard. -/
structure OnlineWatch where
  gateway : CanMqttGateway
  now : Nat
  lastPass : Nat
  heard : Option Nat

namespace OnlineWatch

open CanMqttGateway

/-- After `init`, called at `start`. -/
def init (start : Nat) : OnlineWatch := ⟨(CanMqttGateway.new.init (UInt32.ofNat start)).gateway, start, start, none⟩

def step (w : OnlineWatch) (tick : ClientTick) : OnlineWatch :=
  let now := w.now + tick.wait
  match tick.event with
  | .run => ⟨(w.gateway.run (UInt32.ofNat now)).gateway, now, now, w.heard⟩
  | .canFrame canFrame =>
    ⟨(w.gateway.canFrameArrivedCallback (UInt32.ofNat now) canFrame).gateway, now, w.lastPass, some now⟩

def Punctual (w : OnlineWatch) (tick : ClientTick) : Prop :=
  tick.event = .run → w.now + tick.wait ≤ w.lastPass + 1000

/-- A pass that leaves the client online comes within `clientOfflineTime` of a frame from it. -/
def OnlineHeard (w : OnlineWatch) (tick : ClientTick) : Prop :=
  tick.event = .run → (w.step tick).gateway.clientOnline = true →
    ∃ t, w.heard = some t ∧ (w.step tick).now ≤ t + clientOfflineTime.toNat

def SilentShortly (w : OnlineWatch) (tick : ClientTick) : Prop :=
  tick.event = .run → ∀ t, w.heard = some t → (w.step tick).now < t + 2 ^ 32

structure Inv (w : OnlineWatch) : Prop where
  seen : w.gateway.clientEverSeen = w.heard.isSome
  timer : ∀ t, w.heard = some t → w.gateway.clientOfflineTimer = UInt32.ofNat t ∧ t ≤ w.now ∧
    w.lastPass < t + 2 ^ 32
  passed : w.lastPass ≤ w.now

theorem inv_init (start : Nat) : (init start).Inv := ⟨rfl, fun t ht => (by cases ht), Nat.le_refl _⟩

theorem online_iff {w : OnlineWatch} (h : w.Inv) (wait : Nat) :
    (w.step ⟨wait, .run⟩).gateway.clientOnline = true ↔
      ∃ t, w.heard = some t ∧ (w.now + wait - t) % 2 ^ 32 ≤ clientOfflineTime.toNat := by
  obtain ⟨timer, hrun, -⟩ := w.gateway.run_cases (UInt32.ofNat (w.now + wait))
  have honline : (w.step ⟨wait, .run⟩).gateway.clientOnline = w.gateway.clientOnlineActual
      (UInt32.ofNat (w.now + wait)) := by
    simp only [step]
    rw [hrun]
  rw [honline, clientOnlineActual, h.seen]
  cases hheard : w.heard with
  | none => simp
  | some t =>
    obtain ⟨htimer, hle, -⟩ := h.timer t hheard
    have helapsed := Time.hasElapsed_iff (Nat.le_trans hle (Nat.le_add_right w.now wait)) clientOfflineTime
    rw [htimer]
    simp only [Option.isSome_some, Bool.true_and, Option.some.injEq, exists_eq_left', Bool.not_eq_true',
      ← Nat.not_lt, ← helapsed, Bool.not_eq_true]

/-- Where passes are punctual, online means heard lately as long as no silence is a turn of the clock. -/
theorem onlineHeard_iff_short {w : OnlineWatch} (h : w.Inv) {tick : ClientTick} (hpunctual : w.Punctual tick) :
    w.OnlineHeard tick ↔ w.SilentShortly tick := by
  obtain ⟨wait, event⟩ := tick
  have htime : clientOfflineTime.toNat = 5000 := rfl
  cases event with
  | canFrame canFrame => exact iff_of_true (fun hrun => by cases hrun) (fun hrun => by cases hrun)
  | run =>
    have hsoon : w.now + wait ≤ w.lastPass + 1000 := hpunctual rfl
    have honline := online_iff h wait
    have hnow : (w.step ⟨wait, .run⟩).now = w.now + wait := rfl
    unfold OnlineHeard SilentShortly
    rw [honline, hnow, htime]
    constructor
    · intro hheard _ t ht
      obtain ⟨-, hle, hlast⟩ := h.timer t ht
      by_contra hlong
      -- The first pass after a turn of the clock: the timer reads less than a second.
      have hfresh : (w.now + wait - t) % 2 ^ 32 ≤ 5000 := by omega
      obtain ⟨t', ht', hnear⟩ := hheard rfl ⟨t, ht, hfresh⟩
      rw [ht] at ht'
      cases ht'
      omega
    · rintro hshort - ⟨t, ht, hfresh⟩
      have hless := hshort rfl t ht
      refine ⟨t, ht, ?_⟩
      rw [Nat.mod_eq_of_lt (by omega)] at hfresh
      omega

theorem inv_step (w : OnlineWatch) (tick : ClientTick) (h : w.Inv) (hshort : w.SilentShortly tick) :
    (w.step tick).Inv := by
  obtain ⟨wait, event⟩ := tick
  cases event with
  | canFrame canFrame =>
    have hframe : (w.gateway.canFrameArrivedCallback (UInt32.ofNat (w.now + wait))
      canFrame).gateway.clientOfflineTimer =
        UInt32.ofNat (w.now + wait) := by
      unfold canFrameArrivedCallback
      simp only
      split <;> rfl
    refine ⟨w.gateway.clientEverSeen_canFrameArrivedCallback _ canFrame, ?_,
      Nat.le_trans h.passed (Nat.le_add_right _ _)⟩
    rintro t ⟨⟩
    refine ⟨hframe, Nat.le_refl _, ?_⟩
    have hpassed := h.passed
    show w.lastPass < w.now + wait + 2 ^ 32
    omega
  | run =>
    obtain ⟨timer, hrun, -⟩ := w.gateway.run_cases (UInt32.ofNat (w.now + wait))
    refine ⟨?_, ?_, Nat.le_refl _⟩
    · simp only [step]
      rw [hrun]
      exact h.seen
    · intro t ht
      obtain ⟨htimer, hle, -⟩ := h.timer t ht
      refine ⟨?_, Nat.le_trans hle (Nat.le_add_right _ _), hshort rfl t ht⟩
      simp only [step]
      rw [hrun]
      exact htimer

/-- In a run whose passes are punctual, the client counts as online only when it was heard lately, exactly when no
pass finds it silent for a turn of the clock. -/
theorem online_heard_iff (start : Nat) (ticks : List ClientTick)
    (hpunctual : Meets step Punctual (init start) ticks) :
    Meets step OnlineHeard (init start) ticks ↔ Meets step SilentShortly (init start) ticks := by
  have hboth : Meets step (fun w tick => Punctual w tick ∧ OnlineHeard w tick) (init start) ticks ↔
      Meets step (fun w tick => Punctual w tick ∧ SilentShortly w tick) (init start) ticks :=
    meets_congr (fun w tick h hG => inv_step w tick h ((onlineHeard_iff_short h hG.1).mp hG.2))
      (fun w tick h => and_congr_right fun hp => onlineHeard_iff_short h hp) ticks (inv_init start)
  rw [meets_and, meets_and] at hboth
  exact ⟨fun h => (hboth.mp ⟨hpunctual, h⟩).2, fun h => (hboth.mpr ⟨hpunctual, h⟩).2⟩

/-! ## A silence of a turn of the clock -/

def silence (passes : Nat) : List ClientTick :=
  ⟨0, .canFrame ⟨.PING, Vector.replicate 8 0⟩⟩ :: List.replicate passes ⟨1000, .run⟩

theorem run_passes (w : OnlineWatch) (passes : Nat) (hnow : w.now = w.lastPass) :
    Meets step Punctual w (List.replicate passes ⟨1000, .run⟩) ∧
      (run step w (List.replicate passes ⟨1000, .run⟩)).now = w.now + 1000 * passes ∧
      (run step w (List.replicate passes ⟨1000, .run⟩)).heard = w.heard := by
  induction passes generalizing w with
  | zero => exact ⟨trivial, rfl, rfl⟩
  | succ passes ih =>
    obtain ⟨hpunctual, hafter, hheard⟩ := ih (w.step ⟨1000, .run⟩) rfl
    have hkept : (w.step ⟨1000, .run⟩).heard = w.heard := by simp only [step]
    rw [List.replicate_succ, run_cons, hafter, hheard, hkept]
    refine ⟨⟨fun _ => ?_, hpunctual⟩, ?_, rfl⟩
    · show w.now + 1000 ≤ w.lastPass + 1000
      omega
    · show w.now + 1000 + 1000 * passes = w.now + 1000 * (passes + 1)
      omega

theorem silence_punctual (passes : Nat) : Meets step Punctual (init 0) (silence passes) :=
  ⟨fun h => (by cases h), (run_passes _ passes rfl).1⟩

/-- A pass that comes a turn of the clock after the frame leaves the client online. -/
theorem silence_aliases {passes : Nat} (h : 2 ^ 32 ≤ 1000 * (passes + 1)) :
    ¬ Meets step OnlineHeard (init 0) (silence (passes + 1)) := by
  intro honline
  have hshort := (online_heard_iff 0 _ (silence_punctual _)).mp honline
  rw [silence, List.replicate_succ'] at hshort
  obtain ⟨-, hlong, -⟩ := Meets.append.mp hshort.2
  obtain ⟨-, hnow, hheard⟩ := run_passes (step (init 0) ⟨0, .canFrame ⟨.PING, Vector.replicate 8 0⟩⟩) passes rfl
  have hless : (run step (step (init 0) ⟨0, .canFrame ⟨.PING, Vector.replicate 8 0⟩⟩)
      (List.replicate passes ⟨1000, .run⟩)).now + 1000 < 0 + 2 ^ 32 := hlong rfl 0 hheard
  have hfirst : (step (init 0) ⟨0, .canFrame ⟨.PING, Vector.replicate 8 0⟩⟩).now = 0 := rfl
  rw [hnow, hfirst] at hless
  omega

/-- 4294968 passes are just over a turn of the clock. -/
theorem silent_online :
    Meets step Punctual (init 0) (silence (4294967 + 1)) ∧ ¬ Meets step OnlineHeard (init 0)
      (silence (4294967 + 1)) :=
  ⟨silence_punctual _, silence_aliases (by decide)⟩

theorem online_heard_once : Meets step OnlineHeard (init 0) (silence 1) := by
  refine (online_heard_iff 0 (silence 1) (silence_punctual 1)).mpr ⟨fun h => (by cases h), fun _ t ht => ?_,
    trivial⟩
  obtain rfl : 0 = t := Option.some.inj ht
  show 0 + 0 + 1000 < 0 + 2 ^ 32
  decide

end OnlineWatch

end CanSystems
