import CanSystems.CanMqttGateway
import CanSystems.Lib.Machine

/-!
# The availability the broker keeps

The broker keeps the last availability message it took. A gateway whose last
message got through agrees with it, and a pass in which publishing works leaves
them agreeing; a change whose message was lost is not published again
(`availability_stale`).
-/

namespace CanSystems

/-- The gateway and the retained value of its client's availability topic. -/
structure AvailabilityWatch where
  gateway : CanMqttGateway
  retained : Option Bool
  deriving DecidableEq, Repr

/-- What happens to a gateway; `ok k` says whether the broker takes the availability message `k` of the call. -/
inductive GatewayEvent
  | init (now : UInt32) (ok : Nat → Bool)
  | run (now : UInt32) (ok : Nat → Bool)
  | canFrame (now : UInt32) (canFrame : CanFrame) (ok : Nat → Bool)

def GatewayEvent.ok : GatewayEvent → Nat → Bool
  | .init _ ok => ok
  | .run _ ok => ok
  | .canFrame _ _ ok => ok

namespace AvailabilityWatch

def keep (retained : Option Bool) : List Bool → (Nat → Bool) → Option Bool
  | [], _ => retained
  | online :: more, ok => keep (if ok 0 then some online else retained) more fun k => ok (k + 1)

/-- The last message gets through, or says what the broker has already. -/
def LastTaken (retained : Option Bool) : List Bool → (Nat → Bool) → Prop
  | [], _ => True
  | [online], ok => ok 0 = true ∨ retained = some online
  | online :: more, ok => LastTaken (if ok 0 then some online else retained) more fun k => ok (k + 1)

def call (w : AvailabilityWatch) : GatewayEvent → GatewayCall
  | .init now _ => w.gateway.init now
  | .run now _ => w.gateway.run now
  | .canFrame now canFrame _ => w.gateway.canFrameArrivedCallback now canFrame

def step (w : AvailabilityWatch) (e : GatewayEvent) : AvailabilityWatch :=
  ⟨(w.call e).gateway, keep w.retained (w.call e).announced e.ok⟩

/-- Whatever the clock reads in it, the next pass in which publishing works leaves the broker with the gateway's
view. -/
def Converging (w : AvailabilityWatch) : Prop :=
  ∀ now, (w.step (.run now fun _ => true)).retained = some (w.step (.run now fun _ => true)).gateway.clientOnline

def Delivers (w : AvailabilityWatch) (e : GatewayEvent) : Prop :=
  LastTaken w.retained (w.call e).announced e.ok

def Agrees (w : AvailabilityWatch) : Prop := w.retained = some w.gateway.clientOnline

theorem keep_eq_iff {online : Bool} : ∀ {retained : Option Bool} {messages : List Bool} {ok : Nat → Bool},
    messages.getLast? = some online → (keep retained messages ok = some online ↔ LastTaken retained messages ok)
  | _, [], _, h => by cases h
  | retained, [last], ok, h => by
    cases h
    unfold keep keep LastTaken
    split
    · simp [*]
    · simp [*]
  | retained, first :: second :: more, ok, h => by
    unfold keep LastTaken
    apply keep_eq_iff
    rw [List.getLast?_cons_cons] at h
    exact h

theorem call_announces (w : AvailabilityWatch) (e : GatewayEvent) : (w.call e).Announces w.gateway := by
  cases e with
  | init now ok => exact Or.inr (w.gateway.init_announces now)
  | run now ok => exact w.gateway.run_announces now
  | canFrame now canFrame ok => exact w.gateway.canFrameArrivedCallback_announces now canFrame

theorem call_heard (w : AvailabilityWatch) (e : GatewayEvent) : (w.call e).gateway.Heard := by
  cases e with
  | init now ok => exact w.gateway.init_heard now
  | run now ok => exact w.gateway.run_heard now
  | canFrame now canFrame ok => exact fun _ => w.gateway.clientEverSeen_canFrameArrivedCallback now canFrame

/-- Where the two agree, what comes next keeps them so exactly when its last message is taken. -/
theorem agrees_step_iff {w : AvailabilityWatch} (h : w.Agrees) (e : GatewayEvent) :
    (w.step e).Agrees ↔ w.Delivers e := by
  rcases w.call_announces e with ⟨hnone, hsame⟩ | hlast
  · unfold Agrees Delivers step
    rw [hnone, hsame]
    exact iff_of_true h trivial
  · exact keep_eq_iff hlast

theorem agrees_init_iff (w : AvailabilityWatch) (now : UInt32) (ok : Nat → Bool) :
    (w.step (.init now ok)).Agrees ↔ w.Delivers (.init now ok) :=
  keep_eq_iff (w.gateway.init_announces now)

/-- A pass that works leaves them agreeing whatever the clock reads in it, if and only if they agree before it. -/
theorem converging_iff {w : AvailabilityWatch} (h : w.gateway.Heard) : w.Converging ↔ w.Agrees := by
  constructor
  · intro hconv
    obtain ⟨now, hsame⟩ := CanMqttGateway.exists_unchanged h
    obtain ⟨timer, hrun, hnone⟩ := w.gateway.run_cases now
    have hagrees := hconv now
    unfold step call at hagrees
    simp only at hagrees
    rw [hnone, hrun, if_pos hsame.symm, hsame] at hagrees
    exact hagrees
  · intro hagrees now
    apply (agrees_step_iff hagrees _).mpr
    obtain ⟨timer, -, hannounced⟩ := w.gateway.run_cases now
    unfold Delivers call
    simp only
    rw [hannounced]
    split
    · trivial
    · exact Or.inl rfl

/-- Over any sequence of calls after `init`, the broker can always catch up exactly when no change is lost. -/
theorem availability_converges_iff (retained : Option Bool) (now : UInt32) (ok : Nat → Bool)
    (es : List GatewayEvent) :
    Machine.Meets step (fun w e => (w.step e).Converging) ⟨.new, retained⟩ (.init now ok :: es) ↔
      Machine.Meets step Delivers ⟨.new, retained⟩ (.init now ok :: es) := by
  have hfirst : (AvailabilityWatch.step ⟨.new, retained⟩ (.init now ok)).Converging ↔
      Delivers ⟨.new, retained⟩ (.init now ok) :=
    (converging_iff (call_heard _ _)).trans (agrees_init_iff _ now ok)
  have hrest : ∀ w : AvailabilityWatch, w.Agrees →
      (Machine.Meets step (fun w e => (w.step e).Converging) w es ↔ Machine.Meets step Delivers w es) := by
    intro w hw
    apply Machine.meets_congr _ _ es hw
    · intro w e _ hconv
      exact (converging_iff (w.call_heard e)).mp hconv
    · intro w e hw
      exact (converging_iff (w.call_heard e)).trans (agrees_step_iff hw e)
  constructor
  · rintro ⟨hconv, hes⟩
    have hagrees := (converging_iff (call_heard _ _)).mp hconv
    exact ⟨hfirst.mp hconv, (hrest _ hagrees).mp hes⟩
  · rintro ⟨hdelivers, hes⟩
    have hconv := hfirst.mpr hdelivers
    exact ⟨hconv, (hrest _ ((converging_iff (call_heard _ _)).mp hconv)).mpr hes⟩

/-- The client answers while publishing fails: the gateway takes it for online, the broker keeps the offline of
`init`. -/
theorem availability_stale :
    ¬ ∀ (retained : Option Bool) (now : UInt32) (ok : Nat → Bool) (es : List GatewayEvent),
      Machine.Meets step (fun w e => (w.step e).Converging) ⟨.new, retained⟩ (.init now ok :: es) := by
  intro h
  have hstale := (h none 0 (fun _ => true) [.canFrame 1000 ⟨.PING, Vector.replicate 8 0⟩ fun _ => true,
    .run 1001 fun _ => false]).2.2.1 1002
  revert hstale
  decide

end AvailabilityWatch

end CanSystems
