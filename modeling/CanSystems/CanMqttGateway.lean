import CanSystems.OtaCanFrame

/-!
# The gateway's view of its client

`CanMqttGateway` speaks for one CAN node: it pings it, takes it for online while
frames keep coming, and publishes what it sees. The update it may be sending is
`OtaRegistry.runTarget`; nothing here looks at it. Every publish is made once,
and what the broker answers is not looked at.
-/

namespace CanSystems

/-- What the gateway publishes for its client, each kind on a topic of its own. -/
inductive GatewayMessage
  | availability (online : Bool)
  | info (fwVersion : UInt16) (gitHash : UInt32) (gitDirty resetReason : UInt8)
  | button (state : UInt8)
  deriving DecidableEq, Repr

structure CanMqttGateway where
  clientPingTimer : UInt32
  clientOfflineTimer : UInt32
  clientOnline : Bool
  clientEverSeen : Bool
  deriving DecidableEq, Repr

/-- What a call leaves, the commands it sends to the client and the messages it publishes, in order. -/
structure GatewayCall where
  gateway : CanMqttGateway
  sent : List CanCmd
  published : List GatewayMessage
  deriving DecidableEq, Repr

namespace CanMqttGateway

def clientPingTime : UInt32 := Time.secToMs 1
def clientOfflineTime : UInt32 := Time.secToMs 5

def new : CanMqttGateway := ⟨0, 0, true, false⟩

def init (g : CanMqttGateway) (now : UInt32) : GatewayCall :=
  { gateway := { g with clientPingTimer := now, clientOnline := false }
    sent := [.FW_VERSION]
    published := [.availability false] }

def clientOnlineActual (g : CanMqttGateway) (now : UInt32) : Bool :=
  g.clientEverSeen && !Time.hasElapsed now g.clientOfflineTimer clientOfflineTime

def pingClient (g : CanMqttGateway) (now : UInt32) : List CanCmd × CanMqttGateway :=
  if Time.hasElapsed now g.clientPingTimer clientPingTime then ([.PING], { g with clientPingTimer := now }) else
    ([], g)

def handlePing (g : CanMqttGateway) (now : UInt32) : GatewayCall :=
  let (sent, g) := g.pingClient now
  let clientOnlineActual := g.clientOnlineActual now
  if g.clientOnline ≠ clientOnlineActual then
    { gateway := { g with clientOnline := clientOnlineActual }
      sent := sent
      published := [.availability clientOnlineActual] }
  else { gateway := g, sent := sent, published := [] }

def run (g : CanMqttGateway) (now : UInt32) : GatewayCall := g.handlePing now

def fwVersionInfo (data : CanData) : GatewayMessage :=
  let (b₀, b₁, b₂, b₃, b₄, b₅, b₆, b₇) := OtaCanFrame.bytesOf data
  .info (b₀.toUInt16 ||| (b₁.toUInt16 <<< 8))
    (b₂.toUInt32 ||| (b₃.toUInt32 <<< 8) ||| (b₄.toUInt32 <<< 16) ||| (b₅.toUInt32 <<< 24)) b₆ b₇

def canFrameArrivedCallback (g : CanMqttGateway) (now : UInt32) (canFrame : CanFrame) : GatewayCall :=
  let g := { g with clientPingTimer := now, clientOfflineTimer := now, clientEverSeen := true }
  match canFrame.cmd with
  | .RESTART =>
    -- a restart shows in the history of the topic, however short it was
    { gateway := { g with clientOnline := true }
      sent := [.FW_VERSION]
      published := [.availability false, .availability true] }
  | .FW_VERSION =>
    { gateway := { g with clientOnline := true }
      sent := []
      published := fwVersionInfo canFrame.data :: if g.clientOnline then [] else [.availability true] }
  | .BUTTON_EVENT => { gateway := g, sent := [], published := [.button (OtaCanFrame.bytesOf canFrame.data).1] }
  | _ => { gateway := g, sent := [], published := [] }

end CanMqttGateway

/-! ## What the calls announce -/

def GatewayCall.announced (call : GatewayCall) : List Bool :=
  call.published.filterMap fun
    | .availability online => some online
    | _ => none

/-- A call that changes what it takes the client for ends by announcing it. -/
def GatewayCall.Announces (call : GatewayCall) (before : CanMqttGateway) : Prop :=
  (call.announced = [] ∧ call.gateway.clientOnline = before.clientOnline) ∨
  call.announced.getLast? = some call.gateway.clientOnline

namespace CanMqttGateway

theorem init_announces (g : CanMqttGateway) (now : UInt32) :
    (g.init now).announced.getLast? = some (g.init now).gateway.clientOnline := rfl

theorem pingClient_cases (g : CanMqttGateway) (now : UInt32) :
    ∃ timer, (g.pingClient now).2 = { g with clientPingTimer := timer } := by
  unfold pingClient
  split
  · exact ⟨now, rfl⟩
  · exact ⟨g.clientPingTimer, rfl⟩

theorem run_cases (g : CanMqttGateway) (now : UInt32) :
    ∃ timer, (g.run now).gateway = { g with clientPingTimer := timer, clientOnline := g.clientOnlineActual now } ∧
      (g.run now).announced = if g.clientOnline = g.clientOnlineActual now then [] else
        [g.clientOnlineActual now] := by
  obtain ⟨timer, hping⟩ := g.pingClient_cases now
  refine ⟨timer, ?_⟩
  have hactual : (g.pingClient now).2.clientOnlineActual now = g.clientOnlineActual now := by
    rw [hping]
    rfl
  unfold run handlePing
  simp only
  rw [hactual, hping]
  by_cases hsame : g.clientOnline = g.clientOnlineActual now
  · rw [if_neg (not_not_intro hsame), if_pos hsame]
    exact ⟨by simp [← hsame], rfl⟩
  · rw [if_pos hsame, if_neg hsame]
    exact ⟨rfl, rfl⟩

theorem run_announces (g : CanMqttGateway) (now : UInt32) : (g.run now).Announces g := by
  obtain ⟨timer, hrun, hannounced⟩ := g.run_cases now
  unfold GatewayCall.Announces
  rw [hannounced, hrun]
  split
  · rename_i hsame
    exact Or.inl ⟨rfl, hsame.symm⟩
  · exact Or.inr rfl

theorem canFrameArrivedCallback_announces (g : CanMqttGateway) (now : UInt32) (canFrame : CanFrame) :
    (g.canFrameArrivedCallback now canFrame).Announces g := by
  unfold canFrameArrivedCallback
  simp only
  split
  · exact Or.inr rfl
  · cases hon : g.clientOnline with
    | true => exact Or.inl ⟨rfl, hon.symm⟩
    | false => exact Or.inr rfl
  · exact Or.inl ⟨rfl, rfl⟩
  · exact Or.inl ⟨rfl, rfl⟩

/-! ## Only a client that was heard counts as online -/

def Heard (g : CanMqttGateway) : Prop := g.clientOnline = true → g.clientEverSeen = true

theorem init_heard (g : CanMqttGateway) (now : UInt32) : (g.init now).gateway.Heard := by
  intro h
  cases h

theorem run_heard (g : CanMqttGateway) (now : UInt32) : (g.run now).gateway.Heard := by
  obtain ⟨timer, hrun, -⟩ := g.run_cases now
  unfold Heard
  rw [hrun]
  intro h
  exact (Bool.and_eq_true _ _ ▸ h : _ ∧ _).1

theorem clientEverSeen_canFrameArrivedCallback (g : CanMqttGateway) (now : UInt32) (canFrame : CanFrame) :
    (g.canFrameArrivedCallback now canFrame).gateway.clientEverSeen = true := by
  unfold canFrameArrivedCallback
  simp only
  split
  all_goals rfl

theorem exists_unchanged {g : CanMqttGateway} (h : g.Heard) : ∃ now, g.clientOnlineActual now = g.clientOnline := by
  cases hon : g.clientOnline with
  | true =>
    refine ⟨g.clientOfflineTimer, ?_⟩
    unfold clientOnlineActual
    rw [h hon, Time.hasElapsed_self]
    rfl
  | false =>
    refine ⟨g.clientOfflineTimer + (clientOfflineTime + 1), ?_⟩
    have helapsed : Time.hasElapsed (g.clientOfflineTimer + (clientOfflineTime + 1)) g.clientOfflineTimer
        clientOfflineTime = true := by
      unfold Time.hasElapsed Time.elapsedSince
      rw [UInt32.add_comm, UInt32.add_sub_cancel]
      decide
    unfold clientOnlineActual
    rw [helapsed]
    simp

end CanMqttGateway

end CanSystems
