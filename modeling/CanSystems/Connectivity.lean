import CanSystems.Common
import Mathlib.Data.Vector.Basic
import Mathlib.Data.Fin.Basic
import Mathlib.Algebra.Group.Nat.Defs

/-!
# The link to the broker

`Connectivity` keeps an MQTT session up. A pass looks at the network interface,
serves the client, reconnects when the wait of the backoff ladder is over, and
clears the ladder once the link has held. The rung is kept in RTC memory too,
which survives a restart. What the network and the broker answer in a pass is in
`LinkIo`; the session is what the client believes of it.
-/

namespace CanSystems

/-! ## The ladder -/

structure ReconnectBackoff where
  stepIndex : Fin 7
  deriving DecidableEq, Repr

namespace ReconnectBackoff

def delaysMs : Vector UInt32 7 :=
  #v[Time.secToMs 5, Time.secToMs 10, Time.secToMs 20, Time.secToMs 40, Time.secToMs 80, Time.secToMs 160,
     Time.secToMs 300]

def getDelayMs (b : ReconnectBackoff) : UInt32 := delaysMs[b.stepIndex]

def onFailure (b : ReconnectBackoff) : ReconnectBackoff :=
  if h : b.stepIndex.val + 1 < 7 then ⟨⟨b.stepIndex.val + 1, h⟩⟩ else b

def onSuccess (_ : ReconnectBackoff) : ReconnectBackoff := ⟨0⟩

def restore (index : UInt8) : ReconnectBackoff := if h : index.toNat < 7 then ⟨⟨index.toNat, h⟩⟩ else ⟨6⟩

theorem val_onFailure (b : ReconnectBackoff) : b.onFailure.stepIndex.val = min (b.stepIndex.val + 1) 6 := by
  have hlt := b.stepIndex.isLt
  unfold onFailure
  split
  · simp only; omega
  · omega

end ReconnectBackoff

/-! ## What survives a restart -/

inductive RtcStore.Slot
  | BackoffStep | BootStage
  deriving DecidableEq, Repr

inductive BootStage
  | Unknown | Banner | FileSystem | BackoffWait | NetworkStart | AddressWait | ClockSync | Credentials | Certificate
  | BrokerConnect | Subscribe | Announce | Running
  deriving DecidableEq, Repr

structure RtcStore where
  magic : UInt32
  mask : UInt32
  backoffStep : UInt32
  bootStage : UInt32
  deriving DecidableEq, Repr

namespace RtcStore

def recordMagic : UInt32 := 0x52544301

def readOrEmpty (r : RtcStore) : RtcStore := if r.magic ≠ recordMagic then ⟨recordMagic, 0, 0, 0⟩ else r

def slotBit : Slot → UInt32
  | .BackoffStep => 1
  | .BootStage => 2

def value (r : RtcStore) : Slot → UInt32
  | .BackoffStep => r.backoffStep
  | .BootStage => r.bootStage

def read (r : RtcStore) (slot : Slot) : Option UInt8 :=
  if r.readOrEmpty.mask &&& slotBit slot = 0 then none else some (r.readOrEmpty.value slot).toUInt8

def write (r : RtcStore) (slot : Slot) (value : UInt8) : RtcStore :=
  let r := r.readOrEmpty
  let r := { r with mask := r.mask ||| slotBit slot }
  match slot with
  | .BackoffStep => { r with backoffStep := value.toUInt32 }
  | .BootStage => { r with bootStage := value.toUInt32 }

/-! Writing a slot does not touch the other one. -/

theorem or_and_self (mask bit : UInt32) : (mask ||| bit) &&& bit = bit := by
  apply UInt32.toBitVec_inj.mp
  ext i hi
  simp
  exact Or.inr

theorem or_and_other {bit other : UInt32} (h : bit.toBitVec &&& other.toBitVec = 0) (mask : UInt32) :
    (mask ||| bit) &&& other = mask &&& other := by
  apply UInt32.toBitVec_inj.mp
  show (mask.toBitVec ||| bit.toBitVec) &&& other.toBitVec = mask.toBitVec &&& other.toBitVec
  rw [BitVec.and_comm, BitVec.and_or_distrib_left, BitVec.and_comm other.toBitVec bit.toBitVec, h]
  rw [BitVec.and_comm other.toBitVec]
  simp

theorem magic_readOrEmpty (r : RtcStore) : r.readOrEmpty.magic = recordMagic := by
  unfold readOrEmpty
  split
  · rfl
  · rename_i h
    exact not_not.mp h

theorem readOrEmpty_write (r : RtcStore) (slot : Slot) (value : UInt8) :
    (r.write slot value).readOrEmpty = r.write slot value := by
  have hmagic := r.magic_readOrEmpty
  cases slot
  all_goals
    unfold write
    rw [readOrEmpty, if_neg]
    exact not_not_intro hmagic

theorem read_write (r : RtcStore) (slot : Slot) (value : UInt8) : (r.write slot value).read slot = some value := by
  unfold read
  rw [readOrEmpty_write, if_neg]
  · cases slot
    all_goals
      show some value.toUInt32.toUInt8 = some value
      simp
  · cases slot
    all_goals
      show (r.readOrEmpty.mask ||| _) &&& _ ≠ 0
      rw [or_and_self]
      decide

theorem read_write_other (r : RtcStore) {slot slot' : Slot} (h : slot' ≠ slot) (value : UInt8) :
    (r.write slot value).read slot' = r.read slot' := by
  have hmask : (r.write slot value).mask &&& slotBit slot' = r.readOrEmpty.mask &&& slotBit slot' := by
    cases slot
    all_goals cases slot'
    all_goals first | exact absurd rfl h | exact or_and_other (by decide) _
  have hvalue : (r.write slot value).value slot' = r.readOrEmpty.value slot' := by
    cases slot
    all_goals cases slot'
    all_goals first | exact absurd rfl h | rfl
  unfold read
  rw [readOrEmpty_write, hmask, hvalue]

end RtcStore

def BootStage.code (stage : BootStage) : UInt8 := UInt8.ofNat stage.ctorIdx

/-! ## The connection -/

structure Connectivity where
  rtc : RtcStore
  /-- The client's state is CONNECTED. -/
  session : Bool
  networkState : Bool
  onlineState : Bool
  deviceResetTimer : UInt32
  reconnectTimer : UInt32
  onlineSinceTimer : UInt32
  backoff : ReconnectBackoff
  deriving DecidableEq, Repr

/-- What a connect meets: a session whose link still stands, a broker that accepts, and one that takes the
subscription and the announcement. -/
structure ConnectIo where
  link : Bool
  accepted : Bool
  subscribed : Bool
  announced : Bool
  deriving DecidableEq, Repr

/-- What a pass meets; `loopLink` and `endLink` say whether the link still stands when `loop` and the end of the
pass look at it, `alive` whether `loop` finds nothing wrong with the session. -/
structure LinkIo where
  network : Bool
  regain : ConnectIo
  loopLink : Bool
  alive : Bool
  retry : ConnectIo
  endLink : Bool
  deriving DecidableEq, Repr

/-- An attempt that found the client disconnected, with the rung before and after it. -/
structure ReconnectAttempt where
  networkBack : Bool
  ok : Bool
  before : Fin 7
  after : Fin 7
  deriving DecidableEq, Repr

/-- What `connectToMqttServer` found and answered, and what it left. -/
structure ConnectResult where
  found : Bool
  ok : Bool
  conn : Connectivity
  deriving DecidableEq, Repr

/-- What a pass leaves, the attempts it made, and whether it cleared the ladder or restarted the device. -/
structure ConnectivityPass where
  conn : Connectivity
  attempts : List ReconnectAttempt
  cleared : Bool
  restarted : Bool
  deriving DecidableEq, Repr

namespace Connectivity

def deviceResetTime : UInt32 := 3 * 60 * 60 * 1000
def onlineSettleTime : UInt32 := Time.minToMs 5

def bootProgress (c : Connectivity) (stage : BootStage) : Connectivity :=
  { c with rtc := c.rtc.write .BootStage stage.code }

def storeStep (c : Connectivity) : Connectivity :=
  { c with rtc := c.rtc.write .BackoffStep (UInt8.ofNat c.backoff.stepIndex) }

def restoredBackoff (rtc : RtcStore) (wdtReset : Bool) : ReconnectBackoff :=
  let backoff := match rtc.read .BackoffStep with
    | some storedStep => ReconnectBackoff.restore storedStep
    | none => ⟨0⟩
  if wdtReset then backoff.onFailure else backoff

def init (rtc : RtcStore) (wdtReset : Bool) (now : UInt32) : Connectivity :=
  storeStep {
    rtc := rtc
    session := true
    networkState := true
    onlineState := true
    deviceResetTimer := 0
    reconnectTimer := 0
    onlineSinceTimer := now
    backoff := restoredBackoff rtc wdtReset }

def connectToMqttServer (c : Connectivity) (io : ConnectIo) : ConnectResult :=
  let found := c.session && io.link
  let c := c.bootProgress .BrokerConnect
  if (found || io.accepted) = false then ⟨found, false, { c with session := false }⟩ else
  let c := c.bootProgress .Subscribe
  if io.subscribed = false then ⟨found, false, { c with session := false }⟩ else
  let c := c.bootProgress .Announce
  if io.announced = false then ⟨found, false, { c with session := false }⟩ else
    ⟨found, true, { c with session := true }⟩

def shutdownMqtt (c : Connectivity) : Connectivity := { c with session := false }

def ConnectResult.attempt (r : ConnectResult) (networkBack : Bool) (before after : ReconnectBackoff) :
    List ReconnectAttempt :=
  if r.found then [] else [⟨networkBack, r.ok, before.stepIndex, after.stepIndex⟩]

/-- `PubSubClient::loop`. -/
def loop (c : Connectivity) (io : LinkIo) : Bool × Connectivity :=
  let alive := c.session && io.loopLink && io.alive
  (alive, { c with session := alive })

def checkNetwork (c : Connectivity) (io : LinkIo) : Connectivity × List ReconnectAttempt :=
  if io.network = c.networkState then (c, []) else
  let c := { c with networkState := io.network }
  if c.networkState then
    let r := c.connectToMqttServer io.regain
    (r.conn, ConnectResult.attempt r true c.backoff r.conn.backoff)
  else (c.shutdownMqtt, [])

def retry (c : Connectivity) (now : UInt32) (io : LinkIo) : Connectivity × List ReconnectAttempt :=
  if c.networkState && Time.hasElapsed now c.reconnectTimer c.backoff.getDelayMs then
    let r := { c with reconnectTimer := now }.connectToMqttServer io.retry
    let conn := if r.ok then r.conn else { r.conn with backoff := r.conn.backoff.onFailure }.storeStep
    (conn, ConnectResult.attempt r false c.backoff conn.backoff)
  else (c, [])

def serveClient (c : Connectivity) (now : UInt32) (io : LinkIo) : Connectivity × List ReconnectAttempt :=
  match c.loop io with
  | (true, c) => ({ c with reconnectTimer := now }, [])
  | (false, c) => c.retry now io

def isOnline (c : Connectivity) (io : LinkIo) : Bool := c.networkState && c.session && io.endLink

/-- The ladder is not on its first rung, and the settle time has passed. -/
def settles (c : Connectivity) (now : UInt32) : Bool :=
  c.backoff.stepIndex != 0 && Time.hasElapsed now c.onlineSinceTimer onlineSettleTime

def checkLink (c : Connectivity) (io : LinkIo) : Connectivity :=
  if c.networkState then { c with session := c.session && io.endLink } else c

def stampOnline (c : Connectivity) (now : UInt32) (online : Bool) : Connectivity :=
  if online then { c with deviceResetTimer := now } else c

def clearLadder (c : Connectivity) (cleared : Bool) : Connectivity :=
  if cleared then { c with backoff := c.backoff.onSuccess }.storeStep else c

def markOnline (c : Connectivity) (now : UInt32) (online : Bool) : Connectivity :=
  if online != c.onlineState then
    { c with onlineState := online, onlineSinceTimer := if online then now else c.onlineSinceTimer }
  else c

def watchOnline (c : Connectivity) (now : UInt32) (io : LinkIo) : Bool × Connectivity :=
  let actualOnlineState := c.isOnline io
  let cleared := actualOnlineState && c.settles now
  (cleared, (((c.checkLink io).stampOnline now actualOnlineState).clearLadder cleared).markOnline now
    actualOnlineState)

def run (c : Connectivity) (now : UInt32) (io : LinkIo) : ConnectivityPass :=
  let (c, back) := c.checkNetwork io
  let (c, retries) := c.serveClient now io
  let (cleared, c) := c.watchOnline now io
  { conn := c
    attempts := back ++ retries
    cleared := cleared
    restarted := Time.hasElapsed now c.deviceResetTimer deviceResetTime }

/-! ## What a pass can do -/

theorem read_write_stage (rtc : RtcStore) (stage : BootStage) :
    (rtc.write .BootStage stage.code).read .BackoffStep = rtc.read .BackoffStep :=
  RtcStore.read_write_other _ (by decide) _

theorem read_storeStep (c : Connectivity) :
    c.storeStep.rtc.read .BackoffStep = some (UInt8.ofNat c.backoff.stepIndex) :=
  RtcStore.read_write _ _ _

theorem connectToMqttServer_cases (c : Connectivity) (io : ConnectIo) :
    (c.connectToMqttServer io).found = (c.session && io.link) ∧
    ∃ rtc, (c.connectToMqttServer io).conn = { c with rtc := rtc, session := (c.connectToMqttServer io).ok } ∧
      rtc.read .BackoffStep = c.rtc.read .BackoffStep := by
  unfold connectToMqttServer
  simp only [bootProgress]
  split
  · exact ⟨rfl, _, rfl, read_write_stage _ _⟩
  split
  · exact ⟨rfl, _, rfl, (read_write_stage _ _).trans (read_write_stage _ _)⟩
  -- both that are left got as far as the announcement
  split
  all_goals exact ⟨rfl, _, rfl, (read_write_stage _ _).trans ((read_write_stage _ _).trans (read_write_stage _ _))⟩

theorem connectToMqttServer_ok (c : Connectivity) (io : ConnectIo) :
    (c.connectToMqttServer io).ok = ((c.session && io.link || io.accepted) && io.subscribed && io.announced) := by
  unfold connectToMqttServer
  cases c.session && io.link
  all_goals cases io.accepted
  all_goals cases io.subscribed
  all_goals cases io.announced
  all_goals rfl

/-- The look at the network changes the session at most; an attempt it makes leaves the rung. -/
theorem checkNetwork_cases (c : Connectivity) (io : LinkIo) :
    ∃ rtc session, (c.checkNetwork io).1 = { c with rtc := rtc, session := session, networkState := io.network } ∧
      rtc.read .BackoffStep = c.rtc.read .BackoffStep ∧
      ((io.network = c.networkState ∧ session = c.session ∧ (c.checkNetwork io).2 = []) ∨
       (io.network = false ∧ c.networkState = true ∧ session = false ∧ (c.checkNetwork io).2 = []) ∨
       (io.network = true ∧ c.networkState = false ∧
        session = ((c.session && io.regain.link || io.regain.accepted) && io.regain.subscribed &&
          io.regain.announced) ∧
        (c.checkNetwork io).2 =
          if c.session && io.regain.link then [] else
            [⟨true, session, c.backoff.stepIndex, c.backoff.stepIndex⟩])) := by
  unfold checkNetwork
  split
  · rename_i hsame
    refine ⟨c.rtc, c.session, ?_, rfl, Or.inl ⟨hsame, rfl, rfl⟩⟩
    rw [hsame]
  rename_i hdiff
  simp only
  cases hnet : io.network with
  | true =>
    have hback : c.networkState = false := by
      rw [hnet] at hdiff
      exact Bool.eq_false_of_not_eq_true (Ne.symm hdiff)
    obtain ⟨hfound, rtc, hconn, hread⟩ := connectToMqttServer_cases { c with networkState := true } io.regain
    have hok := connectToMqttServer_ok { c with networkState := true } io.regain
    refine ⟨rtc, _, hconn, hread, Or.inr (Or.inr ⟨rfl, hback, hok, ?_⟩)⟩
    unfold ConnectResult.attempt
    rw [hfound, hconn]
    rfl
  | false =>
    have hlost : c.networkState = true := by
      rw [hnet] at hdiff
      exact Bool.eq_true_of_not_eq_false (Ne.symm hdiff)
    exact ⟨c.rtc, false, rfl, rfl, Or.inr (Or.inl ⟨rfl, hlost, rfl, rfl⟩)⟩

/-- Serving the client finds it alive, waits, or makes an attempt of which the ladder takes note. -/
theorem serveClient_cases (c : Connectivity) (now : UInt32) (io : LinkIo) :
    ((c.session && io.loopLink && io.alive) = true ∧
      c.serveClient now io = ({ c with session := true, reconnectTimer := now }, [])) ∨
    ((c.session && io.loopLink && io.alive) = false ∧ c.serveClient now io = ({ c with session := false }, [])) ∨
    ((c.session && io.loopLink && io.alive) = false ∧ c.networkState = true ∧
      Time.hasElapsed now c.reconnectTimer c.backoff.getDelayMs = true ∧ ∃ rtc,
      ((rtc.read .BackoffStep = c.rtc.read .BackoffStep ∧ c.serveClient now io =
          ({ c with session := true, reconnectTimer := now, rtc := rtc },
            [⟨false, true, c.backoff.stepIndex, c.backoff.stepIndex⟩])) ∨
        (rtc.read .BackoffStep = some (UInt8.ofNat c.backoff.onFailure.stepIndex) ∧ c.serveClient now io =
          ({ c with session := false, reconnectTimer := now, backoff := c.backoff.onFailure, rtc := rtc },
            [⟨false, false, c.backoff.stepIndex, c.backoff.onFailure.stepIndex⟩])))) := by
  unfold serveClient loop
  cases halive : c.session && io.loopLink && io.alive with
  | true => exact Or.inl ⟨rfl, rfl⟩
  | false =>
    right
    simp only
    unfold retry
    split
    swap
    · exact Or.inl ⟨trivial, rfl⟩
    rename_i hdue
    right
    rw [Bool.and_eq_true] at hdue
    refine ⟨trivial, hdue.1, hdue.2, ?_⟩
    obtain ⟨hfound, rtc, hconn, hread⟩ :=
      connectToMqttServer_cases { c with session := false, reconnectTimer := now } io.retry
    simp only
    cases hok : (connectToMqttServer { c with session := false, reconnectTimer := now } io.retry).ok with
    | true =>
      refine ⟨rtc, Or.inl ⟨hread, ?_⟩⟩
      rw [hok] at hconn
      simp only [ConnectResult.attempt, hfound, hconn, hok]
      rfl
    | false =>
      rw [hok] at hconn
      refine ⟨_, Or.inr ⟨read_storeStep { c with backoff := c.backoff.onFailure, rtc := rtc }, ?_⟩⟩
      simp only [ConnectResult.attempt, hfound, hconn, hok]
      rfl

/-- The object between the client's turn and the look at the online state. -/
def served (c : Connectivity) (now : UInt32) (io : LinkIo) : Connectivity :=
  ((c.checkNetwork io).1.serveClient now io).1

theorem served_online (c : Connectivity) (now : UInt32) (io : LinkIo) :
    (c.served now io).onlineState = c.onlineState ∧ (c.served now io).onlineSinceTimer = c.onlineSinceTimer := by
  obtain ⟨rtc, session, hcheck, -, -⟩ := c.checkNetwork_cases io
  unfold served
  rcases (c.checkNetwork io).1.serveClient_cases now io with ⟨-, h⟩ | ⟨-, h⟩ | ⟨-, -, -, rtc', ⟨-, h⟩ | ⟨-, h⟩⟩
  all_goals
    rw [h, hcheck]
    exact ⟨rfl, rfl⟩

theorem served_backoff (c : Connectivity) (now : UInt32) (io : LinkIo) :
    (c.served now io).backoff = c.backoff ∨
    ((c.served now io).backoff = c.backoff.onFailure ∧ (c.served now io).session = false) := by
  obtain ⟨rtc, session, hcheck, -, -⟩ := c.checkNetwork_cases io
  unfold served
  rcases (c.checkNetwork io).1.serveClient_cases now io with ⟨-, h⟩ | ⟨-, h⟩ | ⟨-, -, -, rtc', ⟨-, h⟩ | ⟨-, h⟩⟩
  · rw [h, hcheck]
    exact Or.inl rfl
  · rw [h, hcheck]
    exact Or.inl rfl
  · rw [h, hcheck]
    exact Or.inl rfl
  · rw [h, hcheck]
    exact Or.inr ⟨rfl, rfl⟩

theorem backoff_of_online {c : Connectivity} {now : UInt32} {io : LinkIo}
    (h : (c.served now io).isOnline io = true) :
    (c.served now io).backoff = c.backoff := by
  rcases c.served_backoff now io with hb | ⟨-, hsession⟩
  · exact hb
  · simp [isOnline, hsession] at h

theorem run_cleared (c : Connectivity) (now : UInt32) (io : LinkIo) :
    (c.run now io).cleared = ((c.served now io).isOnline io && (c.served now io).settles now) := rfl

theorem checkLink_eq (c : Connectivity) (io : LinkIo) :
    c.checkLink io = { c with session := c.session && (io.endLink || !c.networkState) } := by
  obtain ⟨rtc, session, networkState, onlineState, reset, reconnect, since, backoff⟩ := c
  cases networkState
  all_goals simp [checkLink]

theorem stampOnline_cases (c : Connectivity) (now : UInt32) (online : Bool) :
    ∃ timer, c.stampOnline now online = { c with deviceResetTimer := timer } := by
  unfold stampOnline
  split
  · exact ⟨now, rfl⟩
  · exact ⟨c.deviceResetTimer, rfl⟩

theorem clearLadder_cases (c : Connectivity) (cleared : Bool) :
    ∃ rtc, c.clearLadder cleared = { c with rtc := rtc, backoff := if cleared then ⟨0⟩ else c.backoff } ∧
      (cleared = true → rtc.read .BackoffStep = some 0) ∧ (cleared = false → rtc = c.rtc) := by
  unfold clearLadder
  cases cleared with
  | true =>
    refine ⟨_, rfl, fun _ => read_storeStep _, ?_⟩
    intro h
    cases h
  | false =>
    refine ⟨c.rtc, rfl, ?_, fun _ => rfl⟩
    intro h
    cases h

theorem markOnline_eq (c : Connectivity) (now : UInt32) (online : Bool) :
    c.markOnline now online = { c with
      onlineState := online
      onlineSinceTimer := if online = true ∧ c.onlineState = false then now else c.onlineSinceTimer } := by
  unfold markOnline
  cases hstate : c.onlineState
  all_goals cases online
  all_goals simp
  all_goals
    cases c
    simp only at hstate
    rw [hstate]

theorem watchOnline_cases (c : Connectivity) (now : UInt32) (io : LinkIo) :
    ∃ timer rtc, (c.watchOnline now io).2 = { c with
        session := c.session && (io.endLink || !c.networkState)
        deviceResetTimer := timer
        rtc := rtc
        backoff := if c.isOnline io && c.settles now then ⟨0⟩ else c.backoff
        onlineState := c.isOnline io
        onlineSinceTimer := if c.isOnline io = true ∧ c.onlineState = false then now else c.onlineSinceTimer } ∧
      ((c.isOnline io && c.settles now) = true → rtc.read .BackoffStep = some 0) ∧
      ((c.isOnline io && c.settles now) = false → rtc = c.rtc) := by
  obtain ⟨timer, htimer⟩ := (c.checkLink io).stampOnline_cases now (c.isOnline io)
  obtain ⟨rtc, hclear, hcleared, hkept⟩ := clearLadder_cases { c.checkLink io with deviceResetTimer := timer }
    (c.isOnline io && c.settles now)
  have hlink := c.checkLink_eq io
  refine ⟨timer, rtc, ?_, hcleared, ?_⟩
  · unfold watchOnline
    simp only
    rw [htimer, hclear, markOnline_eq, hlink]
  · rw [hlink] at hkept
    exact hkept

/-! ## The online state after a pass -/

theorem run_onlineState (c : Connectivity) (now : UInt32) (io : LinkIo) :
    (c.run now io).conn.onlineState = (c.served now io).isOnline io := by
  obtain ⟨timer, rtc, hend, -, -⟩ := (c.served now io).watchOnline_cases now io
  exact congrArg onlineState hend

theorem run_onlineSinceTimer (c : Connectivity) (now : UInt32) (io : LinkIo) :
    (c.run now io).conn.onlineSinceTimer =
      if (c.run now io).conn.onlineState = true ∧ c.onlineState = false then now else c.onlineSinceTimer := by
  obtain ⟨timer, rtc, hend, -, -⟩ := (c.served now io).watchOnline_cases now io
  obtain ⟨hstate, htimer⟩ := c.served_online now io
  rw [run_onlineState, ← hstate, ← htimer]
  exact congrArg onlineSinceTimer hend

/-- What clearing the ladder takes: the rung and the settle timer are those of the pass before. -/
theorem run_cleared_iff (c : Connectivity) (now : UInt32) (io : LinkIo) :
    (c.run now io).cleared = true ↔ (c.run now io).conn.onlineState = true ∧ c.backoff.stepIndex.val ≠ 0 ∧
      Time.hasElapsed now c.onlineSinceTimer onlineSettleTime = true := by
  rw [run_cleared, run_onlineState]
  cases hon : (c.served now io).isOnline io with
  | false => simp
  | true => simp [settles, backoff_of_online hon, (c.served_online now io).2]

theorem cleared_of_lower {c : Connectivity} {now : UInt32} {io : LinkIo}
    (h : (c.run now io).conn.backoff.stepIndex < c.backoff.stepIndex) : (c.run now io).cleared = true := by
  obtain ⟨timer, rtc, hend, -, -⟩ := (c.served now io).watchOnline_cases now io
  have hbackoff : (c.run now io).conn.backoff = if (c.run now io).cleared then ⟨0⟩ else (c.served now io).backoff :=
    congrArg backoff hend
  by_contra hkept
  rw [hbackoff, if_neg hkept] at h
  rcases c.served_backoff now io with hb | ⟨hb, -⟩
  · rw [hb] at h
    exact absurd h (Fin.lt_irrefl _)
  · have hclimb := c.backoff.val_onFailure
    have htop := c.backoff.stepIndex.isLt
    rw [hb, Fin.lt_def] at h
    omega

end Connectivity

end CanSystems
