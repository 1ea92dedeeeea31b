import CanSystems.Common
import CanSystems.Lib.Fifo

/-!
# The sound module

The player takes tracks off a queue, powers the module up, and sends it one
command at a time. The module does not answer: a track has started when BUSY is
low or its end has raised the interrupt. A command that starts nothing is sent
again, then the module is powered down and tried anew, then the track is given
up. `Output` is what a pass does to the world, in the order in which it does it.
-/

namespace CanSystems

structure PlayQueueItem where
  track : UInt16
  volume : UInt8
  red : UInt8
  green : UInt8
  blue : UInt8
  deriving DecidableEq, Repr

instance : Inhabited PlayQueueItem := ⟨⟨0, 0, 0, 0, 0⟩⟩

inductive PlayingStates
  | IDLE | TURN_ON | WAIT_FOR_BOOT | SET_VOLUME | WAIT_FOR_CMD | PLAY | WAIT_FOR_START | WAIT_FOR_PLAY
  | RESTART_MODULE
  | CHECK_QUEUE | PLAYING_DELAY | TURN_OFF
  deriving DecidableEq, Repr

inductive DfPin
  | enPin | txPin | rxPin
  deriving DecidableEq, Repr

inductive DfOutput
  | digitalWrite (pin : DfPin) (high : Bool)
  | attachInt
  | detachInt
  | volume (level : UInt8)
  | play (track : UInt16)
  | stop
  | setColor (red green blue : UInt8)
  | loadColor
  | playFailedCallback (track : UInt16)
  deriving DecidableEq, Repr

structure DFPlayer where
  /-- Set by the interrupt at the end of a track. -/
  enablePlay : Bool
  eventTimer : UInt32
  playingState : PlayingStates
  currentItem : PlayQueueItem
  /-- Whether there is a callback. -/
  playFailedCallback : Bool
  playRetries : ℕ
  moduleRestarts : ℕ
  playingQueue : Fifo PlayQueueItem 5
  deriving DecidableEq

namespace DFPlayer

def maxTrack : UInt16 := 9999

def maxVolume : UInt8 := 30

def bootTime : UInt32 := Time.secToMs 1

def cmdExecTime : UInt32 := 120

def playDelayTime : UInt32 := 400

def playTimeoutTime : UInt32 := Time.secToMs 10

def playStartTime : UInt32 := 500

def playStartRetries : ℕ := 2

def moduleRestartLimit : ℕ := 1

def moduleRestartTime : UInt32 := Time.secToMs 1

def init : DFPlayer := ⟨false, 0, .IDLE, default, false, 0, 0, .empty⟩

def addPlayFailedCallback (p : DFPlayer) (playFailedCallback : Bool) : DFPlayer :=
  { p with playFailedCallback := playFailedCallback }

def clamped (item : PlayQueueItem) : PlayQueueItem :=
  { item with
    track := if item.track > maxTrack then maxTrack else item.track
    volume := if item.volume > maxVolume then maxVolume else item.volume }

def play (p : DFPlayer) (item : PlayQueueItem) : DFPlayer :=
  if p.playingQueue.isFull = false then { p with playingQueue := p.playingQueue.put (clamped item) } else p

def irqHandler (p : DFPlayer) : DFPlayer := { p with enablePlay := true }

/-- The volume command of the driver below, which checks the level once more. -/
def volume (level : UInt8) : List DfOutput := if level ≤ 30 then [.volume level] else []

def powerDownModule : List DfOutput :=
  [.digitalWrite .enPin false, .digitalWrite .txPin false, .digitalWrite .rxPin false, .detachInt]

/-- `busy`: the level of BUSY is low. -/
def nextStateWaitingForStart (p : DFPlayer) (actualTime : UInt32)
    (busy : Bool) : List DfOutput × DFPlayer × PlayingStates :=
  if p.enablePlay then ([], { p with enablePlay := false }, .CHECK_QUEUE) else
  if busy then ([], { p with eventTimer := actualTime }, .WAIT_FOR_PLAY) else
  if Time.hasElapsed actualTime p.eventTimer playStartTime = false then ([], p, .WAIT_FOR_START) else
  if p.playRetries < playStartRetries then ([], { p with playRetries := p.playRetries + 1 }, .PLAY) else
  if p.moduleRestarts < moduleRestartLimit then
    (powerDownModule,
      { p with moduleRestarts := p.moduleRestarts + 1, playRetries := 0, eventTimer := actualTime },
        .RESTART_MODULE)
  else (if p.playFailedCallback then [.playFailedCallback p.currentItem.track] else [], p, .CHECK_QUEUE)

def takeNext (p : DFPlayer) : DFPlayer :=
  { p with
    currentItem := p.playingQueue.pop.1
    playingQueue := p.playingQueue.pop.2
    playRetries := 0
    moduleRestarts := 0 }

def run (p : DFPlayer) (actualTime : UInt32) (busy : Bool) : List DfOutput × DFPlayer :=
  match p.playingState with
  | .IDLE => ([], if p.playingQueue.isEmpty then p else { p.takeNext with playingState := .TURN_ON })
  | .TURN_ON =>
    ([.digitalWrite .txPin true, .digitalWrite .rxPin true, .digitalWrite .enPin true],
      { p with eventTimer := actualTime, playingState := .WAIT_FOR_BOOT })
  | .WAIT_FOR_BOOT =>
    ([], if Time.hasElapsed actualTime p.eventTimer bootTime then { p with playingState := .SET_VOLUME } else p)
  | .SET_VOLUME =>
    (volume p.currentItem.volume ++
      (if p.currentItem.red ||| p.currentItem.green ||| p.currentItem.blue ≠ 0 then
        [.setColor p.currentItem.red p.currentItem.green p.currentItem.blue] else []),
      { p with eventTimer := actualTime, playingState := .WAIT_FOR_CMD })
  | .WAIT_FOR_CMD =>
    ([], if Time.hasElapsed actualTime p.eventTimer cmdExecTime then { p with playingState := .PLAY } else p)
  | .PLAY =>
    ([.attachInt, .play p.currentItem.track],
      { p with enablePlay := false, eventTimer := actualTime, playingState := .WAIT_FOR_START })
  | .WAIT_FOR_START =>
    let (outputs, p, playingState) := p.nextStateWaitingForStart actualTime busy
    (outputs, { p with playingState := playingState })
  | .RESTART_MODULE =>
    ([], if Time.hasElapsed actualTime p.eventTimer moduleRestartTime then { p with playingState := .TURN_ON } else
      p)
  | .WAIT_FOR_PLAY =>
    let ended := if p.enablePlay then { p with enablePlay := false, playingState := .CHECK_QUEUE } else p
    if Time.hasElapsed actualTime p.eventTimer playTimeoutTime then
      ([.stop], { ended with playingState := .CHECK_QUEUE })
    else ([], ended)
  | .CHECK_QUEUE =>
    ([], if p.playingQueue.isEmpty then { p with playingState := .TURN_OFF }
      else { p with eventTimer := actualTime, playingState := .PLAYING_DELAY })
  | .PLAYING_DELAY =>
    ([], if Time.hasElapsed actualTime p.eventTimer playDelayTime then
        { p.takeNext with enablePlay := false, playingState := .SET_VOLUME }
      else p)
  | .TURN_OFF => (powerDownModule ++ [.loadColor], { p with enablePlay := false, playingState := .IDLE })

end DFPlayer

end CanSystems
