import CanSystems.DFPlayer
import CanSystems.Lib.Machine

/-!
# The attempts at a track

An observer of the player keeps books on every track that leaves the queue: the
play commands, and the start windows that open with them. A window ends with the
first pass that sees BUSY low or the interrupt flag, or passes in silence. The
observer also follows the power of the module, over the pin and the clock alone.
-/

namespace CanSystems

structure TrackLog where
  item : PlayQueueItem
  plays : ℕ
  /-- The tracks that the play commands named. -/
  played : List UInt16
  /-- The start windows that passed in silence. -/
  silent : ℕ
  /-- The start windows that ended with a sign of the track. -/
  started : ℕ
  failures : List UInt16
  /-- Whether there was a callback when the last window passed. -/
  registered : Bool
  deriving DecidableEq, Repr

inductive DfPower
  | off
  | booting (since : UInt32)
  | ready
  deriving DecidableEq, Repr

structure PlayWatch where
  player : DFPlayer
  accepted : List PlayQueueItem
  /-- The tracks that were taken, the latest first. -/
  tracks : List TrackLog
  /-- When the start window opened that is open now. -/
  window : Option UInt32
  power : DfPower
  /-- The commands that were sent, and how the module was then. -/
  commands : List (DfOutput × DfPower)
  deriving DecidableEq

inductive PlayEvent
  | play (item : PlayQueueItem)
  /-- It may come between any two statements of a pass; the pass looks at its flag only once. -/
  | interrupt
  | addPlayFailedCallback (playFailedCallback : Bool)
  | run (actualTime : UInt32) (busy : Bool)

namespace PlayWatch

def onCurrent (f : TrackLog → TrackLog) : List TrackLog → List TrackLog
  | [] => []
  | log :: past => f log :: past

def poll (w : PlayWatch) (now : UInt32) (busy : Bool) : PlayWatch :=
  match w.window with
  | none => w
  | some opened =>
    if w.player.enablePlay || busy then
      { w with window := none, tracks := onCurrent (fun log => { log with started := log.started + 1 }) w.tracks }
    else if Time.hasElapsed now opened DFPlayer.playStartTime then
      { w with
        window := none
        tracks := onCurrent
          (fun log => { log with silent := log.silent + 1, registered := w.player.playFailedCallback }) w.tracks }
    else w

def tick (w : PlayWatch) (now : UInt32) : PlayWatch :=
  match w.power with
  | .booting since => if Time.hasElapsed now since DFPlayer.bootTime then { w with power := .ready } else w
  | _ => w

def sent (w : PlayWatch) (command : DfOutput) : PlayWatch :=
  { w with commands := w.commands ++ [(command, w.power)] }

def see (now : UInt32) (w : PlayWatch) : DfOutput → PlayWatch
  | .digitalWrite .enPin false => { w with power := .off }
  | .digitalWrite .enPin true => { w with power := if w.power = .off then .booting now else w.power }
  | .volume level => w.sent (.volume level)
  | .play track =>
    { w.sent (.play track) with
      window := some now
      tracks := onCurrent (fun log => { log with plays := log.plays + 1, played := log.played ++ [track] }) w.tracks
        }
  | .stop => w.sent .stop
  | .playFailedCallback track =>
    { w with tracks := onCurrent (fun log => { log with failures := log.failures ++ [track] }) w.tracks }
  | _ => w

section
variable (now : UInt32) (w : PlayWatch)

@[simp] theorem see_off : see now w (.digitalWrite .enPin false) = { w with power := .off } := rfl

@[simp] theorem see_on :
    see now w (.digitalWrite .enPin true) = { w with power := if w.power = .off then .booting now else w.power } :=
      rfl

@[simp] theorem see_txPin (high : Bool) : see now w (.digitalWrite .txPin high) = w := by cases high <;> rfl

@[simp] theorem see_rxPin (high : Bool) : see now w (.digitalWrite .rxPin high) = w := by cases high <;> rfl

@[simp] theorem see_attachInt : see now w .attachInt = w := rfl

@[simp] theorem see_detachInt : see now w .detachInt = w := rfl

@[simp] theorem see_setColor (red green blue : UInt8) : see now w (.setColor red green blue) = w := rfl

@[simp] theorem see_loadColor : see now w .loadColor = w := rfl

@[simp] theorem see_volume (level : UInt8) : see now w (.volume level) = w.sent (.volume level) := rfl

@[simp] theorem see_play (track : UInt16) :
    see now w (.play track) =
      { w.sent (.play track) with
        window := some now
        tracks := onCurrent (fun log => { log with plays := log.plays + 1, played := log.played ++ [track] })
          w.tracks } := rfl

@[simp] theorem see_stop : see now w .stop = w.sent .stop := rfl

@[simp] theorem see_playFailedCallback (track : UInt16) :
    see now w (.playFailedCallback track) =
      { w with tracks := onCurrent (fun log => { log with failures := log.failures ++ [track] }) w.tracks } := rfl

end

def take (w : PlayWatch) (player : DFPlayer) : PlayWatch :=
  { w with
    player := player
    tracks := if player.playingQueue.items.length < w.player.playingQueue.items.length then
        ⟨w.player.playingQueue.peek, 0, [], 0, 0, [], false⟩ :: w.tracks
      else w.tracks }

def step (w : PlayWatch) : PlayEvent → PlayWatch
  | .play item =>
    { w with
      player := w.player.play item
      accepted := if w.player.playingQueue.isFull then w.accepted else w.accepted ++ [DFPlayer.clamped item] }
  | .interrupt => { w with player := w.player.irqHandler }
  | .addPlayFailedCallback playFailedCallback =>
    { w with player := w.player.addPlayFailedCallback playFailedCallback }
  | .run now busy =>
    let (outputs, player) := w.player.run now busy
    (outputs.foldl (see now) ((w.poll now busy).tick now)).take player

def start : PlayWatch := ⟨.init, [], [], none, .off, []⟩

/-! ## The invariant -/

def isOver : PlayingStates → Bool
  | .IDLE | .CHECK_QUEUE | .PLAYING_DELAY | .TURN_OFF => true
  | _ => false

def windowIn (timer : UInt32) : PlayingStates → Option UInt32
  | .WAIT_FOR_START => some timer
  | _ => none

def powerIn (timer : UInt32) : PlayingStates → DfPower
  | .IDLE | .TURN_ON | .RESTART_MODULE => .off
  | .WAIT_FOR_BOOT => .booting timer
  | _ => .ready

def startedIn : PlayingStates → ℕ
  | .WAIT_FOR_PLAY => 1
  | _ => 0

def livePlays : PlayingStates → ℕ
  | .WAIT_FOR_START | .WAIT_FOR_PLAY => 1
  | _ => 0

def kind (s : PlayingStates) : Bool × ℕ × ℕ := (isOver s, startedIn s, livePlays s)

/-- Every window of the track has passed, and its failure was reported where none of them brought a sign. -/
structure Ended (log : TrackLog) : Prop where
  windows : log.started + log.silent = log.plays
  tried : 0 < log.plays
  bound : log.plays ≤ (DFPlayer.playStartRetries + 1) * (DFPlayer.moduleRestartLimit + 1)
  failures : log.failures = if log.started = 0 ∧ log.registered = true then [log.item.track] else []
  played : log.played = List.replicate log.plays log.item.track

structure Ongoing (p : DFPlayer) (log : TrackLog) : Prop where
  item : log.item = p.currentItem
  failures : log.failures = []
  silent : log.silent = (DFPlayer.playStartRetries + 1) * p.moduleRestarts + p.playRetries
  started : log.started = startedIn p.playingState
  plays : log.plays = log.silent + livePlays p.playingState
  played : log.played = List.replicate log.plays log.item.track

def TracksOk (p : DFPlayer) (tracks : List TrackLog) : Prop :=
  if isOver p.playingState = true then ∀ log ∈ tracks, Ended log
  else ∃ log past, tracks = log :: past ∧ Ongoing p log ∧ ∀ log ∈ past, Ended log

structure Inv (w : PlayWatch) : Prop where
  queue : w.accepted = (w.tracks.map (·.item)).reverse ++ w.player.playingQueue.items
  delay : w.player.playingState = .PLAYING_DELAY → w.player.playingQueue.items ≠ []
  window : w.window = windowIn w.player.eventTimer w.player.playingState
  power : w.power = powerIn w.player.eventTimer w.player.playingState
  commands : ∀ sent ∈ w.commands, sent.2 = .ready
  retries : w.player.playRetries ≤ DFPlayer.playStartRetries
  restarts : w.player.moduleRestarts ≤ DFPlayer.moduleRestartLimit
  tracks : TracksOk w.player w.tracks

theorem inv_start : Inv start := by
  refine ⟨rfl, ?_, rfl, rfl, ?_, Nat.zero_le _, Nat.zero_le _, ?_⟩
  · intro h
    cases h
  · intro sent h
    cases h
  · intro log h
    cases h

section
variable {w : PlayWatch} {now : UInt32} {busy : Bool}

theorem Inv.ongoing (h : Inv w) (hover : isOver w.player.playingState = false) :
    ∃ log past, w.tracks = log :: past ∧ Ongoing w.player log ∧ ∀ log ∈ past, Ended log := by
  have htracks := h.tracks
  rw [TracksOk, hover, if_neg Bool.false_ne_true] at htracks
  exact htracks

theorem Inv.ended (h : Inv w) (hover : isOver w.player.playingState = true) : ∀ log ∈ w.tracks, Ended log := by
  have htracks := h.tracks
  rw [TracksOk, if_pos hover] at htracks
  exact htracks

theorem Inv.move (h : Inv w) {s s' : PlayingStates} {timer : UInt32} {enablePlay : Bool} {power : DfPower}
    {commands : List (DfOutput × DfPower)} (hs : w.player.playingState = s) (hkind : kind s' = kind s)
    (hdelay : s' = .PLAYING_DELAY → w.player.playingQueue.items ≠ []) (hwindow : w.window = windowIn timer s')
    (hpower : power = powerIn timer s') (hcommands : ∀ sent ∈ commands, sent.2 = .ready) :
    Inv { w with
      player := { w.player with enablePlay := enablePlay, eventTimer := timer, playingState := s' }
      power := power
      commands := commands } := by
  obtain ⟨hover, hstarted, hlive⟩ : isOver s' = isOver s ∧ startedIn s' = startedIn s ∧
    livePlays s' = livePlays s := by
    simpa [kind] using hkind
  refine ⟨h.queue, hdelay, hwindow, hpower, hcommands, h.retries, h.restarts, ?_⟩
  rw [TracksOk]
  dsimp only
  rw [hover, ← hs]
  split
  · rename_i hstate
    exact h.ended hstate
  · rename_i hstate
    obtain ⟨log, past, htracks, hlog, hpast⟩ := h.ongoing (Bool.eq_false_iff.mpr hstate)
    refine ⟨log, past, htracks, ⟨hlog.item, hlog.failures, hlog.silent, ?_, ?_, hlog.played⟩, hpast⟩
    · rw [hlog.started, hs, hstarted]
    · rw [hlog.plays, hs, hlive]

/-- A pass outside the start window and the boot wait, by what the player does in it. -/
theorem step_run (hstart : w.window = none) (hboot : ∀ since, w.power ≠ .booting since) :
    w.step (.run now busy) = ((w.player.run now busy).1.foldl (see now) w).take (w.player.run now busy).2 := by
  have hpoll : w.poll now busy = w := by simp only [poll, hstart]
  have htick : w.tick now = w := by
    rw [tick]
    split
    · rename_i since hsince
      exact absurd hsince (hboot since)
    · rfl
  rw [step, hpoll, htick]

theorem take_same {player : DFPlayer} (h : player.playingQueue = w.player.playingQueue) :
    w.take player = { w with player := player } := by
  rw [take, h, if_neg (Nat.lt_irrefl _)]

/-! ## The passes, state by state -/

theorem Inv.turnOn (h : Inv w) (hs : w.player.playingState = .TURN_ON) : Inv (w.step (.run now busy)) := by
  have hwindow : w.window = none := by rw [h.window, hs]; rfl
  have hpower : w.power = .off := by rw [h.power, hs]; rfl
  rw [step_run hwindow (by simp [hpower])]
  simp only [DFPlayer.run, hs, List.foldl_cons, List.foldl_nil, see_txPin, see_rxPin, see_on, hpower, if_true,
    take_same]
  exact h.move hs rfl (by intro h; cases h) hwindow rfl h.commands

theorem Inv.waitForBoot (h : Inv w) (hs : w.player.playingState = .WAIT_FOR_BOOT) :
    Inv (w.step (.run now busy)) := by
  have hwindow : w.window = none := by rw [h.window, hs]; rfl
  have hpower : w.power = .booting w.player.eventTimer := by rw [h.power, hs]; rfl
  have htick : w.tick now =
      if Time.hasElapsed now w.player.eventTimer DFPlayer.bootTime then { w with power := .ready } else w := by
    simp only [tick, hpower]
  have hpoll : w.poll now busy = w := by simp only [poll, hwindow]
  rw [step, hpoll, htick]
  cases helapsed : Time.hasElapsed now w.player.eventTimer DFPlayer.bootTime with
  | true =>
    simp only [DFPlayer.run, hs, helapsed, if_true, List.foldl_nil, take_same]
    exact h.move hs rfl (by intro h; cases h) hwindow rfl h.commands
  | false =>
    simp only [DFPlayer.run, hs, helapsed, Bool.false_eq_true, if_false, List.foldl_nil, take_same]
    exact h

theorem Inv.idle (h : Inv w) (hstart : w.window = none) (hboot : ∀ since, w.power ≠ .booting since)
    (hrun : w.player.run now busy = ([], w.player)) : Inv (w.step (.run now busy)) := by
  rw [step_run hstart hboot, hrun]
  simp only [List.foldl_nil, take_same]
  exact h

theorem Inv.setVolume (h : Inv w) (hs : w.player.playingState = .SET_VOLUME) : Inv (w.step (.run now busy)) := by
  have hwindow : w.window = none := by rw [h.window, hs]; rfl
  have hpower : w.power = .ready := by rw [h.power, hs]; rfl
  rw [step_run hwindow (by simp [hpower])]
  have hsent : ∀ sent ∈ w.commands ++ [(.volume w.player.currentItem.volume, w.power)], sent.2 = .ready := by
    intro sent hmem
    rcases List.mem_append.mp hmem with hmem | hmem
    · exact h.commands sent hmem
    · rw [List.mem_singleton.mp hmem, hpower]
  simp only [DFPlayer.run, hs, List.foldl_append, DFPlayer.volume]
  split <;> split <;>
    simp only [List.foldl_cons, List.foldl_nil, see_volume, see_setColor, PlayWatch.sent, take_same]
  · exact h.move hs rfl (by intro h; cases h) hwindow hpower hsent
  · exact h.move hs rfl (by intro h; cases h) hwindow hpower hsent
  · exact h.move hs rfl (by intro h; cases h) hwindow hpower h.commands
  · exact h.move hs rfl (by intro h; cases h) hwindow hpower h.commands

theorem Inv.waitForCmd (h : Inv w) (hs : w.player.playingState = .WAIT_FOR_CMD) : Inv (w.step (.run now busy)) := by
  have hwindow : w.window = none := by rw [h.window, hs]; rfl
  have hpower : w.power = .ready := by rw [h.power, hs]; rfl
  cases helapsed : Time.hasElapsed now w.player.eventTimer DFPlayer.cmdExecTime with
  | true =>
    rw [step_run hwindow (by simp [hpower])]
    simp only [DFPlayer.run, hs, helapsed, if_true, List.foldl_nil, take_same]
    exact h.move hs rfl (by intro h; cases h) hwindow hpower h.commands
  | false => exact h.idle hwindow (by simp [hpower]) (by simp [DFPlayer.run, hs, helapsed])

theorem Inv.restartModule (h : Inv w) (hs : w.player.playingState = .RESTART_MODULE) :
    Inv (w.step (.run now busy)) := by
  have hwindow : w.window = none := by rw [h.window, hs]; rfl
  have hpower : w.power = .off := by rw [h.power, hs]; rfl
  cases helapsed : Time.hasElapsed now w.player.eventTimer DFPlayer.moduleRestartTime with
  | true =>
    rw [step_run hwindow (by simp [hpower])]
    simp only [DFPlayer.run, hs, helapsed, if_true, List.foldl_nil, take_same]
    exact h.move hs rfl (by intro h; cases h) hwindow hpower h.commands
  | false => exact h.idle hwindow (by simp [hpower]) (by simp [DFPlayer.run, hs, helapsed])

theorem Inv.checkQueue (h : Inv w) (hs : w.player.playingState = .CHECK_QUEUE) : Inv (w.step (.run now busy)) := by
  have hwindow : w.window = none := by rw [h.window, hs]; rfl
  have hpower : w.power = .ready := by rw [h.power, hs]; rfl
  rw [step_run hwindow (by simp [hpower])]
  cases hempty : w.player.playingQueue.isEmpty with
  | true =>
    simp only [DFPlayer.run, hs, hempty, if_true, List.foldl_nil, take_same]
    exact h.move hs rfl (by intro h; cases h) hwindow hpower h.commands
  | false =>
    simp only [DFPlayer.run, hs, hempty, Bool.false_eq_true, if_false, List.foldl_nil, take_same]
    exact h.move hs rfl (fun _ => Fifo.isEmpty_eq_false.mp hempty) hwindow hpower h.commands

theorem Inv.turnOff (h : Inv w) (hs : w.player.playingState = .TURN_OFF) : Inv (w.step (.run now busy)) := by
  have hwindow : w.window = none := by rw [h.window, hs]; rfl
  have hpower : w.power = .ready := by rw [h.power, hs]; rfl
  rw [step_run hwindow (by simp [hpower])]
  simp only [DFPlayer.run, hs, DFPlayer.powerDownModule, List.cons_append, List.nil_append, List.foldl_cons,
    List.foldl_nil, see_off, see_txPin, see_rxPin, see_detachInt, see_loadColor, take_same]
  exact h.move hs rfl (by intro h; cases h) hwindow rfl h.commands

/-! ## A track is taken -/

theorem Inv.takeNext (h : Inv w) {s : PlayingStates} {enablePlay : Bool}
    (hover : isOver w.player.playingState = true)
    (hqueue : w.player.playingQueue.items ≠ []) (hs : kind s = (false, 0, 0))
    (hwindow : w.window = windowIn w.player.eventTimer s)
    (hpower : w.power = powerIn w.player.eventTimer s) :
    Inv (w.take { w.player.takeNext with enablePlay := enablePlay, playingState := s }) := by
  obtain ⟨hnot, hstarted, hlive⟩ : isOver s = false ∧ startedIn s = 0 ∧ livePlays s = 0 := by simpa [kind] using hs
  obtain ⟨item, rest, hitems⟩ := List.exists_cons_of_ne_nil hqueue
  have hshorter : w.player.playingQueue.rest.items.length < w.player.playingQueue.items.length := by
    rw [Fifo.items_rest, hitems]
    exact Nat.lt_succ_self _
  have hpeek := Fifo.peek_cons hitems
  simp only [take, DFPlayer.takeNext, Fifo.pop_fst, Fifo.pop_snd, hpeek]
  rw [if_pos hshorter]
  refine ⟨?_, ?_, hwindow, hpower, h.commands, Nat.zero_le _, Nat.zero_le _, ?_⟩
  · have hbooks := h.queue
    rw [hitems] at hbooks
    simp [hbooks, hitems]
  · intro hdelay
    dsimp only at hdelay
    rw [hdelay] at hnot
    cases hnot
  · rw [TracksOk]
    dsimp only
    rw [hnot, if_neg Bool.false_ne_true]
    exact ⟨_, _, rfl, ⟨rfl, rfl, rfl, hstarted.symm, by rw [hlive], rfl⟩, h.ended hover⟩

theorem Inv.idleState (h : Inv w) (hs : w.player.playingState = .IDLE) : Inv (w.step (.run now busy)) := by
  have hwindow : w.window = none := by rw [h.window, hs]; rfl
  have hpower : w.power = .off := by rw [h.power, hs]; rfl
  cases hempty : w.player.playingQueue.isEmpty with
  | true => exact h.idle hwindow (by simp [hpower]) (by simp [DFPlayer.run, hs, hempty])
  | false =>
    rw [step_run hwindow (by simp [hpower])]
    simp only [DFPlayer.run, hs, hempty, Bool.false_eq_true, if_false, List.foldl_nil]
    exact h.takeNext (by rw [hs]; rfl) (Fifo.isEmpty_eq_false.mp hempty) rfl hwindow hpower

theorem Inv.playingDelay (h : Inv w) (hs : w.player.playingState = .PLAYING_DELAY) :
    Inv (w.step (.run now busy)) := by
  have hwindow : w.window = none := by rw [h.window, hs]; rfl
  have hpower : w.power = .ready := by rw [h.power, hs]; rfl
  cases helapsed : Time.hasElapsed now w.player.eventTimer DFPlayer.playDelayTime with
  | true =>
    rw [step_run hwindow (by simp [hpower])]
    simp only [DFPlayer.run, hs, helapsed, if_true, List.foldl_nil]
    exact h.takeNext (by rw [hs]; rfl) (h.delay hs) rfl hwindow hpower
  | false => exact h.idle hwindow (by simp [hpower]) (by simp [DFPlayer.run, hs, helapsed])

/-! ## The start window -/

theorem Inv.playState (h : Inv w) (hs : w.player.playingState = .PLAY) : Inv (w.step (.run now busy)) := by
  have hwindow : w.window = none := by rw [h.window, hs]; rfl
  have hpower : w.power = .ready := by rw [h.power, hs]; rfl
  obtain ⟨log, past, htracks, hlog, hpast⟩ := h.ongoing (by rw [hs]; rfl)
  have hbooks := h.queue
  have hplays := hlog.plays
  have hstarted := hlog.started
  rw [hs] at hplays hstarted
  rw [htracks] at hbooks
  rw [step_run hwindow (by simp [hpower])]
  simp only [DFPlayer.run, hs, List.foldl_cons, List.foldl_nil, see_attachInt, see_play, PlayWatch.sent, take_same,
    htracks, onCurrent]
  refine ⟨hbooks, by simp, rfl, hpower, ?_, h.retries, h.restarts, ?_⟩
  · intro sent hmem
    rcases List.mem_append.mp hmem with hmem | hmem
    · exact h.commands sent hmem
    · rw [List.mem_singleton.mp hmem, hpower]
  · refine ⟨_, past, rfl, ⟨hlog.item, hlog.failures, hlog.silent, hstarted, by dsimp only; rw [hplays]; rfl, ?_⟩,
      hpast⟩
    rw [hlog.played, List.replicate_succ', hlog.item]

/-- The pass that closes a window, over what it does to the books and the player. -/
theorem Inv.closed (h : Inv w) {log log' : TrackLog} {past : List TrackLog} {p : DFPlayer} {power : DfPower}
    (htracks : w.tracks = log :: past) (hpast : ∀ log ∈ past, Ended log)
    (hkept : log'.item = log.item ∧ p.playingQueue = w.player.playingQueue ∧ p.playingState ≠ .PLAYING_DELAY ∧
      windowIn p.eventTimer p.playingState = none ∧ power = powerIn p.eventTimer p.playingState)
    (hretries : p.playRetries ≤ DFPlayer.playStartRetries)
    (hrestarts : p.moduleRestarts ≤ DFPlayer.moduleRestartLimit)
    (hlog : if isOver p.playingState = true then Ended log' else Ongoing p log') :
    Inv { w with player := p, tracks := log' :: past, window := none, power := power } := by
  obtain ⟨hitem, hqueue, hdelay, hwindow, hpower⟩ := hkept
  have hbooks := h.queue
  rw [htracks, List.map_cons, ← hitem] at hbooks
  refine ⟨?_, fun h => absurd h hdelay, hwindow.symm, hpower, h.commands, hretries, hrestarts, ?_⟩
  · dsimp only
    rw [hbooks, hqueue, List.map_cons]
  · rw [TracksOk]
    dsimp only
    by_cases hover : isOver p.playingState = true
    · rw [if_pos hover] at hlog ⊢
      intro log hmem
      rcases List.mem_cons.mp hmem with rfl | hmem
      · exact hlog
      · exact hpast log hmem
    · rw [if_neg hover] at hlog ⊢
      exact ⟨log', past, rfl, hlog, hpast⟩

structure Waits (p : DFPlayer) (log : TrackLog) : Prop where
  ongoing : Ongoing p log
  plays : log.plays = log.silent + 1
  started : log.started = 0
  silent : log.silent = 3 * p.moduleRestarts + p.playRetries
  retries : p.playRetries ≤ 2
  restarts : p.moduleRestarts ≤ 1

theorem Inv.waits (h : Inv w) (hs : w.player.playingState = .WAIT_FOR_START) :
    ∃ log past, w.tracks = log :: past ∧ Waits w.player log ∧ ∀ log ∈ past, Ended log := by
  obtain ⟨log, past, htracks, hlog, hpast⟩ := h.ongoing (by rw [hs]; rfl)
  refine ⟨log, past, htracks, ⟨hlog, ?_, ?_, hlog.silent, h.retries, h.restarts⟩, hpast⟩
  · rw [hlog.plays, hs]
    rfl
  · rw [hlog.started, hs]
    rfl

theorem Waits.ended {p : DFPlayer} {log : TrackLog} (h : Waits p log) :
    Ended { log with started := log.started + 1 } := by
  obtain ⟨hlog, hplays, hstarted, hsilent, hretries, hrestarts⟩ := h
  refine ⟨?_, ?_, ?_, ?_, hlog.played⟩ <;> dsimp only
  · omega
  · omega
  · rw [DFPlayer.playStartRetries, DFPlayer.moduleRestartLimit]
    omega
  · rw [hlog.failures, if_neg (by simp)]

theorem Waits.givenUp {p : DFPlayer} {log : TrackLog} (h : Waits p log) (hretries : p.playRetries = 2)
    (hrestarts : p.moduleRestarts = 1) (registered : Bool) :
    Ended { log with
      silent := log.silent + 1
      registered := registered
      failures := log.failures ++ if registered then [p.currentItem.track] else [] } := by
  obtain ⟨hlog, hplays, hstarted, hsilent, -, -⟩ := h
  refine ⟨?_, ?_, ?_, ?_, hlog.played⟩ <;> dsimp only
  · omega
  · omega
  · rw [DFPlayer.playStartRetries, DFPlayer.moduleRestartLimit]
    omega
  · rw [hlog.failures, hlog.item, List.nil_append]
    simp [hstarted]

theorem Inv.waitForStart (h : Inv w) (hs : w.player.playingState = .WAIT_FOR_START) :
    Inv (w.step (.run now busy)) := by
  have hwindow : w.window = some w.player.eventTimer := by rw [h.window, hs]; rfl
  have hpower : w.power = .ready := by rw [h.power, hs]; rfl
  obtain ⟨log, past, htracks, hwaits, hpast⟩ := h.waits hs
  have hlog := hwaits.ongoing
  have htick : ∀ w' : PlayWatch, w'.power = .ready → w'.tick now = w' := by
    intro w' hready
    simp only [tick, hready]
  cases hflag : w.player.enablePlay with
  | true =>
    simp only [step, DFPlayer.run, hs, DFPlayer.nextStateWaitingForStart, poll, hwindow, htracks, onCurrent, hflag,
      Bool.true_or, if_true, List.foldl_nil, htick, hpower, take_same]
    refine h.closed htracks hpast ?_ h.retries h.restarts ?_
    · exact ⟨rfl, rfl, by simp, rfl, rfl⟩
    · exact hwaits.ended
  | false =>
  cases hbusy : busy with
  | true =>
    simp only [step, DFPlayer.run, hs, DFPlayer.nextStateWaitingForStart, poll, hwindow, htracks, onCurrent, hflag,
      Bool.false_or, Bool.false_eq_true, if_true, if_false, List.foldl_nil, htick, hpower, take_same]
    refine h.closed htracks hpast ?_ h.retries h.restarts ?_
    · exact ⟨rfl, rfl, by simp, rfl, rfl⟩
    · exact ⟨hlog.item, hlog.failures, hlog.silent, by rw [hwaits.started]; rfl, hwaits.plays, hlog.played⟩
  | false =>
  cases helapsed : Time.hasElapsed now w.player.eventTimer DFPlayer.playStartTime with
  | false =>
    have hpoll : w.poll now false = w := by
      simp only [poll, hwindow, hflag, helapsed, Bool.or_self, Bool.false_eq_true, if_false]
    rw [step, hpoll, htick w hpower]
    simp only [DFPlayer.run, hs, DFPlayer.nextStateWaitingForStart, hflag, helapsed, Bool.false_eq_true, if_true,
      if_false, List.foldl_nil, take_same]
    rw [← hs, ← hflag]
    exact h
  | true =>
  by_cases hagain : w.player.playRetries < DFPlayer.playStartRetries
  · simp only [step, DFPlayer.run, hs, DFPlayer.nextStateWaitingForStart, poll, hwindow, htracks, onCurrent, hflag,
      Bool.or_self, Bool.false_eq_true, Bool.true_eq_false, if_true, if_false, helapsed, hagain, List.foldl_nil,
        htick,
      hpower, take_same]
    refine h.closed htracks hpast ?_ hagain h.restarts ?_
    · exact ⟨rfl, rfl, by simp, rfl, rfl⟩
    refine ⟨hlog.item, hlog.failures, ?_, hwaits.started, hwaits.plays, hlog.played⟩
    dsimp only
    rw [hlog.silent, Nat.add_assoc]
  have hspent : w.player.playRetries = 2 := Nat.le_antisymm hwaits.retries (Nat.not_lt.mp hagain)
  by_cases hrestart : w.player.moduleRestarts < DFPlayer.moduleRestartLimit
  · simp only [step, DFPlayer.run, hs, DFPlayer.nextStateWaitingForStart, poll, hwindow, htracks, onCurrent, hflag,
      Bool.or_self, Bool.false_eq_true, Bool.true_eq_false, if_true, if_false, helapsed, hagain, hrestart,
      DFPlayer.powerDownModule, List.foldl_cons, List.foldl_nil, see_off, see_txPin, see_rxPin, see_detachInt,
        htick,
      hpower, take_same]
    refine h.closed htracks hpast ?_ (Nat.zero_le _) hrestart ?_
    · exact ⟨rfl, rfl, by simp, rfl, rfl⟩
    refine ⟨hlog.item, hlog.failures, ?_, hwaits.started, hwaits.plays, hlog.played⟩
    dsimp only
    rw [hlog.silent, hspent, Nat.mul_add_one, DFPlayer.playStartRetries]
  · have hlast : w.player.moduleRestarts = 1 := Nat.le_antisymm hwaits.restarts (Nat.not_lt.mp hrestart)
    have hgivenUp := hwaits.givenUp hspent hlast w.player.playFailedCallback
    cases hcallback : w.player.playFailedCallback with
    | false =>
      rw [hcallback, if_neg Bool.false_ne_true, List.append_nil] at hgivenUp
      simp only [step, DFPlayer.run, hs, DFPlayer.nextStateWaitingForStart, poll, hwindow, htracks, onCurrent,
        hflag, Bool.or_self, Bool.false_eq_true, Bool.true_eq_false, if_true, if_false, helapsed, hagain, hrestart,
          hcallback,
        List.foldl_nil, htick, hpower, take_same]
      refine h.closed htracks hpast ?_ h.retries h.restarts ?_
      · exact ⟨rfl, rfl, by simp, rfl, rfl⟩
      · exact hgivenUp
    | true =>
      rw [hcallback, if_pos rfl] at hgivenUp
      simp only [step, DFPlayer.run, hs, DFPlayer.nextStateWaitingForStart, poll, hwindow, htracks, onCurrent,
        hflag, Bool.or_self, Bool.false_eq_true, Bool.true_eq_false, if_true, if_false, helapsed, hagain, hrestart,
          hcallback,
        List.foldl_cons, List.foldl_nil, see_playFailedCallback, htick, hpower, take_same]
      refine h.closed htracks hpast ?_ h.retries h.restarts ?_
      · exact ⟨rfl, rfl, by simp, rfl, rfl⟩
      · exact hgivenUp

/-! ## The end of a track -/

theorem Inv.sent (h : Inv w) (hpower : w.power = .ready) (command : DfOutput) : Inv (w.sent command) := by
  refine ⟨h.queue, h.delay, h.window, h.power, ?_, h.retries, h.restarts, h.tracks⟩
  intro sent hmem
  rcases List.mem_append.mp hmem with hmem | hmem
  · exact h.commands sent hmem
  · rw [List.mem_singleton.mp hmem, hpower]

theorem Inv.finished (h : Inv w) (hs : w.player.playingState = .WAIT_FOR_PLAY) (enablePlay : Bool) :
    Inv { w with player := { w.player with enablePlay := enablePlay, playingState := .CHECK_QUEUE } } := by
  have hwindow : w.window = none := by rw [h.window, hs]; rfl
  have hpower : w.power = .ready := by rw [h.power, hs]; rfl
  obtain ⟨log, past, htracks, hlog, hpast⟩ := h.ongoing (by rw [hs]; rfl)
  have hplays : log.plays = log.silent + 1 := by rw [hlog.plays, hs]; rfl
  have hstarted : log.started = 1 := by rw [hlog.started, hs]; rfl
  have hended : Ended log := by
    have hsilent := hlog.silent
    have hretries := h.retries
    have hrestarts := h.restarts
    simp only [DFPlayer.playStartRetries, DFPlayer.moduleRestartLimit] at hsilent hretries hrestarts
    refine ⟨by omega, by omega, ?_, ?_, hlog.played⟩
    · rw [DFPlayer.playStartRetries, DFPlayer.moduleRestartLimit]
      omega
    · rw [hlog.failures, if_neg (by simp [hstarted])]
  have hclosed := @Inv.closed w h log log past
    { w.player with enablePlay := enablePlay, playingState := .CHECK_QUEUE } .ready
    htracks hpast ⟨rfl, rfl, by simp, rfl, rfl⟩ h.retries h.restarts hended
  rw [← htracks, ← hwindow, ← hpower] at hclosed
  exact hclosed

theorem Inv.waitForPlay (h : Inv w) (hs : w.player.playingState = .WAIT_FOR_PLAY) :
    Inv (w.step (.run now busy)) := by
  have hwindow : w.window = none := by rw [h.window, hs]; rfl
  have hpower : w.power = .ready := by rw [h.power, hs]; rfl
  cases helapsed : Time.hasElapsed now w.player.eventTimer DFPlayer.playTimeoutTime with
  | true =>
    have hsent : Inv (w.sent .stop) := h.sent hpower .stop
    rw [step_run hwindow (by simp [hpower])]
    cases hflag : w.player.enablePlay with
    | true =>
      simp only [DFPlayer.run, hs, helapsed, hflag, if_true, List.foldl_cons, List.foldl_nil, see_stop,
        PlayWatch.sent, take_same]
      exact hsent.finished hs false
    | false =>
      simp only [DFPlayer.run, hs, helapsed, hflag, Bool.false_eq_true, if_true, if_false, List.foldl_cons,
        List.foldl_nil, see_stop, PlayWatch.sent, take_same]
      exact hsent.finished hs false
  | false =>
    cases hflag : w.player.enablePlay with
    | true =>
      rw [step_run hwindow (by simp [hpower])]
      simp only [DFPlayer.run, hs, helapsed, hflag, Bool.false_eq_true, if_true, if_false, List.foldl_nil,
        take_same]
      exact h.finished hs false
    | false => exact h.idle hwindow (by simp [hpower]) (by simp [DFPlayer.run, hs, helapsed, hflag])

/-! ## Runs -/

theorem Inv.run (h : Inv w) (now : UInt32) (busy : Bool) : Inv (w.step (.run now busy)) := by
  cases hs : w.player.playingState with
  | IDLE => exact h.idleState hs
  | TURN_ON => exact h.turnOn hs
  | WAIT_FOR_BOOT => exact h.waitForBoot hs
  | SET_VOLUME => exact h.setVolume hs
  | WAIT_FOR_CMD => exact h.waitForCmd hs
  | PLAY => exact h.playState hs
  | WAIT_FOR_START => exact h.waitForStart hs
  | WAIT_FOR_PLAY => exact h.waitForPlay hs
  | RESTART_MODULE => exact h.restartModule hs
  | CHECK_QUEUE => exact h.checkQueue hs
  | PLAYING_DELAY => exact h.playingDelay hs
  | TURN_OFF => exact h.turnOff hs

theorem Inv.congr (h : Inv w) {p : DFPlayer} (htimer : p.eventTimer = w.player.eventTimer)
    (hstate : p.playingState = w.player.playingState) (hitem : p.currentItem = w.player.currentItem)
    (hretries : p.playRetries = w.player.playRetries) (hrestarts : p.moduleRestarts = w.player.moduleRestarts)
    {added : List PlayQueueItem} (hqueue : p.playingQueue.items = w.player.playingQueue.items ++ added) :
    Inv { w with player := p, accepted := w.accepted ++ added } := by
  refine ⟨?_, ?_, ?_, ?_, h.commands, ?_, ?_, ?_⟩
  · dsimp only
    rw [hqueue, h.queue, List.append_assoc]
  · intro hdelay hempty
    dsimp only at hdelay hempty
    rw [hqueue] at hempty
    exact h.delay (hstate ▸ hdelay) (List.append_eq_nil_iff.mp hempty).1
  · dsimp only
    rw [htimer, hstate, h.window]
  · dsimp only
    rw [htimer, hstate, h.power]
  · dsimp only
    rw [hretries]
    exact h.retries
  · dsimp only
    rw [hrestarts]
    exact h.restarts
  · have htracks := h.tracks
    rw [TracksOk] at htracks ⊢
    dsimp only
    rw [hstate]
    split
    · rename_i hover
      rwa [if_pos hover] at htracks
    · rename_i hover
      rw [if_neg hover] at htracks
      obtain ⟨log, past, heq, hlog, hpast⟩ := htracks
      exact ⟨log, past, heq, ⟨hlog.item.trans hitem.symm, hlog.failures, by rw [hlog.silent, hrestarts, hretries],
        by rw [hlog.started, hstate], by rw [hlog.plays, hstate], hlog.played⟩, hpast⟩

theorem Inv.step (e : PlayEvent) (h : Inv w) : Inv (w.step e) := by
  cases e with
  | play item =>
    rw [PlayWatch.step, DFPlayer.play]
    cases hfull : w.player.playingQueue.isFull with
    | true =>
      simp only [Bool.true_eq_false, if_true, if_false]
      exact h
    | false =>
      simp only [Bool.false_eq_true, if_true, if_false]
      exact @Inv.congr w h { w.player with playingQueue := w.player.playingQueue.put (DFPlayer.clamped item) } rfl
        rfl rfl rfl
        rfl [DFPlayer.clamped item] (Fifo.items_put hfull _)
  | interrupt =>
    have hcongr := @Inv.congr w h w.player.irqHandler rfl rfl rfl rfl rfl [] (List.append_nil _).symm
    rw [List.append_nil] at hcongr
    exact hcongr
  | addPlayFailedCallback playFailedCallback =>
    have hcongr := @Inv.congr w h (w.player.addPlayFailedCallback playFailedCallback) rfl rfl rfl rfl rfl []
      (List.append_nil _).symm
    rw [List.append_nil] at hcongr
    exact hcongr
  | run now busy => exact h.run now busy

end

def after (events : List PlayEvent) : PlayWatch := Machine.run step start events

def current (w : PlayWatch) : Option TrackLog := if isOver w.player.playingState then none else w.tracks.head?

def finished (w : PlayWatch) : List TrackLog := if isOver w.player.playingState then w.tracks else w.tracks.tail

theorem current_finished (w : PlayWatch) : w.tracks = w.current.toList ++ w.finished := by
  rw [current, finished]
  split
  · rfl
  · cases w.tracks <;> rfl

theorem Inv.finished_ended {w : PlayWatch} (h : Inv w) : ∀ log ∈ w.finished, Ended log := by
  intro log hmem
  rw [PlayWatch.finished] at hmem
  split at hmem
  · rename_i hover
    exact h.ended hover log hmem
  · rename_i hover
    obtain ⟨current, past, htracks, -, hpast⟩ := h.ongoing (Bool.eq_false_iff.mpr hover)
    rw [htracks] at hmem
    exact hpast log hmem

theorem Inv.current_ongoing {w : PlayWatch} (h : Inv w) : ∀ log ∈ w.current, Ongoing w.player log := by
  intro log hmem
  rw [PlayWatch.current] at hmem
  split at hmem
  · cases hmem
  · rename_i hover
    obtain ⟨current, past, htracks, hcurrent, -⟩ := h.ongoing (Bool.eq_false_iff.mpr hover)
    rw [htracks] at hmem
    cases hmem
    exact hcurrent

theorem Inv.played {w : PlayWatch} (h : Inv w) {log : TrackLog} (hmem : log ∈ w.tracks) :
    log.played = List.replicate log.plays log.item.track := by
  rw [current_finished, List.mem_append, Option.mem_toList] at hmem
  rcases hmem with hmem | hmem
  · exact (h.current_ongoing log hmem).played
  · exact (h.finished_ended log hmem).played

end PlayWatch

end CanSystems
