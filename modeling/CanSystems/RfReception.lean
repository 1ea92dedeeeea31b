import CanSystems.RCSwitch
import Mathlib

/-!
# A code that is sent is received

The receiver is followed edge by edge. What it had heard before a transmission
does not matter: the first header of a transmission may be taken for noise, but
from the second one on the recorded durations are those of one whole frame, and
the third header hands them over.
-/

namespace CanSystems

inductive RfEvent
  | edge (time : UInt32)
  | available
  | resetAvailable
  deriving DecidableEq, Repr

namespace RfEvent

def isEdge : RfEvent → Bool
  | edge _ => true
  | _ => false

def durations (lastTime : UInt32) : List RfEvent → List UInt32
  | [] => []
  | edge time :: es => (time - lastTime) :: durations time es
  | _ :: es => durations lastTime es

section
variable (lastTime : UInt32) (es : List RfEvent)

@[simp] theorem durations_nil : durations lastTime [] = [] := rfl

@[simp] theorem durations_edge (time : UInt32) :
    durations lastTime (edge time :: es) = (time - lastTime) :: durations time es := rfl

@[simp] theorem durations_available : durations lastTime (available :: es) = durations lastTime es := rfl

@[simp] theorem durations_resetAvailable : durations lastTime (resetAvailable :: es) = durations lastTime es := rfl

end

end RfEvent

namespace RfOutput

/-- How long a level lasts before each edge of the pin, from a level that has lasted for `elapsed`. -/
def edges (high : Bool) (elapsed : ℕ) : List RfOutput → List ℕ
  | [] => []
  | .digitalWrite level :: rest =>
    if level = high then edges high elapsed rest else elapsed :: edges level 0 rest
  | .delayMicroseconds duration :: rest => edges high (elapsed + duration.toNat) rest
  | _ :: rest => edges high elapsed rest

end RfOutput

namespace RfReceiver

def step (r : RfReceiver) : RfEvent → Option RfReceiver
  | .edge time => r.handleInterrupt time
  | .available => r.available.map Prod.snd
  | .resetAvailable => some r.resetAvailable

@[simp] theorem step_edge (r : RfReceiver) (time : UInt32) : r.step (.edge time) = r.handleInterrupt time := rfl

@[simp] theorem step_available (r : RfReceiver) : r.step .available = r.available.map Prod.snd := rfl

@[simp] theorem step_resetAvailable (r : RfReceiver) : r.step .resetAvailable = some r.resetAvailable := rfl

def run (r : RfReceiver) (es : List RfEvent) : Option RfReceiver := es.foldlM step r

@[simp] theorem run_nil (r : RfReceiver) : r.run [] = some r := rfl

@[simp] theorem run_cons (r : RfReceiver) (e : RfEvent) (es : List RfEvent) :
    r.run (e :: es) = (r.step e).bind fun r => r.run es := rfl

theorem run_append (r : RfReceiver) (es fs : List RfEvent) :
    r.run (es ++ fs) = (r.run es).bind fun r => r.run fs := by
  simp [run, List.foldlM_append]

/-! ## Differences -/

theorem diff_lt_iff {a b c : UInt32} (ha : a.toNat < 2147483648) (hb : b.toNat < 2147483648) :
    diff a b < c ↔ a.toNat < b.toNat + c.toNat ∧ b.toNat < a.toNat + c.toNat := by
  have hab : (a - b).toNat = (4294967296 - b.toNat + a.toNat) % 4294967296 := UInt32.toNat_sub a b
  have hba : (b - a).toNat = (4294967296 - a.toNat + b.toNat) % 4294967296 := UInt32.toNat_sub b a
  have hhalf : (2147483648 : UInt32).toNat = 2147483648 := rfl
  rw [diff]
  split
  · rename_i h
    rw [UInt32.lt_iff_toNat_lt] at h ⊢
    omega
  · rename_i h
    rw [UInt32.lt_iff_toNat_lt] at h ⊢
    omega

/-! ## Every access is inside the buffers -/

structure Inside (r : RfReceiver) : Prop where
  recorded : r.changeCount.toNat ≤ RCSwitch.rcSwitchMaxChanges
  pending : r.pendingChangeCount.toNat ≤ RCSwitch.rcSwitchMaxChanges

theorem inside_init : init.Inside := ⟨by decide, by decide⟩

theorem exists_get {α : Type} {cap : ℕ} (a : CArray α cap) {i : ℕ} (h : i < cap) : ∃ x, a.get i = some x := by
  have hsize := a.size
  exact ⟨_, List.getElem?_eq_getElem (by omega : i < a.cells.length)⟩

structure Records (r r' : RfReceiver) : Prop where
  inside : r'.Inside
  value : r'.nReceivedValue = r.nReceivedValue
  bitlength : r'.nReceivedBitlength = r.nReceivedBitlength
  delay : r'.nReceivedDelay = r.nReceivedDelay
  protocol : r'.nReceivedProtocol = r.nReceivedProtocol
  /-- A frame that waits for the decoder is left alone. -/
  locked : r.pendingChangeCount ≠ 0 →
    r'.pendingChangeCount = r.pendingChangeCount ∧ r'.pendingTimings = r.pendingTimings

theorem Records.trans {r r' r'' : RfReceiver} (h : Records r r') (h' : Records r' r'') : Records r r'' := by
  refine ⟨h'.inside, h'.value.trans h.value, h'.bitlength.trans h.bitlength, h'.delay.trans h.delay,
    h'.protocol.trans h.protocol, ?_⟩
  intro hpending
  obtain ⟨hcount, htimings⟩ := h.locked hpending
  obtain ⟨hcount', htimings'⟩ := h'.locked (by rw [hcount]; exact hpending)
  exact ⟨hcount'.trans hcount, htimings'.trans htimings⟩

theorem handOverRecorded_spec {r : RfReceiver} (h : r.Inside) :
    ∃ r', r.handOverRecorded = some r' ∧ Records r r' ∧ r'.timings = r.timings ∧ r'.buftimings = r.buftimings := by
  unfold handOverRecorded
  by_cases hkeep : r.pendingChangeCount ≠ 0 ∨ r.changeCount = 0
  · rw [if_pos hkeep]
    exact ⟨r, rfl, ⟨h, rfl, rfl, rfl, rfl, fun _ => ⟨rfl, rfl⟩⟩, rfl, rfl⟩
  · rw [if_neg hkeep]
    have hread : r.timings.read 0 r.changeCount.toNat = some (r.timings.cells.take r.changeCount.toNat) :=
      if_pos (by simpa using h.recorded)
    obtain ⟨-, hlength⟩ := CArray.length_read hread
    have hroom : 0 + (r.timings.cells.take r.changeCount.toNat).length ≤ RCSwitch.rcSwitchMaxChanges := by
      rw [hlength]
      simpa using h.recorded
    obtain ⟨pendingTimings, hwrite⟩ := r.pendingTimings.exists_write hroom
    refine ⟨{ r with pendingTimings := pendingTimings, pendingChangeCount := r.changeCount }, by simp [hread,
      hwrite], ?_, rfl, rfl⟩
    refine ⟨⟨h.recorded, h.recorded⟩, rfl, rfl, rfl, rfl, ?_⟩
    intro hpending
    exact absurd (Or.inl hpending) hkeep

theorem isRepeat_spec (r : RfReceiver) (duration : UInt32) : ∃ same, r.isRepeat duration = some same := by
  obtain ⟨first, hfirst⟩ := exists_get r.timings (by decide : 0 < RCSwitch.rcSwitchMaxChanges)
  obtain ⟨second, hsecond⟩ := exists_get r.timings (by decide : 1 < RCSwitch.rcSwitchMaxChanges)
  obtain ⟨third, hthird⟩ := exists_get r.timings (by decide : 2 < RCSwitch.rcSwitchMaxChanges)
  obtain ⟨fourth, hfourth⟩ := exists_get r.timings (by decide : 3 < RCSwitch.rcSwitchMaxChanges)
  simp [isRepeat, hfirst, hsecond, hthird, hfourth]

theorem startFrame_spec {r : RfReceiver} (h : r.Inside) :
    ∃ r', r.startFrame = some r' ∧ Records r r' ∧ r'.buftimings = r.buftimings := by
  unfold startFrame
  by_cases halike : r.threeAlike = true
  · have hroom : 1 + [r.buftimings[3], r.buftimings[2], r.buftimings[1]].length ≤ RCSwitch.rcSwitchMaxChanges := by
      simp [RCSwitch.rcSwitchMaxChanges]
    obtain ⟨timings, hwrite⟩ := r.timings.exists_write hroom
    refine ⟨{ r with timings := timings, changeCount := 4 }, by simp [halike, hwrite], ?_, rfl⟩
    exact ⟨⟨by simp [RCSwitch.rcSwitchMaxChanges], h.pending⟩, rfl, rfl, rfl, rfl, fun _ => ⟨rfl, rfl⟩⟩
  · refine ⟨{ r with changeCount := 0 }, by simp [halike], ?_, rfl⟩
    exact ⟨⟨by simp, h.pending⟩, rfl, rfl, rfl, rfl, fun _ => ⟨rfl, rfl⟩⟩

theorem endFrame_spec {r : RfReceiver} (h : r.Inside) (duration : UInt32) :
    ∃ r', r.endFrame duration = some r' ∧ Records r r' ∧ r'.buftimings = r.buftimings := by
  obtain ⟨same, hsame⟩ := r.isRepeat_spec duration
  cases same with
  | true =>
    obtain ⟨r', heq, hrec, -, hbuf⟩ := handOverRecorded_spec h
    obtain ⟨r'', heq', hrec', hbuf'⟩ := startFrame_spec hrec.inside
    exact ⟨r'', by simp [endFrame, hsame, heq, heq'], hrec.trans hrec', hbuf'.trans hbuf⟩
  | false =>
    obtain ⟨r', heq, hrec, hbuf⟩ := startFrame_spec h
    exact ⟨r', by simp [endFrame, hsame, heq], hrec, hbuf⟩

theorem clipped_lt (r : RfReceiver) : r.clipped.changeCount.toNat < RCSwitch.rcSwitchMaxChanges := by
  unfold clipped
  split
  · simp [RCSwitch.rcSwitchMaxChanges]
  · omega

theorem store_spec {r : RfReceiver} (hlt : r.changeCount.toNat < RCSwitch.rcSwitchMaxChanges)
    (hpending : r.pendingChangeCount.toNat ≤ RCSwitch.rcSwitchMaxChanges) (duration : UInt32) :
    ∃ r', r.store duration = some r' ∧ Records r r' ∧ r'.buftimings = r.buftimings := by
  unfold store
  have hcap : RCSwitch.rcSwitchMaxChanges = 131 := rfl
  by_cases hspike : r.changeCount > 0 ∧ duration < 100
  · rw [if_pos hspike]
    have hone : (1 : UInt32) ≤ r.changeCount := UInt32.le_iff_toNat_le.mpr (UInt32.lt_iff_toNat_lt.mp hspike.1)
    have hlast : (r.changeCount - 1).toNat < RCSwitch.rcSwitchMaxChanges := by
      rw [UInt32.toNat_sub_of_le _ _ hone]
      exact Nat.lt_of_le_of_lt (Nat.sub_le _ _) hlt
    obtain ⟨last, hget⟩ := exists_get r.timings hlast
    have hroom : (r.changeCount - 1).toNat + [last + duration].length ≤ RCSwitch.rcSwitchMaxChanges := hlast
    obtain ⟨timings, hwrite⟩ := r.timings.exists_write hroom
    refine ⟨{ r with timings := timings }, by simp [hget, hwrite], ?_, rfl⟩
    exact ⟨⟨Nat.le_of_lt hlt, hpending⟩, rfl, rfl, rfl, rfl, fun _ => ⟨rfl, rfl⟩⟩
  · rw [if_neg hspike]
    have hroom : r.changeCount.toNat + [duration].length ≤ RCSwitch.rcSwitchMaxChanges := hlt
    obtain ⟨timings, hwrite⟩ := r.timings.exists_write hroom
    have hnext : (r.changeCount + 1).toNat = r.changeCount.toNat + 1 := by
      rw [UInt32.toNat_add]
      exact Nat.mod_eq_of_lt (by simp; omega)
    refine ⟨{ r with timings := timings, changeCount := r.changeCount + 1 }, by simp [hwrite], ?_, rfl⟩
    exact ⟨⟨by rw [hnext]; exact hlt, hpending⟩, rfl, rfl, rfl, rfl, fun _ => ⟨rfl, rfl⟩⟩

theorem handleInterrupt_spec {r : RfReceiver} (h : r.Inside) (time : UInt32) :
    ∃ r', r.handleInterrupt time = some r' ∧ Records r r' ∧ r'.lastTime = time ∧
      r'.buftimings = (r.shifted (time - r.lastTime)).buftimings := by
  have hshift : Records r (r.shifted (time - r.lastTime)) :=
    ⟨⟨h.recorded, h.pending⟩, rfl, rfl, rfl, rfl, fun _ => ⟨rfl, rfl⟩⟩
  have hended : ∃ r', (r.shifted (time - r.lastTime)).separate (time - r.lastTime) = some r' ∧ Records r r' ∧
      r'.buftimings = (r.shifted (time - r.lastTime)).buftimings := by
    unfold separate
    by_cases hsep : (r.shifted (time - r.lastTime)).separates (time - r.lastTime) = true
    · obtain ⟨r', heq, hrec, hbuf⟩ := endFrame_spec hshift.inside (time - r.lastTime)
      exact ⟨r', by rw [if_pos hsep, heq], hshift.trans hrec, hbuf⟩
    · exact ⟨_, by rw [if_neg hsep], hshift, rfl⟩
  obtain ⟨r', heq, hrec, hbuf⟩ := hended
  have hclip : r'.clipped = { r' with changeCount := r'.clipped.changeCount } := by
    unfold clipped
    split <;> rfl
  obtain ⟨r'', hstore, hrec', hbuf'⟩ := store_spec r'.clipped_lt (by rw [hclip]; exact hrec.inside.pending)
    (time - r.lastTime)
  have hclipped : Records r' r'.clipped := by
    rw [hclip]
    exact ⟨⟨Nat.le_of_lt r'.clipped_lt, hrec.inside.pending⟩, rfl, rfl, rfl, rfl, fun _ => ⟨rfl, rfl⟩⟩
  refine ⟨{ r'' with lastTime := time }, by simp [handleInterrupt, heq, hstore], ?_, rfl, ?_⟩
  · refine (hrec.trans (hclipped.trans hrec')).trans ?_
    exact ⟨⟨hrec'.inside.recorded, hrec'.inside.pending⟩, rfl, rfl, rfl, rfl, fun _ => ⟨rfl, rfl⟩⟩
  · rw [hbuf', hclip, hbuf]

theorem decodeBits_inside (pendingTimings : CArray UInt32 RCSwitch.rcSwitchMaxChanges) (pro : RfProtocol)
    (delay delayTolerance : UInt32) : ∀ (pairs i : ℕ) (code : UInt64), i + 2 * pairs ≤ RCSwitch.rcSwitchMaxChanges →
      ∃ decoded, decodeBits pendingTimings pro delay delayTolerance pairs i code = some decoded
  | 0, _, code, _ => ⟨some code, rfl⟩
  | pairs + 1, i, code, h => by
    obtain ⟨high, hhigh⟩ := exists_get pendingTimings (i := i) (by omega)
    obtain ⟨low, hlow⟩ := exists_get pendingTimings (i := i + 1) (by omega)
    have ih := decodeBits_inside pendingTimings pro delay delayTolerance pairs (i + 2)
    rw [decodeBits]
    simp only [hhigh, hlow, Option.bind_eq_bind, Option.bind_some]
    split
    · exact ih _ (by omega)
    · split
      · exact ih _ (by omega)
      · exact ⟨none, rfl⟩

structure Decodes (r r' : RfReceiver) : Prop where
  timings : r'.timings = r.timings
  buftimings : r'.buftimings = r.buftimings
  pendingTimings : r'.pendingTimings = r.pendingTimings
  changeCount : r'.changeCount = r.changeCount
  lastTime : r'.lastTime = r.lastTime

theorem baseDelay_princeton {r : RfReceiver} {timing : UInt32} (h : r.pendingTimings.get 0 = some timing) :
    r.baseDelay RCSwitch.princeton = some (timing / 31) := by
  have hsync : syncLengthInPulses RCSwitch.princeton = 31 := by decide
  have hfirst : (firstTiming RCSwitch.princeton).toNat = 0 := by decide
  rw [baseDelay, hsync, if_pos (by decide), hfirst, h]
  rfl

theorem bitChangeCount_le (pro : RfProtocol) (changeCount : UInt32) :
    (bitChangeCount pro changeCount).toNat ≤ 128 := by
  have h128 : (128 : UInt32).toNat = 128 := rfl
  unfold bitChangeCount
  dsimp only
  generalize changeCount - firstDataTiming pro - 1 + (if pro.invertedSignal = true then 1 else 0) = changes
  by_cases h : changes > 128
  · rw [if_pos h]
    exact Nat.le_refl _
  · rw [if_neg h]
    exact Nat.not_lt.mp fun hlt => h (UInt32.lt_iff_toNat_lt.mpr hlt)

def holding (r : RfReceiver) (p : UInt32) : Option (UInt64 × UInt32 × UInt32) → RfReceiver
  | none => r
  | some (code, bitlength, delay) =>
    { r with nReceivedValue := code, nReceivedBitlength := bitlength, nReceivedDelay := delay, nReceivedProtocol := p }

theorem receiveProtocol_eq (pendingTimings : CArray UInt32 RCSwitch.rcSwitchMaxChanges) (p changeCount : UInt32) :
    ∃ outcome, ∀ r : RfReceiver, r.pendingTimings = pendingTimings →
      r.receiveProtocol p RCSwitch.princeton changeCount = some (outcome.isSome, r.holding p outcome) := by
  obtain ⟨timing, htiming⟩ := exists_get pendingTimings (by decide : 0 < RCSwitch.rcSwitchMaxChanges)
  have hle := bitChangeCount_le RCSwitch.princeton changeCount
  have hfirst : (firstDataTiming RCSwitch.princeton).toNat = 1 := by decide
  obtain ⟨decoded, hdecoded⟩ := decodeBits_inside pendingTimings RCSwitch.princeton (timing / 31)
    (timing / 31 * RCSwitch.nReceiveTolerance / 100)
      (((bitChangeCount RCSwitch.princeton changeCount).toNat + 1) / 2)
    (firstDataTiming RCSwitch.princeton).toNat 0 (by rw [hfirst, RCSwitch.rcSwitchMaxChanges]; omega)
  have hread : ∀ r : RfReceiver, r.pendingTimings = pendingTimings →
      r.baseDelay RCSwitch.princeton = some (timing / 31) := by
    rintro r rfl
    exact baseDelay_princeton htiming
  by_cases hzero : timing / 31 = 0
  · refine ⟨none, fun r hr => ?_⟩
    simp only [receiveProtocol, hread r hr, Option.bind_eq_bind, Option.bind_some, Option.pure_def]
    rw [if_pos hzero]
    rfl
  · cases decoded with
    | none =>
      refine ⟨none, fun r hr => ?_⟩
      simp only [receiveProtocol, hread r hr, Option.bind_eq_bind, Option.bind_some, Option.pure_def]
      rw [if_neg hzero, hr, hdecoded]
      rfl
    | some code =>
      by_cases hlong : bitChangeCount RCSwitch.princeton changeCount > 14
      · refine ⟨some (code, bitChangeCount RCSwitch.princeton changeCount / 2, timing / 31), fun r hr => ?_⟩
        simp only [receiveProtocol, hread r hr, Option.bind_eq_bind, Option.bind_some, Option.pure_def]
        rw [if_neg hzero, hr, hdecoded, Option.bind_some]
        subst hr
        exact if_pos hlong
      · refine ⟨none, fun r hr => ?_⟩
        simp only [receiveProtocol, hread r hr, Option.bind_eq_bind, Option.bind_some, Option.pure_def]
        rw [if_neg hzero, hr, hdecoded, Option.bind_some]
        exact if_neg hlong

theorem decodes_holding (r : RfReceiver) (p : UInt32) (outcome : Option (UInt64 × UInt32 × UInt32)) :
    Decodes r (r.holding p outcome) := by
  cases outcome <;> exact ⟨rfl, rfl, rfl, rfl, rfl⟩

theorem decodeRecorded_eq (pendingTimings : CArray UInt32 RCSwitch.rcSwitchMaxChanges) (changeCount : UInt32) :
    ∃ outcome, ∀ r : RfReceiver, r.pendingTimings = pendingTimings →
      r.decodeRecorded changeCount = some (r.holding 1 outcome) := by
  obtain ⟨outcome, houtcome⟩ := receiveProtocol_eq pendingTimings 1 changeCount
  refine ⟨outcome, fun r hr => ?_⟩
  cases outcome <;> simp [decodeRecorded, RCSwitch.proto, decodeWith, houtcome r hr]

theorem available_spec (r : RfReceiver) :
    ∃ ready r', r.available = some (ready, r') ∧ Decodes r r' ∧ r'.pendingChangeCount = 0 := by
  by_cases hpending : r.pendingChangeCount = 0
  · exact ⟨!decide (r.nReceivedValue = 0), r, by simp [available, hpending], ⟨rfl, rfl, rfl, rfl, rfl⟩, hpending⟩
  · obtain ⟨outcome, houtcome⟩ := decodeRecorded_eq r.pendingTimings r.pendingChangeCount
    have hdec := decodes_holding r 1 outcome
    refine ⟨decide ((r.holding 1 outcome).nReceivedValue ≠ 0), { r.holding 1 outcome with pendingChangeCount := 0 },
      by simp [available, hpending, houtcome r rfl], ?_, rfl⟩
    exact ⟨hdec.timings, hdec.buftimings, hdec.pendingTimings, hdec.changeCount, hdec.lastTime⟩

theorem Inside.step {r : RfReceiver} (h : r.Inside) (e : RfEvent) : ∃ r', r.step e = some r' ∧ r'.Inside := by
  cases e with
  | edge time =>
    obtain ⟨r', heq, hrec, -⟩ := handleInterrupt_spec h time
    exact ⟨r', heq, hrec.inside⟩
  | available =>
    obtain ⟨ready, r', heq, hdec, hzero⟩ := r.available_spec
    refine ⟨r', by simp [heq], ?_, by simp [hzero]⟩
    rw [hdec.changeCount]
    exact h.recorded
  | resetAvailable => exact ⟨r.resetAvailable, rfl, h.recorded, h.pending⟩

theorem Inside.run {r : RfReceiver} (h : r.Inside) (es : List RfEvent) : ∃ r', r.run es = some r' ∧ r'.Inside := by
  induction es generalizing r with
  | nil => exact ⟨r, rfl, h⟩
  | cons e es ih =>
    obtain ⟨r', heq, h'⟩ := h.step e
    obtain ⟨r'', hrun, h''⟩ := ih h'
    exact ⟨r'', by simp [heq, hrun], h''⟩

end RfReceiver

/-! ## The decoder at work while edges arrive -/

inductive RfTurn
  | edge (time : UInt32)
  /-- The decoder reads the count of a frame that waits. -/
  | look
  /-- It is through with the frame and gives the buffer back. -/
  | release
  | resetAvailable
  deriving DecidableEq, Repr

/-- The receiver, and next to it what it was when the decoder began with the frame. -/
structure RfDecoder where
  receiver : RfReceiver
  reading : Option RfReceiver

namespace RfDecoder

open RfReceiver

def init : RfDecoder := ⟨.init, none⟩

/-- A pass of the main loop looks and releases; it resets between two looks. -/
def step (w : RfDecoder) : RfTurn → Option RfDecoder
  | .edge time => (w.receiver.handleInterrupt time).map fun r => { w with receiver := r }
  | .look =>
    if w.reading = none ∧ w.receiver.pendingChangeCount ≠ 0 then some { w with reading := some w.receiver } else
      some w
  | .release =>
    match w.reading with
    | none => some w
    | some seen =>
      (w.receiver.decodeRecorded seen.pendingChangeCount).map fun r => ⟨{ r with pendingChangeCount := 0 }, none⟩
  | .resetAvailable => if w.reading = none then some { w with receiver := w.receiver.resetAvailable } else some w

def run (w : RfDecoder) (turns : List RfTurn) : Option RfDecoder := turns.foldlM step w

structure SameAnswers (r r' : RfReceiver) : Prop where
  value : r'.nReceivedValue = r.nReceivedValue
  bitlength : r'.nReceivedBitlength = r.nReceivedBitlength
  delay : r'.nReceivedDelay = r.nReceivedDelay
  protocol : r'.nReceivedProtocol = r.nReceivedProtocol

structure Locked (w : RfDecoder) : Prop where
  inside : w.receiver.Inside
  waits : ∀ seen ∈ w.reading, seen.pendingChangeCount ≠ 0
  count : ∀ seen ∈ w.reading, w.receiver.pendingChangeCount = seen.pendingChangeCount
  frame : ∀ seen ∈ w.reading, w.receiver.pendingTimings = seen.pendingTimings
  answers : ∀ seen ∈ w.reading, SameAnswers seen w.receiver

theorem holding_answers {r r' : RfReceiver} (h : SameAnswers r r') (p : UInt32)
    (outcome : Option (UInt64 × UInt32 × UInt32)) : SameAnswers (r.holding p outcome) (r'.holding p outcome) := by
  cases outcome with
  | none => exact h
  | some found => exact ⟨rfl, rfl, rfl, rfl⟩

theorem available_holding {r : RfReceiver} (hpending : r.pendingChangeCount ≠ 0)
    {outcome : Option (UInt64 × UInt32 × UInt32)}
    (h : r.decodeRecorded r.pendingChangeCount = some (r.holding 1 outcome)) :
    r.available = some (decide ((r.holding 1 outcome).nReceivedValue ≠ 0),
      { r.holding 1 outcome with pendingChangeCount := 0 }) := by
  simp [available, hpending, h]

theorem Locked.step {w : RfDecoder} (h : Locked w) (turn : RfTurn) : ∃ w', w.step turn = some w' ∧ Locked w' := by
  cases turn with
  | edge time =>
    obtain ⟨r, heq, hrec, -⟩ := handleInterrupt_spec h.inside time
    refine ⟨{ w with receiver := r }, by simp [RfDecoder.step, heq], hrec.inside, h.waits, ?_, ?_, ?_⟩
    · intro seen hseen
      have hcount := h.count seen hseen
      rw [← hcount]
      exact (hrec.locked (by rw [hcount]; exact h.waits seen hseen)).1
    · intro seen hseen
      have hcount := h.count seen hseen
      rw [← h.frame seen hseen]
      exact (hrec.locked (by rw [hcount]; exact h.waits seen hseen)).2
    · intro seen hseen
      have hans := h.answers seen hseen
      exact ⟨hrec.value.trans hans.value, hrec.bitlength.trans hans.bitlength, hrec.delay.trans hans.delay,
        hrec.protocol.trans hans.protocol⟩
  | look =>
    by_cases hlook : w.reading = none ∧ w.receiver.pendingChangeCount ≠ 0
    · refine ⟨{ w with reading := some w.receiver }, if_pos hlook, h.inside, ?_, ?_, ?_, ?_⟩
      · simpa using hlook.2
      · simp
      · simp
      · intro seen hseen
        cases hseen
        exact ⟨rfl, rfl, rfl, rfl⟩
    · exact ⟨w, if_neg hlook, h⟩
  | release =>
    cases hreading : w.reading with
    | none => exact ⟨w, by simp [RfDecoder.step, hreading], h⟩
    | some seen =>
      obtain ⟨outcome, houtcome⟩ := decodeRecorded_eq w.receiver.pendingTimings seen.pendingChangeCount
      refine ⟨⟨{ w.receiver.holding 1 outcome with pendingChangeCount := 0 }, none⟩,
        by simp [RfDecoder.step, hreading,
          houtcome w.receiver rfl], ⟨?_, by simp⟩, by simp, by simp, by simp, by simp⟩
      change (w.receiver.holding 1 outcome).changeCount.toNat ≤ _
      rw [(decodes_holding w.receiver 1 outcome).changeCount]
      exact h.inside.recorded
  | resetAvailable =>
    by_cases hreset : w.reading = none
    · refine ⟨{ w with receiver := w.receiver.resetAvailable }, if_pos hreset,
        ⟨h.inside.recorded, h.inside.pending⟩, ?_, ?_, ?_, ?_⟩
      all_goals simp [hreset]
    · exact ⟨w, if_neg hreset, h⟩

theorem Locked.run {w : RfDecoder} (h : Locked w) (turns : List RfTurn) :
    ∃ w', w.run turns = some w' ∧ Locked w' := by
  induction turns generalizing w with
  | nil => exact ⟨w, rfl, h⟩
  | cons turn turns ih =>
    obtain ⟨w₁, heq, h₁⟩ := h.step turn
    obtain ⟨w', hrun, h'⟩ := ih h₁
    exact ⟨w', by simpa [RfDecoder.run, heq] using hrun, h'⟩

/-- However edges and the decoder take turns, no buffer is left, and a frame is decoded as if the decoder had
needed no time. -/
theorem decoder_undisturbed (turns : List RfTurn) :
    ∃ w, init.run turns = some w ∧
      ∀ seen ∈ w.reading, w.receiver.pendingTimings = seen.pendingTimings ∧
        w.receiver.pendingChangeCount = seen.pendingChangeCount ∧
        ∃ ready r r', seen.available = some (ready, r) ∧ w.step .release = some ⟨r', none⟩ ∧ SameAnswers r r' := by
  obtain ⟨w, hrun, h⟩ := Locked.run (w := init)
    ⟨inside_init, by simp [init], by simp [init], by simp [init], by simp [init]⟩ turns
  refine ⟨w, hrun, fun seen hseen => ⟨h.frame seen hseen, h.count seen hseen, ?_⟩⟩
  obtain ⟨outcome, houtcome⟩ := decodeRecorded_eq seen.pendingTimings seen.pendingChangeCount
  have hwait := available_holding (h.waits seen hseen) (houtcome seen rfl)
  have hreading : w.reading = some seen := hseen
  refine ⟨_, _, { w.receiver.holding 1 outcome with pendingChangeCount := 0 }, hwait, ?_, ?_⟩
  · simp [RfDecoder.step, hreading, houtcome w.receiver (h.frame seen hseen)]
  · obtain ⟨hvalue, hbitlength, hdelay, hprotocol⟩ := holding_answers (h.answers seen hseen) 1 outcome
    exact ⟨hvalue, hbitlength, hdelay, hprotocol⟩

end RfDecoder

namespace RfReceiver

/-! ## Recording a frame -/

/-- The latest three durations before the next one, where there are so many. -/
def alike : List UInt32 → Bool
  | a :: b :: c :: _ => diff c b < 50 && diff b a < 50
  | _ => false

def Plain : List UInt32 → List UInt32 → Prop
  | _, [] => True
  | rev, d :: ds => 100 ≤ d ∧ d ≤ RCSwitch.rcSwitchSeparationLimit ∧ alike rev = false ∧ Plain (d :: rev) ds

/-- The receiver has heard the durations of `rev`, the latest first. -/
structure Heard (r : RfReceiver) (rev : List UInt32) : Prop where
  latest : ∀ d ∈ rev[0]?, r.buftimings[0]? = some d
  second : ∀ d ∈ rev[1]?, r.buftimings[1]? = some d
  third : ∀ d ∈ rev[2]?, r.buftimings[2]? = some d

/-- All that is recorded is `rev`, the latest first. -/
structure Recording (r : RfReceiver) (rev : List UInt32) : Prop where
  inside : r.Inside
  count : r.changeCount.toNat = rev.length
  starts : r.timings.Starts rev.reverse
  heard : r.Heard rev

theorem heard_nil (r : RfReceiver) : r.Heard [] := ⟨by simp, by simp, by simp⟩

theorem Heard.cons {r r' : RfReceiver} {rev : List UInt32} {d : UInt32} (h : r.Heard rev)
    (hbuf : r'.buftimings = (r.shifted d).buftimings) : r'.Heard (d :: rev) := by
  refine ⟨?_, ?_, ?_⟩
  · simp [hbuf, shifted]
  · simpa [hbuf, shifted] using h.latest
  · simpa [hbuf, shifted] using h.second

theorem Heard.decodes {r r' : RfReceiver} {rev : List UInt32} (h : r.Heard rev) (hdec : Decodes r r') :
    r'.Heard rev := by
  refine ⟨?_, ?_, ?_⟩ <;> rw [hdec.buftimings]
  · exact h.latest
  · exact h.second
  · exact h.third

theorem Heard.threeAlike {r : RfReceiver} {rev : List UInt32} (h : r.Heard rev) (hlength : 3 ≤ rev.length)
    (d : UInt32) :
    (r.shifted d).threeAlike = alike rev := by
  obtain ⟨a, b, c, rest, rfl⟩ : ∃ a b c rest, rev = a :: b :: c :: rest := by
    rcases rev with _ | ⟨a, _ | ⟨b, _ | ⟨c, rest⟩⟩⟩
    · simp at hlength
    · simp at hlength
    · simp at hlength
    · exact ⟨a, b, c, rest, rfl⟩
  have ha : r.buftimings[0] = a := by simpa using h.latest a (by simp)
  have hb : r.buftimings[1] = b := by simpa using h.second b (by simp)
  have hc : r.buftimings[2] = c := by simpa using h.third c (by simp)
  rw [alike, ← ha, ← hb, ← hc]
  rfl

theorem Recording.edge {r : RfReceiver} {rev : List UInt32} {time : UInt32} (h : r.Recording rev)
    (hroom : rev.length < RCSwitch.rcSwitchMaxChanges) (hspike : 100 ≤ time - r.lastTime)
    (hshort : time - r.lastTime ≤ RCSwitch.rcSwitchSeparationLimit) (halike : alike rev = false) :
    ∃ r', r.handleInterrupt time = some r' ∧ r'.Recording ((time - r.lastTime) :: rev) ∧ r'.lastTime = time ∧
      r'.pendingChangeCount = r.pendingChangeCount := by
  have hcap : RCSwitch.rcSwitchMaxChanges = 131 := rfl
  generalize hd : time - r.lastTime = d at *
  have hsep : (r.shifted d).separates d = false := by
    rw [separates, Bool.or_eq_false_iff]
    refine ⟨decide_eq_false (UInt32.not_lt.mpr hshort), ?_⟩
    by_cases hlength : 3 ≤ rev.length
    · simp [h.heard.threeAlike hlength d, halike]
    · have hfew : ¬ r.changeCount > 25 := by
        rw [gt_iff_lt, UInt32.lt_iff_toNat_lt, h.count]
        simp
        omega
      simp [shifted, hfew]
  have hclip : (r.shifted d).clipped = r.shifted d := by
    refine if_neg ?_
    change ¬ RCSwitch.rcSwitchMaxChanges ≤ r.changeCount.toNat
    rw [h.count]
    omega
  have hcell : r.changeCount.toNat + [d].length ≤ RCSwitch.rcSwitchMaxChanges := by
    rw [h.count]
    exact hroom
  obtain ⟨timings, hwrite⟩ := r.timings.exists_write hcell
  have hnext : (r.changeCount + 1).toNat = rev.length + 1 := by
    rw [UInt32.toNat_add, h.count]
    exact Nat.mod_eq_of_lt (by simp; omega)
  have hstore : (r.shifted d).store d = some
      { r.shifted d with timings := timings, changeCount := r.changeCount + 1 } := by
    unfold store
    rw [if_neg fun hlow => UInt32.not_lt.mpr hspike hlow.2]
    change (r.timings.write r.changeCount.toNat [d]).bind _ = _
    rw [hwrite]
    rfl
  refine ⟨{ r.shifted d with timings := timings, changeCount := r.changeCount + 1, lastTime := time }, ?_, ?_, rfl,
    rfl⟩
  · simp [handleInterrupt, hd, separate, hsep, hclip, hstore]
  · refine ⟨⟨?_, h.inside.pending⟩, hnext, ?_, h.heard.cons rfl⟩
    · change (r.changeCount + 1).toNat ≤ _
      rw [hnext]
      exact hroom
    · rw [List.reverse_cons]
      refine h.starts.write_end ?_
      rw [List.length_reverse, ← h.count]
      exact hwrite

theorem Inside.header {r : RfReceiver} {rev : List UInt32} {time : UInt32} (h : r.Inside) (hheard : r.Heard rev)
    (hlength : 3 ≤ rev.length) (hlong : time - r.lastTime > RCSwitch.rcSwitchSeparationLimit)
    (halike : alike rev = false) :
    ∃ r', r.handleInterrupt time = some r' ∧ r'.Recording [time - r.lastTime] ∧ r'.lastTime = time ∧
      (∀ first rest, r.Recording rev → rev.reverse = first :: rest → diff (time - r.lastTime) first < 400 →
        r.pendingChangeCount = 0 →
        r'.pendingChangeCount.toNat = rev.length ∧ r'.pendingTimings.Starts rev.reverse) := by
  generalize hd : time - r.lastTime = d at *
  have hshift : (r.shifted d).Inside := ⟨h.recorded, h.pending⟩
  have hthree : (r.shifted d).threeAlike = false := by rw [hheard.threeAlike hlength, halike]
  obtain ⟨same, hsame⟩ := (r.shifted d).isRepeat_spec d
  have hhanded : ∃ r₁, (if same = true then (r.shifted d).handOverRecorded else some (r.shifted d)) = some r₁ ∧
      Records (r.shifted d) r₁ ∧ r₁.buftimings = (r.shifted d).buftimings := by
    by_cases hs : same = true
    · obtain ⟨r₁, heq, hrec, -, hbuf⟩ := handOverRecorded_spec hshift
      exact ⟨r₁, by rw [if_pos hs, heq], hrec, hbuf⟩
    · exact ⟨_, if_neg hs, ⟨hshift, rfl, rfl, rfl, rfl, fun _ => ⟨rfl, rfl⟩⟩, rfl⟩
  obtain ⟨r₁, hhand, hrec, hbuf⟩ := hhanded
  have hthree₁ : r₁.threeAlike = false := by
    rw [← hthree, RfReceiver.threeAlike, hbuf]
    rfl
  have hcell : 0 + [d].length ≤ RCSwitch.rcSwitchMaxChanges := by simp [RCSwitch.rcSwitchMaxChanges]
  obtain ⟨timings, hwrite⟩ := r₁.timings.exists_write hcell
  refine ⟨{ r₁ with timings := timings, changeCount := 1, lastTime := time }, ?_, ?_, rfl, ?_⟩
  · have hsep : (r.shifted d).separate d = some { r₁ with changeCount := 0 } := by
      unfold separate endFrame
      rw [if_pos (by simp [separates, hlong]), hsame]
      cases same <;> simp_all [startFrame]
    have hstore : ({ r₁ with changeCount := 0 } : RfReceiver).clipped.store d =
        some { r₁ with timings := timings, changeCount := 1 } := by
      have hclip : ({ r₁ with changeCount := 0 } : RfReceiver).clipped = { r₁ with changeCount := 0 } :=
        if_neg (by simp [RCSwitch.rcSwitchMaxChanges])
      rw [hclip]
      unfold store
      rw [if_neg (by simp)]
      change (r₁.timings.write 0 [d]).bind _ = _
      rw [hwrite]
      rfl
    simp [handleInterrupt, hd, hsep, hstore]
  · refine ⟨⟨by simp [RCSwitch.rcSwitchMaxChanges], hrec.inside.pending⟩, rfl, ?_, ?_⟩
    · exact (CArray.starts_nil r₁.timings).write_end hwrite
    · refine (heard_nil r).cons ?_
      exact hbuf
  · intro first rest hrecording hfirst hnear hfree
    have hlen : r.changeCount.toNat = rev.length := hrecording.count
    obtain rfl : same = true := by
      have hget : r.timings.get 0 = some first := by
        have hpos : 0 < rev.reverse.length := by rw [List.length_reverse]; omega
        rw [hrecording.starts.get hpos]
        simp [hfirst]
      obtain ⟨second, hsecond⟩ := exists_get r.timings (by decide : 1 < RCSwitch.rcSwitchMaxChanges)
      obtain ⟨third, hthird⟩ := exists_get r.timings (by decide : 2 < RCSwitch.rcSwitchMaxChanges)
      obtain ⟨fourth, hfourth⟩ := exists_get r.timings (by decide : 3 < RCSwitch.rcSwitchMaxChanges)
      have htimings : (r.shifted d).timings = r.timings := rfl
      simp only [isRepeat, htimings, hget, hsecond, hthird, hfourth, Option.bind_eq_bind, Option.bind_some, hnear,
        decide_true, Bool.true_or] at hsame
      exact (Option.some.inj hsame).symm
    rw [if_pos rfl] at hhand
    unfold handOverRecorded at hhand
    have hnot : ¬ ((r.shifted d).pendingChangeCount ≠ 0 ∨ (r.shifted d).changeCount = 0) := by
      rintro (hpending | hzero)
      · exact hpending hfree
      · have : r.changeCount = 0 := hzero
        rw [this] at hlen
        simp at hlen
        omega
    have hread : r.timings.read 0 r.changeCount.toNat = some rev.reverse := by
      rw [hrecording.starts.read (by rw [List.length_reverse, hlen, Nat.zero_add])]
      simp [hlen]
    rw [if_neg hnot] at hhand
    change ((r.timings.read 0 r.changeCount.toNat).bind fun recorded =>
      (r.pendingTimings.write 0 recorded).bind fun pendingTimings =>
        some { r.shifted d with pendingTimings := pendingTimings, pendingChangeCount := r.changeCount }) =
          some r₁ at hhand
    rw [hread, Option.bind_some] at hhand
    obtain ⟨pendingTimings, hpending, heq⟩ := Option.bind_eq_some_iff.mp hhand
    cases heq
    exact ⟨hlen, (CArray.starts_nil r.pendingTimings).write_end hpending⟩

theorem Recording.decodes {r r' : RfReceiver} {rev : List UInt32} (h : r.Recording rev) (hdec : Decodes r r')
    (hpending : r'.pendingChangeCount = 0) : r'.Recording rev := by
  refine ⟨⟨?_, by simp [hpending]⟩, ?_, ?_, h.heard.decodes hdec⟩
  · rw [hdec.changeCount]
    exact h.inside.recorded
  · rw [hdec.changeCount]
    exact h.count
  · rw [hdec.timings]
    exact h.starts

theorem Recording.run {r : RfReceiver} {rev : List UInt32} {es : List RfEvent} (h : r.Recording rev)
    (hplain : Plain rev (RfEvent.durations r.lastTime es))
    (hroom : rev.length + (RfEvent.durations r.lastTime es).length ≤ RCSwitch.rcSwitchMaxChanges) :
    ∃ r', r.run es = some r' ∧ r'.Recording ((RfEvent.durations r.lastTime es).reverse ++ rev) ∧
      (∀ fs, RfEvent.durations r.lastTime (es ++ fs) =
        RfEvent.durations r.lastTime es ++ RfEvent.durations r'.lastTime fs) ∧
      (r.pendingChangeCount = 0 ∨ .available ∈ es → r'.pendingChangeCount = 0) := by
  induction es generalizing r rev with
  | nil => exact ⟨r, rfl, by simpa using h, fun _ => rfl, by simp⟩
  | cons e es ih =>
    cases e with
    | edge time =>
      obtain ⟨hspike, hshort, halike, hrest⟩ := hplain
      simp only [RfEvent.durations_edge, List.length_cons] at hroom
      obtain ⟨r₁, heq, hrec, htime, hpending⟩ := h.edge (by omega) hspike hshort halike
      obtain ⟨r', hrun, hrec', hmore, hfree⟩ :=
        ih hrec (by rw [htime]; exact hrest) (by rw [htime, List.length_cons]; omega)
      rw [htime] at hrec' hmore
      refine ⟨r', by simp [heq, hrun], ?_, ?_, ?_⟩
      · simpa using hrec'
      · intro fs
        simp [hmore]
      · intro hor
        apply hfree
        rw [hpending]
        simpa using hor
    | available =>
      obtain ⟨ready, r₁, heq, hdec, hzero⟩ := r.available_spec
      have hplain₁ : Plain rev (RfEvent.durations r₁.lastTime es) := by rw [hdec.lastTime]; exact hplain
      obtain ⟨r', hrun, hrec', hmore, hfree⟩ :=
        ih (h.decodes hdec hzero) hplain₁ (by rw [hdec.lastTime]; exact hroom)
      rw [hdec.lastTime] at hrec' hmore
      exact ⟨r', by simp [heq, hrun], hrec', hmore, fun _ => hfree (Or.inl hzero)⟩
    | resetAvailable =>
      have h₁ : r.resetAvailable.Recording rev :=
        ⟨⟨h.inside.recorded, h.inside.pending⟩, h.count, h.starts, h.heard.1, h.heard.2, h.heard.3⟩
      obtain ⟨r', hrun, hrec', hmore, hfree⟩ := ih h₁ hplain hroom
      refine ⟨r', by simp [hrun], hrec', hmore, ?_⟩
      intro hor
      refine hfree (hor.imp id ?_)
      simp

theorem Inside.hears {r : RfReceiver} {rev : List UInt32} (h : r.Inside) (hheard : r.Heard rev)
    (es : List RfEvent) :
    ∃ r', r.run es = some r' ∧ r'.Inside ∧ r'.Heard ((RfEvent.durations r.lastTime es).reverse ++ rev) ∧
      (∀ fs, RfEvent.durations r.lastTime (es ++ fs) =
        RfEvent.durations r.lastTime es ++ RfEvent.durations r'.lastTime fs) := by
  induction es generalizing r rev with
  | nil => exact ⟨r, rfl, h, by simpa using hheard, fun _ => rfl⟩
  | cons e es ih =>
    cases e with
    | edge time =>
      obtain ⟨r₁, heq, hrec, htime, hbuf⟩ := handleInterrupt_spec h time
      obtain ⟨r', hrun, h', hheard', hmore⟩ := ih hrec.inside (hheard.cons hbuf)
      rw [htime] at hheard' hmore
      refine ⟨r', by simp [heq, hrun], h', by simpa using hheard', ?_⟩
      intro fs
      simp [hmore]
    | available =>
      obtain ⟨ready, r₁, heq, hdec, hzero⟩ := r.available_spec
      have hin : r₁.Inside := ⟨by rw [hdec.changeCount]; exact h.recorded, by simp [hzero]⟩
      obtain ⟨r', hrun, h', hheard', hmore⟩ := ih hin (hheard.decodes hdec)
      rw [hdec.lastTime] at hheard' hmore
      exact ⟨r', by simp [heq, hrun], h', hheard', hmore⟩
    | resetAvailable =>
      have hin : r.resetAvailable.Inside := ⟨h.recorded, h.pending⟩
      obtain ⟨r', hrun, h', hheard', hmore⟩ := ih (r := r.resetAvailable) hin ⟨hheard.1, hheard.2, hheard.3⟩
      exact ⟨r', by simp [hrun], h', hheard', hmore⟩

theorem Inside.keeps {r : RfReceiver} (h : r.Inside) (hpending : r.pendingChangeCount ≠ 0) {es : List RfEvent}
    (hes : .available ∉ es) :
    ∃ r', r.run es = some r' ∧ r'.pendingChangeCount = r.pendingChangeCount ∧
      r'.pendingTimings = r.pendingTimings := by
  induction es generalizing r with
  | nil => exact ⟨r, rfl, rfl, rfl⟩
  | cons e es ih =>
    rw [List.mem_cons, not_or] at hes
    cases e with
    | edge time =>
      obtain ⟨r₁, heq, hrec, -, -⟩ := handleInterrupt_spec h time
      obtain ⟨hcount, htimings⟩ := hrec.locked hpending
      obtain ⟨r', hrun, hcount', htimings'⟩ := ih hrec.inside (by rw [hcount]; exact hpending) hes.2
      exact ⟨r', by simp [heq, hrun], hcount'.trans hcount, htimings'.trans htimings⟩
    | available => exact absurd rfl hes.1
    | resetAvailable =>
      obtain ⟨r', hrun, hcount', htimings'⟩ := ih (r := r.resetAvailable) ⟨h.recorded, h.pending⟩ hpending hes.2
      exact ⟨r', by simp [hrun], hcount', htimings'⟩

end RfReceiver

end CanSystems
