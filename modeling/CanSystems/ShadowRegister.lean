import CanSystems.PumpControl
import CanSystems.Lib.Machine

/-!
# The shadow of the expander's register

The expander cannot be read back, so its driver keeps what it wrote last. The
operations on one pin change this shadow first and send it then: a transfer that
fails leaves the shadow ahead of the chip, and the next one that does not sends
what the failed one asked for.
-/

namespace CanSystems

namespace PCF8574

def mask (pin : UInt8) : UInt8 := (1 : UInt8) <<< pin

def digitalWrite (pcf : PCF8574) (pin pinState : UInt8) (acknowledged : Bool) : Bool × PCF8574 :=
  if pin > 7 then (false, pcf) else
  let registerValue := if pinState > 0 then pcf.registerValue ||| mask pin else pcf.registerValue &&& ~~~mask pin
  { pcf with registerValue := registerValue }.write registerValue acknowledged

def setAsInput (pcf : PCF8574) (pin : UInt8) (acknowledged : Bool) : Bool × PCF8574 :=
  pcf.digitalWrite pin 1 acknowledged

def toggleState (pcf : PCF8574) (pin : UInt8) (acknowledged : Bool) : Bool × PCF8574 :=
  if pin > 7 then (false, pcf) else
  let registerValue := pcf.registerValue ^^^ mask pin
  { pcf with registerValue := registerValue }.write registerValue acknowledged

end PCF8574

/-- A call of the driver, or of `selectChannel`, which is one of its callers. -/
inductive PcfCall
  | write (reg : UInt8)
  | digitalWrite (pin pinState : UInt8)
  | setAsInput (pin : UInt8)
  | toggleState (pin : UInt8)
  | selectChannel (channel : Fin 4)
  deriving DecidableEq, Repr

namespace PcfCall

def asks (reg : UInt8) : PcfCall → UInt8
  | write value => value
  | digitalWrite pin pinState => if pinState > 0 then reg ||| PCF8574.mask pin else reg &&& ~~~PCF8574.mask pin
  | setAsInput pin => reg ||| PCF8574.mask pin
  | toggleState pin => reg ^^^ PCF8574.mask pin
  | selectChannel channel => (reg &&& 0xF0) ||| ((1 : UInt8) <<< UInt8.ofNat channel)

def pin : PcfCall → Option UInt8
  | write _ => none
  | digitalWrite pin _ => some pin
  | setAsInput pin => some pin
  | toggleState pin => some pin
  | selectChannel _ => none

end PcfCall

namespace PCF8574

def perform (pcf : PCF8574) (acknowledged : Bool) : PcfCall → Bool × PCF8574
  | .write reg => pcf.write reg acknowledged
  | .digitalWrite pin pinState => pcf.digitalWrite pin pinState acknowledged
  | .setAsInput pin => pcf.setAsInput pin acknowledged
  | .toggleState pin => pcf.toggleState pin acknowledged
  | .selectChannel channel =>
    pcf.write ((pcf.getRegisterValue &&& 0xF0) ||| ((1 : UInt8) <<< UInt8.ofNat channel)) acknowledged

theorem selectChannel_perform (pc : PumpControl) (channel : Fin 4) (acknowledged : Bool) :
    pc.selectChannel channel acknowledged = pc.pcf.perform acknowledged (.selectChannel channel) := rfl

def takes (pcf : PCF8574) (acknowledged : Bool) : Bool := pcf.deviceExists && acknowledged

inductive Performed (pcf : PCF8574) (acknowledged : Bool) (call : PcfCall) : Bool × PCF8574 → Prop
  | noPin (pin : UInt8) : call.pin = some pin → pin > 7 → Performed pcf acknowledged call (false, pcf)
  | sent : (∀ pin ∈ call.pin, ¬ pin > 7) → pcf.takes acknowledged = true →
      Performed pcf acknowledged call
        (true, { pcf with registerValue := call.asks pcf.registerValue, chip := call.asks pcf.registerValue })
  | refused : call.pin = none → pcf.takes acknowledged = false → Performed pcf acknowledged call (false, pcf)
  | ahead (pin : UInt8) : call.pin = some pin → ¬ pin > 7 → pcf.takes acknowledged = false →
      Performed pcf acknowledged call (false, { pcf with registerValue := call.asks pcf.registerValue })

section
variable {pcf : PCF8574} {acknowledged : Bool}

theorem write_taken (h : pcf.takes acknowledged = true) (reg : UInt8) :
    pcf.write reg acknowledged = (true, { pcf with registerValue := reg, chip := reg }) := by
  obtain ⟨hexists, hack⟩ := Bool.and_eq_true_iff.mp h
  simp [write, hexists, hack]

theorem write_refused (h : pcf.takes acknowledged = false) (reg : UInt8) :
    pcf.write reg acknowledged = (false, pcf) := by
  rcases Bool.and_eq_false_iff.mp h with hexists | hack
  · simp [write, hexists]
  · simp [write, hack]

theorem performed_write {call : PcfCall} (hpin : call.pin = none) :
    Performed pcf acknowledged call (pcf.write (call.asks pcf.registerValue) acknowledged) := by
  cases htakes : pcf.takes acknowledged with
  | true =>
    rw [write_taken htakes]
    exact .sent (by simp [hpin]) htakes
  | false =>
    rw [write_refused htakes]
    exact .refused hpin htakes

theorem performed_pin {call : PcfCall} {pin : UInt8} (hpin : call.pin = some pin) :
    Performed pcf acknowledged call
      (if pin > 7 then (false, pcf) else
        { pcf with registerValue := call.asks pcf.registerValue }.write
          (call.asks pcf.registerValue) acknowledged) := by
  split
  · rename_i hrange
    exact .noPin pin hpin hrange
  rename_i hrange
  have hshadow : ({ pcf with registerValue := call.asks pcf.registerValue } : PCF8574).takes acknowledged =
    pcf.takes acknowledged := rfl
  cases htakes : pcf.takes acknowledged with
  | true =>
    rw [write_taken (hshadow.trans htakes)]
    exact .sent (by simpa [hpin] using hrange) htakes
  | false =>
    rw [write_refused (hshadow.trans htakes)]
    exact .ahead pin hpin hrange htakes

end

theorem perform_performed (pcf : PCF8574) (acknowledged : Bool) (call : PcfCall) :
    Performed pcf acknowledged call (pcf.perform acknowledged call) := by
  cases call with
  | write reg => exact @performed_write _ _ (.write reg) rfl
  | digitalWrite pin pinState => exact @performed_pin _ _ (.digitalWrite pin pinState) _ rfl
  | setAsInput pin => exact @performed_pin _ _ (.setAsInput pin) _ rfl
  | toggleState pin => exact @performed_pin _ _ (.toggleState pin) _ rfl
  | selectChannel channel => exact @performed_write _ _ (.selectChannel channel) rfl

end PCF8574

/-! ## Runs -/

/-- The driver in a run, and next to it the register that the successful calls alone ask for. -/
structure ShadowWatch where
  pcf : PCF8574
  asked : UInt8
  /-- A call has returned false and changed the shadow. -/
  moved : Bool
  /-- A channel selection has put a bit on the upper nibble that no successful call asked for. -/
  strayed : Bool
  deriving DecidableEq, Repr

namespace ShadowWatch

def upperNibble (reg : UInt8) : UInt8 := reg &&& 0xF0

def isSelection : PcfCall → Bool
  | .selectChannel _ => true
  | _ => false

def init (deviceExists : Bool) : ShadowWatch := ⟨.init deviceExists, 0xFF, false, false⟩

def step (w : ShadowWatch) (e : PcfCall × Bool) : ShadowWatch :=
  let (ok, pcf) := w.pcf.perform e.2 e.1
  let asked := if ok then e.1.asks w.asked else w.asked
  { pcf := pcf
    asked := asked
    moved := w.moved || (!ok && pcf.registerValue != w.pcf.registerValue)
    strayed := w.strayed || (ok && isSelection e.1 && upperNibble pcf.chip != upperNibble asked) }

abbrev run : ShadowWatch → List (PcfCall × Bool) → ShadowWatch := Machine.run step

/-- The shadow holds what the chip took last, no call that failed has changed it, and the selections have kept to
what was asked for. -/
structure Right (w : ShadowWatch) : Prop where
  shadow : w.pcf.registerValue = w.pcf.chip
  kept : w.moved = false
  upper : w.strayed = false

/-- A transfer that the chip takes, or that fails for a call on no pin or for one that leaves the shadow as it is.
-/
def Safe (w : ShadowWatch) (e : PcfCall × Bool) : Prop :=
  w.pcf.takes e.2 = true ∨ ∀ pin ∈ e.1.pin, pin ≤ 7 → e.1.asks w.pcf.registerValue = w.pcf.registerValue

/-! ## What a step keeps -/

structure Sound (w : ShadowWatch) : Prop extends w.Right where
  asked : w.asked = w.pcf.chip

theorem sound_init (deviceExists : Bool) : (init deviceExists).Sound := ⟨⟨rfl, rfl, rfl⟩, rfl⟩

theorem sound_step (w : ShadowWatch) (e : PcfCall × Bool) (h : w.Sound) (hsafe : w.Safe e) : (w.step e).Sound := by
  obtain ⟨⟨hshadow, hkept, hupper⟩, hasked⟩ := h
  have hperformed := w.pcf.perform_performed e.2 e.1
  unfold step
  generalize w.pcf.perform e.2 e.1 = result at hperformed ⊢
  cases hperformed with
  | noPin pin hpin hrange => exact ⟨⟨hshadow, by simp [hkept], by simp [hupper]⟩, hasked⟩
  | sent hpin htakes =>
    rw [← hshadow] at hasked
    exact ⟨⟨rfl, by simp [hkept], by simp [hupper, hasked]⟩, by simp [hasked]⟩
  | refused hpin htakes => exact ⟨⟨hshadow, by simp [hkept], by simp [hupper]⟩, hasked⟩
  | ahead pin hpin hrange htakes =>
    have hstays : e.1.asks w.pcf.registerValue = w.pcf.registerValue := by
      rcases hsafe with htaken | hstays
      · rw [htakes] at htaken
        cases htaken
      · exact hstays pin hpin (UInt8.not_lt.mp hrange)
    exact ⟨⟨hstays.trans hshadow, by simp [hkept, hstays], by simp [hupper]⟩, hasked⟩

theorem moved_step (w : ShadowWatch) (e : PcfCall × Bool) (h : w.moved = true) : (w.step e).moved = true := by
  simp [step, h]

theorem moved_of_not_safe (w : ShadowWatch) (e : PcfCall × Bool) (h : ¬ w.Safe e) : (w.step e).moved = true := by
  simp only [Safe, not_or, not_forall, Bool.not_eq_true] at h
  obtain ⟨hrefused, pin, hpin, hrange, hmoves⟩ := h
  have hperformed := w.pcf.perform_performed e.2 e.1
  unfold step
  generalize w.pcf.perform e.2 e.1 = result at hperformed ⊢
  cases hperformed with
  | noPin pin' hpin' hrange' =>
    cases hpin.symm.trans hpin'
    exact absurd hrange (UInt8.not_le.mpr hrange')
  | sent hall htakes => rw [hrefused] at htakes; cases htakes
  | refused hnone htakes => cases hpin.symm.trans hnone
  | ahead pin' hpin' hrange' htakes => simp [hmoves]

/-- In every state that a run comes through the shadow is what the chip took last, the failed calls have left it
as it was and the selections have kept to what was asked for: exactly if every transfer of the run is safe. -/
theorem shadow_right_iff (deviceExists : Bool) (es : List (PcfCall × Bool)) :
    (∀ fs, fs <+: es → (run (init deviceExists) fs).Right) ↔ Machine.Meets step Safe (init deviceExists) es := by
  constructor
  · intro hall
    have hend : ¬ (run (init deviceExists) es).moved = true := by
      rw [(hall es (List.prefix_refl es)).kept]
      exact Bool.false_ne_true
    exact Machine.meets_of_not (I := fun _ => True) (fun _ _ _ => trivial) (fun w e _ => moved_of_not_safe w e)
      (fun w e _ => moved_step w e) trivial hend
  · rintro hmeets fs ⟨gs, rfl⟩
    exact (Machine.run_inv sound_step (sound_init deviceExists) (Machine.Meets.append.mp hmeets).1).toRight

/-- Pin 7 is to go low and the transfer fails; the selection of channel 0 sends it. -/
theorem shadow_not_always_right :
    ¬ ∀ (deviceExists : Bool) (es : List (PcfCall × Bool)), (run (init deviceExists) es).Right := by
  intro h
  have hstrayed := (h true [(.digitalWrite 7 0, false), (.selectChannel 0, true)]).upper
  revert hstrayed
  decide +kernel

end ShadowWatch

end CanSystems
