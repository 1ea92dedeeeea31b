import Mathlib.Algebra.Group.Nat.Defs

/-!
# Time helpers

Every timer is a reading of a 32-bit millisecond clock; the subtraction wraps
with the clock.
-/

namespace CanSystems

namespace Time

def secToMs (second : UInt16) : UInt32 := second.toUInt32 * 1000

def minToMs (minute : UInt16) : UInt32 := minute.toUInt32 * 60 * 1000

def elapsedSince (currentTime eventTimer : UInt32) : UInt32 := currentTime - eventTimer

/-- Strictly more than `duration` has passed since `eventTimer`. -/
def hasElapsed (currentTime eventTimer duration : UInt32) : Bool :=
  decide (duration < elapsedSince currentTime eventTimer)

theorem hasElapsed_self (t duration : UInt32) : hasElapsed t t duration = false := by
  simp [hasElapsed, elapsedSince]

/-- Less than a turn of the clock apart, the difference of two readings is the time between them. -/
theorem toNat_sub_ofNat {start now : Nat} (hle : start ≤ now) (hlt : now < start + 2 ^ 32) :
    (UInt32.ofNat now - UInt32.ofNat start).toNat = now - start := by
  rw [UInt32.toNat_sub, UInt32.toNat_ofNat', UInt32.toNat_ofNat']
  omega

theorem hasElapsed_iff {start now : Nat} (hle : start ≤ now) (duration : UInt32) :
    hasElapsed (UInt32.ofNat now) (UInt32.ofNat start) duration = true ↔
      duration.toNat < (now - start) % 2 ^ 32 := by
  have hgap : (UInt32.ofNat now - UInt32.ofNat start).toNat = (now - start) % 2 ^ 32 := by
    rw [UInt32.toNat_sub, UInt32.toNat_ofNat', UInt32.toNat_ofNat']
    omega
  rw [hasElapsed, elapsedSince, decide_eq_true_eq, UInt32.lt_iff_toNat_lt, hgap]

theorem lt_of_hasElapsed {start now : Nat} {duration : UInt32} (hle : start ≤ now)
    (h : hasElapsed (UInt32.ofNat now) (UInt32.ofNat start) duration = true) : start + duration.toNat < now := by
  have hgap := (hasElapsed_iff hle duration).mp h
  have := Nat.mod_le (now - start) (2 ^ 32)
  omega

end Time

end CanSystems
