import CanSystems.RfReception
import Mathlib.Data.Nat.Bitwise
import Mathlib.Tactic.Ring

/-!
# What is sent is what is received

The durations between the edges of `send` are those of its pulses. A receiver
that hears each of them a little too long or too short still tells the pulses
apart, and puts the bits of the code together again.
-/

namespace CanSystems

namespace RCSwitch

/-- A level is heard up to a quarter of the base pulse length too long or too short. -/
structure Near (pulse nominal : ℕ) (heard : UInt32) : Prop where
  notShort : 4 * nominal ≤ 4 * heard.toNat + pulse
  notLong : 4 * heard.toNat ≤ 4 * nominal + pulse
  notFarBelow : nominal < heard.toNat + 200
  notFarAbove : heard.toNat < nominal + 200

instance (pulse nominal : ℕ) (heard : UInt32) : Decidable (Near pulse nominal heard) :=
  decidable_of_iff ((4 * nominal ≤ 4 * heard.toNat + pulse ∧ 4 * heard.toNat ≤ 4 * nominal + pulse) ∧
      nominal < heard.toNat + 200 ∧ heard.toNat < nominal + 200)
    ⟨fun h => ⟨h.1.1, h.1.2, h.2.1, h.2.2⟩, fun h => ⟨⟨h.notShort, h.notLong⟩, h.notFarBelow, h.notFarAbove⟩⟩

def levelLengths (pulse : ℕ) (ps : List HighLow) : List ℕ :=
  ps.flatMap fun p => [pulse * p.high.toNat, pulse * p.low.toNat]

@[simp] theorem levelLengths_nil (pulse : ℕ) : levelLengths pulse [] = [] := rfl

@[simp] theorem levelLengths_cons (pulse : ℕ) (p : HighLow) (ps : List HighLow) :
    levelLengths pulse (p :: ps) = pulse * p.high.toNat :: pulse * p.low.toNat :: levelLengths pulse ps := rfl

theorem length_levelLengths (pulse : ℕ) (ps : List HighLow) : (levelLengths pulse ps).length = 2 * ps.length := by
  induction ps with
  | nil => rfl
  | cons p ps ih => simp [ih]; omega

/-- The pulses of the bits below bit `n`. -/
def dataPulses (code : UInt64) : ℕ → List HighLow
  | 0 => []
  | i + 1 => (if code &&& (1 <<< UInt64.ofNat i) ≠ 0 then princeton.one else princeton.zero) :: dataPulses code i

@[simp] theorem length_dataPulses (code : UInt64) (n : ℕ) : (dataPulses code n).length = n := by
  induction n with
  | zero => rfl
  | succ n ih => simp [dataPulses, ih]

theorem mem_dataPulses {code : UInt64} {n : ℕ} {p : HighLow} (h : p ∈ dataPulses code n) :
    p = princeton.zero ∨ p = princeton.one := by
  induction n with
  | zero => simp [dataPulses] at h
  | succ n ih =>
    rw [dataPulses, List.mem_cons] at h
    rcases h with h | h
    · rw [h]
      split
      · exact Or.inr rfl
      · exact Or.inl rfl
    · exact ih h

end RCSwitch

namespace RfReceiver

open RCSwitch

/-! ## The bits of a code -/

/-- The bits of `code` below bit `n`, put behind those of `acc`. -/
def shiftIn (acc code : UInt64) : ℕ → UInt64
  | 0 => acc
  | i + 1 => shiftIn (if code &&& (1 <<< UInt64.ofNat i) ≠ 0 then acc <<< 1 ||| 1 else acc <<< 1) code i

theorem bit_iff (code : UInt64) {i : ℕ} (hi : i < 64) :
    code &&& (1 <<< UInt64.ofNat i) ≠ 0 ↔ code.toNat.testBit i = true := by
  have hshift : ((1 : UInt64) <<< UInt64.ofNat i).toNat = 2 ^ i := by
    rw [UInt64.toNat_shiftLeft, UInt64.toNat_ofNat', Nat.mod_eq_of_lt (by omega : i < 2 ^ 64), Nat.mod_eq_of_lt hi]
    simp [Nat.shiftLeft_eq]
    exact Nat.pow_lt_pow_right (by omega) hi
  rw [Ne, ← UInt64.toNat_inj, UInt64.toNat_and, hshift, Nat.and_comm, Nat.two_pow_and]
  cases code.toNat.testBit i <;> simp

theorem toNat_shiftIn (code : UInt64) : ∀ (n : ℕ) (acc : UInt64) (k : ℕ), acc.toNat < 2 ^ k → k + n ≤ 64 →
    (shiftIn acc code n).toNat = acc.toNat * 2 ^ n + code.toNat % 2 ^ n
  | 0, acc, k, _, _ => by simp [shiftIn, Nat.mod_one]
  | n + 1, acc, k, hacc, hk => by
    have hroom : acc.toNat * 2 < 2 ^ 64 := by
      calc acc.toNat * 2 < 2 ^ k * 2 := by omega
        _ = 2 ^ (k + 1) := (Nat.pow_succ 2 k).symm
        _ ≤ 2 ^ 64 := Nat.pow_le_pow_right (by omega) (by omega)
    have hzero : (acc <<< 1).toNat = acc.toNat * 2 := by
      rw [UInt64.toNat_shiftLeft]
      simp [Nat.shiftLeft_eq]
      omega
    have hone : (acc <<< 1 ||| 1).toNat = acc.toNat * 2 + 1 := by
      rw [UInt64.toNat_or, hzero]
      have h := Nat.shiftLeft_add_eq_or_of_lt (b := 1) (i := 1) (by omega) acc.toNat
      rw [Nat.shiftLeft_eq] at h
      exact h.symm
    rw [shiftIn]
    have hsucc : code.toNat % 2 ^ (n + 1) = code.toNat % 2 ^ n + 2 ^ n * (code.toNat.testBit n).toNat := by
      rw [Nat.mod_pow_succ, Nat.toNat_testBit]
    by_cases hbit : code.toNat.testBit n = true
    · rw [if_pos ((bit_iff code (by omega)).mpr hbit),
        toNat_shiftIn code n _ (k + 1) (by rw [hone, Nat.pow_succ]; omega) (by omega), hone, hsucc, hbit]
      simp [Nat.pow_succ]
      ring
    · rw [if_neg (mt (bit_iff code (by omega)).mp hbit),
        toNat_shiftIn code n _ (k + 1) (by rw [hzero, Nat.pow_succ]; omega) (by omega), hzero, hsucc]
      simp [hbit, Nat.pow_succ]
      ring

/-! ## Decoding -/

structure Fits (pulse : ℕ) : Prop where
  low : 134 ≤ pulse
  high : pulse ≤ 1000

structure DelayOf (pulse : ℕ) (delay : UInt32) : Prop where
  notLow : pulse ≤ delay.toNat + 7
  notHigh : delay.toNat ≤ pulse + 6

theorem delayOf_header {pulse : ℕ} {header : UInt32} (h : Near pulse (pulse * 31) header) :
    DelayOf pulse (header / 31) := by
  have hdiv : (header / 31).toNat = header.toNat / 31 := UInt32.toNat_div header 31
  obtain ⟨-, -, hbelow, habove⟩ := h
  constructor <;> rw [hdiv] <;> omega

section
variable {pulse : ℕ} {delay : UInt32}

theorem toNat_mul_delay (hfits : Fits pulse) (h : DelayOf pulse delay) {k : UInt32} (hk : k.toNat ≤ 60) :
    (delay * k).toNat = delay.toNat * k.toNat := by
  rw [UInt32.toNat_mul]
  apply Nat.mod_eq_of_lt
  have hd : delay.toNat ≤ 1006 := Nat.le_trans h.notHigh (Nat.add_le_add_right hfits.high 6)
  calc delay.toNat * k.toNat ≤ 1006 * 60 := Nat.mul_le_mul hd hk
    _ < 2 ^ 32 := by decide

theorem toNat_tolerance (hfits : Fits pulse) (h : DelayOf pulse delay) :
    (delay * nReceiveTolerance / 100).toNat = delay.toNat * 60 / 100 := by
  rw [UInt32.toNat_div, toNat_mul_delay hfits h (by decide)]
  rfl

theorem diff_tolerance (hfits : Fits pulse) (h : DelayOf pulse delay) {heard k : UInt32}
    (hheard : heard.toNat < 4000)
    (hk : k.toNat ≤ 3) :
    diff heard (delay * k) < delay * nReceiveTolerance / 100 ↔
      heard.toNat < delay.toNat * k.toNat + delay.toNat * 60 / 100 ∧
        delay.toNat * k.toNat < heard.toNat + delay.toNat * 60 / 100 := by
  have hmul := toNat_mul_delay hfits h (k := k) (by omega)
  have hd : delay.toNat ≤ 1006 := Nat.le_trans h.notHigh (Nat.add_le_add_right hfits.high 6)
  have hle : delay.toNat * k.toNat ≤ 1006 * 3 := Nat.mul_le_mul hd hk
  rw [diff_lt_iff (by omega) (by omega), hmul, toNat_tolerance hfits h]

theorem isPulse_zero (hfits : Fits pulse) (h : DelayOf pulse delay) {high low : UInt32}
    (hhigh : Near pulse (pulse * 1) high) (hlow : Near pulse (pulse * 3) low) :
    isPulse delay (delay * nReceiveTolerance / 100) high low princeton.zero = true := by
  obtain ⟨hlow₁, hlow₂⟩ := hfits
  obtain ⟨hd₁, hd₂⟩ := id h
  obtain ⟨h₁, h₂, -, -⟩ := hhigh
  obtain ⟨h₃, h₄, -, -⟩ := hlow
  rw [isPulse, Bool.and_eq_true, decide_eq_true_eq, decide_eq_true_eq,
    diff_tolerance ⟨hlow₁, hlow₂⟩ h (by omega) (by decide), diff_tolerance ⟨hlow₁, hlow₂⟩ h (by omega) (by decide),
    show princeton.zero.high.toUInt32.toNat = 1 from rfl, show princeton.zero.low.toUInt32.toNat = 3 from rfl]
  omega

theorem isPulse_one (hfits : Fits pulse) (h : DelayOf pulse delay) {high low : UInt32}
    (hhigh : Near pulse (pulse * 3) high) (hlow : Near pulse (pulse * 1) low) :
    isPulse delay (delay * nReceiveTolerance / 100) high low princeton.zero = false ∧
      isPulse delay (delay * nReceiveTolerance / 100) high low princeton.one = true := by
  obtain ⟨hlow₁, hlow₂⟩ := hfits
  obtain ⟨hd₁, hd₂⟩ := id h
  obtain ⟨h₁, h₂, -, -⟩ := hhigh
  obtain ⟨h₃, h₄, -, -⟩ := hlow
  constructor
  · rw [isPulse, Bool.and_eq_false_iff, decide_eq_false_iff_not,
      diff_tolerance ⟨hlow₁, hlow₂⟩ h (by omega) (by decide), show princeton.zero.high.toUInt32.toNat = 1 from rfl]
    left
    omega
  · rw [isPulse, Bool.and_eq_true, decide_eq_true_eq, decide_eq_true_eq,
      diff_tolerance ⟨hlow₁, hlow₂⟩ h (by omega) (by decide),
        diff_tolerance ⟨hlow₁, hlow₂⟩ h (by omega) (by decide),
      show princeton.one.high.toUInt32.toNat = 3 from rfl, show princeton.one.low.toUInt32.toNat = 1 from rfl]
    omega

theorem decodeBits_data (hfits : Fits pulse) (h : DelayOf pulse delay) (code : UInt64)
    {pendingTimings : CArray UInt32 rcSwitchMaxChanges} {post : List UInt32} :
    ∀ (n : ℕ) (pre heard : List UInt32) (acc : UInt64),
      List.Forall₂ (Near pulse) (levelLengths pulse (dataPulses code n)) heard →
      pendingTimings.Starts (pre ++ heard ++ post) →
      decodeBits pendingTimings princeton delay (delay * nReceiveTolerance / 100) n pre.length acc =
        some (some (shiftIn acc code n))
  | 0, pre, heard, acc, _, _ => rfl
  | n + 1, pre, heard, acc, hnear, hstarts => by
    rw [dataPulses, levelLengths_cons, List.forall₂_cons_left_iff] at hnear
    obtain ⟨high, rest, hhigh, hrest, rfl⟩ := hnear
    rw [List.forall₂_cons_left_iff] at hrest
    obtain ⟨low, heard, hlow, hheard, rfl⟩ := hrest
    have hget : pendingTimings.get pre.length = some high := by
      rw [hstarts.get (by simp)]
      simp
    have hget' : pendingTimings.get (pre.length + 1) = some low := by
      rw [hstarts.get (by simp)]
      simp
    have ih := fun acc => decodeBits_data hfits h code n (pre ++ [high, low]) heard acc hheard
      (by simpa using hstarts)
    simp only [List.length_append, List.length_cons, List.length_nil, Nat.zero_add] at ih
    rw [decodeBits, shiftIn]
    simp only [hget, hget', Option.bind_eq_bind, Option.bind_some]
    by_cases hbit : code &&& (1 <<< UInt64.ofNat n) ≠ 0
    · rw [if_pos hbit] at hhigh hlow ⊢
      obtain ⟨hzero, hone⟩ := isPulse_one hfits h hhigh hlow
      rw [if_neg (by simp [hzero]), if_pos hone, ih]
    · rw [if_neg hbit] at hhigh hlow ⊢
      rw [if_pos (isPulse_zero hfits h hhigh hlow), ih]

/-! ## Recording a frame of pulses -/

def Apart : List UInt32 → Prop
  | a :: b :: _ => ¬ diff b a < 50
  | _ => True

theorem alike_of_apart {rev : List UInt32} (h : Apart rev) : alike rev = false ∧ ∀ d, alike (d :: rev) = false := by
  match rev, h with
  | [], _ => exact ⟨rfl, fun _ => rfl⟩
  | [_], _ => exact ⟨rfl, fun _ => rfl⟩
  | [a, b], h =>
    have hnot : ¬ diff b a < 50 := h
    exact ⟨rfl, fun d => by rw [alike, decide_eq_false hnot, Bool.false_and]⟩
  | a :: b :: c :: _, h =>
    have hnot : ¬ diff b a < 50 := h
    refine ⟨by rw [alike, decide_eq_false hnot, Bool.and_false], fun d => ?_⟩
    rw [alike, decide_eq_false hnot, Bool.false_and]

theorem plain_short (hfits : Fits pulse) {k : ℕ} (hk : 1 ≤ k ∧ k ≤ 3) {d : UInt32} (h : Near pulse (pulse * k) d) :
    100 ≤ d ∧ d ≤ rcSwitchSeparationLimit := by
  obtain ⟨hlow, hhigh⟩ := hfits
  obtain ⟨h₁, h₂, -, -⟩ := h
  rw [UInt32.le_iff_toNat_le, UInt32.le_iff_toNat_le, show (100 : UInt32).toNat = 100 from rfl,
    show rcSwitchSeparationLimit.toNat = 3600 from rfl]
  obtain rfl | rfl | rfl : k = 1 ∨ k = 2 ∨ k = 3 := by omega
  all_goals omega

theorem apart_pulse (hfits : Fits pulse) {p : HighLow} (hp : p = princeton.zero ∨ p = princeton.one)
    {high low : UInt32}
    (hhigh : Near pulse (pulse * p.high.toNat) high) (hlow : Near pulse (pulse * p.low.toNat) low)
    (rev : List UInt32) :
    Apart (low :: high :: rev) := by
  have h50 : (50 : UInt32).toNat = 50 := rfl
  obtain ⟨hfits₁, hfits₂⟩ := hfits
  rcases hp with rfl | rfl
  · obtain ⟨h₁, h₂, -, -⟩ : Near pulse (pulse * 1) high := hhigh
    obtain ⟨h₃, h₄, -, -⟩ : Near pulse (pulse * 3) low := hlow
    rw [Apart, diff_lt_iff (by omega) (by omega)]
    omega
  · obtain ⟨h₁, h₂, -, -⟩ : Near pulse (pulse * 3) high := hhigh
    obtain ⟨h₃, h₄, -, -⟩ : Near pulse (pulse * 1) low := hlow
    rw [Apart, diff_lt_iff (by omega) (by omega)]
    omega

theorem factors_of_data {p : HighLow} (hp : p = princeton.zero ∨ p = princeton.one) :
    (1 ≤ p.high.toNat ∧ p.high.toNat ≤ 3) ∧ 1 ≤ p.low.toNat ∧ p.low.toNat ≤ 3 := by
  rcases hp with rfl | rfl <;> decide

/-- Data pulses are recorded, and so is the first half of the header behind them. -/
theorem plain_data (hfits : Fits pulse) :
    ∀ (ps : List HighLow) (rev heard : List UInt32), (∀ p ∈ ps, p = princeton.zero ∨ p = princeton.one) →
      Apart rev →
      List.Forall₂ (Near pulse) (levelLengths pulse ps ++ [pulse * 1]) heard →
      Plain rev heard ∧ ∃ half data, heard = data ++ [half] ∧ data.length = 2 * ps.length ∧
        List.Forall₂ (Near pulse) (levelLengths pulse ps) data ∧ Apart (data.reverse ++ rev)
  | [], rev, heard, _, hapart, hnear => by
    rw [levelLengths_nil, List.nil_append, List.forall₂_cons_left_iff] at hnear
    obtain ⟨half, rest, hhalf, hrest, rfl⟩ := hnear
    obtain rfl := List.forall₂_nil_left_iff.mp hrest
    obtain ⟨hspike, hshort⟩ := plain_short hfits (by omega) hhalf
    exact ⟨⟨hspike, hshort, (alike_of_apart hapart).1, trivial⟩, half, [], rfl, rfl, .nil, hapart⟩
  | p :: ps, rev, heard, hps, hapart, hnear => by
    have hp := hps p List.mem_cons_self
    obtain ⟨hkhigh, hklow⟩ := factors_of_data hp
    rw [levelLengths_cons, List.cons_append, List.cons_append, List.forall₂_cons_left_iff] at hnear
    obtain ⟨high, rest, hhigh, hrest, rfl⟩ := hnear
    rw [List.forall₂_cons_left_iff] at hrest
    obtain ⟨low, heard, hlow, hheard, rfl⟩ := hrest
    obtain ⟨hspike, hshort⟩ := plain_short hfits hkhigh hhigh
    obtain ⟨hspike', hshort'⟩ := plain_short hfits hklow hlow
    obtain ⟨halike, halike'⟩ := alike_of_apart hapart
    obtain ⟨hplain, half, data, rfl, hlen, hdata, hend⟩ := plain_data hfits ps (low :: high :: rev) heard
      (fun p hmem => hps p (List.mem_cons_of_mem _ hmem)) (apart_pulse hfits hp hhigh hlow rev) hheard
    refine ⟨⟨hspike, hshort, halike, hspike', hshort', halike' high, hplain⟩, half, high :: low :: data, rfl, ?_,
      ?_, ?_⟩
    · simp [hlen]
      omega
    · rw [levelLengths_cons]
      exact .cons hhigh (.cons hlow hdata)
    · simpa using hend

theorem long_header (hfits : Fits pulse) {d : UInt32} (h : Near pulse (pulse * 31) d) :
    d > rcSwitchSeparationLimit := by
  obtain ⟨hlow, hhigh⟩ := hfits
  obtain ⟨-, -, hbelow, -⟩ := h
  rw [gt_iff_lt, UInt32.lt_iff_toNat_lt, show rcSwitchSeparationLimit.toNat = 3600 from rfl]
  omega

theorem headers_alike (hfits : Fits pulse) {d e : UInt32} (hd : Near pulse (pulse * 31) d)
    (he : Near pulse (pulse * 31) e) :
    diff d e < 400 := by
  obtain ⟨hlow, hhigh⟩ := hfits
  obtain ⟨-, -, h₁, h₂⟩ := hd
  obtain ⟨-, -, h₃, h₄⟩ := he
  rw [diff_lt_iff (by omega) (by omega), show (400 : UInt32).toNat = 400 from rfl]
  omega

theorem available_frame (hfits : Fits pulse) {r : RfReceiver} {code : UInt64} {n : ℕ} {header half : UInt32}
    {data : List UInt32} (hn : 8 ≤ n ∧ n ≤ 64) (hheader : Near pulse (pulse * 31) header)
    (hdata : List.Forall₂ (Near pulse) (levelLengths pulse (dataPulses code n)) data)
    (hcount : r.pendingChangeCount.toNat = 2 * n + 2)
    (hstarts : r.pendingTimings.Starts (header :: data ++ [half])) :
    ∃ r', r.available = some (decide (code.toNat % 2 ^ n ≠ 0), r') ∧ r'.nReceivedValue.toNat = code.toNat % 2 ^ n ∧
      r'.nReceivedBitlength.toNat = n ∧ r'.nReceivedProtocol = 1 ∧ r'.nReceivedDelay = header / 31 := by
  have hdelay := delayOf_header hheader
  have hget : r.pendingTimings.get 0 = some header := by
    rw [hstarts.get (by simp)]
    simp
  have hchanges : bitChangeCount princeton r.pendingChangeCount = UInt32.ofNat (2 * n) := by
    have hfirst : firstDataTiming princeton = 1 := by decide
    have heq : r.pendingChangeCount - 1 - 1 + (if princeton.invertedSignal = true then 1 else 0) = UInt32.ofNat
        (2 * n) := by
      apply UInt32.toNat_inj.mp
      simp only [princeton, Bool.false_eq_true, if_false, UInt32.add_zero, UInt32.toNat_sub, UInt32.toNat_ofNat',
        UInt32.toNat_one, hcount]
      omega
    rw [bitChangeCount, hfirst, heq]
    refine if_neg ?_
    rw [gt_iff_lt, UInt32.lt_iff_toNat_lt, UInt32.toNat_ofNat', show (128 : UInt32).toNat = 128 from rfl]
    omega
  have htwo : (UInt32.ofNat (2 * n)).toNat = 2 * n := by
    rw [UInt32.toNat_ofNat']
    omega
  have hbehind : r.pendingTimings.Starts ([header] ++ data ++ [half]) := by simpa using hstarts
  have hdecoded := decodeBits_data hfits hdelay code n [header] data 0 hdata hbehind
  have hvalue : (shiftIn 0 code n).toNat = code.toNat % 2 ^ n := by
    simpa using toNat_shiftIn code n 0 0 (by decide) (by omega)
  have hlong : UInt32.ofNat (2 * n) > 14 := by
    rw [gt_iff_lt, UInt32.lt_iff_toNat_lt, htwo, show (14 : UInt32).toNat = 14 from rfl]
    omega
  have hnonzero : header / 31 ≠ 0 := by
    intro hzero
    have hlow := hfits.low
    have hnot := hdelay.notLow
    simp [hzero] at hnot
    omega
  have hprotocol : r.receiveProtocol 1 princeton r.pendingChangeCount = some (true, { r with
      nReceivedValue := shiftIn 0 code n, nReceivedBitlength := UInt32.ofNat (2 * n) / 2, nReceivedDelay :=
        header / 31,
      nReceivedProtocol := 1 }) := by
    simp only [receiveProtocol, baseDelay_princeton hget, Option.bind_eq_bind, Option.bind_some, Option.pure_def,
      hchanges, htwo, show (firstDataTiming princeton).toNat =
        1 from by decide, show (2 * n + 1) / 2 = n from by omega]
    rw [if_neg hnonzero]
    simp only [List.length_cons, List.length_nil, Nat.zero_add] at hdecoded
    rw [hdecoded, Option.bind_some]
    exact if_pos hlong
  have hpending : r.pendingChangeCount ≠ 0 := by
    intro hzero
    simp [hzero] at hcount
  refine ⟨{ r with
    nReceivedValue := shiftIn 0 code n, nReceivedBitlength := UInt32.ofNat (2 * n) / 2, nReceivedDelay :=
      header / 31,
    nReceivedProtocol := 1, pendingChangeCount := 0 }, ?_, hvalue, ?_, rfl, rfl⟩
  · have hready : decide (code.toNat % 2 ^ n ≠ 0) = decide (shiftIn 0 code n ≠ 0) := by
      rw [← hvalue]
      simp [← UInt64.toNat_inj]
    rw [hready]
    simp [available, hpending, decodeRecorded, proto, decodeWith, hprotocol]
  · change (UInt32.ofNat (2 * n) / 2).toNat = n
    rw [UInt32.toNat_div, htwo]
    simp

end

end RfReceiver

/-! ## The edges of a transmission -/

namespace RCSwitch

def princetonAt (pulse : UInt16) : RfProtocol := { princeton with pulseLength := pulse }

/-- How long the levels of a transmission last, from its first edge on. -/
def levels (s : RCSwitch) (code : UInt64) (length : UInt32) : List ℕ :=
  (RfOutput.edges false 0 (s.send code length)).tail

section
variable {s : RCSwitch} {pulse : UInt16}

theorem transmit_eq (hs : s.protocol = princetonAt pulse) {p : HighLow} (hhigh : p.high > 0)
    (hlow : p.low > 0) :
    s.transmit p = [.digitalWrite true, .delayMicroseconds (pulse.toUInt32 * p.high.toUInt32), .digitalWrite false,
      .delayMicroseconds (pulse.toUInt32 * p.low.toUInt32)] := by
  simp [transmit, level, hs, hhigh, hlow, princetonAt, princeton]

theorem toNat_level (pulse : UInt16) (factor : UInt8) :
    (pulse.toUInt32 * factor.toUInt32).toNat = pulse.toNat * factor.toNat := by
  rw [UInt32.toNat_mul, UInt16.toNat_toUInt32, UInt8.toNat_toUInt32]
  apply Nat.mod_eq_of_lt
  have h₁ := pulse.toNat_lt
  have h₂ := factor.toNat_lt
  calc pulse.toNat * factor.toNat ≤ 65535 * 255 := Nat.mul_le_mul (by omega) (by omega)
    _ < 2 ^ 32 := by decide

theorem edges_transmit (hs : s.protocol = princetonAt pulse) {p : HighLow} (hhigh : p.high > 0)
    (hlow : p.low > 0) (elapsed : ℕ) (rest : List RfOutput) :
    RfOutput.edges false elapsed (s.transmit p ++ rest) =
      elapsed :: pulse.toNat * p.high.toNat :: RfOutput.edges false (pulse.toNat * p.low.toNat) rest := by
  rw [transmit_eq hs hhigh hlow]
  simp only [List.cons_append, List.nil_append, RfOutput.edges, toNat_level, Bool.true_eq_false, Bool.false_eq_true,
    if_false, Nat.zero_add]

theorem edges_pulses (hs : s.protocol = princetonAt pulse) :
    ∀ (ps : List HighLow) (elapsed : ℕ), (∀ p ∈ ps, p.high > 0 ∧ p.low > 0) →
      ∃ front last, elapsed :: levelLengths pulse.toNat ps = front ++ [last] ∧
        ∀ rest, RfOutput.edges false elapsed (ps.flatMap s.transmit ++ rest) = front ++
          RfOutput.edges false last rest
  | [], elapsed, _ => ⟨[], elapsed, rfl, fun _ => rfl⟩
  | p :: ps, elapsed, hps => by
    obtain ⟨hhigh, hlow⟩ := hps p List.mem_cons_self
    obtain ⟨front, last, hfront, hedges⟩ := edges_pulses hs ps (pulse.toNat * p.low.toNat)
      fun p hmem => hps p (List.mem_cons_of_mem _ hmem)
    refine ⟨elapsed :: pulse.toNat * p.high.toNat :: front, last, by simp [← hfront], fun rest => ?_⟩
    simp [edges_transmit hs hhigh hlow, hedges]

theorem sendBits_eq (hs : s.protocol = princetonAt pulse) (code : UInt64) (n : ℕ) :
    s.sendBits code n = (dataPulses code n).flatMap s.transmit := by
  induction n with
  | zero => rfl
  | succ n ih => simp [sendBits, dataPulses, ih, hs, princetonAt]

theorem sendOnce_eq (hs : s.protocol = princetonAt pulse) (code : UInt64) (length : UInt32) :
    s.sendOnce code length =
      (princeton.header :: dataPulses code length.toInt32.toInt.toNat).flatMap s.transmit := by
  rw [sendOnce, sendBits_eq hs]
  simp [hs, princetonAt, princeton]

theorem positive_frame {code : UInt64} {n : ℕ} {p : HighLow} (h : p ∈ princeton.header :: dataPulses code n) :
    p.high > 0 ∧ p.low > 0 := by
  rw [List.mem_cons] at h
  rcases h with rfl | h
  · decide
  · rcases mem_dataPulses h with rfl | rfl <;> decide

theorem levels_eq (hs : s.protocol = princetonAt pulse) (hpin : s.nTransmitterPin ≠ -1)
    (hrepeat : 3 ≤ s.nRepeatTransmit.toInt) (code : UInt64) {length : UInt32} {n : ℕ}
    (hlength : length.toInt32.toInt.toNat = n) (hn : 0 < n) :
    (s.levels code length).take (4 * n + 6) =
      levelLengths pulse.toNat [princeton.header] ++
        ((levelLengths pulse.toNat (dataPulses code n) ++ levelLengths pulse.toNat [princeton.header]) ++
          (levelLengths pulse.toNat (dataPulses code n) ++ levelLengths pulse.toNat [princeton.header])) := by
  obtain ⟨m, hm⟩ : ∃ m, s.nRepeatTransmit.toInt.toNat = m + 1 + 1 + 1 :=
    ⟨s.nRepeatTransmit.toInt.toNat - 3, by omega⟩
  obtain ⟨p, data, hdata⟩ : ∃ p data, dataPulses code n = p :: data := by
    match n, hn with
    | n + 1, _ => exact ⟨_, _, rfl⟩
  have hmem : p ∈ princeton.header :: dataPulses code n := by simp [hdata]
  obtain ⟨hhigh, hlow⟩ := positive_frame hmem
  obtain ⟨front, last, hfront, hedges⟩ := edges_pulses hs
    ((princeton.header :: dataPulses code n) ++ (princeton.header :: dataPulses code n) ++ [princeton.header]) 0 (by
      intro q hq
      rw [List.append_assoc, List.mem_append, List.mem_append] at hq
      rcases hq with hq | hq | hq
      · exact positive_frame hq
      · exact positive_frame hq
      · have hheader : q ∈ princeton.header :: dataPulses code n :=
          List.mem_cons.mpr (Or.inl (List.mem_singleton.mp hq))
        exact positive_frame hheader)
  obtain ⟨rest, hrest⟩ : ∃ rest, s.send code length = (if s.nReceiverInterrupt ≠ -1 then [.detachInterrupt] else
    []) ++
      (((princeton.header :: dataPulses code n) ++ (princeton.header :: dataPulses code n) ++
        [princeton.header]).flatMap s.transmit ++ (s.transmit p ++ rest)) := by
    refine ⟨data.flatMap s.transmit ++ (List.replicate m (s.sendOnce code length)).flatten ++
      ([.digitalWrite false] ++
      (if s.nReceiverInterrupt ≠ -1 then [.attachInterrupt] else [])), ?_⟩
    rw [send, if_neg hpin, hm, List.replicate_succ, List.replicate_succ, List.replicate_succ, List.flatten_cons,
      List.flatten_cons, List.flatten_cons]
    generalize (List.replicate m (s.sendOnce code length)).flatten = later
    rw [sendOnce_eq hs, hlength, hdata]
    simp only [List.flatMap_append, List.flatMap_cons, List.flatMap_nil, List.append_assoc, List.nil_append]
  have hskip : ∀ outputs, RfOutput.edges false 0 ((if s.nReceiverInterrupt ≠ -1 then [.detachInterrupt] else []) ++
    outputs) =
      RfOutput.edges false 0 outputs := by
    intro outputs
    split <;> rfl
  have hall : RfOutput.edges false 0 (s.send code length) = (0 :: levelLengths pulse.toNat
      ((princeton.header :: dataPulses code n) ++ (princeton.header :: dataPulses code n) ++ [princeton.header])) ++
        (pulse.toNat * p.high.toNat :: RfOutput.edges false (pulse.toNat * p.low.toNat) rest) := by
    rw [hrest, hskip, hedges, edges_transmit hs hhigh hlow, hfront]
    simp
  rw [levels, hall]
  simp only [List.cons_append, List.tail_cons]
  rw [List.take_append_of_le_length, List.take_of_length_le]
  · simp [levelLengths]
  · rw [length_levelLengths]
    simp
    omega
  · rw [length_levelLengths]
    simp
    omega

end

end RCSwitch

/-! ## From the transmitter to the receiver -/

namespace RfReceiver

open RCSwitch

theorem forall₂_append_left {α β : Type} {R : α → β → Prop} {xs ys : List α} :
    ∀ {zs : List β}, List.Forall₂ R (xs ++ ys) zs →
      ∃ us vs, zs = us ++ vs ∧ List.Forall₂ R xs us ∧ List.Forall₂ R ys vs := by
  induction xs with
  | nil => exact fun h => ⟨[], _, rfl, .nil, h⟩
  | cons x xs ih =>
    intro zs h
    rw [List.cons_append, List.forall₂_cons_left_iff] at h
    obtain ⟨z, zs, hz, hzs, rfl⟩ := h
    obtain ⟨us, vs, rfl, hus, hvs⟩ := ih hzs
    exact ⟨z :: us, vs, rfl, .cons hz hus, hvs⟩

theorem length_durations (lastTime : UInt32) (es : List RfEvent) :
    (RfEvent.durations lastTime es).length = es.countP RfEvent.isEdge := by
  induction es generalizing lastTime with
  | nil => rfl
  | cons e es ih =>
    cases e with
    | edge time => rw [RfEvent.durations_edge, List.length_cons, ih, List.countP_cons_of_pos rfl]
    | available => rw [RfEvent.durations_available, ih, List.countP_cons_of_neg (by simp [RfEvent.isEdge])]
    | resetAvailable =>
      rw [RfEvent.durations_resetAvailable, ih, List.countP_cons_of_neg (by simp [RfEvent.isEdge])]

structure FrameHeard (pulse : ℕ) (code : UInt64) (n : ℕ) (data : List UInt32) (half header : UInt32) : Prop where
  data : List.Forall₂ (Near pulse) (levelLengths pulse (dataPulses code n)) data
  half : Near pulse (pulse * 1) half
  header : Near pulse (pulse * 31) header

section
variable {pulse : ℕ} {code : UInt64} {n : ℕ}

theorem FrameHeard.length_data {data : List UInt32} {half header : UInt32}
    (h : FrameHeard pulse code n data half header) :
    data.length = 2 * n := by
  rw [← h.data.length_eq, length_levelLengths, length_dataPulses]

theorem exists_frameHeard {heard : List UInt32}
    (h : List.Forall₂ (Near pulse) (levelLengths pulse (dataPulses code n) ++ levelLengths pulse [princeton.header])
      heard) :
    ∃ data half header, heard = data ++ [half, header] ∧ FrameHeard pulse code n data half header := by
  obtain ⟨data, rest, rfl, hdata, hrest⟩ := forall₂_append_left h
  rw [levelLengths_cons, levelLengths_nil, List.forall₂_cons_left_iff] at hrest
  obtain ⟨half, rest, hhalf, hrest, rfl⟩ := hrest
  rw [List.forall₂_cons_left_iff] at hrest
  obtain ⟨header, rest, hheader, hrest, rfl⟩ := hrest
  obtain rfl := List.forall₂_nil_left_iff.mp hrest
  exact ⟨data, half, header, rfl, hdata, hhalf, hheader⟩

/-- Behind data no three durations are alike, and the data is recorded as it comes. -/
theorem FrameHeard.plain {data : List UInt32} {half header : UInt32} (h : FrameHeard pulse code n data half header)
    (hfits : Fits pulse) {rev : List UInt32} (hrev : Apart rev) :
    Plain rev (data ++ [half]) ∧ alike (half :: (data.reverse ++ rev)) = false := by
  obtain ⟨hplain, half', data', heq, -, -, hend⟩ := plain_data hfits (dataPulses code n) rev (data ++ [half])
    (fun p hp => mem_dataPulses hp) hrev (List.rel_append h.data (.cons h.half .nil))
  obtain ⟨rfl, hhalf⟩ := List.append_inj' heq rfl
  obtain rfl := List.singleton_inj.mp hhalf
  exact ⟨hplain, (alike_of_apart hend).2 _⟩

theorem apart_header (hfits : Fits pulse) {high low : UInt32} (hhigh : Near pulse (pulse * 1) high)
    (hlow : Near pulse (pulse * 31) low) (rev : List UInt32) : Apart (low :: high :: rev) := by
  intro hlt
  obtain ⟨h₁, h₂⟩ := hfits
  obtain ⟨h₃, h₄, h₅, h₆⟩ := hhigh
  obtain ⟨h₇, h₈, h₉, h₁₀⟩ := hlow
  rw [diff_lt_iff (by omega) (by omega), show (50 : UInt32).toNat = 50 from rfl] at hlt
  omega

theorem Recording.frame {r : RfReceiver} {header header' half : UInt32} {data : List UInt32} {time : UInt32}
    {between : List RfEvent} (hfits : Fits pulse) (hn : 0 < n ∧ n ≤ 64) (h : r.Recording [header])
    (hheader : Near pulse (pulse * 31) header)
    (hdurations : RfEvent.durations r.lastTime (between ++ [.edge time]) = data ++ [half, header'])
    (hframe : FrameHeard pulse code n data half header') (hlook : .available ∈ between) :
    ∃ r', r.run (between ++ [.edge time]) = some r' ∧ r'.Inside ∧ r'.pendingChangeCount.toNat = 2 * n + 2 ∧
      r'.pendingTimings.Starts (header :: data ++ [half]) := by
  have hlen := hframe.length_data
  have hcount : (RfEvent.durations r.lastTime between).length = (data ++ [half]).length := by
    have h := congrArg List.length hdurations
    rw [length_durations, List.countP_append, ← length_durations] at h
    simp [RfEvent.isEdge] at h
    simp
    omega
  have hapart : Apart [header] := trivial
  obtain ⟨hplain, halike⟩ := hframe.plain hfits hapart
  have hheard : RfEvent.durations r.lastTime between = data ++ [half] := by
    obtain ⟨r₀, -, -, -, hsplit⟩ := h.inside.hears h.heard between
    have hrest := hsplit [.edge time]
    rw [hdurations, show data ++ [half, header'] = (data ++ [half]) ++ [header'] by simp] at hrest
    exact ((List.append_inj hrest hcount.symm).1).symm
  have hroom : [header].length + (RfEvent.durations r.lastTime between).length ≤ rcSwitchMaxChanges := by
    rw [hheard]
    simp [hlen, rcSwitchMaxChanges]
    omega
  obtain ⟨r₁, hrun₁, hrec₁, hmore, hfree⟩ := h.run (by rw [hheard]; exact hplain) hroom
  rw [hmore, hheard] at hdurations
  have hlast : time - r₁.lastTime = header' := by
    have h : [time - r₁.lastTime] = [header'] := by
      have happended : (data ++ [half]) ++ [time - r₁.lastTime] = (data ++ [half]) ++ [header'] := by
        simpa using hdurations
      exact List.append_cancel_left happended
    exact List.singleton_inj.mp h
  rw [hheard] at hrec₁
  have hrev : ((data ++ [half]).reverse ++ [header]).reverse = header :: data ++ [half] := by simp
  obtain ⟨r', hrun', hrec', -, hhand⟩ := hrec₁.inside.header hrec₁.heard (by simp; omega)
    (by rw [hlast]; exact long_header hfits hframe.header) (by simpa using halike)
  obtain ⟨hpending, hstarts⟩ := hhand header (data ++ [half]) hrec₁ (by simp)
    (by rw [hlast]; exact headers_alike hfits hframe.header hheader) (hfree (Or.inr hlook))
  refine ⟨r', by simp [run_append, hrun₁, hrun'], hrec'.inside, ?_, by rw [← hrev]; exact hstarts⟩
  rw [hpending]
  simp [hlen]

end

/-- Whatever the receiver was doing, a code that is sent three times is there at the decoder's first look behind the
third header, if the decoder has looked once between the second and the third. -/
theorem code_received {s : RCSwitch} {r : RfReceiver} {pulse : UInt16} {code : UInt64} {length time₁ time₂ : UInt32}
    {before between after : List RfEvent} (hs : s.protocol = princetonAt pulse) (hpulse : Fits pulse.toNat)
    (hpin : s.nTransmitterPin ≠ -1) (hrepeat : 3 ≤ s.nRepeatTransmit.toInt) (hlength : 8 ≤ length ∧ length ≤ 64)
    (hr : r.Inside)
    (hheard : List.Forall₂ (Near pulse.toNat) ((s.levels code length).take (4 * length.toNat + 6))
      (RfEvent.durations r.lastTime (before ++ .edge time₁ :: between ++ [.edge time₂])).tail)
    (hbefore : before.countP RfEvent.isEdge = 2 * length.toNat + 4) (hlook : .available ∈ between)
    (hafter : .available ∉ after) :
    ∃ r' r'', r.run (before ++ .edge time₁ :: between ++ .edge time₂ :: after) = some r' ∧
      r'.available = some (decide (code.toNat % 2 ^ length.toNat ≠ 0), r'') ∧
      r''.nReceivedValue.toNat = code.toNat % 2 ^ length.toNat ∧ r''.nReceivedBitlength = length ∧
      r''.nReceivedProtocol = 1 ∧ DelayOf pulse.toNat r''.nReceivedDelay := by
  have hn : 8 ≤ length.toNat ∧ length.toNat ≤ 64 := hlength
  have hint : length.toInt32.toInt.toNat = length.toNat := by
    rw [Int32.toInt, UInt32.toBitVec_toInt32, BitVec.toInt_eq_toNat_cond, UInt32.toNat_toBitVec]
    split <;> omega
  rw [levels_eq hs hpin hrepeat code hint (by omega)] at hheard
  have hcount := length_durations r.lastTime before
  rw [hbefore] at hcount
  obtain ⟨r₁, hrun₁, hin₁, hheard₁, hmore₁⟩ := hr.hears (heard_nil r) before
  have htotal : RfEvent.durations r.lastTime (before ++ .edge time₁ :: between ++ [.edge time₂]) =
      RfEvent.durations r.lastTime before ++
        (time₁ - r₁.lastTime) :: RfEvent.durations time₁ (between ++ [.edge time₂]) := by
    rw [List.append_assoc, hmore₁]
    rfl
  obtain ⟨gap, D, hD⟩ : ∃ gap D, RfEvent.durations r.lastTime before = gap :: D := by
    match RfEvent.durations r.lastTime before, hcount with
    | gap :: D, _ => exact ⟨gap, D, rfl⟩
  rw [htotal, hD, List.cons_append, List.tail_cons] at hheard
  obtain ⟨header₀, heard, hsplit, hheader₀, hheard⟩ := forall₂_append_left hheard
  obtain ⟨us, vs, rfl, hus, hvs⟩ := forall₂_append_left hheard
  obtain ⟨data₁, half₁, header₁, rfl, hframe₁⟩ := exists_frameHeard hus
  obtain ⟨data₂, half₂, header₂, rfl, hframe₂⟩ := exists_frameHeard hvs
  rw [levelLengths_cons, levelLengths_nil, List.forall₂_cons_left_iff] at hheader₀
  obtain ⟨high, low, hhigh, hlow, rfl⟩ := hheader₀
  rw [List.forall₂_cons_left_iff] at hlow
  obtain ⟨low, rest, hlow, hrest, rfl⟩ := hlow
  obtain rfl := List.forall₂_nil_left_iff.mp hrest
  have hlen₁ := hframe₁.length_data
  obtain ⟨rfl, htail⟩ : D = high :: low :: data₁ ++ [half₁] ∧
      (time₁ - r₁.lastTime) :: RfEvent.durations time₁ (between ++ [.edge time₂]) = header₁ ::
        (data₂ ++ [half₂, header₂]) := by
    apply List.append_inj
    · rw [hsplit]
      simp
    · rw [hD] at hcount
      simp at hcount
      simp [hlen₁]
      omega
  obtain ⟨hheader, hrest⟩ := List.cons.inj htail
  -- The second header ends whatever was recorded.
  have halike : alike ((RfEvent.durations r.lastTime before).reverse ++ []) = false := by
    rw [hD]
    simpa using (hframe₁.plain hpulse (apart_header hpulse hhigh hlow [gap])).2
  obtain ⟨r₂, hrun₂, hrec₂, htime₂, -⟩ := hin₁.header hheard₁ (by simp [hD])
    (by rw [hheader]; exact long_header hpulse hframe₁.header) halike
  rw [hheader] at hrec₂
  rw [← htime₂] at hrest
  obtain ⟨r₃, hrun₃, hin₃, hpending₃, hstarts₃⟩ := hrec₂.frame hpulse (by omega) hframe₁.header hrest hframe₂ hlook
  obtain ⟨r₄, hrun₄, hpending₄, htimings₄⟩ := hin₃.keeps (fun hzero => by simp [hzero] at hpending₃) hafter
  obtain ⟨r₅, havail, hvalue, hbits, hprotocol, hdelay⟩ := available_frame hpulse hn hframe₁.header hframe₂.data
    (by rw [hpending₄, hpending₃]) (by rw [htimings₄]; exact hstarts₃)
  refine ⟨r₄, r₅, ?_, havail, hvalue, UInt32.toNat_inj.mp hbits, hprotocol, ?_⟩
  · have hshape : before ++ .edge time₁ :: between ++ .edge time₂ :: after =
        before ++ (.edge time₁ :: ((between ++ [.edge time₂]) ++ after)) := by simp
    rw [hshape, run_append, hrun₁, Option.bind_some, run_cons, step_edge, hrun₂, Option.bind_some, run_append,
      hrun₃, Option.bind_some, hrun₄]
  · rw [hdelay]
    exact delayOf_header hframe₁.header

def edgesAfter : UInt32 → List ℕ → List RfEvent
  | _, [] => []
  | time, level :: rest => .edge (time + UInt32.ofNat level) :: edgesAfter (time + UInt32.ofNat level) rest

/-- A transmitter of eight bits, each level of which is heard 20 us too long. -/
def remote : RCSwitch := ⟨4, 5, -1, princetonAt 350⟩

def remoteHeard : List ℕ := (remote.levels 0xA5 8).map (· + 20)

theorem code_received_remote :
    ∃ r' r'', init.run (edgesAfter 0 (7000 :: remoteHeard.take 19) ++ .edge 41000 :: (.available :: edgesAfter 41000
        ((remoteHeard.drop 20).take 17)) ++ .edge 63760 :: [.resetAvailable]) = some r' ∧
      r'.available = some (true, r'') ∧ r''.nReceivedValue.toNat = 0xA5 ∧ r''.nReceivedBitlength = 8 ∧
      r''.nReceivedProtocol = 1 ∧ DelayOf 350 r''.nReceivedDelay := by
  have hprotocol : remote.protocol = princetonAt 350 := rfl
  have hlength : (8 : UInt32) ≤ 8 ∧ (8 : UInt32) ≤ 64 := ⟨by decide, by decide⟩
  have hheard : List.Forall₂ (Near (350 : UInt16).toNat)
      ((remote.levels 0xA5 8).take (4 * (8 : UInt32).toNat + 6))
      (RfEvent.durations init.lastTime (edgesAfter 0 (7000 :: remoteHeard.take 19) ++ .edge 41000 ::
        (.available :: edgesAfter 41000 ((remoteHeard.drop 20).take 17)) ++ [.edge 63760])).tail := by
    decide
  refine code_received hprotocol ⟨by decide, by decide⟩ (by decide) (by decide) hlength inside_init hheard ?_ ?_ ?_
  · decide
  · decide
  · decide

end RfReceiver

end CanSystems
