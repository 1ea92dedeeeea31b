import CanSystems.PubSubClient
import CanSystems.Lib.Framing
import Mathlib.Algebra.Group.Nat.Defs
import Mathlib.Tactic.Ring

/-!
# Where the reader stands

`verdict` reads the framing of the standard off the bytes of one packet. The
client keeps no such list: it has a phase, some counters and the buffer.
`ReadsHeader` and `ReadsPayload` say which bytes these stand for, and each
operation of the reader is shown to take bytes off the stream as `verdict` has
it, from whatever bytes it stands at and however few the socket hands over.
-/

namespace CanSystems

namespace PubSubClient

/-! ## The framing of the standard -/

/-- The number that the digits of a remaining length spell, the lowest first. -/
def lengthOf : List UInt8 → Nat
  | [] => 0
  | b :: bs => (b &&& 127).toNat + 128 * lengthOf bs

/-- How many digits a remaining length has, once its last one is there. -/
def digitCount : List UInt8 → Option Nat
  | [] => none
  | b :: bs => if b &&& 128 = 0 then some 1 else (digitCount bs).map (· + 1)

def verdict (bufferSize : UInt16) : List UInt8 → Option RxResult
  | [] => none
  | header :: rest =>
    if fixedHeaderValid header = false then some .Malformed else
    match digitCount rest with
    | none => if 4 ≤ rest.length then some .Malformed else none
    | some digits =>
      let remaining := lengthOf (rest.take digits)
      if remainingLengthValid header (UInt32.ofNat remaining) = false then some .Malformed else
      if 1 + digits + remaining > bufferSize.toNat then some .TooLarge else
      if rest.length < digits + remaining then none else some .Complete

theorem lengthOf_append (xs ys : List UInt8) :
    lengthOf (xs ++ ys) = lengthOf xs + 128 ^ xs.length * lengthOf ys := by
  induction xs with
  | nil => simp [lengthOf]
  | cons x xs ih =>
    rw [List.cons_append, lengthOf, ih, lengthOf, List.length_cons]
    ring

theorem lengthOf_singleton (b : UInt8) : lengthOf [b] = (b &&& 127).toNat := by
  simp [lengthOf]

theorem digit_lt (b : UInt8) : (b &&& 127).toNat < 128 := by
  rw [UInt8.toNat_and]
  exact Nat.lt_of_le_of_lt Nat.and_le_right (by decide)

theorem lengthOf_lt (xs : List UInt8) : lengthOf xs < 128 ^ xs.length := by
  induction xs with
  | nil => exact Nat.one_pos
  | cons x xs ih =>
    have hdigit := digit_lt x
    rw [lengthOf, List.length_cons, pow_succ]
    omega

theorem digitCount_append {xs : List UInt8} {n : Nat} (h : digitCount xs = some n) (ys : List UInt8) :
    digitCount (xs ++ ys) = some n := by
  induction xs generalizing n with
  | nil => cases h
  | cons x xs ih =>
    rw [digitCount] at h
    rw [List.cons_append, digitCount]
    split at h
    · rename_i hlast
      rw [if_pos hlast, h]
    · rename_i hmore
      obtain ⟨m, hm, rfl⟩ := Option.map_eq_some_iff.mp h
      rw [if_neg hmore, ih hm, Option.map_some]

theorem digitCount_le {xs : List UInt8} {n : Nat} (h : digitCount xs = some n) : 1 ≤ n ∧ n ≤ xs.length := by
  induction xs generalizing n with
  | nil => cases h
  | cons x xs ih =>
    rw [digitCount] at h
    split at h
    · cases h
      exact ⟨Nat.le_refl 1, by rw [List.length_cons]; omega⟩
    · obtain ⟨m, hm, rfl⟩ := Option.map_eq_some_iff.mp h
      have hle := (ih hm).2
      exact ⟨by omega, by rw [List.length_cons]; omega⟩

theorem digitCount_concat {xs : List UInt8} (h : digitCount xs = none) (b : UInt8) :
    digitCount (xs ++ [b]) = if b &&& 128 = 0 then some (xs.length + 1) else none := by
  induction xs with
  | nil => simp [digitCount]
  | cons x xs ih =>
    rw [digitCount] at h
    split at h
    · cases h
    · rename_i hmore
      rw [List.cons_append, digitCount, if_neg hmore, ih (Option.map_eq_none_iff.mp h)]
      split
      · rfl
      · rfl

/-- A header that is whole and found good: its digits spell `remaining`, and the packet has room. -/
structure Headed (bufferSize : UInt16) (header : UInt8) (rest : List UInt8) (digits remaining : Nat) : Prop where
  valid : fixedHeaderValid header = true
  count : digitCount rest = some digits
  spells : lengthOf (rest.take digits) = remaining
  lengthValid : remainingLengthValid header (UInt32.ofNat remaining) = true
  fits : 1 + digits + remaining ≤ bufferSize.toNat

section
variable {bufferSize : UInt16} {header : UInt8} {rest : List UInt8} {digits remaining : Nat}

theorem Headed.append (h : Headed bufferSize header rest digits remaining) (ys : List UInt8) :
    Headed bufferSize header (rest ++ ys) digits remaining where
  valid := h.valid
  count := digitCount_append h.count ys
  spells := by rw [List.take_append_of_le_length (digitCount_le h.count).2, h.spells]
  lengthValid := h.lengthValid
  fits := h.fits

theorem Headed.verdict (h : Headed bufferSize header rest digits remaining) :
    verdict bufferSize (header :: rest) = if rest.length < digits + remaining then none else some .Complete := by
  have hfits := h.fits
  simp only [PubSubClient.verdict, h.valid, h.count, h.spells, h.lengthValid, Bool.true_eq_false, if_false]
  rw [if_neg (by omega)]

theorem verdict_of_digits (hvalid : fixedHeaderValid header = true) (hcount : digitCount rest = none) :
    verdict bufferSize (header :: rest) = if 4 ≤ rest.length then some .Malformed else none := by
  simp only [PubSubClient.verdict, hvalid, hcount, Bool.true_eq_false, if_false]

end

/-! ## What the fields stand for -/

/-- The reader's own fields and the buffer aside, the client is as it was. -/
structure SameSession (c c' : PubSubClient) : Prop where
  bufferSize : c'.bufferSize = c.bufferSize
  keepAlive : c'.keepAlive = c.keepAlive
  pingInterval : c'.pingInterval = c.pingInterval
  lastOutActivity : c'.lastOutActivity = c.lastOutActivity
  lastInActivity : c'.lastInActivity = c.lastInActivity
  pingOutstanding : c'.pingOutstanding = c.pingOutstanding
  pingUnsent : c'.pingUnsent = c.pingUnsent
  lastPingAttempt : c'.lastPingAttempt = c.lastPingAttempt
  pingDueSince : c'.pingDueSince = c.pingDueSince
  callback : c'.callback = c.callback
  connectionState : c'.connectionState = c.connectionState

theorem SameSession.refl (c : PubSubClient) :
    SameSession c c := ⟨rfl, rfl, rfl, rfl, rfl, rfl, rfl, rfl, rfl, rfl, rfl⟩

theorem SameSession.trans {c c' c'' : PubSubClient} (h : SameSession c c') (h' : SameSession c' c'') :
    SameSession c c'' where
  bufferSize := h'.bufferSize.trans h.bufferSize
  keepAlive := h'.keepAlive.trans h.keepAlive
  pingInterval := h'.pingInterval.trans h.pingInterval
  lastOutActivity := h'.lastOutActivity.trans h.lastOutActivity
  lastInActivity := h'.lastInActivity.trans h.lastInActivity
  pingOutstanding := h'.pingOutstanding.trans h.pingOutstanding
  pingUnsent := h'.pingUnsent.trans h.pingUnsent
  lastPingAttempt := h'.lastPingAttempt.trans h.lastPingAttempt
  pingDueSince := h'.pingDueSince.trans h.pingDueSince
  callback := h'.callback.trans h.callback
  connectionState := h'.connectionState.trans h.connectionState

/-- The bytes are the front of a packet whose header is not whole yet. -/
structure ReadsHeader (c : PubSubClient) (bytes : List UInt8) : Prop where
  phase : c.rxPhase ≠ .Payload
  starts : c.buffer.Starts bytes
  len : c.rxLen.toNat = bytes.length
  short : bytes.length ≤ 4
  valid : ∀ header ∈ bytes.head?, fixedHeaderValid header = true
  count : digitCount bytes.tail = none
  multiplier : c.rxMultiplier.toNat = 128 ^ bytes.tail.length
  spells : c.rxRemaining.toNat = lengthOf bytes.tail
  done : c.rxPayloadDone = 0

/-- The bytes are a packet with its header whole and so much of its payload. -/
structure ReadsPayload (c : PubSubClient) (header : UInt8) (rest : List UInt8) : Prop where
  phase : c.rxPhase = .Payload
  starts : c.buffer.Starts (header :: rest)
  len : c.rxLen.toNat = rest.length + 1
  headed : Headed c.bufferSize header rest c.rxLengthLength.toNat c.rxRemaining.toNat
  done : rest.length = c.rxLengthLength.toNat + c.rxPayloadDone.toNat
  within : c.rxPayloadDone.toNat ≤ c.rxRemaining.toNat

theorem ReadsHeader.verdict {c : PubSubClient} {bytes : List UInt8} (h : ReadsHeader c bytes) (size : UInt16) :
    verdict size bytes = none := by
  have hshort := h.short
  cases bytes with
  | nil => rfl
  | cons header rest =>
    have hcount : digitCount rest = none := h.count
    rw [List.length_cons] at hshort
    rw [verdict_of_digits (h.valid header rfl) hcount, if_neg (by omega)]

theorem ReadsPayload.verdict {c : PubSubClient} {header : UInt8} {rest : List UInt8}
    (h : ReadsPayload c header rest) :
    PubSubClient.verdict c.bufferSize (header :: rest) =
      if c.rxPayloadDone < c.rxRemaining then none else some .Complete := by
  have hdone := h.done
  rw [h.headed.verdict]
  refine if_congr ?_ rfl rfl
  rw [UInt32.lt_iff_toNat_lt]
  omega


/-! ## The header -/

/-- What a step over the header came to, when `bytes` are what was taken by then. -/
inductive HeaderTaken (c : PubSubClient) (bytes : List UInt8) : Option RxResult → PubSubClient → Prop
  | more {c' : PubSubClient} : c'.rxPhase = c.rxPhase → ReadsHeader c' bytes → HeaderTaken c bytes none c'
  | whole {c' : PubSubClient} {header : UInt8} {rest : List UInt8} :
      bytes = header :: rest → ReadsPayload c' header rest → HeaderTaken c bytes (some .Complete) c'
  | broken {c' : PubSubClient} {r : RxResult} :
      r = .Malformed ∨ r = .TooLarge → verdict c.bufferSize bytes = some r → HeaderTaken c bytes (some r) c'

theorem headerByte_first {c : PubSubClient} (h : ReadsHeader c []) (b : UInt8) :
    ∃ r c', c.headerByte b = some (r, c') ∧ SameSession c c' ∧ HeaderTaken c [b] r c' := by
  have hlen : c.rxLen = 0 := UInt16.toNat_inj.mp h.len
  by_cases hvalid : fixedHeaderValid b = false
  · refine ⟨some .Malformed, c, ?_, .refl c, .broken (.inl rfl) ?_⟩
    · rw [headerByte, if_pos hlen, if_pos hvalid]
    · rw [verdict, if_pos hvalid]
  · obtain ⟨buffer, hbuffer⟩ := c.buffer.exists_write
      (show 0 + [b].length ≤ defaultBufferSize from Nat.le_of_ble_eq_true rfl)
    refine ⟨none, { c with buffer := buffer, rxLen := 1 }, ?_,
      ⟨rfl, rfl, rfl, rfl, rfl, rfl, rfl, rfl, rfl, rfl, rfl⟩, .more rfl ?_⟩
    · simp only [headerByte, if_pos hlen, if_neg hvalid, hbuffer, bind, Option.bind, pure]
    · exact {
        phase := h.phase
        starts := h.starts.write_end hbuffer
        len := rfl
        short := by simp
        valid := by simpa using hvalid
        count := rfl
        multiplier := h.multiplier
        spells := h.spells
        done := h.done }

theorem ReadsHeader.addLengthByte {c : PubSubClient} {header : UInt8} {rest : List UInt8}
    (h : ReadsHeader c (header :: rest)) (b : UInt8) {buffer : Buffer}
    (hbuffer : c.buffer.write c.rxLen.toNat [b] = some buffer) :
    (c.addLengthByte b buffer).buffer.Starts (header :: (rest ++ [b])) ∧
      (c.addLengthByte b buffer).rxLen.toNat = rest.length + 2 ∧
      (c.addLengthByte b buffer).rxRemaining.toNat = lengthOf (rest ++ [b]) ∧
      (c.addLengthByte b buffer).rxMultiplier.toNat = 128 ^ (rest.length + 1) := by
  have hlen := h.len
  have hshort := h.short
  have hspells : c.rxRemaining.toNat = lengthOf rest := h.spells
  have hmul : c.rxMultiplier.toNat = 128 ^ rest.length := h.multiplier
  rw [List.length_cons] at hlen hshort
  have hpow : 128 ^ rest.length ≤ 128 ^ 3 := Nat.pow_le_pow_right (by decide) (by omega)
  refine ⟨?_, ?_, ?_, ?_⟩
  · rw [h.len] at hbuffer
    exact h.starts.write_end hbuffer
  · have hone : (1 : UInt16).toNat = 1 := rfl
    rw [PubSubClient.addLengthByte, UInt16.toNat_add, hlen, hone]
    exact Nat.mod_eq_of_lt (by omega)
  · have hrest := lengthOf_lt rest
    have hdigit : (b &&& 127).toNat * 128 ^ rest.length ≤ 127 * 128 ^ 3 :=
      Nat.mul_le_mul (Nat.le_of_lt_succ (digit_lt b)) hpow
    rw [PubSubClient.addLengthByte, UInt32.toNat_add, UInt32.toNat_mul, UInt8.toNat_toUInt32, hspells, hmul,
      Nat.mod_eq_of_lt (show (b &&& 127).toNat * 128 ^ rest.length < 2 ^ 32 by omega), Nat.mod_eq_of_lt (by omega),
      lengthOf_append, lengthOf_singleton, Nat.mul_comm]
  · have hseven : (7 : UInt32).toNat % 32 = 7 := rfl
    rw [PubSubClient.addLengthByte, UInt32.toNat_shiftLeft, hmul, hseven, Nat.shiftLeft_eq, pow_succ]
    exact Nat.mod_eq_of_lt (by omega)

theorem ReadsHeader.digits {c : PubSubClient} {header : UInt8} {rest : List UInt8}
    (h : ReadsHeader c (header :: rest)) :
    fixedHeaderValid header = true ∧ digitCount rest = none ∧ rest.length ≤ 3 ∧ c.rxLen ≠ 0 ∧
      c.rxLen.toNat = rest.length + 1 := by
  have hlen : c.rxLen.toNat = rest.length + 1 := h.len
  refine ⟨h.valid header rfl, h.count, Nat.le_of_succ_le_succ h.short, ?_, hlen⟩
  intro h0
  rw [h0] at hlen
  exact absurd hlen (Nat.succ_ne_zero _).symm

theorem ReadsHeader.exists_write {c : PubSubClient} {bytes : List UInt8} (h : ReadsHeader c bytes) (b : UInt8) :
    ∃ buffer, c.buffer.write c.rxLen.toNat [b] = some buffer := by
  have hshort := h.short
  apply c.buffer.exists_write
  rw [h.len, defaultBufferSize, List.length_singleton]
  omega

theorem headerByte_more {c : PubSubClient} {header : UInt8} {rest : List UInt8} (h : ReadsHeader c (header :: rest))
    {b : UInt8} (hmore : b &&& 128 ≠ 0) :
    ∃ r c', c.headerByte b = some (r, c') ∧ SameSession c c' ∧ HeaderTaken c (header :: (rest ++ [b])) r c' := by
  obtain ⟨hvalid, hnone, hshort, hne, -⟩ := h.digits
  obtain ⟨buffer, hbuffer⟩ := h.exists_write b
  obtain ⟨hstarts, hlen, hspells, hmul⟩ := h.addLengthByte b hbuffer
  have hcount : digitCount (rest ++ [b]) = none := by rw [digitCount_concat hnone, if_neg hmore]
  have hlength : (rest ++ [b]).length = rest.length + 1 := List.length_append
  refine ⟨if (c.addLengthByte b buffer).rxLen = 5 then some .Malformed else none, c.addLengthByte b buffer, ?_,
    ⟨rfl, rfl, rfl, rfl, rfl, rfl, rfl, rfl, rfl, rfl, rfl⟩, ?_⟩
  · simp only [headerByte, if_neg hne, hbuffer, if_neg hmore, bind, Option.bind, pure]
  · by_cases hfive : (c.addLengthByte b buffer).rxLen = 5
    · rw [if_pos hfive]
      have hlen5 : rest.length + 2 = 5 := by rw [← hlen, hfive]; rfl
      refine .broken (.inl rfl) ?_
      rw [verdict_of_digits hvalid hcount, if_pos (by omega)]
    · rw [if_neg hfive]
      have hfew : rest.length ≠ 3 := by
        intro h3
        apply hfive
        rw [← UInt16.toNat_inj, hlen, h3]
        rfl
      exact .more rfl {
        phase := h.phase
        starts := hstarts
        len := by rw [hlen, List.length_cons, hlength]
        short := by rw [List.length_cons, hlength]; omega
        valid := by simpa using hvalid
        count := hcount
        multiplier := by rw [hmul, List.tail_cons, hlength]
        spells := hspells
        done := h.done }

theorem readsPayload_of_header {c : PubSubClient} {header : UInt8} {rest : List UInt8}
    (hphase : c.rxPhase = .Payload)
    (hstarts : c.buffer.Starts (header :: rest)) (hlen : c.rxLen.toNat = rest.length + 1)
    (hdigits : c.rxLengthLength.toNat = rest.length) (hspells : c.rxRemaining.toNat = lengthOf rest)
    (hdone : c.rxPayloadDone = 0) (hheaded : Headed c.bufferSize header rest rest.length (lengthOf rest)) :
    ReadsPayload c header rest where
  phase := hphase
  starts := hstarts
  len := hlen
  headed := by rw [hdigits, hspells]; exact hheaded
  done := by rw [hdigits, hdone]; rfl
  within := by rw [hdone]; exact Nat.zero_le _

/-- The last digit: the length is known, and either the packet is turned away or its payload is next. -/
theorem headerByte_last {c : PubSubClient} {header : UInt8} {rest : List UInt8} (h : ReadsHeader c (header :: rest))
    {b : UInt8} (hlast : b &&& 128 = 0) :
    ∃ r c', c.headerByte b = some (r, c') ∧ SameSession c c' ∧ HeaderTaken c (header :: (rest ++ [b])) r c' := by
  obtain ⟨hvalid, hnone, hshort, hne, -⟩ := h.digits
  obtain ⟨buffer, hbuffer⟩ := h.exists_write b
  obtain ⟨hstarts, hlen, hspells, -⟩ := h.addLengthByte b hbuffer
  have hcount : digitCount (rest ++ [b]) = some (rest.length + 1) := by rw [digitCount_concat hnone, if_pos hlast]
  have hlength : (rest ++ [b]).length = rest.length + 1 := List.length_append
  have htake : (rest ++ [b]).take (rest.length + 1) = rest ++ [b] := List.take_of_length_le (Nat.le_of_eq hlength)
  have hget : (c.addLengthByte b buffer).endLength.buffer.get 0 = some header := hstarts.get (Nat.succ_pos _)
  have hbound : lengthOf (rest ++ [b]) < 128 ^ 4 :=
    Nat.lt_of_lt_of_le (lengthOf_lt _) (Nat.pow_le_pow_right (by decide) (by omega))
  have hremaining : (c.addLengthByte b buffer).endLength.rxRemaining = UInt32.ofNat (lengthOf (rest ++ [b])) := by
    rw [← hspells, UInt32.ofNat_toNat]
    rfl
  have hroom : (c.addLengthByte b buffer).endLength.rxLen.toUInt32 +
    (c.addLengthByte b buffer).endLength.rxRemaining >
      (c.addLengthByte b buffer).endLength.bufferSize.toUInt32 ↔
      1 + (rest.length + 1) + lengthOf (rest ++ [b]) > c.bufferSize.toNat := by
    have hlen' : (c.addLengthByte b buffer).endLength.rxLen.toNat = rest.length + 2 := hlen
    have hspells' : (c.addLengthByte b buffer).endLength.rxRemaining.toNat = lengthOf (rest ++ [b]) := hspells
    have hsize : (c.addLengthByte b buffer).endLength.bufferSize = c.bufferSize := rfl
    rw [gt_iff_lt, UInt32.lt_iff_toNat_lt, UInt32.toNat_add, UInt16.toNat_toUInt32, UInt16.toNat_toUInt32, hlen',
      hspells', hsize, Nat.mod_eq_of_lt (by omega), gt_iff_lt,
        show rest.length + 2 = 1 + (rest.length + 1) by omega]
  have hdigits : (c.addLengthByte b buffer).endLength.rxLengthLength.toNat = rest.length + 1 := by
    have hone : (1 : UInt16) ≤ (c.addLengthByte b buffer).rxLen := by
      rw [UInt16.le_iff_toNat_le, hlen]
      exact Nat.le_add_left 1 (rest.length + 1)
    rw [endLength, UInt16.toNat_toUInt8, UInt16.toNat_sub_of_le _ _ hone, hlen]
    exact Nat.mod_eq_of_lt (by omega)
  have hsame : SameSession c (c.addLengthByte b buffer).endLength :=
    ⟨rfl, rfl, rfl, rfl, rfl, rfl, rfl, rfl, rfl, rfl, rfl⟩
  by_cases hbad : remainingLengthValid header (UInt32.ofNat (lengthOf (rest ++ [b]))) = false
  · refine ⟨some .Malformed, (c.addLengthByte b buffer).endLength, ?_, hsame, .broken (.inl rfl) ?_⟩
    · simp only [headerByte, if_neg hne, hbuffer, if_pos hlast, hget, hremaining, if_pos hbad, bind, Option.bind,
        pure]
    · simp only [verdict, hvalid, Bool.true_eq_false, if_false, hcount, htake, if_pos hbad]
  · by_cases hlarge : 1 + (rest.length + 1) + lengthOf (rest ++ [b]) > c.bufferSize.toNat
    · refine ⟨some .TooLarge, (c.addLengthByte b buffer).endLength, ?_, hsame, .broken (.inr rfl) ?_⟩
      · simp only [headerByte, if_neg hne, hbuffer, if_pos hlast, hget, if_neg (hremaining ▸ hbad),
          if_pos (hroom.mpr hlarge), bind, Option.bind, pure]
      · simp only [verdict, hvalid, Bool.true_eq_false, if_false, hcount, htake, if_neg hbad, if_pos hlarge]
    · refine ⟨some .Complete, (c.addLengthByte b buffer).endLength.beginPayload, ?_,
        hsame.trans ⟨rfl, rfl, rfl, rfl, rfl, rfl, rfl, rfl, rfl, rfl, rfl⟩, .whole rfl ?_⟩
      · simp only [headerByte, if_neg hne, hbuffer, if_pos hlast, hget, if_neg (hremaining ▸ hbad),
          if_neg (mt hroom.mp hlarge), bind, Option.bind, pure]
      · refine readsPayload_of_header rfl hstarts (hlen.trans (by rw [hlength])) (hdigits.trans hlength.symm)
          hspells h.done ?_
        rw [hlength]
        exact {
          valid := hvalid
          count := hcount
          spells := by rw [htake]
          lengthValid := Bool.eq_true_of_not_eq_false hbad
          fits := Nat.le_of_not_lt hlarge }

theorem headerByte_taken {c : PubSubClient} {bytes : List UInt8} (h : ReadsHeader c bytes) (b : UInt8) :
    ∃ r c', c.headerByte b = some (r, c') ∧ SameSession c c' ∧ HeaderTaken c (bytes ++ [b]) r c' := by
  cases bytes with
  | nil => exact headerByte_first h b
  | cons header rest =>
    by_cases hlast : b &&& 128 = 0
    · exact headerByte_last h hlast
    · exact headerByte_more h hlast

/-- What `advanceHeader` came to, having taken `taken`. -/
inductive HeaderRead (c : PubSubClient) (bytes taken : List UInt8) : RxResult → PubSubClient → Prop
  | more {c' : PubSubClient} : c'.rxPhase = c.rxPhase → ReadsHeader c' (bytes ++ taken) →
      HeaderRead c bytes taken .Incomplete c'
  | whole {c' : PubSubClient} {header : UInt8} {rest : List UInt8} : bytes ++ taken = header :: rest →
      ReadsPayload c' header rest → HeaderRead c bytes taken .Complete c'
  | broken {c' : PubSubClient} {r : RxResult} : r = .Malformed ∨ r = .TooLarge →
      verdict c.bufferSize (bytes ++ taken) = some r → HeaderRead c bytes taken r c'

theorem advanceHeader_read {c : PubSubClient} {bytes inbound : List UInt8} (h : ReadsHeader c bytes) (asks : Nat) :
    ∃ r c' taken rest, inbound = taken ++ rest ∧ c.advanceHeader inbound asks = some (r, c', rest) ∧
      SameSession c c' ∧
      Framing.Waits (verdict c.bufferSize) bytes taken ∧ HeaderRead c bytes taken r c' := by
  induction inbound generalizing c bytes asks with
  | nil =>
    refine ⟨.Incomplete, c, [], [], rfl, ?_, .refl c, Framing.waits_nil, .more rfl ?_⟩
    · cases asks <;> rfl
    · rwa [List.append_nil]
  | cons b inbound ih =>
    cases asks with
    | zero =>
      refine ⟨.Incomplete, c, [], b :: inbound, rfl, rfl, .refl c, Framing.waits_nil, .more rfl ?_⟩
      rwa [List.append_nil]
    | succ asks =>
      obtain ⟨r, c', hbyte, hsame, htaken⟩ := headerByte_taken h b
      cases htaken with
      | more hphase hreads =>
        obtain ⟨r, c'', taken, rest, hinbound, hadvance, hsame', hwaits, hread⟩ := ih hreads asks
        rw [hsame.bufferSize] at hwaits
        refine ⟨r, c'', b :: taken, rest, by rw [hinbound, List.cons_append], ?_, hsame.trans hsame', ?_, ?_⟩
        · rw [advanceHeader, hbyte]
          exact hadvance
        · exact (Framing.waits_singleton (h.verdict _)).append hwaits
        · have hbytes : bytes ++ [b] ++ taken = bytes ++ b :: taken := List.append_assoc ..
          cases hread with
          | more hphase' hmore => exact .more (hphase'.trans hphase) (hbytes ▸ hmore)
          | whole hpacket hwhole => exact .whole (hbytes ▸ hpacket) hwhole
          | broken hr hverdict => exact .broken hr (hbytes ▸ hsame.bufferSize ▸ hverdict)
      | whole hpacket hreads =>
        refine ⟨.Complete, c', [b], inbound, rfl, ?_, hsame, Framing.waits_singleton (h.verdict _), ?_⟩
        · rw [advanceHeader, hbyte]
        · exact .whole hpacket hreads
      | @broken _ r hr hverdict =>
        refine ⟨r, c', [b], inbound, rfl, ?_, hsame, Framing.waits_singleton (h.verdict _), ?_⟩
        · rw [advanceHeader, hbyte]
        · exact .broken hr hverdict

/-! ## The payload -/

theorem ReadsPayload.addPayload {c : PubSubClient} {header : UInt8} {rest : List UInt8}
    (h : ReadsPayload c header rest)
    {got : List UInt8} (hgot : got.length ≤ (c.rxRemaining - c.rxPayloadDone).toNat) {buffer : Buffer}
    (hbuffer : c.buffer.write c.rxLen.toNat got = some buffer) :
    ReadsPayload (c.addPayload got buffer) header (rest ++ got) := by
  have hsub : (c.rxRemaining - c.rxPayloadDone).toNat = c.rxRemaining.toNat - c.rxPayloadDone.toNat :=
    UInt32.toNat_sub_of_le _ _ (UInt32.le_iff_toNat_le.mpr h.within)
  have hwithin := h.within
  have hdone := h.done
  have hfits := h.headed.fits
  have hlen := h.len
  have hremaining := c.rxRemaining.toNat_lt
  have hsize := c.bufferSize.toNat_lt
  have hlength : (UInt32.ofNat got.length).toNat = got.length := Nat.mod_eq_of_lt (by omega)
  have hpayload : (c.addPayload got buffer).rxPayloadDone.toNat = c.rxPayloadDone.toNat + got.length := by
    rw [PubSubClient.addPayload, UInt32.toNat_add, hlength]
    exact Nat.mod_eq_of_lt (by omega)
  exact {
    phase := h.phase
    starts := by
      rw [hlen] at hbuffer
      exact h.starts.write_end hbuffer
    len := by
      rw [PubSubClient.addPayload, UInt32.toNat_toUInt16, UInt32.toNat_add, UInt16.toNat_toUInt32, hlength, hlen,
        List.length_append, Nat.mod_eq_of_lt (show rest.length + 1 + got.length < 2 ^ 32 by omega),
        Nat.mod_eq_of_lt (by omega)]
      omega
    headed := h.headed.append got
    done := by
      rw [hpayload, List.length_append, hdone, Nat.add_assoc]
      rfl
    within := by
      rw [hpayload]
      exact Nat.le_trans (by omega) (Nat.le_refl c.rxRemaining.toNat) }

theorem ReadsPayload.exists_fill {c : PubSubClient} {header : UInt8} {rest : List UInt8}
    (h : ReadsPayload c header rest)
    (hsize : c.bufferSize.toNat ≤ defaultBufferSize) {take : UInt32}
    (htake : take.toNat ≤ (c.rxRemaining - c.rxPayloadDone).toNat)
    {got : List UInt8} (hgot : got.length ≤ take.toNat) :
    ∃ buffer, c.buffer.fill c.rxLen.toNat take.toNat got = some buffer ∧
      c.buffer.write c.rxLen.toNat got = some buffer := by
  have hsub : (c.rxRemaining - c.rxPayloadDone).toNat = c.rxRemaining.toNat - c.rxPayloadDone.toNat :=
    UInt32.toNat_sub_of_le _ _ (UInt32.le_iff_toNat_le.mpr h.within)
  have hwithin := h.within
  have hdone := h.done
  have hfits := h.headed.fits
  have hlen := h.len
  have hroom : c.rxLen.toNat + take.toNat ≤ defaultBufferSize := by omega
  obtain ⟨buffer, hbuffer⟩ := c.buffer.exists_write (show c.rxLen.toNat + got.length ≤ defaultBufferSize by omega)
  exact ⟨buffer, by rw [c.buffer.fill_eq_write hroom hgot, hbuffer], hbuffer⟩

theorem advancePayload_cons {c : PubSubClient} (hsize : c.bufferSize.toNat ≤ defaultBufferSize) {header : UInt8}
    {rest : List UInt8} (h : ReadsPayload c header rest) (inbound : List UInt8) (answer : UInt32 × Nat)
    (answers : List (UInt32 × Nat)) :
    c.advancePayload inbound (answer :: answers) =
        some (if c.rxPayloadDone < c.rxRemaining then .Incomplete else .Complete, c, inbound) ∨
      ∃ got left buffer, inbound = got ++ left ∧ ReadsPayload (c.addPayload got buffer) header (rest ++ got) ∧
        c.advancePayload inbound (answer :: answers) = (c.addPayload got buffer).advancePayload left answers := by
  obtain ⟨ready, answer⟩ := answer
  by_cases hmore : c.rxPayloadDone < c.rxRemaining
  · by_cases hready : ready = 0
    · left
      rw [advancePayload, if_pos hmore, if_pos hready, if_pos hmore]
    · set left := c.rxRemaining - c.rxPayloadDone with hleft
      set take := if ready < left then ready else left with htake
      have htake_le : take.toNat ≤ left.toNat := by
        rw [htake]
        split
        · rename_i hlt
          exact Nat.le_of_lt (UInt32.lt_iff_toNat_lt.mp hlt)
        · exact Nat.le_refl _
      set got := inbound.take (min answer take.toNat) with hgot
      have hgot_le : got.length ≤ take.toNat := by
        rw [hgot, List.length_take]
        omega
      by_cases hnone : got = []
      · left
        simp only [advancePayload, if_pos hmore, if_neg hready, ← hleft, ← htake, ← hgot, if_pos hnone]
      · right
        obtain ⟨buffer, hfill, hwrite⟩ := h.exists_fill hsize htake_le hgot_le
        refine ⟨got, inbound.drop got.length, buffer, ?_, h.addPayload (Nat.le_trans hgot_le htake_le) hwrite, ?_⟩
        · exact (List.prefix_iff_eq_append.mp (List.take_prefix _ inbound)).symm
        · simp only [advancePayload, if_pos hmore, if_neg hready, ← hleft, ← htake, ← hgot, if_neg hnone, hfill]
  · left
    rw [advancePayload, if_neg hmore, if_neg hmore]

theorem advancePayload_read {c : PubSubClient} (hsize : c.bufferSize.toNat ≤ defaultBufferSize) {header : UInt8}
    {rest : List UInt8} (h : ReadsPayload c header rest) (inbound : List UInt8) (answers : List (UInt32 × Nat)) :
    ∃ c' taken left, inbound = taken ++ left ∧ SameSession c c' ∧ ReadsPayload c' header (rest ++ taken) ∧
      c.advancePayload inbound answers =
        some (if c'.rxPayloadDone < c'.rxRemaining then .Incomplete else .Complete, c', left) := by
  induction answers generalizing c rest inbound with
  | nil => exact ⟨c, [], inbound, rfl, .refl c, by rwa [List.append_nil], rfl⟩
  | cons answer answers ih =>
    rcases advancePayload_cons hsize h inbound answer answers with hstop | ⟨got, left, buffer, hinbound, hreads,
      hcall⟩
    · exact ⟨c, [], inbound, rfl, .refl c, by rwa [List.append_nil], hstop⟩
    · have hgot : SameSession c (c.addPayload got buffer) := ⟨rfl, rfl, rfl, rfl, rfl, rfl, rfl, rfl, rfl, rfl, rfl⟩
      obtain ⟨c', taken, rest', hleft, hsame, hreads', hcall'⟩ :=
        ih (c := c.addPayload got buffer) hsize hreads left
      refine ⟨c', got ++ taken, rest', ?_, hgot.trans hsame, ?_, ?_⟩
      · rw [hinbound, hleft, List.append_assoc]
      · rwa [← List.append_assoc]
      · rw [hcall, hcall']

theorem ReadsPayload.waits {c c' : PubSubClient} {header : UInt8} {rest taken : List UInt8}
    (h : ReadsPayload c header rest)
    (h' : ReadsPayload c' header (rest ++ taken)) :
    Framing.Waits (PubSubClient.verdict c.bufferSize) (header :: rest) taken := by
  intro ys zs htaken hzs
  have hys := h.headed.append ys
  have hdone := h'.done
  have hwithin := h'.within
  have hlength : 0 < zs.length := List.length_pos_iff.mpr hzs
  have hdigits : c'.rxLengthLength.toNat = c.rxLengthLength.toNat := by
    have hcount := (h.headed.append taken).count.symm.trans h'.headed.count
    exact (Option.some.inj hcount).symm
  have hremaining : c'.rxRemaining.toNat = c.rxRemaining.toNat := by
    rw [← h'.headed.spells, hdigits, (h.headed.append taken).spells]
  rw [List.cons_append, hys.verdict, if_pos]
  rw [htaken, List.length_append, List.length_append] at hdone
  rw [List.length_append]
  omega

/-! ## A call -/

/-- The bytes of the packet in progress, wherever in it the reader is. -/
inductive Reads (c : PubSubClient) : List UInt8 → Prop
  | header {bytes : List UInt8} : ReadsHeader c bytes → Reads c bytes
  | payload {header : UInt8} {rest : List UInt8} : ReadsPayload c header rest → Reads c (header :: rest)

/-- The bytes are those at the front of the buffer, so there is one packet in progress at most. -/
theorem Reads.eq_take {c : PubSubClient} {bytes : List UInt8} (h : Reads c bytes) :
    bytes = c.buffer.cells.take c.rxLen.toNat := by
  cases h with
  | header hreads =>
    rw [hreads.len]
    exact List.prefix_iff_eq_take.mp hreads.starts
  | payload hreads =>
    rw [hreads.len]
    exact List.prefix_iff_eq_take.mp hreads.starts

/-- How a round ended; it is over when the packet is whole or turned away. -/
inductive RoundEnd (bufferSize : UInt16) (bytes : List UInt8) : Bool → RxResult → PubSubClient → Prop
  | more {c' : PubSubClient} {r : RxResult} : Reads c' bytes → RoundEnd bufferSize bytes false r c'
  | whole {c' : PubSubClient} {header : UInt8} {rest : List UInt8} : bytes = header :: rest →
    ReadsPayload c' header rest →
      verdict bufferSize bytes = some .Complete → RoundEnd bufferSize bytes true .Complete c'
  | broken {c' : PubSubClient} {r : RxResult} : r = .Malformed ∨ r = .TooLarge → verdict bufferSize bytes = some r →
      RoundEnd bufferSize bytes true r c'

theorem advance_round {c : PubSubClient} (hsize : c.bufferSize.toNat ≤ defaultBufferSize) {bytes : List UInt8}
    (h : Reads c bytes) (inbound : List UInt8) (io : RxIo) :
    ∃ r c' taken left, inbound = taken ++ left ∧ c.advance inbound io = some (r, c', left) ∧ SameSession c c' ∧
      Framing.Waits (verdict c.bufferSize) bytes taken ∧ RoundEnd c.bufferSize (bytes ++ taken)
        (roundOver c.rxPhase r) r c' := by
  cases h with
  | header hreads =>
    obtain ⟨r, c', taken, left, hinbound, hcall, hsame, hwaits, hread⟩ :=
      @advanceHeader_read _ _ inbound hreads io.header
    refine ⟨r, c', taken, left, hinbound, ?_, hsame, hwaits, ?_⟩
    · rw [advance, if_neg hreads.phase, hcall]
    · rw [roundOver, if_neg hreads.phase]
      cases hread with
      | more _ hmore => exact .more (.header hmore)
      | whole hpacket hwhole => exact .more (hpacket ▸ .payload hwhole)
      | broken hr hverdict =>
        have hover : (r == .Malformed || r == .TooLarge) = true := by rcases hr with rfl | rfl <;> rfl
        rw [hover]
        exact .broken hr hverdict
  | @payload header rest hreads =>
    obtain ⟨c', taken, left, hinbound, hsame, hreads', hcall⟩ := advancePayload_read hsize hreads inbound io.payload
    have hverdict := hreads'.verdict
    by_cases hmore : c'.rxPayloadDone < c'.rxRemaining
    · rw [if_pos hmore] at hcall
      refine ⟨.Incomplete, c', taken, left, hinbound, ?_, hsame, hreads.waits hreads', ?_⟩
      · rw [advance, if_pos hreads.phase, hcall]
      · rw [roundOver, if_pos hreads.phase]
        exact .more (.payload hreads')
    · rw [if_neg hmore] at hcall hverdict
      refine ⟨.Complete, c', taken, left, hinbound, ?_, hsame, hreads.waits hreads', ?_⟩
      · rw [advance, if_pos hreads.phase, hcall]
      · rw [roundOver, if_pos hreads.phase]
        exact .whole rfl hreads' (hsame.bufferSize ▸ hverdict)

theorem readPacketBlocking_round {c : PubSubClient} (hsize : c.bufferSize.toNat ≤ defaultBufferSize)
    {bytes : List UInt8}
    (h : Reads c bytes) (inbound : List UInt8) (rounds : List RxIo) :
    ∃ r c' taken left, inbound = taken ++ left ∧ c.readPacketBlocking inbound rounds = some (r, c', left) ∧
      SameSession c c' ∧ Framing.Waits (verdict c.bufferSize) bytes taken ∧
      (r = .Incomplete ∨ RoundEnd c.bufferSize (bytes ++ taken) true r c') := by
  induction rounds generalizing c bytes inbound with
  | nil => exact ⟨.Incomplete, c, [], inbound, rfl, rfl, .refl c, Framing.waits_nil, .inl rfl⟩
  | cons io rounds ih =>
    obtain ⟨r, c', taken, left, hinbound, hcall, hsame, hwaits, hround⟩ := advance_round hsize h inbound io
    by_cases hover : roundOver c.rxPhase r = true
    · rw [hover] at hround
      refine ⟨r, c', taken, left, hinbound, ?_, hsame, hwaits, .inr hround⟩
      simp only [readPacketBlocking, hcall, if_pos hover]
    · rw [Bool.eq_false_of_not_eq_true hover] at hround
      cases hround with
      | more hreads =>
        obtain ⟨r', c'', taken', left', hleft, hcall', hsame', hwaits', hend⟩ :=
          ih (hsame.bufferSize ▸ hsize) hreads left
        rw [hsame.bufferSize] at hwaits' hend
        refine ⟨r', c'', taken ++ taken', left', ?_, ?_, hsame.trans hsame', hwaits.append hwaits', ?_⟩
        · rw [hinbound, hleft, List.append_assoc]
        · simp only [readPacketBlocking, hcall, if_neg hover, hcall']
        · rwa [← List.append_assoc]

/-- Between two calls: nothing is decided, and an idle reader holds nothing. -/
structure Stands (c : PubSubClient) (bytes : List UInt8) : Prop where
  reads : Reads c bytes
  undecided : verdict c.bufferSize bytes = none
  idle : c.rxPhase = .Idle → bytes = []

theorem stands_idle {c : PubSubClient} (hphase : c.rxPhase = .Idle) (hlen : c.rxLen = 0)
    (hmultiplier : c.rxMultiplier = 1)
    (hremaining : c.rxRemaining = 0) (hdone : c.rxPayloadDone = 0) : Stands c [] where
  reads := .header {
    phase := by
      rw [hphase]
      exact RxPhase.noConfusion
    starts := c.buffer.starts_nil
    len := by
      rw [hlen]
      rfl
    short := Nat.zero_le 4
    valid := by simp
    count := rfl
    multiplier := by
      rw [hmultiplier]
      rfl
    spells := by
      rw [hremaining]
      rfl
    done := hdone }
  undecided := rfl
  idle := fun _ => rfl

/-- What a call of the reader comes to when `bytes` are there by its end; `heard` is what a whole packet makes of
the client. Only a pass of `loop()` may stay in mid-packet. -/
inductive ReaderCall (c : PubSubClient) (heard : PubSubClient → PubSubClient) (bytes left : List UInt8)
    (io : DispatchIo) :
    Bool → Option MqttCall → Prop
  | stays {c' : PubSubClient} : SameSession c c' → Stands c' bytes →
      ReaderCall c heard bytes left io true (some ⟨true, c', left, []⟩)
  | fails {pass : Bool} {c' : PubSubClient} {r : RxResult} : SameSession c c' →
      r = .Incomplete ∨ (r = .Malformed ∨ r = .TooLarge) ∧ verdict c.bufferSize bytes = some r →
      ReaderCall c heard bytes left io pass (some ⟨false, c'.giveUp r, left, []⟩)
  | finishes {pass : Bool} {c' : PubSubClient} {header : UInt8} {rest : List UInt8} : SameSession c c' →
      bytes = header :: rest → ReadsPayload c' header rest → verdict c.bufferSize bytes = some .Complete →
      ReaderCall c heard bytes left io pass ((heard c').finishPacket left io)

theorem settleReader_call {c : PubSubClient} (hsize : c.bufferSize.toNat ≤ defaultBufferSize) {bytes : List UInt8}
    (h : Stands c bytes) (hbusy : c.rxPhase ≠ .Idle) (inbound : List UInt8) (rounds : List RxIo) (io : DispatchIo) :
    ∃ taken left, inbound = taken ++ left ∧ Framing.Waits (verdict c.bufferSize) bytes taken ∧
      ReaderCall c id (bytes ++ taken) left io false (c.settleReader inbound rounds io) := by
  obtain ⟨r, c', taken, left, hinbound, hcall, hsame, hwaits, hend⟩ :=
    readPacketBlocking_round hsize h.reads inbound rounds
  have hsettle : c.settleReader inbound rounds io =
      if r ≠ .Complete then some ⟨false, c'.giveUp r, left, []⟩ else c'.finishPacket left io := by
    simp only [settleReader, if_neg hbusy, hcall, bind, Option.bind, pure]
  refine ⟨taken, left, hinbound, hwaits, ?_⟩
  rw [hsettle]
  rcases hend with rfl | hround
  · exact .fails hsame (.inl rfl)
  · cases hround with
    | whole hpacket hreads hverdict => exact @ReaderCall.finishes _ id _ _ _ _ _ _ _ hsame hpacket hreads hverdict
    | broken hr hverdict =>
      have hne : r ≠ .Complete := by
        rcases hr with rfl | rfl
        · exact RxResult.noConfusion
        · exact RxResult.noConfusion
      rw [if_pos hne]
      exact .fails hsame (.inr ⟨hr, hverdict⟩)

theorem beginPacket_same (c : PubSubClient) (t : UInt32) : SameSession c (c.beginPacket t) := by
  unfold beginPacket
  split
  · exact ⟨rfl, rfl, rfl, rfl, rfl, rfl, rfl, rfl, rfl, rfl, rfl⟩
  · exact .refl c

theorem beginPacket_phase (c : PubSubClient) (t : UInt32) : (c.beginPacket t).rxPhase ≠ .Idle := by
  unfold beginPacket
  split
  · exact RxPhase.noConfusion
  · assumption

theorem Stands.begin {c : PubSubClient} {bytes : List UInt8} (h : Stands c bytes) (t : UInt32) :
    Stands (c.beginPacket t) bytes := by
  by_cases hidle : c.rxPhase = .Idle
  · have hnil := h.idle hidle
    subst hnil
    rw [beginPacket, if_pos hidle]
    cases h.reads with
    | header hreads =>
      refine ⟨.header ?_, h.undecided, fun _ => rfl⟩
      exact {
        phase := RxPhase.noConfusion
        starts := hreads.starts
        len := hreads.len
        short := hreads.short
        valid := hreads.valid
        count := hreads.count
        multiplier := hreads.multiplier
        spells := hreads.spells
        done := hreads.done }
  · rw [beginPacket, if_neg hidle]
    exact h

theorem ReaderCall.of_same {c c₁ : PubSubClient} (hsame : SameSession c c₁) {heard : PubSubClient → PubSubClient}
    {bytes left : List UInt8} {io : DispatchIo} {pass : Bool} {call : Option MqttCall}
    (h : ReaderCall c₁ heard bytes left io pass call) : ReaderCall c heard bytes left io pass call := by
  cases h with
  | stays hsame' hstands => exact .stays (hsame.trans hsame') hstands
  | fails hsame' hr => exact .fails (hsame.trans hsame') (hsame.bufferSize ▸ hr)
  | finishes hsame' hpacket hreads hverdict =>
    exact .finishes (hsame.trans hsame') hpacket hreads (hsame.bufferSize ▸ hverdict)

theorem pumpPayload_call {c : PubSubClient} (hsize : c.bufferSize.toNat ≤ defaultBufferSize) {header : UInt8}
    {rest : List UInt8} (h : ReadsPayload c header rest) (inbound : List UInt8) (t : UInt32) (result : RxResult)
    (rx : RxIo)
    (io : DispatchIo) :
    ∃ taken left, inbound = taken ++ left ∧ Framing.Waits (verdict c.bufferSize) (header :: rest) taken ∧
      ReaderCall c (fun c => c.heard t) (header :: rest ++ taken) left io true
        (c.pumpPayload inbound t result rx io) := by
  obtain ⟨c', taken, left, hinbound, hsame, hreads, hcall⟩ := advancePayload_read hsize h inbound rx.payload
  have hverdict := hreads.verdict
  rw [hsame.bufferSize] at hverdict
  refine ⟨taken, left, hinbound, h.waits hreads, ?_⟩
  by_cases hmore : c'.rxPayloadDone < c'.rxRemaining
  · rw [if_pos hmore] at hcall hverdict
    have hne : RxResult.Incomplete ≠ .Complete := RxResult.noConfusion
    simp only [pumpPayload, if_pos h.phase, hcall, bind, Option.bind, pure, if_neg hne]
    split
    · exact .fails hsame (.inl rfl)
    · refine .stays hsame ⟨.payload hreads, hsame.bufferSize ▸ hverdict, ?_⟩
      intro hidle
      rw [hreads.phase] at hidle
      cases hidle
  · rw [if_neg hmore] at hcall hverdict
    simp only [pumpPayload, if_pos h.phase, hcall, bind, Option.bind, pure, if_true]
    exact @ReaderCall.finishes _ (fun c => c.heard t) _ _ _ _ _ _ _ hsame rfl hreads hverdict

/-- The header is still to come: the pass is over, or the packet has been on its way for too long. -/
theorem pumpPayload_header {c : PubSubClient} (hphase : c.rxPhase = .Header) {bytes : List UInt8}
    (h : ReadsHeader c bytes)
    (inbound : List UInt8) (t : UInt32) (rx : RxIo) (io : DispatchIo) :
    ReaderCall c (fun c => c.heard t) bytes inbound io true (c.pumpPayload inbound t .Incomplete rx io) := by
  have hne : RxResult.Incomplete ≠ .Complete := RxResult.noConfusion
  simp only [pumpPayload, if_neg h.phase, bind, Option.bind, pure, if_neg hne]
  split
  · exact .fails (.refl c) (.inl rfl)
  · refine .stays (.refl c) ⟨.header h, h.verdict _, ?_⟩
    intro hidle
    rw [hphase] at hidle
    cases hidle

theorem pumpReader_header {c : PubSubClient} (hsize : c.bufferSize.toNat ≤ defaultBufferSize)
    (hphase : c.rxPhase = .Header)
    {bytes : List UInt8} (h : ReadsHeader c bytes) (inbound : List UInt8) (t : UInt32) (ready : Bool) (rx : RxIo)
    (io : DispatchIo) :
    ∃ taken left, inbound = taken ++ left ∧ Framing.Waits (verdict c.bufferSize) bytes taken ∧
      ReaderCall c (fun c => c.heard t) (bytes ++ taken) left io true (c.pumpReader inbound t ready rx io) := by
  have hbegun : c.beginPacket t = c := by rw [beginPacket, if_neg (by rw [hphase]; exact RxPhase.noConfusion)]
  have hbusy : ¬ (c.rxPhase = .Idle ∧ ready = false) := by
    intro hidle
    rw [hphase] at hidle
    exact RxPhase.noConfusion hidle.1
  obtain ⟨r, c', taken, left, hinbound, hcall, hsame, hwaits, hread⟩ := @advanceHeader_read _ _ inbound h rx.header
  have hpump : c.pumpReader inbound t ready rx io =
      if r = .Malformed ∨ r = .TooLarge then some ⟨false, c'.giveUp r, left, []⟩ else
        c'.pumpPayload left t r rx io := by
    simp only [pumpReader, if_neg hbusy, hbegun, if_pos hphase, hcall, bind, Option.bind, pure]
  rw [hpump]
  cases hread with
  | more hphase' hmore =>
    refine ⟨taken, left, hinbound, hwaits, ?_⟩
    rw [if_neg (by simp)]
    exact (pumpPayload_header (hphase'.trans hphase) hmore left t rx io).of_same hsame
  | @whole _ header rest hpacket hwhole =>
    obtain ⟨taken', left', hleft, hwaits', hend⟩ :=
      pumpPayload_call (hsame.bufferSize ▸ hsize) hwhole left t .Complete rx io
    rw [hsame.bufferSize] at hwaits'
    refine ⟨taken ++ taken', left', ?_, ?_, ?_⟩
    · rw [hinbound, hleft, List.append_assoc]
    · exact hwaits.append (hpacket ▸ hwaits')
    · rw [if_neg (by simp), ← List.append_assoc, hpacket]
      exact hend.of_same hsame
  | broken hr hverdict =>
    refine ⟨taken, left, hinbound, hwaits, ?_⟩
    rw [if_pos hr]
    exact .fails hsame (.inr ⟨hr, hverdict⟩)

theorem pumpReader_call {c : PubSubClient} (hsize : c.bufferSize.toNat ≤ defaultBufferSize) {bytes : List UInt8}
    (h : Stands c bytes) (inbound : List UInt8) (t : UInt32) (ready : Bool) (rx : RxIo) (io : DispatchIo) :
    ∃ taken left, inbound = taken ++ left ∧ Framing.Waits (verdict c.bufferSize) bytes taken ∧
      ReaderCall c (fun c => c.heard t) (bytes ++ taken) left io true (c.pumpReader inbound t ready rx io) := by
  by_cases hnothing : c.rxPhase = .Idle ∧ ready = false
  · refine ⟨[], inbound, rfl, Framing.waits_nil, ?_⟩
    rw [pumpReader, if_pos hnothing, List.append_nil]
    exact .stays (.refl c) h
  · have hsame := c.beginPacket_same t
    have hphase := c.beginPacket_phase t
    have hbegun : c.pumpReader inbound t ready rx io = (c.beginPacket t).pumpReader inbound t ready rx io := by
      have htwice : (c.beginPacket t).beginPacket t = c.beginPacket t := by
        rw [beginPacket, if_neg hphase]
      have hbusy : ¬ ((c.beginPacket t).rxPhase = .Idle ∧ ready = false) := fun hidle => hphase hidle.1
      simp only [pumpReader, if_neg hnothing, if_neg hbusy, htwice]
    have hstands := h.begin t
    rw [hbegun]
    generalize c.beginPacket t = c₁ at hsame hphase hstands
    obtain ⟨taken, left, hinbound, hwaits, hend⟩ : ∃ taken left, inbound = taken ++ left ∧
        Framing.Waits (verdict c₁.bufferSize) bytes taken ∧
        ReaderCall c₁ (fun c => c.heard t) (bytes ++ taken) left io true (c₁.pumpReader inbound t ready rx io) := by
      have hsize₁ := hsame.bufferSize ▸ hsize
      cases hstands.reads with
      | header hreads =>
        have hheader : c₁.rxPhase = .Header := by
          cases hcase : c₁.rxPhase with
          | Idle => exact absurd hcase hphase
          | Header => rfl
          | Payload => exact absurd hcase hreads.phase
        exact pumpReader_header hsize₁ hheader hreads inbound t ready rx io
      | payload hreads =>
        obtain ⟨taken, left, hinbound, hwaits, hend⟩ := pumpPayload_call hsize₁ hreads inbound t .Incomplete rx io
        refine ⟨taken, left, hinbound, hwaits, ?_⟩
        have hbusy : ¬ (c₁.rxPhase = .Idle ∧ ready = false) := fun hidle => hphase hidle.1
        have hnot : c₁.rxPhase ≠ .Header := by
          rw [hreads.phase]
          exact RxPhase.noConfusion
        have htwice : c₁.beginPacket t = c₁ := by rw [beginPacket, if_neg hphase]
        have hpump : c₁.pumpReader inbound t ready rx io = c₁.pumpPayload inbound t .Incomplete rx io := by
          simp only [pumpReader, if_neg hbusy, htwice, if_neg hnot, bind, Option.bind]
          rw [if_neg (by simp)]
        rw [hpump]
        exact hend
    refine ⟨taken, left, hinbound, hsame.bufferSize ▸ hwaits, hend.of_same hsame⟩

end PubSubClient

end CanSystems
