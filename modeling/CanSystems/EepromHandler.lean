import CanSystems.CrcBursts
import Mathlib.Data.Vector.Basic

/-!
# Records in the EEPROM

`EEPROMHandler` keeps one value with a checksum before it. The checksum is taken
over the record with its own field cleared. What the cells hold after a `put` is
up to the chip: `save` reads the record back and says whether it is there.
-/

namespace CanSystems

structure Layout (T : Type*) (size : Nat) where
  bytes : T → Vector UInt8 size
  value : Vector UInt8 size → T
  value_bytes : ∀ x, value (bytes x) = x

@[ext] structure EEPROMData (size : Nat) where
  crc : UInt16
  data : Vector UInt8 size
  deriving DecidableEq

namespace EEPROMData

variable {size : Nat}

def bytes (record : EEPROMData size) : List UInt8 :=
  [record.crc.toUInt8, (record.crc >>> 8).toUInt8] ++ record.data.toList

def checksumOf (record : EEPROMData size) : UInt16 := crcOf { record with crc := 0 }.bytes

end EEPROMData

/-- The cells, and on a chip whose EEPROM is a copy of a flash sector whether it has been set up. -/
structure Eeprom where
  cells : Nat → UInt8
  eepromInitialised : Bool

/-- What the EEPROM does: whether it can be set up, what the cells hold after bytes are put at an address, and
whether they are committed. -/
structure EepromIo where
  begins : Bool
  put : (Nat → UInt8) → Nat → List UInt8 → Nat → UInt8
  commits : Bool

def EepromIo.Works (io : EepromIo) : Prop :=
  io.begins = true ∧ io.commits = true ∧
    ∀ cells address bytes (i : Fin bytes.length), io.put cells address bytes (address + i) = bytes.get i

def EepromIo.ideal : EepromIo where
  begins := true
  put := fun cells address bytes a =>
    if address ≤ a ∧ a < address + bytes.length then bytes.getD (a - address) 0 else cells a
  commits := true

theorem EepromIo.ideal_works : EepromIo.ideal.Works := by
  refine ⟨rfl, rfl, fun cells address bytes i => ?_⟩
  have hi := i.isLt
  simp only [EepromIo.ideal]
  rw [if_pos ⟨by omega, by omega⟩, Nat.add_sub_cancel_left]
  simp

namespace EEPROMHandler

variable {T : Type*} {size : Nat}

/-- `esp`: the builds for the ESP8266 and the ESP32. -/
def init (esp : Bool) (e : Eeprom) (io : EepromIo) : Bool × Eeprom :=
  if esp = false then (true, e) else
  if e.eepromInitialised then (true, e) else (io.begins, { e with eepromInitialised := io.begins })

def get (cells : Nat → UInt8) (eepromAddress : Nat) : EEPROMData size where
  crc := (cells eepromAddress).toUInt16 ||| ((cells (eepromAddress + 1)).toUInt16 <<< 8)
  data := Vector.ofFn fun i => cells (eepromAddress + 2 + i)

/-- The record that `save` writes. -/
def recordOf (layout : Layout T size) (data : T) : EEPROMData size :=
  let eepromData : EEPROMData size := ⟨0, layout.bytes data⟩
  { eepromData with crc := eepromData.checksumOf }

def save (layout : Layout T size) (eepromAddress : UInt16) (esp : Bool) (e : Eeprom) (data : Option T)
    (io : EepromIo) :
    Bool × Eeprom :=
  match init esp e io with
  | (false, e) => (false, e)
  | (true, e) =>
    match data with
    | none => (false, e)
    | some data =>
      let eepromData := recordOf layout data
      let e := { e with cells := io.put e.cells eepromAddress.toNat eepromData.bytes }
      if esp && !io.commits then (false, e) else (decide (eepromData = get e.cells eepromAddress.toNat), e)

/-- `data`: there is a place to load to; the value loaded comes with the answer. -/
def load (layout : Layout T size) (eepromAddress : UInt16) (esp : Bool) (e : Eeprom) (data : Bool) (io : EepromIo) :
    Bool × Option T × Eeprom :=
  match init esp e io with
  | (false, e) => (false, none, e)
  | (true, e) =>
    if data = false then (false, none, e) else
    let eepromData : EEPROMData size := get e.cells eepromAddress.toNat
    if eepromData.crc = eepromData.checksumOf then (true, some (layout.value eepromData.data), e) else
      (false, none, e)

/-! ## The checksum of a record -/

theorem recordOf_checks (layout : Layout T size) (data : T) :
    (recordOf layout data).crc = (recordOf layout data).checksumOf := by
  simp only [recordOf, EEPROMData.checksumOf]

theorem checksumOf_ne {record record' : EEPROMData size}
    (hburst : Crc16.DifferInBurst record.data.toList record'.data.toList) (hne : record.data ≠ record'.data) :
    record.checksumOf ≠ record'.checksumOf := by
  refine Crc16.calculate_ne (hburst.append _) ?_ _
  intro heq
  exact hne (Vector.toList_inj.mp (List.append_cancel_left heq))

/-! ## Loading -/

def Ready (esp : Bool) (e : Eeprom) : Prop := esp = true → e.eepromInitialised = true

theorem init_ready {esp : Bool} {e : Eeprom} (h : Ready esp e) (io : EepromIo) : init esp e io = (true, e) := by
  cases esp with
  | false => rfl
  | true => simp [init, h rfl]

theorem load_ready {esp : Bool} {e : Eeprom} (h : Ready esp e) (layout : Layout T size) (eepromAddress : UInt16)
    (io : EepromIo) {record : EEPROMData size} (hrecord : get e.cells eepromAddress.toNat = record) :
    load layout eepromAddress esp e true io =
      if record.crc = record.checksumOf then (true, some (layout.value record.data), e) else (false, none, e) := by
  simp only [load, init_ready h, hrecord, Bool.true_eq_false, if_false]

/-! ## Saving -/

theorem ready_of_init {esp : Bool} {e e' : Eeprom} {io : EepromIo} (h : init esp e io = (true, e')) :
    Ready esp e' := by
  rintro rfl
  simp only [init, Bool.true_eq_false, if_false] at h
  split at h
  · rename_i hready
    cases h
    exact hready
  · rw [Prod.mk.injEq] at h
    rw [← h.2]
    exact h.1

theorem save_ok {layout : Layout T size} {eepromAddress : UInt16} {esp : Bool} {e e' : Eeprom} {data : T}
    {io : EepromIo}
    (h : save layout eepromAddress esp e (some data) io = (true, e')) :
    Ready esp e' ∧ get e'.cells eepromAddress.toNat = recordOf layout data := by
  rcases hinit : init esp e io with ⟨_ | _, e₁⟩
  · simp only [save, hinit] at h
    cases h
  have hready := ready_of_init hinit
  simp only [save, hinit] at h
  split at h
  · cases h
  · rw [Prod.mk.injEq, decide_eq_true_eq] at h
    obtain ⟨hread, rfl⟩ := h
    exact ⟨hready, hread.symm⟩

theorem toNat_halves (crc : UInt16) : crc.toUInt8.toUInt16 ||| ((crc >>> 8).toUInt8.toUInt16 <<< 8) = crc := by
  apply UInt16.toBitVec_inj.mp
  simp only [UInt16.toBitVec_or, UInt16.toBitVec_shiftLeft, UInt16.toBitVec_shiftRight, UInt8.toBitVec_toUInt16,
    UInt16.toBitVec_toUInt8]
  ext i hi
  simp
  grind

theorem get_put {io : EepromIo} (hworks : io.Works) (cells : Nat → UInt8) (address : Nat)
    (record : EEPROMData size) :
    get (io.put cells address record.bytes) address = record := by
  have hput := hworks.2.2 cells address record.bytes
  have hlen : record.bytes.length = size + 2 := by simp [EEPROMData.bytes]
  have hlow : io.put cells address record.bytes address = record.crc.toUInt8 := hput ⟨0, by omega⟩
  have hhigh : io.put cells address record.bytes (address + 1) = (record.crc >>> 8).toUInt8 := hput ⟨1, by omega⟩
  have hdata : ∀ i : Fin size, io.put cells address record.bytes (address + 2 + i) = record.data.get i := by
    intro i
    have hi := hput ⟨i + 2, by omega⟩
    rw [show address + (i + 2) = address + 2 + i by omega] at hi
    exact hi
  have hcrc : (get (io.put cells address record.bytes) address : EEPROMData size).crc = record.crc := by
    rw [get, hlow, hhigh]
    exact toNat_halves record.crc
  have hall : (get (io.put cells address record.bytes) address : EEPROMData size).data = record.data := by
    apply Vector.ext
    intro i hi
    simp only [get, Vector.getElem_ofFn]
    exact hdata ⟨i, hi⟩
  exact EEPROMData.ext hcrc hall

theorem save_works {layout : Layout T size} {io : EepromIo} (hworks : io.Works) (eepromAddress : UInt16)
    (esp : Bool)
    (e : Eeprom) (data : T) : (save layout eepromAddress esp e (some data) io).1 = true := by
  have hinit : (init esp e io).1 = true := by
    unfold init
    split
    · rfl
    split
    · rfl
    · exact hworks.1
  rcases hstart : init esp e io with ⟨ok, e₁⟩
  rw [hstart] at hinit
  obtain rfl : ok = true := hinit
  simp only [save, hstart, hworks.2.1, get_put hworks, Bool.not_true, Bool.and_false, Bool.false_eq_true, if_false,
    decide_true]

/-- A checksum tells any burst from what was there before, in pieces or at once; a record that was saved loads as
the value it was saved for, an EEPROM that works takes every save, and no burst in the saved data bytes loads. -/
theorem bursts_detected (initValue : UInt16) (layout : Layout T size) (eepromAddress : UInt16) (esp : Bool)
    (e : Eeprom)
    (data : T) (io : EepromIo) :
    (∀ xs ys, Crc16.DifferInBurst xs ys → xs ≠ ys →
      Crc16.calculate xs initValue Crc16.defaultPolynomial ≠ Crc16.calculate ys initValue Crc16.defaultPolynomial) ∧
    (∀ chunks : List (List UInt8), (chunks.foldl Crc16.next (.init : Crc16 initValue Crc16.defaultPolynomial)).get =
      Crc16.calculate chunks.flatten initValue Crc16.defaultPolynomial) ∧
    (io.Works → (save layout eepromAddress esp e (some data) io).1 = true) ∧
    ∀ e', save layout eepromAddress esp e (some data) io = (true, e') →
      (∀ io', load layout eepromAddress esp e' true io' = (true, some data, e')) ∧
      ∀ cells io', let record : EEPROMData size := get e'.cells eepromAddress.toNat
        let record' : EEPROMData size := get cells eepromAddress.toNat
        record'.crc = record.crc → Crc16.DifferInBurst record.data.toList record'.data.toList →
          record.data ≠ record'.data →
          (load layout eepromAddress esp { e' with cells := cells } true io').1 = false := by
  refine ⟨fun xs ys hburst hne => Crc16.calculate_ne hburst hne initValue, fun chunks => ?_,
    fun hworks => save_works hworks _ _ _ _, ?_⟩
  · rw [Crc16.foldl_next]
    rfl
  intro e' hsave
  obtain ⟨hready, hrecord⟩ := save_ok hsave
  refine ⟨fun io' => ?_, ?_⟩
  · rw [load_ready hready layout eepromAddress io' hrecord, if_pos (recordOf_checks layout data)]
    simp only [recordOf, layout.value_bytes]
  · intro cells io' record record' hcrc hburst hne
    have hready' : Ready esp { e' with cells := cells } := hready
    have hchecks : record'.crc ≠ record'.checksumOf := by
      have hsaved : record.crc = record.checksumOf := by
        rw [show record = recordOf layout data from hrecord]
        exact recordOf_checks layout data
      rw [hcrc, hsaved]
      exact checksumOf_ne hburst hne
    rw [load_ready hready' layout eepromAddress io' rfl, if_neg hchecks]

/-- A byte is saved and loads, and does not load once its lowest bit is changed. -/
theorem bursts_detected_byte :
    ∃ e', save ⟨fun x => #v[x], fun bytes => bytes.head, fun _ => rfl⟩ 10 true ⟨fun _ => 0xFF, false⟩
      (some (0x42 : UInt8))
        .ideal = (true, e') ∧
      load ⟨fun x => #v[x], fun bytes => bytes.head, fun _ => rfl⟩ 10 true e' true .ideal =
        (true, some (0x42 : UInt8), e') ∧
      (load (⟨fun x => #v[x], fun bytes => bytes.head, fun _ => rfl⟩ : Layout UInt8 1) 10 true
        { e' with cells := fun a => if a = 12 then e'.cells 12 ^^^ 1 else e'.cells a } true .ideal).1 = false := by
  obtain ⟨-, -, hsaves, hloads⟩ :=
    bursts_detected 0 ⟨fun x => #v[x], fun bytes => bytes.head, fun _ => rfl⟩ 10 true ⟨fun _ => 0xFF, false⟩
      (0x42 : UInt8) .ideal
  have hsaved := hsaves EepromIo.ideal_works
  generalize save _ 10 true _ _ _ = result at hsaved hloads ⊢
  obtain ⟨ok, e'⟩ := result
  obtain rfl : ok = true := hsaved
  refine ⟨e', rfl, (hloads e' rfl).1 _,
    (hloads e' rfl).2 (fun a => if a = 12 then e'.cells 12 ^^^ 1 else e'.cells a) .ideal ?_ ?_ ?_⟩
  · rfl
  · exact ⟨[], Crc16.bitsOf (e'.cells 12), Crc16.bitsOf (e'.cells 12 ^^^ 1), [], rfl, rfl,
      rfl, by rw [Crc16.length_bitsOf]; decide⟩
  · intro heq
    have hbyte : e'.cells 12 = e'.cells 12 ^^^ 1 := congrArg (fun bytes : Vector UInt8 1 => bytes[0]) heq
    have hbit := congrArg (fun x : UInt8 => x.toBitVec.getLsbD 0) hbyte
    simp at hbit

end EEPROMHandler

end CanSystems
