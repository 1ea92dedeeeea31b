import Mathlib.Logic.Function.Iterate

/-!
# CRC-16

The bitwise checksum of `Crc16`. The initial value and the polynomial are fixed
when an object is built, so they are parameters of its type. Feeding a string in
pieces gives what feeding it whole gives (`next_append`).
-/

namespace CanSystems

structure Crc16 (initValue_ polynomial_ : UInt16) where
  crc_ : UInt16
  deriving DecidableEq, Repr

namespace Crc16

def defaultInitValue : UInt16 := 0
def defaultPolynomial : UInt16 := 0x1021

def shift (polynomial crc : UInt16) : UInt16 :=
  if crc &&& 0x8000 ≠ 0 then (crc <<< 1) ^^^ polynomial else crc <<< 1

def nextByte (polynomial crc : UInt16) (value : UInt8) : UInt16 :=
  (shift polynomial)^[8] (crc ^^^ (value.toUInt16 <<< 8))

variable {initValue_ polynomial_ : UInt16}

def init : Crc16 initValue_ polynomial_ := ⟨initValue_⟩

def next (c : Crc16 initValue_ polynomial_) (values : List UInt8) : Crc16 initValue_ polynomial_ :=
  ⟨values.foldl (nextByte polynomial_) c.crc_⟩

def get (c : Crc16 initValue_ polynomial_) : UInt16 := c.crc_

def reset (_ : Crc16 initValue_ polynomial_) : Crc16 initValue_ polynomial_ := init

def calculate (data : List UInt8) (initValue polynomial : UInt16) : UInt16 :=
  (next (init : Crc16 initValue polynomial) data).get

@[simp] theorem next_nil (c : Crc16 initValue_ polynomial_) : c.next [] = c := rfl

theorem next_append (c : Crc16 initValue_ polynomial_) (xs ys : List UInt8) :
    c.next (xs ++ ys) = (c.next xs).next ys := by
  simp [next]

end Crc16

abbrev ImageCrc := Crc16 Crc16.defaultInitValue Crc16.defaultPolynomial

def crcOf (data : List UInt8) : UInt16 :=
  Crc16.calculate data Crc16.defaultInitValue Crc16.defaultPolynomial

theorem get_next_init (data : List UInt8) : ((Crc16.init : ImageCrc).next data).get = crcOf data := rfl

example : crcOf [0x31, 0x32, 0x33, 0x34, 0x35, 0x36, 0x37, 0x38, 0x39] = 0x31C3 := by decide +kernel

end CanSystems
