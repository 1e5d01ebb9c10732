/-
  LITTLE-ENDIAN access to a fixed number of bytes.

  `readBytes` and `writeBytes` move one, two or four bytes of a byte vector at an offset, lowest
  byte first.  Both are total: beyond the end reads give zero and writes do nothing.  The memory
  above only ever asks for offsets inside, which is a fact about its address decoding and not a
  check made here.
-/
import PlayStation.Bus

namespace PlayStation

variable {n : Nat}

/-- The byte at an offset, widened to a word. -/
@[inline] def byteAt (bytes : Vector UInt8 n) (offset : Nat) : UInt32 :=
  (bytes.getD offset 0).toUInt32

/-- Byte `k` of a word, counted from the lowest. -/
@[inline] def byteOf (value : UInt32) (k : UInt32) : UInt8 :=
  (value >>> (8 * k)).toUInt8

/-- The bytes from `offset` on, as one little-endian number. -/
def readBytes (bytes : Vector UInt8 n) (offset : Nat) : AccessWidth → UInt32
  | .byte => byteAt bytes offset
  | .half => byteAt bytes offset ||| (byteAt bytes (offset + 1) <<< 8)
  | .word =>
    byteAt bytes offset ||| (byteAt bytes (offset + 1) <<< 8)
      ||| (byteAt bytes (offset + 2) <<< 16) ||| (byteAt bytes (offset + 3) <<< 24)

/-- Replaces the bytes from `offset` on by the low bytes of `value`, lowest first. -/
def writeBytes (bytes : Vector UInt8 n) (offset : Nat) (value : UInt32) :
    AccessWidth → Vector UInt8 n
  | .byte => bytes.setIfInBounds offset (byteOf value 0)
  | .half =>
    (bytes.setIfInBounds offset (byteOf value 0)).setIfInBounds (offset + 1) (byteOf value 1)
  | .word =>
    ((((bytes.setIfInBounds offset (byteOf value 0)).setIfInBounds (offset + 1)
      (byteOf value 1)).setIfInBounds (offset + 2) (byteOf value 2)).setIfInBounds (offset + 3)
      (byteOf value 3))

end PlayStation
