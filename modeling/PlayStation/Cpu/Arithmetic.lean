/-
  INTEGER ARITHMETIC on 32-bit registers.

  A register holds 32 bits and each instruction decides how to read them.  Addition and subtraction
  wrap; the trapping forms `add?` and `sub?` answer `none` when the signed result would not fit,
  which shows in the signs alone: two operands of one sign whose sum has the other.

  Products are 64 bits wide and land in the pair HI:LO.  Division puts the quotient, cut off toward
  zero, into LO and the remainder into HI.  It never traps: dividing by zero leaves the dividend in
  HI and a quotient of all ones, or of one for a negative dividend; and in place of the one signed
  quotient that does not fit, that of -2^31 by -1, the dividend is left.
-/

namespace PlayStation

/-- The sign bit. -/
@[inline] def isNegative (a : UInt32) : Bool := a >>> 31 != 0

/-- The signed sum, or nothing if it does not fit. -/
def add? (a b : UInt32) : Option UInt32 :=
  let sum := a + b
  if isNegative a == isNegative b && isNegative sum != isNegative a then none else some sum

/-- The signed difference, or nothing if it does not fit. -/
def sub? (a b : UInt32) : Option UInt32 :=
  let difference := a - b
  if isNegative a != isNegative b && isNegative difference != isNegative a then none
  else some difference

/-- Signed comparison. -/
@[inline] def lessSigned (a b : UInt32) : Bool := a.toInt32 < b.toInt32

/-- One for true, zero for false. -/
@[inline] def flagWord (b : Bool) : UInt32 := if b then 1 else 0

/-- Shift to the right that repeats the sign bit. -/
@[inline] def shiftRightSigned (a amount : UInt32) : UInt32 :=
  (a.toInt32 >>> amount.toInt32).toUInt32

/-- The register pair that holds products and quotients. -/
structure HiLo where
  hi : UInt32
  lo : UInt32
deriving DecidableEq, Repr, Inhabited

namespace HiLo

/-- The two halves of a 64-bit number. -/
def ofProduct (product : UInt64) : HiLo := ⟨(product >>> 32).toUInt32, product.toUInt32⟩

/-- The signed product. -/
def mulSigned (a b : UInt32) : HiLo :=
  ofProduct (a.toInt32.toInt64 * b.toInt32.toInt64).toUInt64

/-- The unsigned product. -/
def mulUnsigned (a b : UInt32) : HiLo :=
  ofProduct (a.toUInt64 * b.toUInt64)

/-- Signed quotient and remainder. -/
def divSigned (n d : UInt32) : HiLo :=
  if d == 0 then ⟨n, if isNegative n then 1 else 0xFFFFFFFF⟩
  else if n == 0x80000000 && d == 0xFFFFFFFF then ⟨0, 0x80000000⟩
  else ⟨(n.toInt32 % d.toInt32).toUInt32, (n.toInt32 / d.toInt32).toUInt32⟩

/-- Unsigned quotient and remainder. -/
def divUnsigned (n d : UInt32) : HiLo :=
  if d == 0 then ⟨n, 0xFFFFFFFF⟩ else ⟨n % d, n / d⟩

end HiLo

end PlayStation
