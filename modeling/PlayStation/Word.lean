/-
  32-bit WORDS, read as packed records.

  Every register of the machine is a `UInt32`.  Two readings of a word recur everywhere:

  * `bit w n`        : the flag in bit `n`;
  * `field w s n`    : the `n`-bit unsigned number that starts at bit `s`.

  `withBit` writes a flag and leaves the other 31 bits alone.
-/

namespace PlayStation.Word

/-- The flag in bit `n` of `w`. -/
@[inline] def bit (w : UInt32) (n : UInt32) : Bool :=
  (w >>> n) &&& 1 != 0

/-- The unsigned number held in the `width` bits of `w` from bit `start` on. -/
@[inline] def field (w : UInt32) (start width : Nat) : Nat :=
  (w.toNat >>> start) % (1 <<< width)

/-- The word `w` with bit `n` set to `value`. -/
@[inline] def withBit (w : UInt32) (n : UInt32) (value : Bool) : UInt32 :=
  if value then w ||| (1 <<< n) else w &&& ~~~(1 <<< n)

/-- The word `w` with the bits of `mask` taken from `value`. -/
@[inline] def merge (w mask value : UInt32) : UInt32 :=
  (w &&& ~~~mask) ||| (value &&& mask)

/-! ## Sign extension -/

/-- The low byte of `w`, read as a signed number and widened to 32 bits. -/
@[inline] def signExtendByte (w : UInt32) : UInt32 :=
  w.toUInt8.toInt8.toInt32.toUInt32

/-- The low halfword of `w`, read as a signed number and widened to 32 bits. -/
@[inline] def signExtendHalf (w : UInt32) : UInt32 :=
  w.toUInt16.toInt16.toInt32.toUInt32

/-! ## Text -/

/-- One hexadecimal digit, upper case. -/
def hexDigit (n : Nat) : Char :=
  if n < 10 then Char.ofNat (48 + n) else Char.ofNat (55 + n)

/-- All eight hexadecimal digits of `w`, most significant first. -/
def hex (w : UInt32) : String :=
  String.ofList ([28, 24, 20, 16, 12, 8, 4, 0].map fun start => hexDigit (field w start 4))

end PlayStation.Word
