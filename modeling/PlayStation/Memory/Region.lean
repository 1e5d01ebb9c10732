/-
  The physical MEMORY MAP.

  The segments of the virtual address space all alias one physical space of 512 MB, so a physical
  address is a virtual one without its top three bits.  The cache-control register, at 0xFFFE0130,
  is found at 0x1FFE0130 in the same way.

    0x00000000-0x007FFFFF   main RAM, 2 MB seen four times
    0x1F000000-0x1F7FFFFF   expansion slot, nothing attached
    0x1F800000-0x1F8003FF   scratchpad
    0x1F801000-0x1F802FFF   device registers
    0x1FC00000-0x1FC7FFFF   BIOS
    0x1FFE0130              cache control
-/

namespace PlayStation

/-- The physical address behind a virtual one. -/
@[inline] def physical (address : UInt32) : UInt32 :=
  address &&& 0x1FFFFFFF

/-- What answers at a physical address. -/
inductive Region where
  | ram
  | scratchpad
  /-- Device registers. -/
  | io
  | bios
  | cacheControl
  | expansion
  | unmapped
deriving DecidableEq, Repr, Inhabited

/-- The region of a physical address. -/
def Region.of (p : UInt32) : Region :=
  if p ≤ 0x007FFFFF then .ram
  else if 0x1F000000 ≤ p && p ≤ 0x1F7FFFFF then .expansion
  else if 0x1F800000 ≤ p && p ≤ 0x1F8003FF then .scratchpad
  else if 0x1F801000 ≤ p && p ≤ 0x1F802FFF then .io
  else if 0x1FC00000 ≤ p && p ≤ 0x1FC7FFFF then .bios
  else if p == 0x1FFE0130 then .cacheControl
  else .unmapped

end PlayStation
