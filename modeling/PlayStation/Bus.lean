/-
  The BUS between the processor and everything it can address.

  An access names a width and a virtual address.  Both loads and stores may change the bus, since
  some device registers react to being read; both may be refused.  A refused access still returns
  the bus, so nothing is lost when a fault stops a step in the middle.

  `Guarded` is the bus combinator for "this one word is broken": it refuses every access to a
  given word with a given fault and passes all others on.
-/
import PlayStation.Fault

namespace PlayStation

/-- How many bytes an access moves. -/
inductive AccessWidth where
  | byte
  | half
  | word
deriving DecidableEq, Repr, Inhabited

namespace AccessWidth

/-- The number of bytes. -/
def bytes : AccessWidth → Nat
  | .byte => 1
  | .half => 2
  | .word => 4

/-- The bits of a word that an access of this width can hold. -/
def mask : AccessWidth → UInt32
  | .byte => 0xFF
  | .half => 0xFFFF
  | .word => 0xFFFFFFFF

/-- An address is aligned when it is a multiple of the width. -/
@[inline] def isAligned (width : AccessWidth) (address : UInt32) : Bool :=
  match width with
  | .byte => true
  | .half => address &&& 1 == 0
  | .word => address &&& 3 == 0

end AccessWidth

/-- Something that answers loads and stores. -/
class Bus (β : Type) where
  /-- Reads the bytes at an address, little-endian, in the low bits of the answer. -/
  load : AccessWidth → UInt32 → β → Except Fault UInt32 × β
  /-- Writes the low bytes of a value to an address. -/
  store : AccessWidth → UInt32 → UInt32 → β → Outcome β

/-- A bus on which one word is broken. -/
structure Guarded (β : Type) where
  inner : β
  /-- The address of the broken word, if there is one. -/
  word : Option UInt32
  /-- What an access to that word reports. -/
  fault : Fault

namespace Guarded

/-- The access falls into the broken word. -/
def refuses {β : Type} (bus : Guarded β) (address : UInt32) : Bool :=
  bus.word == some (address &&& ~~~3)

instance {β : Type} [Bus β] : Bus (Guarded β) where
  load width address bus :=
    if bus.refuses address then (.error bus.fault, bus)
    else
      let (answer, inner) := Bus.load width address bus.inner
      (answer, { bus with inner })
  store width address value bus :=
    if bus.refuses address then .stopped bus.fault bus
    else
      let ⟨inner, fault⟩ := Bus.store width address value bus.inner
      ⟨{ bus with inner }, fault⟩

end Guarded

end PlayStation
