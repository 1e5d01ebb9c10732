/-
  TRANSFERS under way.

  A transfer moves one word at a time and keeps its place in between.  Block transfers count words
  within a block and blocks.  List transfers walk through packets chained in RAM: a header word
  with the number of payload words above and the address of the next packet below, then the
  payload.  The chain ends at a header that points to 0xFFFFFF.
-/

namespace PlayStation.Dma

/-- The bits of an address that name a word of RAM. -/
def ramWordMask : UInt32 := 0x1FFFFC

/-- The pointer that ends a list. -/
def listEnd : UInt32 := 0xFFFFFF

/-- A place in a block transfer. -/
structure Block where
  /-- The word that is moved next. -/
  address : UInt32
  /-- The distance from a word to the next one. -/
  step : UInt32
  /-- The number of words of a whole block. -/
  size : Nat
  /-- The number of words left in this block. -/
  remaining : Nat
  /-- The number of blocks left, this one included. -/
  blocks : Nat
deriving DecidableEq, Repr, Inhabited

namespace Block

/-- The next word is the last one. -/
def isLast (b : Block) : Bool := b.remaining == 1 && b.blocks == 1

/-- The address behind the next word. -/
def nextAddress (b : Block) : UInt32 := (b.address + b.step) &&& ramWordMask

/-- The place behind the next word; none when that was the last. -/
def next? (b : Block) : Option Block :=
  if b.remaining = 1 then
    if b.blocks = 1 then none
    else some { b with address := b.nextAddress, remaining := b.size, blocks := b.blocks - 1 }
  else some { b with address := b.nextAddress, remaining := b.remaining - 1 }

end Block

/-- What the next word of a list transfer is. -/
inductive ListPhase where
  /-- The header of a packet. -/
  | header
  /-- A payload word, with the number of those left and the packet behind them. -/
  | payload (remaining : Nat) (next : UInt32)
deriving DecidableEq, Repr, Inhabited

/-- A transfer under way. -/
inductive Transfer where
  | block (block : Block)
  | list (address : UInt32) (phase : ListPhase)
deriving DecidableEq, Repr, Inhabited

/-- What became of one step of a transfer. -/
inductive Progress where
  /-- The device was not ready, and nothing was done. -/
  | waiting
  /-- A word was moved, and there are more. -/
  | busy
  /-- The last word was moved. -/
  | complete
deriving DecidableEq, Repr, Inhabited

end PlayStation.Dma
