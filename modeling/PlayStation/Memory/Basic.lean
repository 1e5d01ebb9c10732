/-
  The passive MEMORY behind the bus.

  Main RAM, scratchpad and BIOS are byte stores.  Device registers that have no device behind them
  are a fourth one, a latch: software reads back what it wrote.  The cache-control register is one
  word, whatever the width of the access.  The expansion slot is empty: its header reads as zero,
  so that the BIOS does not jump through it, and the rest as ones.

  An access first has to be aligned; only then is the address looked at.  An access that fails
  changes nothing.

  DMA reaches RAM directly, a word at a time, by a physical offset that wraps at 2 MB.
-/
import PlayStation.Memory.Bytes
import PlayStation.Memory.Region

namespace PlayStation

/-- The number of bytes of main RAM. -/
def ramSize : Nat := 0x200000

/-- The number of bytes of the scratchpad. -/
def scratchpadSize : Nat := 0x400

/-- The number of bytes of the latch behind the device registers. -/
def latchSize : Nat := 0x2000

/-- RAM, scratchpad, BIOS and latched registers. -/
structure Memory where
  ram : Vector UInt8 ramSize
  scratchpad : Vector UInt8 scratchpadSize
  bios : Vector UInt8 biosSize
  latch : Vector UInt8 latchSize
  cacheControl : UInt32

namespace Memory

/-- Zeroed memory with an empty BIOS. -/
def blank : Memory where
  ram := Vector.replicate ramSize 0
  scratchpad := Vector.replicate scratchpadSize 0
  bios := Vector.replicate biosSize 0
  latch := Vector.replicate latchSize 0
  cacheControl := 0

instance : Inhabited Memory := ⟨blank⟩

/-- Clears everything but the BIOS. -/
def reset (m : Memory) : Memory :=
  { blank with bios := m.bios }

/-- Puts an image into the BIOS, if it has the right size. -/
def loadBios (m : Memory) (image : ByteArray) : Except Fault Memory :=
  if h : image.data.size = biosSize then .ok { m with bios := ⟨image.data, h⟩ }
  else .error (.biosWrongSize image.data.size)

/-- Puts the image from a file into the BIOS; the file may be missing. -/
def loadBiosFile (m : Memory) (path : String) : Option ByteArray → Except Fault Memory
  | none => .error (.biosNotFound path)
  | some image => m.loadBios image

/-! ## Offsets into the stores -/

/-- Where in RAM a physical address lies; RAM is seen four times. -/
@[inline] def ramOffset (p : UInt32) : Nat := (p &&& 0x1FFFFF).toNat

/-- Where in the scratchpad a physical address lies. -/
@[inline] def scratchpadOffset (p : UInt32) : Nat := (p - 0x1F800000).toNat

/-- Where in the BIOS a physical address lies. -/
@[inline] def biosOffset (p : UInt32) : Nat := (p - 0x1FC00000).toNat

/-- Where in the latch a physical address lies. -/
@[inline] def latchOffset (p : UInt32) : Nat := (p - 0x1F801000).toNat

/-- What the empty expansion slot answers: zeros in its header, ones behind it. -/
@[inline] def expansionByte (p : UInt32) : UInt32 :=
  if p ≤ 0x1F0000FF then 0 else 0xFFFFFFFF

/-! ## Access by virtual address -/

/-- Reads from a virtual address. -/
def read (m : Memory) (width : AccessWidth) (address : UInt32) : Except Fault UInt32 :=
  if !width.isAligned address then .error (.misaligned address width.bytes)
  else
    let p := physical address
    match Region.of p with
    | .ram => .ok (readBytes m.ram (ramOffset p) width)
    | .scratchpad => .ok (readBytes m.scratchpad (scratchpadOffset p) width)
    | .bios => .ok (readBytes m.bios (biosOffset p) width)
    | .io => .ok (readBytes m.latch (latchOffset p) width)
    | .cacheControl => .ok (m.cacheControl &&& width.mask)
    | .expansion => .ok (expansionByte p &&& width.mask)
    | .unmapped => .error (.unmapped address)

/-- Writes the low bytes of `value` to a virtual address. -/
def write (m : Memory) (width : AccessWidth) (address value : UInt32) : Outcome Memory :=
  if !width.isAligned address then .stopped (.misaligned address width.bytes) m
  else
    let p := physical address
    match Region.of p with
    | .ram => .done { m with ram := writeBytes m.ram (ramOffset p) value width }
    | .scratchpad =>
      .done { m with scratchpad := writeBytes m.scratchpad (scratchpadOffset p) value width }
    | .io => .done { m with latch := writeBytes m.latch (latchOffset p) value width }
    | .cacheControl => .done { m with cacheControl := value &&& width.mask }
    | .bios | .expansion => .done m
    | .unmapped => .stopped (.unmapped address) m

instance : Bus Memory where
  load width address m := (m.read width address, m)
  store width address value m := m.write width address value

/-! ## Access by RAM offset, for DMA -/

/-- The word-aligned RAM offset that a DMA address stands for. -/
@[inline] def wordOffset (address : UInt32) : Nat := (address &&& 0x1FFFFC).toNat

/-- The RAM word at a DMA address. -/
@[inline] def ramWord (m : Memory) (address : UInt32) : UInt32 :=
  readBytes m.ram (wordOffset address) .word

/-- Replaces the RAM word at a DMA address. -/
@[inline] def setRamWord (m : Memory) (address value : UInt32) : Memory :=
  { m with ram := writeBytes m.ram (wordOffset address) value .word }

end Memory

end PlayStation
