/-
  The GPU STATUS word.

    0-3    texture page, X base in units of 64        16     368-pixel mode
    4      texture page, Y base in units of 256       17-18  horizontal resolution
    5-6    semi-transparency mode                     19     480 lines, when interlaced
    7-8    texture depth                              20     PAL
    9      dither                                     21     24-bit display
    10     drawing to the display area                22     interlace
    11     set the mask bit when drawing              23     display disabled
    12     keep masked pixels                         24     interrupt requested
    13     interlace field                            25     DMA request
    14     reverse flag                               26     ready for a command word
    15     textures disabled                          27     VRAM can be read
                                                      28     ready for a DMA block
                                                      29-30  DMA direction
                                                      31     beam on an odd line

  Bits 25, 26, 28 and 31 follow from the rest of the GPU at the moment the word is read; the stored
  word keeps whatever it had there at power-on.
-/
import PlayStation.Word

namespace PlayStation.Gpu

/-- A one-bit flag of the status word. -/
inductive StatusFlag where
  | dither
  | drawToDisplay
  | setMask
  | checkMask
  | interlaceField
  | reverse
  | textureDisable
  | wide368
  | vertical480
  | pal
  | depth24
  | interlace
  | displayDisabled
  | irq
  | dmaRequest
  | readyForCommand
  | readyToSend
  | readyForBlock
  | oddLine
deriving DecidableEq, Repr

/-- The bit a flag is stored in. -/
def StatusFlag.position : StatusFlag → UInt32
  | .dither => 9
  | .drawToDisplay => 10
  | .setMask => 11
  | .checkMask => 12
  | .interlaceField => 13
  | .reverse => 14
  | .textureDisable => 15
  | .wide368 => 16
  | .vertical480 => 19
  | .pal => 20
  | .depth24 => 21
  | .interlace => 22
  | .displayDisabled => 23
  | .irq => 24
  | .dmaRequest => 25
  | .readyForCommand => 26
  | .readyToSend => 27
  | .readyForBlock => 28
  | .oddLine => 31

/-- The status word. -/
structure Status where
  bits : UInt32
deriving DecidableEq, Repr

namespace Status

/-- At power-on: command and DMA block can be taken, interlace field set, display disabled. -/
def powerOn : Status := ⟨0x14802000⟩

instance : Inhabited Status := ⟨powerOn⟩

/-- The flag is set. -/
@[inline] def has (s : Status) (flag : StatusFlag) : Bool := Word.bit s.bits flag.position

/-- The status with a flag set or cleared. -/
@[inline] def put (s : Status) (flag : StatusFlag) (value : Bool) : Status :=
  ⟨Word.withBit s.bits flag.position value⟩

/-! ## Fields -/

/-- The part that a draw-mode word replaces: bits 0 to 10. -/
def texpage (s : Status) : UInt32 := s.bits &&& 0x7FF

/-- The status with bits 0 to 10 taken from `value`. -/
def setTexpage (s : Status) (value : UInt32) : Status := ⟨Word.merge s.bits 0x7FF value⟩

def texturePageX (s : Status) : Nat := Word.field s.bits 0 4
def texturePageY (s : Status) : Nat := Word.field s.bits 4 1
def semiTransparency (s : Status) : Nat := Word.field s.bits 5 2
def textureDepth (s : Status) : Nat := Word.field s.bits 7 2
def horizontalResolution (s : Status) : Nat := Word.field s.bits 17 2
def dmaDirection (s : Status) : Nat := Word.field s.bits 29 2

/-- The status with the DMA direction taken from the low two bits of `value`. -/
def setDmaDirection (s : Status) (value : UInt32) : Status :=
  ⟨Word.merge s.bits 0x60000000 (value <<< 29)⟩

/-- Spreads a display-mode word: its bits 0 to 7 go to 17, 18, 19, 20, 21, 22, 16 and 14. -/
def setDisplayMode (s : Status) (word : UInt32) : Status :=
  let resolved : Status := ⟨Word.merge s.bits 0x60000 (word <<< 17)⟩
  ((((((resolved.put .vertical480 (Word.bit word 2)).put .pal (Word.bit word 3)).put
    .depth24 (Word.bit word 4)).put .interlace (Word.bit word 5)).put
    .wide368 (Word.bit word 6)).put .reverse (Word.bit word 7))

/-! ## The displayed area -/

/-- The displayed width in pixels. -/
def displayWidth (s : Status) : Nat :=
  if s.has .wide368 then 368
  else
    match s.horizontalResolution with
    | 0 => 256
    | 1 => 320
    | 2 => 512
    | _ => 640

/-- The displayed height in lines: 480 takes both the flag and interlace. -/
def displayHeight (s : Status) : Nat :=
  if s.has .vertical480 && s.has .interlace then 480 else 240

end Status

end PlayStation.Gpu
