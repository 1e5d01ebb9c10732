/-
  GP0 COMMANDS, told apart by the top byte of their first word.

    00      nothing                    60-7F   rectangle
    01      clear the texture cache    80      copy within video memory
    02      fill a rectangle           A0      upload, then data words
    1F      interrupt request          C0      download
    20-3F   polygon                    E1-E6   drawing settings
    40-5F   line or polyline

  Every other byte is a command of one word that does nothing.  A command runs only when all its
  words are in the FIFO; how many these are follows from its first word alone.
-/
import PlayStation.Gpu.Line
import PlayStation.Gpu.Polygon
import PlayStation.Gpu.Rectangle

namespace PlayStation.Gpu

/-- What a command does. -/
inductive Command where
  | nothing
  | fill
  | interrupt
  | polygon (style : PolygonStyle)
  | line (style : LineStyle)
  | rectangle (style : RectangleStyle)
  | copy
  | upload
  | download
  | drawMode
  | textureWindow
  | areaTopLeft
  | areaBottomRight
  | drawingOffset
  | maskSettings
deriving DecidableEq, Repr

namespace Command

/-- The command that starts with a word. -/
def ofWord (w : UInt32) : Command :=
  let code := w >>> 24
  if code == 0x02 then .fill
  else if code == 0x1F then .interrupt
  else if code &&& 0xE0 == 0x20 then .polygon (.ofWord w)
  else if code &&& 0xE0 == 0x40 then .line (.ofWord w)
  else if code &&& 0xE0 == 0x60 then .rectangle (.ofWord w)
  else if code == 0x80 then .copy
  else if code == 0xA0 then .upload
  else if code == 0xC0 then .download
  else if code == 0xE1 then .drawMode
  else if code == 0xE2 then .textureWindow
  else if code == 0xE3 then .areaTopLeft
  else if code == 0xE4 then .areaBottomRight
  else if code == 0xE5 then .drawingOffset
  else if code == 0xE6 then .maskSettings
  else .nothing

/-- The number of words, the first included. -/
def length : Command → Nat
  | .fill => 3
  | .polygon style => style.length
  | .line style => style.length
  | .rectangle style => style.length
  | .copy => 4
  | .upload => 3
  | .download => 3
  | _ => 1

end Command

end PlayStation.Gpu
