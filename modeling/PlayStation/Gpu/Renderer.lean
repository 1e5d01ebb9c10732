/-
  The RENDERER: where primitives go.

  The GPU decodes commands into primitives and hands them on; it does not paint them.  A renderer
  is told of every primitive, of every move of the displayed area and of the end of every frame.
  One renderer ignores what it is told, the other keeps it in order.
-/
import PlayStation.Gpu.Line
import PlayStation.Gpu.Polygon
import PlayStation.Gpu.Rectangle
import PlayStation.Gpu.Vram

namespace PlayStation.Gpu

/-- A copy of what is on display. -/
structure Frame where
  /-- Where in video memory the displayed area begins. -/
  displayStart : Nat × Nat
  width : Nat
  height : Nat
  /-- Pixels have 24 bits. -/
  depth24 : Bool
  /-- The number of frames completed so far. -/
  number : Nat
  vram : Vram
deriving Inhabited

/-- Something a renderer is told. -/
inductive RenderCall where
  | polygon (polygon : Polygon)
  | rectangle (rectangle : Rectangle)
  | line (line : Line)
  | displayStart (x y : Nat)
  | endFrame (frame : Frame)

/-- A consumer of render calls. -/
inductive Renderer where
  /-- Ignores everything. -/
  | null
  /-- Keeps everything, in order. -/
  | recording (calls : Array RenderCall)
deriving Inhabited

namespace Renderer

/-- A recording renderer that has heard nothing yet. -/
def recorder : Renderer := .recording #[]

/-- Tells the renderer something. -/
def receive (r : Renderer) (call : RenderCall) : Renderer :=
  match r with
  | .null => .null
  | .recording calls => .recording (calls.push call)

/-- What was kept, in order. -/
def calls : Renderer → Array RenderCall
  | .null => #[]
  | .recording calls => calls

/-- Forgets what was kept. -/
def forget : Renderer → Renderer
  | .null => .null
  | .recording _ => .recording #[]

end Renderer

end PlayStation.Gpu
