/-
  The registers of coprocessor 2, the geometry engine.

  Values can be moved in and out; the engine's commands are not executed.
-/
import PlayStation.Table

namespace PlayStation

/-- Thirty-two data and thirty-two control registers. -/
structure GeometryRegisters where
  data : Table UInt32 32
  control : Table UInt32 32
deriving DecidableEq, Repr

namespace GeometryRegisters

/-- All registers zero. -/
def reset : GeometryRegisters := ⟨Vector.replicate 32 0, Vector.replicate 32 0⟩

instance : Inhabited GeometryRegisters := ⟨reset⟩

def setData (g : GeometryRegisters) (index : Fin 32) (value : UInt32) : GeometryRegisters :=
  { g with data := g.data.put index value }

def setControl (g : GeometryRegisters) (index : Fin 32) (value : UInt32) : GeometryRegisters :=
  { g with control := g.control.put index value }

end GeometryRegisters

end PlayStation
