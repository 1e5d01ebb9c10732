/-
  A SNAPSHOT of the machine's registers, as a document.

  It holds what a debugger shows: the registers as software would read them, the place of the
  beam, and how long the machine has run.
-/
import PlayStation.Machine.Basic
import PlayStation.Text.Json

namespace PlayStation

open Text (Json)

/-- A register of up to 32 bits. -/
def wordJson (w : UInt32) : Json := .number w.toNat

/-- The processor's registers. -/
def Cpu.toJson (cpu : Cpu) : Json :=
  .record
    [("pc", wordJson cpu.pc),
     ("hi", wordJson cpu.hiLo.hi),
     ("lo", wordJson cpu.hiLo.lo),
     ("regs", .list (cpu.regs.toList.map wordJson)),
     ("sr", wordJson cpu.system.status),
     ("cause", wordJson cpu.system.cause),
     ("epc", wordJson cpu.system.epc),
     ("bad_vaddr", wordJson cpu.system.badAddress)]

/-- A channel's registers. -/
def Dma.Channel.toJson (c : Dma.Channel) : Json :=
  .record
    [("madr", wordJson c.madr),
     ("brc", wordJson c.brc),
     ("chcr", wordJson c.control)]

/-- The DMA registers. -/
def Dma.toJson (dma : Dma) : Json :=
  .record
    [("channels", .list (dma.channels.toList.map Dma.Channel.toJson)),
     ("dpcr", wordJson dma.dpcr.bits),
     ("dicr", wordJson dma.dicr.read),
     ("accessing_memory", .truth dma.accessing)]

/-- The state of the GPU. -/
def Gpu.toJson (gpu : Gpu) : Json :=
  .record
    [("status", wordJson gpu.statusWord),
     ("fifo_len", .number gpu.fifo.size),
     ("display_start", .list [.number gpu.displayStart.1, .number gpu.displayStart.2]),
     ("frame", .number gpu.beam.frame),
     ("scanline", .number gpu.beam.line)]

/-- The interrupt registers. -/
def InterruptController.toJson (c : InterruptController) : Json :=
  .record
    [("status", .number c.status.bits.toNat),
     ("mask", .number c.mask.bits.toNat)]

/-- The registers of the machine. -/
def Machine.snapshot (m : Machine) : Json :=
  .record
    [("ticks", .number m.ticks),
     ("cpu", m.cpu.toJson),
     ("dma", m.devices.dma.toJson),
     ("gpu", m.devices.gpu.toJson),
     ("interrupts", m.devices.interrupts.toJson)]

end PlayStation
