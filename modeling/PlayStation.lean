import PlayStation.Main
import PlayStation.Proofs.Cpu.BranchDelay
import PlayStation.Proofs.Cpu.Exceptions
import PlayStation.Proofs.Cpu.Faults
import PlayStation.Proofs.Cpu.LoadDelay
import PlayStation.Proofs.Cpu.Requests
import PlayStation.Proofs.Dma.Bounds
import PlayStation.Proofs.Dma.Concurrent
import PlayStation.Proofs.Dma.InterruptEdge
import PlayStation.Proofs.Gpu.Pacing
import PlayStation.Proofs.Machine.Faults
import PlayStation.Proofs.Machine.CommandPort
import PlayStation.Proofs.Cpu.SetPc
import PlayStation.Proofs.Cpu.InterruptReturn
import PlayStation.Proofs.Cpu.CacheIsolation
import PlayStation.Proofs.Dma.Latched
import PlayStation.Proofs.Dma.BusHold
import PlayStation.Proofs.Machine.Reachable
import PlayStation.Proofs.Machine.Stepping
import PlayStation.Proofs.Memory.ByteStore
import PlayStation.Proofs.Gpu.Cursor
import PlayStation.Proofs.Gpu.Primitives
import PlayStation.Proofs.Gpu.Upload
import PlayStation.Proofs.Gpu.Polyline
import PlayStation.Proofs.Gpu.TexturePage
import PlayStation.Proofs.Gpu.Download
import PlayStation.Proofs.Gpu.MaskProtection
import PlayStation.Proofs.Gpu.Ring
import PlayStation.Proofs.Cpu.Buses
import PlayStation.Proofs.Machine.Alike
import PlayStation.Proofs.Machine.Configured
import PlayStation.Proofs.Machine.VideoTiming
import PlayStation.Proofs.Cpu.ExactArithmetic
import PlayStation.Proofs.Cpu.HostFaults
import PlayStation.Proofs.Dma.AddressRegister
import PlayStation.Proofs.Gpu.BoundedQueue
import PlayStation.Proofs.Memory.AccessWidths
import PlayStation.Proofs.Gpu.FillAndCopy
import PlayStation.Proofs.Timer.OneShot
import PlayStation.Proofs.Dma.NarrowStore
import PlayStation.Proofs.Gpu.Enumeration
import PlayStation.Proofs.Gpu.ReadBack
import PlayStation.Proofs.Gpu.DisplayStart
import PlayStation.Proofs.Settings.Variables
