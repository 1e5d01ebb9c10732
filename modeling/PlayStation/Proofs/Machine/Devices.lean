/-
  What MEMORY AND DEVICES make of an access.

  An access falls to memory or to one device register.  Memory refuses it where nothing lies, and
  both refuse it when it is not aligned; nothing else goes wrong (`obliging_devices`).

  A load leaves memory alone (`memory_load`).  And of all accesses, only those to the two registers
  of the GPU have to do with it: each is one operation of the GPU (`gpu_perform`).
-/
import PlayStation.Machine.Devices
import PlayStation.Proofs.Cpu.Faults
import PlayStation.Proofs.Cpu.Requests
import PlayStation.Proofs.Gpu.Reachable

namespace PlayStation.Devices

variable {width : AccessWidth} {address value : UInt32} {register : DeviceRegister} (d : Devices)

/-! ## Where an access goes -/

theorem load_of_memory (h : DeviceRegister.of? (physical address) = none) :
    Bus.load width address d = (d.memory.read width address, d) := by
  show d.load width address = _
  simp only [Devices.load, h]

theorem load_of_register (h : DeviceRegister.of? (physical address) = some register)
    (haligned : width.isAligned address = true) :
    Bus.load width address d =
      (.ok (((d.readRegister register).1 >>> laneShift (physical address)) &&& width.mask),
        (d.readRegister register).2) := by
  show d.load width address = _
  simp only [Devices.load, h, haligned]
  rfl

theorem load_of_misaligned (h : DeviceRegister.of? (physical address) = some register)
    (hmisaligned : width.isAligned address = false) :
    Bus.load width address d = (.error (.misaligned address width.bytes), d) := by
  show d.load width address = _
  simp only [Devices.load, h, hmisaligned]
  rfl

theorem store_of_memory (h : DeviceRegister.of? (physical address) = none) :
    Bus.store width address value d =
      { state := { d with memory := (d.memory.write width address value).state }
        fault := (d.memory.write width address value).fault } := by
  show d.store width address value = _
  simp only [Devices.store, h]

theorem store_of_register (h : DeviceRegister.of? (physical address) = some register)
    (haligned : width.isAligned address = true) :
    Bus.store width address value d =
      .done (d.writeRegister width (width.mask <<< laneShift (physical address))
        ((value &&& width.mask) <<< laneShift (physical address)) register) := by
  show d.store width address value = _
  simp only [Devices.store, h, haligned]
  rfl

theorem store_of_misaligned (h : DeviceRegister.of? (physical address) = some register)
    (hmisaligned : width.isAligned address = false) :
    Bus.store width address value d = .stopped (.misaligned address width.bytes) d := by
  show d.store width address value = _
  simp only [Devices.store, h, hmisaligned]
  rfl

/-! ## Refusals -/

/-- **Memory and devices** refuse no aligned access but for want of something at its address. -/
theorem obliging_devices : Obliging Devices where
  load := by
    intro width address d fault haligned h
    cases hregister : DeviceRegister.of? (physical address) with
    | some register =>
      rw [d.load_of_register hregister haligned] at h
      cases h
    | none =>
      rw [d.load_of_memory hregister] at h
      cases hvacant : Memory.vacant address with
      | true =>
        rw [d.memory.read_of_vacant haligned hvacant] at h
        exact (Except.error.inj h).symm
      | false =>
        obtain ⟨value, hread⟩ := d.memory.read_of_not_vacant haligned hvacant
        rw [hread] at h
        cases h
  store := by
    intro width address value d fault haligned h
    cases hregister : DeviceRegister.of? (physical address) with
    | some register =>
      rw [d.store_of_register hregister haligned] at h
      cases h
    | none =>
      rw [d.store_of_memory hregister] at h
      cases hvacant : Memory.vacant address with
      | true =>
        rw [d.memory.write_of_vacant value haligned hvacant] at h
        exact (Option.some.inj h).symm
      | false =>
        obtain ⟨memory, hwrite⟩ := d.memory.write_of_not_vacant value haligned hvacant
        rw [hwrite] at h
        cases h

/-! ## What an access changes -/

/-- A load leaves memory alone. -/
theorem memory_load (width : AccessWidth) (address : UInt32) :
    (Bus.load width address d).2.memory = d.memory := by
  cases hregister : DeviceRegister.of? (physical address) with
  | none => rw [d.load_of_memory hregister]
  | some register =>
    cases haligned : width.isAligned address with
    | false => rw [d.load_of_misaligned hregister haligned]
    | true =>
      rw [d.load_of_register hregister haligned]
      cases register <;> rfl

end PlayStation.Devices

namespace PlayStation

/-- What reading a device register does with the GPU. -/
def DeviceRegister.readOperation? : DeviceRegister → Option Gpu.Operation
  | .gpuData => some .read
  | .interrupts _ | .dma _ | .timers _ | .gpuControl => none

/-- What writing a device register does with the GPU. -/
def DeviceRegister.writeOperation? (value : UInt32) : DeviceRegister → Option Gpu.Operation
  | .gpuData => some (.queue value)
  | .gpuControl => some (.control value)
  | .interrupts _ | .dma _ | .timers _ => none

/-- What an access does with the GPU. -/
def Request.operation? : Request → Option Gpu.Operation
  | .load width address =>
    if width.isAligned address then
      (DeviceRegister.of? (physical address)).bind DeviceRegister.readOperation?
    else none
  | .store width address value =>
    let lane := (value &&& width.mask) <<< Devices.laneShift (physical address)
    if width.isAligned address then
      (DeviceRegister.of? (physical address)).bind (DeviceRegister.writeOperation? lane)
    else none

/-- What an access does with the GPU is an access to one of its registers. -/
theorem Request.isAccess_operation (r : Request) : ∀ o ∈ r.operation?, o.isAccess = true := by
  intro o ho
  cases r with
  | load width address =>
    simp only [operation?, Option.mem_def, Option.ite_none_right_eq_some,
      Option.bind_eq_some_iff] at ho
    obtain ⟨-, register, -, hread⟩ := ho
    cases register <;> cases hread
    rfl
  | store width address value =>
    simp only [operation?, Option.mem_def, Option.ite_none_right_eq_some,
      Option.bind_eq_some_iff] at ho
    obtain ⟨-, register, -, hwrite⟩ := ho
    cases register <;> cases hwrite <;> rfl

namespace Devices

variable (d : Devices)

theorem gpu_readRegister (register : DeviceRegister) :
    (d.readRegister register).2.gpu = d.gpu.performAll register.readOperation?.toList := by
  cases register <;> rfl

theorem gpu_writeRegister (width : AccessWidth) (lanes value : UInt32)
    (register : DeviceRegister) :
    (d.writeRegister width lanes value register).gpu =
      d.gpu.performAll (register.writeOperation? value).toList := by
  cases register with
  | dma offset => cases width <;> rfl
  | _ => rfl

/-- **The GPU** feels an access to its registers, and no other. -/
theorem gpu_perform (r : Request) : (r.perform d).gpu = d.gpu.performAll r.operation?.toList := by
  cases r with
  | load width address =>
    show (Bus.load width address d).2.gpu = _
    rw [Request.operation?]
    cases hregister : DeviceRegister.of? (physical address) with
    | none =>
      rw [d.load_of_memory hregister, Option.bind_none, ite_self]
      rfl
    | some register =>
      cases haligned : width.isAligned address with
      | false =>
        rw [d.load_of_misaligned hregister haligned]
        rfl
      | true =>
        rw [d.load_of_register hregister haligned]
        exact d.gpu_readRegister register
  | store width address value =>
    show (Bus.store width address value d).state.gpu = _
    rw [Request.operation?]
    cases hregister : DeviceRegister.of? (physical address) with
    | none =>
      simp only [d.store_of_memory hregister, Option.bind_none, ite_self]
      rfl
    | some register =>
      cases haligned : width.isAligned address with
      | false =>
        rw [d.store_of_misaligned hregister haligned]
        rfl
      | true =>
        rw [d.store_of_register hregister haligned]
        exact d.gpu_writeRegister width _ _ register

end Devices

end PlayStation
