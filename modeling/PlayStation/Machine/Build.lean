/-
  BUILDING a machine from settings.
-/
import PlayStation.Machine.Basic
import PlayStation.Settings.Basic

namespace PlayStation.Machine

variable {m : Type → Type} [Monad m]

/-- A machine under the video standard of some settings, with the BIOS that they name. -/
def fromSettings (fileContents : String → m (Option ByteArray)) (settings : Settings) :
    m (Except Fault Machine) := do
  let machine := powerOn settings.videoMode
  match settings.bios with
  | none => pure (.ok machine)
  | some path => machine.loadBiosFile path <$> fileContents path

end PlayStation.Machine
