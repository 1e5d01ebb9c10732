/-
  SETTINGS of a run, and where they come from.

  They are layered: a document, then variables of the environment, then the command line, each
  overriding what came before.  A document may leave out any setting, but must not hold anything
  that is not one.

    bios        path of a BIOS image        PSX_BIOS
    max_ticks   when to stop                PSX_MAX_TICKS
    log_level   what to report              PSX_LOG
    video_mode  ntsc or pal
    dump_state  print the registers at the end
-/
import PlayStation.Fault
import PlayStation.Gpu.Video
import PlayStation.Text.Blank
import PlayStation.Text.Quoted
import PlayStation.Toml.Document

namespace PlayStation

/-- The settings of a run. -/
structure Settings where
  /-- The BIOS image to start from. -/
  bios : Option String := none
  /-- The number of ticks after which to stop; without one, only a fault stops the run. -/
  maxTicks : Option Nat := none
  logLevel : String := "info"
  videoMode : Gpu.VideoStandard := .ntsc
  /-- The registers are printed at the end. -/
  dumpState : Bool := false
deriving DecidableEq, Repr, Inhabited

namespace Settings

/-! ## From a document -/

/-- The standard of a name. -/
def standard? : String → Option Gpu.VideoStandard
  | "ntsc" => some .ntsc
  | "pal" => some .pal
  | _ => none

/-- The standard of a value: its name, or a table with that name and nothing under it. -/
def standardOfTree? : Toml.Tree → Option Gpu.VideoStandard
  | .text name => standard? name
  | .table _ [(name, .emptyArray)] => standard? name
  | .table _ [(name, .table _ [])] => standard? name
  | _ => none

/-- Tick counts have 64 bits. -/
def ticksOfInteger? (n : Int) : Option Nat :=
  if 0 ≤ n && n < UInt64.size then some n.toNat else none

/-- The settings with one of them taken from a document. -/
def withEntry? (s : Settings) (key : String) (value : Toml.Tree) : Option Settings :=
  match key, value with
  | "bios", .text path => some { s with bios := some path }
  | "max_ticks", .integer n => (ticksOfInteger? n).map fun n => { s with maxTicks := some n }
  | "log_level", .text level => some { s with logLevel := level }
  | "video_mode", value => (standardOfTree? value).map fun mode => { s with videoMode := mode }
  | "dump_state", .truth b => some { s with dumpState := b }
  | _, _ => none

/-- The settings in the text of a document. -/
def ofText (text : String) : Except Fault Settings :=
  let settings : Option Settings := do
    let entries ← Toml.ofText? text
    entries.foldlM (fun s entry => s.withEntry? entry.1 entry.2) {}
  match settings with
  | some s => .ok s
  | none => .error .malformed

/-- The settings in a file, which may be missing. -/
def ofFile (file : Option ByteArray) : Except Fault Settings :=
  match file.bind String.fromUTF8? with
  | none => .error .unreadable
  | some text => ofText text

/-! ## From variables -/

/-- A tick count in decimal digits, with or without a plus sign. -/
def ticksOfText? (cs : List Char) : Option Nat :=
  let digits := match cs with
    | '+' :: rest => rest
    | _ => cs
  if digits.isEmpty then none
  else do
    let n ← digits.foldlM (fun n c => (Toml.digit? 10 c).map (10 * n + ·)) 0
    if n < UInt64.size then some n else none

/-- The variables that hold settings. -/
def variableNames : List String := ["PSX_BIOS", "PSX_MAX_TICKS", "PSX_LOG"]

/-- Overrides settings by variables, in this order; a tick count that is none stops it. -/
def applyVars (s : Settings) (lookup : String → Option String) : Outcome Settings :=
  let s := match lookup "PSX_BIOS" with
    | some path => { s with bios := some path }
    | none => s
  let log (s : Settings) : Outcome Settings :=
    match lookup "PSX_LOG" with
    | some level => .done { s with logLevel := level }
    | none => .done s
  match lookup "PSX_MAX_TICKS" with
  | none => log s
  | some text =>
    match ticksOfText? (Text.trim text.toList) with
    | some n => log { s with maxTicks := some n }
    | none =>
      .stopped
        (.configuration ("PSX_MAX_TICKS is not a tick count: " ++ Text.quoted text)) s

end Settings

end PlayStation
