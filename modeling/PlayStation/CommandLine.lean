/-
  The COMMAND LINE: what the arguments ask for, and the run they lead to.

    [BIOS_FILE]                 path of a BIOS image
    -c, --config PATH           a document of settings
    -n, --max-ticks N           when to stop
    -l, --log-level LEVEL       what to report
        --pal                   video standard
        --dump-state            print the registers at the end
    -h, --help

  An option takes its value from behind an equals sign, from the rest of its own word if it is a
  letter, or from the next word, unless that begins with a dash.  Behind a word of two dashes
  everything is a path.  Nothing may be given twice.

  The run needs files and variables from its host, and nothing else, so it is written for any monad
  that provides these two.
-/
import PlayStation.Machine.Build
import PlayStation.Machine.Snapshot
import PlayStation.Settings.Dotenv

namespace PlayStation.CommandLine

/-! ## Arguments -/

/-- What the arguments ask for. -/
structure Options where
  bios : Option String := none
  config : Option String := none
  maxTicks : Option Nat := none
  logLevel : Option String := none
  pal : Bool := false
  dumpState : Bool := false
deriving DecidableEq, Repr, Inhabited

/-- Why there is nothing to run. -/
inductive Refusal where
  /-- The user asked for help. -/
  | help
  /-- The arguments cannot be understood. -/
  | usage
deriving DecidableEq, Repr

/-- An option that takes a value. -/
inductive Setting where
  | config
  | maxTicks
  | logLevel
deriving DecidableEq, Repr

/-- An option without a value. -/
inductive Switch where
  | pal
  | dumpState
deriving DecidableEq, Repr

/-- What a word is. -/
inductive Argument where
  | setting (setting : Setting) (value : Option (List Char))
  | switch (switch : Switch)
  | help
  /-- Two dashes: only paths follow. -/
  | separator
  | path (path : String)
  | unknown
deriving DecidableEq, Repr

/-- A word that begins with two dashes, without them. -/
def Argument.ofLong (word : List Char) : Argument :=
  let name := String.ofList (word.takeWhile (· != '='))
  let value := match word.dropWhile (· != '=') with
    | [] => none
    | _ :: value => some value
  match name, value with
  | "config", value => .setting .config value
  | "max-ticks", value => .setting .maxTicks value
  | "log-level", value => .setting .logLevel value
  | "pal", none => .switch .pal
  | "dump-state", none => .switch .dumpState
  | "help", none => .help
  | _, _ => .unknown

/-- A word that begins with one dash, without it. -/
def Argument.ofShort (letter : Char) (rest : List Char) : Argument :=
  let value := match rest with
    | [] => none
    | '=' :: value => some value
    | value => some value
  match letter with
  | 'c' => .setting .config value
  | 'n' => .setting .maxTicks value
  | 'l' => .setting .logLevel value
  | 'h' => .help
  | _ => .unknown

/-- What a word is. -/
def Argument.ofWord (word : String) : Argument :=
  match word.toList with
  | ['-', '-'] => .separator
  | '-' :: '-' :: long => .ofLong long
  | '-' :: letter :: rest => .ofShort letter rest
  | _ => .path word

/-- The word can be the value of the option in front of it. -/
def isValue (word : String) : Bool :=
  match word.toList with
  | '-' :: _ :: _ => false
  | _ => true

namespace Options

/-- Takes the path of a BIOS image, once. -/
def addPath (o : Options) (path : String) : Except Refusal Options :=
  if o.bios.isSome || path.isEmpty then .error .usage else .ok { o with bios := some path }

/-- Takes the value of an option, once. -/
def addSetting (o : Options) (value : List Char) : Setting → Except Refusal Options
  | .config =>
    if o.config.isSome || value.isEmpty then .error .usage
    else .ok { o with config := some (String.ofList value) }
  | .logLevel =>
    if o.logLevel.isSome then .error .usage
    else .ok { o with logLevel := some (String.ofList value) }
  | .maxTicks =>
    match o.maxTicks, Settings.ticksOfText? value with
    | none, some n => .ok { o with maxTicks := some n }
    | _, _ => .error .usage

/-- Takes an option without a value, once. -/
def addSwitch (o : Options) : Switch → Except Refusal Options
  | .pal => if o.pal then .error .usage else .ok { o with pal := true }
  | .dumpState => if o.dumpState then .error .usage else .ok { o with dumpState := true }

/-- Takes all arguments, from first to last. -/
def addAll (o : Options) : List String → Except Refusal Options
  | [] => .ok o
  | word :: words =>
    match Argument.ofWord word with
    | .separator => words.foldlM addPath o
    | .help => .error .help
    | .unknown => .error .usage
    | .path path => do (← o.addPath path).addAll words
    | .switch switch => do (← o.addSwitch switch).addAll words
    | .setting setting (some value) => do (← o.addSetting value setting).addAll words
    | .setting setting none =>
      match words with
      | [] => .error .usage
      | value :: words =>
        if isValue value then do (← o.addSetting value.toList setting).addAll words
        else .error .usage

/-- Overrides settings. -/
def apply (o : Options) (s : Settings) : Settings where
  bios := o.bios <|> s.bios
  maxTicks := o.maxTicks <|> s.maxTicks
  logLevel := o.logLevel.getD s.logLevel
  videoMode := if o.pal then .pal else s.videoMode
  dumpState := o.dumpState || s.dumpState

end Options

/-! ## The run -/

/-- What a run takes from its host. -/
structure Host (m : Type → Type) where
  /-- The contents of a file, if it can be read. -/
  fileContents : String → m (Option ByteArray)
  /-- The value that some variable has under a name. -/
  getVariable : String → m (Option String)

/-- What a run comes to.  The exit code is 0 for success, 1 for a fault, 2 for arguments that make
    no sense, and 101 for a file that asks for a variable that cannot be. -/
structure Report where
  exit : UInt32
  output : String := ""
  /-- What went wrong. -/
  fault : Option Fault := none

/-- The text of a snapshot. -/
def dump (machine : Machine) : String := machine.snapshot.render ++ "\n"

/-- Runs a machine as long as its settings say.  After a fault the registers are printed in any
    case. -/
def runMachine (settings : Settings) (machine : Machine) : Report :=
  let machine := machine.reset
  let outcome := match settings.maxTicks with
    | some n => machine.runFor n
    | none => machine.run
  match outcome.fault with
  | none => { exit := 0, output := if settings.dumpState then dump outcome.state else "" }
  | some fault => { exit := 1, output := dump outcome.state, fault := some fault }

section

variable {m : Type → Type} [Monad m] (host : Host m)

/-- The variables that the file of assignments adds; none if it asks for one that cannot be. -/
def addedVariables : m (Option Environment) := do
  match (← host.fileContents ".env").bind String.fromUTF8? with
  | none => pure (some [])
  | some text => Dotenv.addAll host.getVariable [] (Dotenv.ofText text)

/-- The values of the variables that hold settings. -/
def settingVariables (added : Environment) : m (List (String × Option String)) :=
  Settings.variableNames.mapM fun name => do
    pure (name, ← Dotenv.lookup host.getVariable added name)

/-- The settings of a run: document, variables, arguments. -/
def loadSettings (o : Options) (added : Environment) : m (Except Fault Settings) := do
  let document ← match o.config with
    | none => pure (.ok {})
    | some path => Settings.ofFile <$> host.fileContents path
  let values ← settingVariables host added
  match document with
  | .error fault => pure (.error fault)
  | .ok settings =>
    match settings.applyVars fun name => (values.lookup name).join with
    | ⟨_, some fault⟩ => pure (.error fault)
    | ⟨settings, none⟩ => pure (.ok (o.apply settings))

/-- Does what the arguments ask for, with some variables added. -/
def runWith (added : Environment) (arguments : List String) : m Report :=
  match ({} : Options).addAll arguments with
  | .error .help => pure { exit := 0 }
  | .error .usage => pure { exit := 2 }
  | .ok options => do
    match ← loadSettings host options added with
    | .error fault => pure { exit := 1, fault := some fault }
    | .ok settings =>
      match ← Machine.fromSettings host.fileContents settings with
      | .error fault => pure { exit := 1, fault := some fault }
      | .ok machine => pure (runMachine settings machine)

/-- Does what the arguments ask for.  Variables come first, and nothing is done without them. -/
def run (arguments : List String) : m Report := do
  match ← addedVariables host with
  | none => pure { exit := 101 }
  | some added => runWith host added arguments

end

end PlayStation.CommandLine
