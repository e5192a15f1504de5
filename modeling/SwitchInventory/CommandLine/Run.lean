import SwitchInventory.CommandLine.Options
import SwitchInventory.Encoding
import SwitchInventory.Inventory.Hosts
import SwitchInventory.Inventory.Load
import SwitchInventory.Inventory.Render
import SwitchInventory.Lookup
import SwitchInventory.Platform
import SwitchInventory.Text.Terminal
import SwitchInventory.Yaml

namespace SwitchInventory.CommandLine

inductive Failure where
  | load (error : LoadError)
  | lookup (error : LookupError)
  deriving DecidableEq, Repr

/-- The failure as it is reported, from what was being done to its cause. -/
def Failure.message : Failure → String
  | load error =>
    "running CLI command: loading inventory: " ++ error.message ++ ": " ++ error.cause
  | lookup error => "running CLI command: looking up switch ports: " ++ error.message

/-- Reports the role that a switch is handled by. A switch without a handler is no failure. -/
def announceSwitch (s : Switch) : Logged Failure Unit :=
  let dispatched := Registry.standard.dispatch s
  let report : Level × String :=
    match dispatched.result with
    | .ok task => (.info, "switch " ++ task.switch ++ " uses role " ++ task.role)
    | .error e => (.warn, e.message)
  ⟨dispatched.events ++ [⟨report.1, .command, report.2⟩], .ok ()⟩

def summary (inv : Inventory) : String :=
  "inventory ok: " ++ toString inv.switches.length ++ " switches, " ++
    toString inv.portMappings.size ++ " host port mappings, coordination via " ++
    inv.settings.coordinationUri

def OutputFormat.show (inv : Inventory) : OutputFormat → String
  | json => inv.toJson.prettyText
  | yaml => Yaml.write inv.toJson
  | ini => inv.render

def portLines (ports : List SwitchPort) : String := String.join (ports.map fun p => p.text ++ "\n")

namespace Command

/-- Carries out a command on an inventory and gives what it prints. -/
def execute (inv : Inventory) : Command → Logged Failure String
  | check => do
    inv.switches.forM announceSwitch
    Logged.log .info .command (summary inv)
    return ""
  | «show» options => return options.format.show inv ++ "\n"
  | ansibleInventory => return inv.hosts.prettyText ++ "\n"
  | lookup options => do
    let ports ← (inv.switchPorts options.binding).mapError .lookup
    if ports.isEmpty then
      Logged.log .warn .command ("no switch ports mapped for " ++ options.binding.describe)
    return portLines ports
  | platforms => return ""

/-- Carries out a command and gives what it prints. Only the list of platforms needs no
inventory. -/
def perform (files : Files) (input : List String) : Command → Logged Failure String
  | platforms => do
    NetworkOs.announceAll
    return ""
  | command => do
    let inv ← (Inventory.load files input).mapError .load
    command.execute inv

end Command

/-- The level named by a word, in whatever case it is given. -/
def level? (word : String) : Option Level :=
  match Text.lower word with
  | "error" => some .error
  | "warn" => some .warn
  | "info" => some .info
  | "debug" => some .debug
  | "trace" => some .trace
  | _ => none

namespace Options

/-- The level up to which events are reported. -/
def level (o : Options) : Level := (o.verbosity?.bind level?).getD .info

/-- The report on a level that is not known. -/
def levelEvents (o : Options) : List Event :=
  match o.verbosity? with
  | none => []
  | some word =>
    if (level? word).isSome then []
    else [⟨.warn, .command, "Unknown Log LevelFilter " ++ word⟩]

end Options

/-- What a run of the program comes to; the events are as they are shown. -/
structure Outcome where
  exitCode : Nat
  output : String
  events : List Event
  deriving DecidableEq, Repr

def shown (e : Event) : Event := { e with message := Text.forTerminal e.message }

/-- The events that are reported at a level, as they are shown. -/
def report (level : Level) (events : List Event) : List Event :=
  (events.filter (·.isWithin level)).map shown

/-- Carries out what the options ask for. Nothing is printed when it fails. -/
def Options.run (files : Files) (o : Options) : Outcome :=
  let done := o.command.perform files o.input
  let start : Event := ⟨.trace, .command, "running " ++ o.command.name⟩
  let events := o.levelEvents ++ start :: done.events
  match done.result with
  | .ok output => ⟨0, output, report o.level events⟩
  | .error e =>
    let failed : Event := ⟨.error, .command, e.message⟩
    ⟨1, "", report o.level (events ++ [failed])⟩

def helpLine (spec : CommandSpec) : String := "  " ++ spec.name ++ "  " ++ spec.summary ++ "\n"

def optionLine (o : OptionSpec) : String :=
  let short := match o.short? with
    | some c => "-" ++ String.singleton c ++ ", "
    | none => ""
  "  " ++ short ++ "--" ++ o.name ++ " <VALUE>  " ++ o.summary ++ "\n"

/-- Help on the command that the names in a path lead to. -/
def helpText (spec : CommandSpec) : List String → String
  | name :: path => helpText ((spec.command? name).getD spec) path
  | [] =>
    spec.summary ++ "\n" ++ String.join (spec.positionals.map fun p => "  <" ++ p ++ ">\n") ++
      String.join (spec.options.map optionLine) ++ String.join (spec.commands.map helpLine)

/-- What comes of a command line that is not carried out. Help and the version are printed where
they are asked for; all else is a mistake in the command line. -/
def Refusal.outcome : Refusal → Outcome
  | helpAsked path => ⟨0, helpText Options.spec path, []⟩
  | versionAsked => ⟨0, "net-ansible-schemas 0.1\n", []⟩
  | _ => ⟨2, "", []⟩

def run (files : Files) (arguments : List String) : Outcome :=
  match Options.read arguments with
  | .ok options => options.run files
  | .error refusal => refusal.outcome

end SwitchInventory.CommandLine
